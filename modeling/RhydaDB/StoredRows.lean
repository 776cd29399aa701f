import RhydaDB.OperandTyping
import RhydaDB.WellFormedTables

namespace RhydaDB

open ByteStrings

/-!
# Rows that statements store

A request fits one frame, so every operand of it becomes null or a value of
its column's type that is short enough for its length header.  The rows that
INSERT and UPDATE store hold one such cell for each regular column, in table
order, and both decoders of the row read these cells back.
-/

/-! ## Operands of one frame -/

/-- `MAX_FRAME_LENGTH` of the server, in bytes. -/
def maxFrameLength : Nat :=
  64 * 1024 * 1024

/-- The characters of an operand; items of a collection end with a separator. -/
def Operand.textLength : Operand → Nat
  | .const text =>
      text.length
  | .set items =>
      (items.map fun item => item.length + 1).sum
  | .list items =>
      (items.map fun item => item.length + 1).sum
  | .map entries =>
      (entries.map fun entry => entry.1.length + entry.2.length + 2).sum
  | _ =>
      0

/-- The operand is part of a request that fits one frame. -/
def Operand.FitsFrame (operand : Operand) : Prop :=
  operand.textLength ≤ maxFrameLength

/-- The bind values are part of a request that fits one frame. -/
def Binds.FitFrame (binds : Binds) : Prop :=
  ∀ raw, some raw ∈ binds.values → raw.length ≤ maxFrameLength

section Operands

variable
  {hexDecode : HexDecode}
  (halves : hexDecode.Halves)

/-- Bind values taken one after the other come from the same request. -/
theorem Binds.take_values
    {binds rest : Binds}
    {column : ColumnDef}
    {value : Value}
    (took : binds.take column = .ok (value, rest)) :
    rest.values = binds.values := by
  unfold Binds.take at took
  split at took
  · cases took
  · cases took
    rfl
  · obtain ⟨_, _, same⟩ := Fallible.map_eq_ok.mp took
    cases same
    rfl

/-- A bind value of one frame is storable. -/
theorem Binds.take_storable
    {binds rest : Binds}
    (fit : binds.FitFrame)
    {column : ColumnDef}
    {value : Value}
    (took : binds.take column = .ok (value, rest)) :
    Storable column.colType value := by
  unfold Binds.take at took
  split at took
  · cases took
  · cases took
    exact .inl rfl
  · rename_i raw here
    obtain ⟨_, decoded, same⟩ := Fallible.map_eq_ok.mp took
    cases same
    have short := fit raw (List.mem_of_getElem? here)
    have shorter : raw.length < 2 ^ 31 := by
      rw [maxFrameLength] at short
      omega
    obtain ⟨typed, bounded⟩ :=
      Value.fromRawBytes_bounded shorter (Fallible.mapError_eq_ok.mp decoded)
    exact .inr ⟨typed, by omega⟩

include halves

/-- A literal of a known length is of its type and bounded. -/
theorem constToValue_bounded
    {text : String}
    {columnType : ColumnType}
    {value : Value}
    (read : constToValue hexDecode text columnType = .ok value) :
    value.Bounded columnType (4 * text.length + 16) :=
  Value.parseLiteral_bounded halves (Fallible.mapError_eq_ok.mp read)

/-- The items of a collection literal are typed and bounded together. -/
theorem constsToValues_bounded
    {items : List String}
    {elementType : ColumnType}
    {values : List Value}
    (read :
      (items.mapM fun item => constToValue hexDecode item elementType) =
        .ok values) :
    (∀ value ∈ values, value.WellTyped elementType) ∧
      (values.flatMap Value.toWire).length ≤
        20 * (items.map fun item => item.length + 1).sum := by
  have pairs := Fallible.mapM_eq_ok.mp read
  clear read
  induction pairs with
  | nil =>
      simp
  | cons first _ inductionHypothesis =>
      have bounded := constToValue_bounded halves first
      have wire := bounded.length_toWire_le
      obtain ⟨typed, short⟩ := inductionHypothesis
      refine ⟨?_, ?_⟩
      · intro value member
        rcases List.mem_cons.mp member with rfl | earlier
        · exact bounded.1
        · exact typed value earlier
      · rw [List.flatMap_cons, List.length_append, List.map_cons, List.sum_cons]
        omega

/-- The entries of a map literal are typed and bounded together. -/
theorem constsToEntries_bounded
    {entries : List (String × String)}
    {keyType valueType : ColumnType}
    {values : List (Value × Value)}
    (read : constsToEntries hexDecode keyType valueType entries = .ok values) :
    (∀ entry ∈ values,
        entry.1.WellTyped keyType ∧ entry.2.WellTyped valueType) ∧
      (values.flatMap fun entry => entry.1.toWire ++ entry.2.toWire).length ≤
        20 *
          (entries.map fun entry => entry.1.length + entry.2.length + 2).sum := by
  induction entries generalizing values with
  | nil =>
      cases read
      simp
  | cons entry rest inductionHypothesis =>
      obtain ⟨first, readFirst, later⟩ := Fallible.bind_eq_ok.mp read
      obtain ⟨second, readSecond, last⟩ := Fallible.bind_eq_ok.mp later
      obtain ⟨others, readOthers, same⟩ := Fallible.bind_eq_ok.mp last
      cases same
      have boundedFirst := constToValue_bounded halves readFirst
      have boundedSecond := constToValue_bounded halves readSecond
      have wireFirst := boundedFirst.length_toWire_le
      have wireSecond := boundedSecond.length_toWire_le
      obtain ⟨typed, short⟩ := inductionHypothesis readOthers
      refine ⟨?_, ?_⟩
      · intro entry member
        rcases List.mem_cons.mp member with rfl | earlier
        · exact ⟨boundedFirst.1, boundedSecond.1⟩
        · exact typed entry earlier
      · rw [List.flatMap_cons, List.length_append, List.length_append,
          List.map_cons, List.sum_cons]
        dsimp only
        omega

/-- A literal operand of one frame is storable. -/
theorem literalToValue_storable
    {operand : Operand}
    (fits : operand.FitsFrame)
    {columnType : ColumnType}
    {value : Value}
    (read : literalToValue hexDecode operand columnType = .ok value) :
    Storable columnType value := by
  unfold Operand.FitsFrame maxFrameLength at fits
  unfold literalToValue at read
  split at read
  · cases read
    exact .inl rfl
  · have bounded := constToValue_bounded halves read
    rw [Operand.textLength] at fits
    exact .inr ⟨bounded.1, lt_of_le_of_lt bounded.2 (by omega)⟩
  · obtain ⟨values, readAll, same⟩ := Fallible.map_eq_ok.mp read
    cases same
    obtain ⟨typed, short⟩ := constsToValues_bounded halves readAll
    rw [Operand.textLength] at fits
    refine .inr ⟨typed, ?_⟩
    rw [Value.rawBytes, List.length_append, length_i32Be]
    omega
  · obtain ⟨values, readAll, same⟩ := Fallible.map_eq_ok.mp read
    cases same
    obtain ⟨typed, short⟩ := constsToValues_bounded halves readAll
    rw [Operand.textLength] at fits
    refine .inr ⟨typed, ?_⟩
    rw [Value.rawBytes, List.length_append, length_i32Be]
    omega
  · obtain ⟨values, readAll, same⟩ := Fallible.map_eq_ok.mp read
    cases same
    obtain ⟨typed, short⟩ := constsToEntries_bounded halves readAll
    rw [Operand.textLength] at fits
    refine .inr ⟨typed, ?_⟩
    rw [Value.rawBytes, List.length_append, length_i32Be]
    omega
  all_goals cases read

/-- An operand of one frame is storable, and the binds go on with the request. -/
theorem operandToValue_storable
    {operand : Operand}
    (fits : operand.FitsFrame)
    {column : ColumnDef}
    {binds rest : Binds}
    (bindsFit : binds.FitFrame)
    {value : Value}
    (read : operandToValue hexDecode operand column binds = .ok (value, rest)) :
    Storable column.colType value ∧ rest.values = binds.values := by
  unfold operandToValue at read
  split at read
  · exact ⟨Binds.take_storable bindsFit read, Binds.take_values read⟩
  · obtain ⟨_, found, same⟩ := Fallible.map_eq_ok.mp read
    cases same
    exact ⟨literalToValue_storable halves fits found, rfl⟩

/-- A value of a WHERE clause of one frame is storable. -/
theorem filterValue_storable
    {operand : Operand}
    (fits : operand.FitsFrame)
    {column : ColumnDef}
    {binds rest : Binds}
    (bindsFit : binds.FitFrame)
    {value : Value}
    (read : filterValue hexDecode operand column binds = .ok (value, rest)) :
    Storable column.colType value ∧ rest.values = binds.values := by
  unfold filterValue at read
  split at read
  · rename_i text
    obtain ⟨_, found, same⟩ := Fallible.map_eq_ok.mp read
    cases same
    have literal :
        literalToValue hexDecode (.const text) column.colType = .ok value := by
      simpa [literalToValue] using found
    exact ⟨literalToValue_storable halves fits literal, rfl⟩
  · exact ⟨Binds.take_storable bindsFit read, Binds.take_values read⟩
  · cases read

/-- The values of an IN list of one frame are storable. -/
theorem filterValues_storable
    {items : List Operand}
    (fits : ∀ item ∈ items, item.FitsFrame)
    {column : ColumnDef}
    {binds rest : Binds}
    (bindsFit : binds.FitFrame)
    {values : List Value}
    (read : filterValues hexDecode column items binds = .ok (values, rest)) :
    (∀ value ∈ values, Storable column.colType value) ∧
      rest.values = binds.values := by
  induction items generalizing binds values with
  | nil =>
      cases read
      exact ⟨by simp, rfl⟩
  | cons item items inductionHypothesis =>
      obtain ⟨⟨first, next⟩, readFirst, later⟩ := Fallible.bind_eq_ok.mp read
      obtain ⟨⟨others, last⟩, readOthers, same⟩ := Fallible.bind_eq_ok.mp later
      cases same
      obtain ⟨storable, nextValues⟩ :=
        filterValue_storable halves (fits item (by simp)) bindsFit readFirst
      have nextFit : next.FitFrame := by
        rw [Binds.FitFrame, nextValues]
        exact bindsFit
      obtain ⟨othersStorable, restValues⟩ :=
        inductionHypothesis (fun other member => fits other (by simp [member]))
          nextFit readOthers
      refine ⟨?_, restValues.trans nextValues⟩
      intro value member
      rcases List.mem_cons.mp member with rfl | earlier
      · exact storable
      · exact othersStorable value earlier

/-- The values an IN restriction of one frame lists are storable. -/
theorem inValues_storable
    {operand : Operand}
    (fits : operand.FitsFrame)
    (itemsFit : ∀ items, operand = .tuple items → ∀ item ∈ items, item.FitsFrame)
    {column : ColumnDef}
    {binds rest : Binds}
    (bindsFit : binds.FitFrame)
    {values : List Value}
    (read : inValues hexDecode operand column binds = .ok (values, rest)) :
    (∀ value ∈ values, Storable column.colType value) ∧
      rest.values = binds.values := by
  unfold inValues at read
  split at read
  · exact filterValues_storable halves (itemsFit _ rfl) bindsFit read
  · obtain ⟨⟨value, next⟩, found, same⟩ := Fallible.map_eq_ok.mp read
    cases same
    obtain ⟨storable, restValues⟩ :=
      filterValue_storable halves fits bindsFit found
    exact ⟨by simpa using storable, restValues⟩

end Operands

/-- The restriction is part of a request that fits one frame. -/
def RelationElement.FitsFrame (relation : RelationElement) : Prop :=
  relation.value.FitsFrame ∧
    ∀ items, relation.value = .tuple items → ∀ item ∈ items, item.FitsFrame

/-- The values a filter compares with. -/
def Filter.values : Filter → List Value
  | .eq _ value =>
      [value]
  | .isIn _ values =>
      values

/-- The filter compares a column of the table with storable values. -/
def Filter.FitsTable (table : TableDef) (filter : Filter) : Prop :=
  ∃ column ∈ table.columns,
    filter.name = column.name ∧
      ∀ value ∈ filter.values, Storable column.colType value

section Filters

variable
  {hexDecode : HexDecode}
  (halves : hexDecode.Halves)
  {table : TableDef}

include halves

/-- A filter of one frame compares with storable values. -/
theorem parseFilter_fitsTable
    {relation : RelationElement}
    (fits : relation.FitsFrame)
    {binds rest : Binds}
    (bindsFit : binds.FitFrame)
    {filter : Filter}
    (parsed : parseFilter hexDecode table relation binds = .ok (filter, rest)) :
    filter.FitsTable table ∧ rest.values = binds.values := by
  unfold parseFilter at parsed
  split at parsed
  · split at parsed
    · cases parsed
    · rename_i column resolved
      have member := TableDef.resolve_mem resolved
      split at parsed
      · cases parsed
        exact ⟨⟨column, member, rfl, by simp [Filter.values, Storable]⟩, rfl⟩
      · obtain ⟨⟨value, next⟩, found, same⟩ := Fallible.map_eq_ok.mp parsed
        cases same
        obtain ⟨storable, restValues⟩ :=
          filterValue_storable halves fits.1 bindsFit found
        exact ⟨⟨column, member, rfl, by simpa [Filter.values] using storable⟩,
          restValues⟩
      · obtain ⟨⟨values, next⟩, found, same⟩ := Fallible.map_eq_ok.mp parsed
        cases same
        obtain ⟨storable, restValues⟩ :=
          inValues_storable halves fits.1 fits.2 bindsFit found
        exact ⟨⟨column, member, rfl, storable⟩, restValues⟩
      · cases parsed
  · cases parsed

/-- The filters of one frame compare with storable values. -/
theorem parseFilters_fitTable
    {relations : List RelationElement}
    (fits : ∀ relation ∈ relations, relation.FitsFrame)
    {binds rest : Binds}
    (bindsFit : binds.FitFrame)
    {filters : List Filter}
    (parsed :
      parseFilters hexDecode table relations binds = .ok (filters, rest)) :
    ∀ filter ∈ filters, filter.FitsTable table := by
  induction relations generalizing binds filters with
  | nil =>
      cases parsed
      simp
  | cons relation relations inductionHypothesis =>
      rw [parseFilters] at parsed
      obtain ⟨⟨first, next⟩, parsedFirst, later⟩ := Fallible.bind_eq_ok.mp parsed
      obtain ⟨⟨others, _⟩, parsedOthers, same⟩ := Fallible.bind_eq_ok.mp later
      cases same
      obtain ⟨fitsFirst, nextValues⟩ :=
        parseFilter_fitsTable halves (fits relation (by simp)) bindsFit
          parsedFirst
      have nextFit : next.FitFrame := by
        rw [Binds.FitFrame, nextValues]
        exact bindsFit
      intro filter member
      rcases List.mem_cons.mp member with rfl | earlier
      · exact fitsFirst
      · exact inductionHypothesis
          (fun other member => fits other (by simp [member])) nextFit
          parsedOthers filter earlier

end Filters

/-! ## Regular columns -/

namespace TableDef

variable {table : TableDef} {index : Nat}

/-- An index is regular when it holds a column without a key flag. -/
theorem mem_regularIndexes :
    index ∈ table.regularIndexes ↔
      ∃ column,
        table.columns[index]? = some column ∧
          (column.isPartitionKey || column.isClustering) = false := by
  simp only [regularIndexes, List.mem_map, List.mem_filter, Prod.exists,
    List.mk_mem_zipIdx_iff_getElem?, Bool.not_eq_true']
  constructor
  · rintro ⟨column, _, ⟨here, unflagged⟩, rfl⟩
    exact ⟨column, here, unflagged⟩
  · rintro ⟨column, here, unflagged⟩
    exact ⟨column, index, ⟨here, unflagged⟩, rfl⟩

/-- Regular indices are listed once. -/
theorem nodup_regularIndexes (table : TableDef) : table.regularIndexes.Nodup := by
  have indexes : (table.columns.zipIdx.map Prod.snd).Nodup := by
    rw [List.zipIdx_map_snd]
    exact List.nodup_range'
  exact indexes.sublist (List.filter_sublist.map _)

/-- Regular indices lie in the table. -/
theorem lt_of_mem_regularIndexes (regular : index ∈ table.regularIndexes) :
    index < table.columns.length := by
  obtain ⟨column, here, _⟩ := mem_regularIndexes.mp regular
  exact (List.getElem?_eq_some_iff.mp here).1

/-- In a well-formed table the other indices are those of the key. -/
theorem WellFormed.not_regular_iff
    (wellFormed : table.WellFormed)
    {column : ColumnDef}
    (here : table.columns[index]? = some column) :
    index ∉ table.regularIndexes ↔ column.name ∈ table.keyNames := by
  have member := List.mem_of_getElem? here
  rw [mem_regularIndexes, keyNames, List.mem_append,
    ← wellFormed.partitionFlag column member,
    ← wellFormed.clusteringFlag column member]
  cases partition : column.isPartitionKey with
  | true =>
      simp [here, partition]
  | false =>
      cases clustering : column.isClustering <;> simp [here, partition, clustering]

/-- The column and the index found under a name belong together. -/
theorem getElem?_of_column
    {name : String}
    {column : ColumnDef}
    (found : table.column name = some column)
    (foundIndex : table.columnIndex name = some index) :
    table.columns[index]? = some column := by
  unfold TableDef.column at found
  unfold columnIndex at foundIndex
  generalize table.columns = columns at found foundIndex ⊢
  induction columns generalizing index with
  | nil =>
      cases found
  | cons first rest inductionHypothesis =>
      rw [List.find?_cons] at found
      rw [List.findIdx?_cons] at foundIndex
      split at found
      · rename_i named
        rw [if_pos named] at foundIndex
        cases found
        cases foundIndex
        rfl
      · rename_i named
        rw [if_neg (by simp [named])] at foundIndex
        obtain ⟨later, foundLater, rfl⟩ := Option.map_eq_some_iff.mp foundIndex
        exact inductionHypothesis found foundLater

/-- One value for each column, null for the key: what a stored row decodes to. -/
def regularRow (table : TableDef) (valueOf : Nat → Value) : List Value :=
  (List.range table.columns.length).map fun index =>
    if index ∈ table.regularIndexes then valueOf index else .null

/-- A decoded row has one value for each column. -/
@[simp]
theorem length_regularRow (table : TableDef) (valueOf : Nat → Value) :
    (table.regularRow valueOf).length = table.columns.length := by
  simp [regularRow]

/-- The value of a regular column in a decoded row. -/
theorem getD_regularRow
    {valueOf : Nat → Value}
    (regular : index ∈ table.regularIndexes) :
    (table.regularRow valueOf).getD index .null = valueOf index := by
  have inside := lt_of_mem_regularIndexes regular
  simp [regularRow, List.getD_eq_getElem?_getD, inside, regular]

end TableDef

/-! ## Stored rows -/

/-- Values that the regular columns of a table may hold. -/
def TableDef.Holds (table : TableDef) (valueOf : Nat → Value) : Prop :=
  ∀ index column,
    index ∈ table.regularIndexes →
    table.columns[index]? = some column →
    Storable column.colType (valueOf index)

section Cells

variable {table : TableDef} {valueOf : Nat → Value}

/-- An index of a table with at most 65536 columns survives truncation. -/
theorem toNat_index
    (columnsFit : table.columns.length ≤ 2 ^ 16)
    {index : Nat}
    (regular : index ∈ table.regularIndexes) :
    (UInt16.ofNat index).toNat = index := by
  have inside := TableDef.lt_of_mem_regularIndexes regular
  exact UInt16.toNat_ofNat_of_lt' (by rw [UInt16.size]; omega)

/-- The cells of storable values fit the table. -/
theorem cellsFit_cells
    (columnsFit : table.columns.length ≤ 2 ^ 16)
    (holds : table.Holds valueOf) :
    CellsFit table (table.cells valueOf) := by
  intro cell member
  obtain ⟨index, regular, rfl⟩ := List.mem_map.mp member
  obtain ⟨column, here, _⟩ := TableDef.mem_regularIndexes.mp regular
  rw [toNat_index columnsFit regular]
  exact ⟨column, here, holds index column regular here⟩

/-- Writing a cell for each listed index sets these indices of the row. -/
theorem getElem?_setCells
    {indexes : List Nat}
    (small : ∀ index ∈ indexes, (UInt16.ofNat index).toNat = index)
    (row : List Value)
    (position : Nat) :
    (setCells row
        (indexes.map fun index => (UInt16.ofNat index, valueOf index)))[position]? =
      if position ∈ indexes ∧ position < row.length then
        some (valueOf position)
      else
        row[position]? := by
  induction indexes generalizing row with
  | nil =>
      simp [setCells]
  | cons first rest inductionHypothesis =>
      have smallFirst := small first (by simp)
      have smallRest : ∀ index ∈ rest, (UInt16.ofNat index).toNat = index :=
        fun index member => small index (by simp [member])
      rw [List.map_cons, setCells, List.foldl_cons, ← setCells, smallFirst,
        inductionHypothesis smallRest, List.length_set]
      by_cases later : position ∈ rest
      · simp [later, List.getElem?_set]
        grind
      · simp [later, List.getElem?_set]
        grind

/-- A stored row decodes to the values of its regular columns. -/
theorem decodeRowColumns_cells
    (columnsFit : table.columns.length ≤ 2 ^ 16)
    (holds : table.Holds valueOf) :
    decodeRowColumns (encodeRowColumns (table.cells valueOf)) table =
      .ok (table.regularRow valueOf) := by
  rw [decodeRowColumns_encodeRowColumns (cellsFit_cells columnsFit holds)]
  congr 1
  apply List.ext_getElem?
  intro position
  rw [TableDef.cells,
    getElem?_setCells fun index regular => toNat_index columnsFit regular]
  by_cases inside : position < table.columns.length
  · by_cases regular : position ∈ table.regularIndexes
    · simp [TableDef.regularRow, inside, regular]
    · simp [TableDef.regularRow, inside, regular]
  · simp [TableDef.regularRow, inside]

end Cells

/-! ## What INSERT and UPDATE store -/

/-- The INSERT is a request that fits one frame. -/
def Insert.FitsFrame (ins : Insert) (binds : Binds) : Prop :=
  (∀ operands,
      ins.values = .values operands →
      ∀ operand ∈ operands, operand.FitsFrame) ∧
    binds.FitFrame

/-- The UPDATE is a request that fits one frame. -/
def Update.FitsFrame (upd : Update) (binds : Binds) : Prop :=
  (∀ assignment ∈ upd.assignments, assignment.value.FitsFrame) ∧
    (∀ relation ∈ upd.whereClause, relation.FitsFrame) ∧
    binds.FitFrame

/--
Row values that the statements on a table can have stored: those of an INSERT
and those of an UPDATE over an earlier one, on either path.
-/
inductive StoredRow (hexDecode : HexDecode) (table : TableDef) : Bytes → Prop
  | insert
      {ins : Insert}
      {binds rest : Binds}
      {keyParts : List Bytes}
      {cells : List (UInt16 × Value)}
      (fits : ins.FitsFrame binds)
      (planned :
        planInsert hexDecode table ins binds = .ok (keyParts, cells, rest)) :
      StoredRow hexDecode table (encodeRowColumns cells)
  | covered
      {upd : Update}
      {binds rest : Binds}
      {newValues : List (Nat × Value)}
      {keyParts : List Bytes}
      {cells : List (UInt16 × Value)}
      (fits : upd.FitsFrame binds)
      (planned :
        planUpdate hexDecode table upd binds = .ok (newValues, keyParts, rest))
      (covers : coversAllRegular table newValues = true)
      (assigned : coveredCells table newValues = .ok cells) :
      StoredRow hexDecode table (encodeRowColumns cells)
  | merged
      {upd : Update}
      {binds rest : Binds}
      {newValues : List (Nat × Value)}
      {keyParts : List Bytes}
      {existing : Option Bytes}
      {cells : List (UInt16 × Value)}
      (fits : upd.FitsFrame binds)
      (planned :
        planUpdate hexDecode table upd binds = .ok (newValues, keyParts, rest))
      (earlier : ∀ bytes, existing = some bytes → StoredRow hexDecode table bytes)
      (merged : mergedCells table newValues existing = .ok cells) :
      StoredRow hexDecode table (encodeRowColumns cells)

/-- The values placed so far are storable where they are placed. -/
def PlacedStorable (table : TableDef) (resolved : List (Option Value)) : Prop :=
  ∀ (index : Nat) (column : ColumnDef) (value : Value),
    table.columns[index]? = some column →
    resolved[index]? = some (some value) →
    Storable column.colType value

/-- Assigned values are storable in the columns they are assigned to. -/
def AssignedStorable (table : TableDef) (newValues : List (Nat × Value)) : Prop :=
  ∀ entry ∈ newValues,
    ∃ column,
      table.columns[entry.1]? = some column ∧ Storable column.colType entry.2

section Statements

variable
  {hexDecode : HexDecode}
  (halves : hexDecode.Halves)
  {table : TableDef}

include halves

/-- The values placed by an INSERT are storable where they are placed. -/
theorem resolveValues_storable
    {supplied : List (Identifier × Operand)}
    (fits : ∀ entry ∈ supplied, entry.2.FitsFrame)
    {resolved final : List (Option Value)}
    (earlier : PlacedStorable table resolved)
    {binds rest : Binds}
    (bindsFit : binds.FitFrame)
    (placed :
      resolveValues hexDecode table supplied resolved binds =
        .ok (final, rest)) :
    PlacedStorable table final := by
  induction supplied generalizing resolved binds with
  | nil =>
      cases placed
      exact earlier
  | cons entry supplied inductionHypothesis =>
      rw [resolveValues] at placed
      split at placed
      · cases placed
      · rename_i at_ _
        split at placed
        · cases placed
        · rename_i column here
          obtain ⟨⟨value, next⟩, read, later⟩ := Fallible.bind_eq_ok.mp placed
          obtain ⟨storable, nextValues⟩ :=
            operandToValue_storable halves (fits entry (by simp)) bindsFit read
          have nextFit : next.FitFrame := by
            rw [Binds.FitFrame, nextValues]
            exact bindsFit
          refine inductionHypothesis
            (fun other member => fits other (by simp [member])) ?_ nextFit later
          intro index other found there isSet
          rw [List.getElem?_set] at isSet
          split at isSet
          · rename_i same
            subst same
            rw [here] at there
            cases there
            split at isSet
            · cases isSet
              exact storable
            · cases isSet
          · exact earlier index other found there isSet

/-- An INSERT stores storable values. -/
theorem planInsert_holds
    {ins : Insert}
    {binds rest : Binds}
    (fits : ins.FitsFrame binds)
    {keyParts : List Bytes}
    {cells : List (UInt16 × Value)}
    (planned :
      planInsert hexDecode table ins binds = .ok (keyParts, cells, rest)) :
    ∃ valueOf, table.Holds valueOf ∧ cells = table.cells valueOf := by
  unfold planInsert at planned
  split at planned
  · cases planned
  · rename_i operands isValues
    split at planned
    · cases planned
    · obtain ⟨⟨resolved, next⟩, placed, later⟩ := Fallible.bind_eq_ok.mp planned
      obtain ⟨_, _, same⟩ := Fallible.bind_eq_ok.mp later
      cases same
      have operandsFit :
          ∀ entry ∈ ins.columns.zip operands, entry.2.FitsFrame :=
        fun entry member =>
          fits.1 operands isValues entry.2 (List.of_mem_zip member).2
      have nothing :
          PlacedStorable table (List.replicate table.columns.length none) := by
        intro index column value _ there
        simp [List.getElem?_replicate] at there
      have stored :=
        resolveValues_storable halves operandsFit nothing fits.2 placed
      refine ⟨_, ?_, rfl⟩
      intro index column _ here
      dsimp only
      cases found : resolved.getD index none with
      | none =>
          exact .inl rfl
      | some value =>
          refine stored index column value here ?_
          rw [List.getD_eq_getElem?_getD] at found
          cases there : resolved[index]? with
          | none =>
              simp [there] at found
          | some entry =>
              simpa [there] using found

/-- The values of an UPDATE are storable in the columns they are assigned to. -/
theorem assignedValues_storable
    {assignments : List AssignmentElement}
    (fits : ∀ assignment ∈ assignments, assignment.value.FitsFrame)
    {binds rest : Binds}
    (bindsFit : binds.FitFrame)
    {newValues : List (Nat × Value)}
    (assigned :
      assignedValues hexDecode table assignments binds = .ok (newValues, rest)) :
    AssignedStorable table newValues ∧ rest.values = binds.values := by
  induction assignments generalizing binds newValues with
  | nil =>
      cases assigned
      exact ⟨by simp [AssignedStorable], rfl⟩
  | cons assignment assignments inductionHypothesis =>
      rw [assignedValues] at assigned
      split at assigned
      · cases assigned
      · split at assigned
        · cases assigned
        · cases assigned
        · rename_i column index found foundIndex
          obtain ⟨⟨value, next⟩, read, later⟩ := Fallible.bind_eq_ok.mp assigned
          obtain ⟨⟨others, last⟩, readOthers, same⟩ :=
            Fallible.bind_eq_ok.mp later
          cases same
          obtain ⟨storable, nextValues⟩ :=
            operandToValue_storable halves (fits assignment (by simp)) bindsFit
              read
          have nextFit : next.FitFrame := by
            rw [Binds.FitFrame, nextValues]
            exact bindsFit
          obtain ⟨othersStorable, restValues⟩ :=
            inductionHypothesis
              (fun other member => fits other (by simp [member])) nextFit
              readOthers
          refine ⟨?_, restValues.trans nextValues⟩
          intro entry member
          rcases List.mem_cons.mp member with rfl | earlier
          · exact ⟨column, TableDef.getElem?_of_column found foundIndex, storable⟩
          · exact othersStorable entry earlier

/-- What a planned UPDATE assigns is storable. -/
theorem planUpdate_storable
    {upd : Update}
    {binds rest : Binds}
    (fits : upd.FitsFrame binds)
    {newValues : List (Nat × Value)}
    {keyParts : List Bytes}
    (planned :
      planUpdate hexDecode table upd binds = .ok (newValues, keyParts, rest)) :
    AssignedStorable table newValues := by
  obtain ⟨⟨assigned, next⟩, read, later⟩ := Fallible.bind_eq_ok.mp planned
  obtain ⟨⟨filters, last⟩, _, other⟩ := Fallible.bind_eq_ok.mp later
  obtain ⟨_, _, same⟩ := Fallible.bind_eq_ok.mp other
  cases same
  exact (assignedValues_storable halves fits.1 fits.2.2 read).1

end Statements

/-- The last value assigned to an index. -/
def lastAssigned (newValues : List (Nat × Value)) (index : Nat) : Option Value :=
  newValues.reverse.lookup index

section Assignments

variable {newValues : List (Nat × Value)} {index : Nat} {value : Value}

/-- A last assigned value was assigned. -/
theorem mem_of_lastAssigned (last : lastAssigned newValues index = some value) :
    (index, value) ∈ newValues := by
  obtain ⟨before, after, split, _⟩ := List.lookup_eq_some_iff.mp last
  rw [← List.mem_reverse, split]
  simp

/-- The first assignment is the last one of an index unless a later one is. -/
theorem lastAssigned_cons (first : Nat) :
    lastAssigned ((first, value) :: newValues) index =
      (lastAssigned newValues index).or
        (if index = first then some value else none) := by
  rw [lastAssigned, List.reverse_cons, List.lookup_append]
  by_cases same : index = first
  · simp [lastAssigned, same]
  · have other : (index == first) = false :=
      beq_false_of_ne same
    simp [lastAssigned, same, List.lookup, other]

/-- Assigning values keeps the length of a row. -/
theorem length_assignValues (row : List Value) :
    (assignValues row newValues).length = row.length := by
  induction newValues generalizing row with
  | nil =>
      rfl
  | cons entry rest inductionHypothesis =>
      rw [assignValues, List.foldl_cons, ← assignValues, inductionHypothesis,
        List.length_set]

/-- After assigning, an index holds its last value or what it held. -/
theorem getD_assignValues
    {row : List Value}
    (inside : index < row.length) :
    (assignValues row newValues).getD index .null =
      (lastAssigned newValues index).getD (row.getD index .null) := by
  induction newValues generalizing row with
  | nil =>
      rfl
  | cons entry rest inductionHypothesis =>
      obtain ⟨first, value⟩ := entry
      have kept : index < (row.set first value).length := by
        rwa [List.length_set]
      rw [assignValues, List.foldl_cons, ← assignValues,
        inductionHypothesis kept, lastAssigned_cons]
      cases lastAssigned rest index with
      | some later =>
          rfl
      | none =>
          by_cases same : index = first
          · subst same
            simp [inside]
          · have other : ¬ first = index := fun reversed => same reversed.symm
            simp [same, other, List.getD_eq_getElem?_getD]

/-- Among distinct assignments the first one of an index is the last one. -/
theorem lookup_eq_lastAssigned
    (distinct : (newValues.map Prod.fst).Nodup) :
    newValues.lookup index = lastAssigned newValues index := by
  induction newValues with
  | nil =>
      rfl
  | cons entry rest inductionHypothesis =>
      obtain ⟨first, value⟩ := entry
      obtain ⟨fresh, restDistinct⟩ := List.nodup_cons.mp distinct
      rw [lastAssigned_cons, ← inductionHypothesis restDistinct]
      by_cases same : index = first
      · subst same
        have missing : rest.lookup index = none := by
          rw [List.lookup_eq_none_iff]
          intro other member
          simp only [ne_eq, bne_iff_ne]
          intro named
          exact fresh (List.mem_map.mpr ⟨other, member, named.symm⟩)
        simp [missing]
      · have other : (index == first) = false :=
          beq_false_of_ne same
        simp [List.lookup, same, other]

end Assignments

/-- A covering UPDATE stores its last values; a column without one panics. -/
theorem coveredCells_eq
    {newValues : List (Nat × Value)}
    (distinct : (newValues.map Prod.fst).Nodup)
    (table : TableDef) :
    coveredCells table newValues =
      if ∀ index ∈ table.regularIndexes, index ∈ newValues.map Prod.fst then
        .ok (table.cells fun index => (lastAssigned newValues index).getD .null)
      else
        .error .panic := by
  unfold coveredCells TableDef.cells
  generalize table.regularIndexes = indexes
  induction indexes with
  | nil =>
      rfl
  | cons first rest inductionHypothesis =>
      rw [List.mapM_cons, inductionHypothesis, lookup_eq_lastAssigned distinct]
      cases last : lastAssigned newValues first with
      | none =>
          have missing : first ∉ newValues.map Prod.fst := by
            intro assigned
            rw [← lookup_eq_lastAssigned distinct, List.lookup_eq_none_iff] at last
            obtain ⟨entry, member, rfl⟩ := List.mem_map.mp assigned
            simpa using last entry member
          have notAll :
              ¬ ∀ index ∈ first :: rest, index ∈ newValues.map Prod.fst :=
            fun all => missing (all first List.mem_cons_self)
          rw [if_neg notAll]
          rfl
      | some value =>
          have present : first ∈ newValues.map Prod.fst :=
            List.mem_map.mpr ⟨_, mem_of_lastAssigned last, rfl⟩
          by_cases others : ∀ index ∈ rest, index ∈ newValues.map Prod.fst
          · have all :
                ∀ index ∈ first :: rest, index ∈ newValues.map Prod.fst :=
              List.forall_mem_cons.mpr ⟨present, others⟩
            rw [if_pos others, if_pos all, List.map_cons]
            dsimp only
            rw [last]
            rfl
          · have notAll :
                ¬ ∀ index ∈ first :: rest, index ∈ newValues.map Prod.fst :=
              fun all => others (List.forall_mem_cons.mp all).2
            rw [if_neg others, if_neg notAll]
            rfl

/-- The row an UPDATE starts from: the stored one, or nulls. -/
def previousRow (table : TableDef) : Option Bytes → Outcome (List Value)
  | some bytes =>
      decodeRowColumns bytes table
  | none =>
      .ok (List.replicate table.columns.length .null)

/-- The cells of a merging UPDATE are its values over the previous row. -/
theorem mergedCells_eq
    (table : TableDef)
    (newValues : List (Nat × Value))
    (existing : Option Bytes) :
    mergedCells table newValues existing =
      ((previousRow table existing).mapError internalErr).map fun row =>
        table.cells fun index => (assignValues row newValues).getD index .null := by
  cases existing with
  | none =>
      rfl
  | some bytes =>
      unfold mergedCells previousRow
      cases decodeRowColumns bytes table with
      | error fault =>
          rfl
      | ok row =>
          rfl

/-- Last values over storable ones are storable. -/
theorem TableDef.Holds.assign
    {table : TableDef}
    {valueOf : Nat → Value}
    {newValues : List (Nat × Value)}
    (holds : table.Holds valueOf)
    (assigned : AssignedStorable table newValues) :
    table.Holds fun index =>
      (lastAssigned newValues index).getD (valueOf index) := by
  intro index column regular here
  dsimp only
  cases last : lastAssigned newValues index with
  | none =>
      exact holds index column regular here
  | some value =>
      obtain ⟨other, there, storable⟩ :=
        assigned (index, value) (mem_of_lastAssigned last)
      rw [here] at there
      cases there
      exact storable

/-- A previous row made of storable values decodes to them. -/
theorem exists_previousRow
    {table : TableDef}
    (columnsFit : table.columns.length ≤ 2 ^ 16)
    {existing : Option Bytes}
    (earlier :
      ∀ bytes,
        existing = some bytes →
        ∃ valueOf,
          table.Holds valueOf ∧
            bytes = encodeRowColumns (table.cells valueOf)) :
    ∃ valueOf,
      table.Holds valueOf ∧
        previousRow table existing = .ok (table.regularRow valueOf) := by
  cases existing with
  | none =>
      refine ⟨fun _ => .null, fun _ _ _ _ => .inl rfl, ?_⟩
      rw [previousRow, TableDef.regularRow]
      simp
  | some bytes =>
      obtain ⟨valueOf, holds, rfl⟩ := earlier bytes rfl
      exact ⟨valueOf, holds, decodeRowColumns_cells columnsFit holds⟩

/-- Merging into a row of known values stores the last values over them. -/
theorem mergedCells_assign
    {table : TableDef}
    (newValues : List (Nat × Value))
    {existing : Option Bytes}
    {valueOf : Nat → Value}
    (previous : previousRow table existing = .ok (table.regularRow valueOf)) :
    mergedCells table newValues existing =
      .ok (table.cells fun index =>
        (lastAssigned newValues index).getD (valueOf index)) := by
  rw [mergedCells_eq, previous]
  refine congrArg Except.ok (List.map_congr_left fun index regular => ?_)
  have inside : index < (table.regularRow valueOf).length := by
    rw [TableDef.length_regularRow]
    exact TableDef.lt_of_mem_regularIndexes regular
  dsimp only
  rw [getD_assignValues inside, TableDef.getD_regularRow regular]

/-- A stored row is the cells of storable values of the regular columns. -/
theorem StoredRow.exists_values
    {hexDecode : HexDecode}
    (halves : hexDecode.Halves)
    {table : TableDef}
    (columnsFit : table.columns.length ≤ 2 ^ 16)
    {data : Bytes}
    (stored : StoredRow hexDecode table data) :
    ∃ valueOf,
      table.Holds valueOf ∧ data = encodeRowColumns (table.cells valueOf) := by
  have nothing : table.Holds fun _ => .null :=
    fun _ _ _ _ => .inl rfl
  induction stored with
  | insert fits planned =>
      obtain ⟨valueOf, holds, rfl⟩ := planInsert_holds halves fits planned
      exact ⟨valueOf, holds, rfl⟩
  | covered fits planned covers assigned =>
      have distinct := (Bool.and_eq_true_iff.mp covers).2
      rw [coveredCells_eq (of_decide_eq_true distinct)] at assigned
      split at assigned
      · cases assigned
        exact ⟨_, nothing.assign (planUpdate_storable halves fits planned), rfl⟩
      · cases assigned
  | @merged upd binds rest newValues _ existing _ fits planned _ merged
      inductionHypothesis =>
      have assigned := planUpdate_storable halves fits planned
      obtain ⟨valueOf, holds, previous⟩ :=
        exists_previousRow columnsFit inductionHypothesis
      rw [mergedCells_assign newValues previous] at merged
      cases merged
      exact ⟨_, holds.assign assigned, rfl⟩

end RhydaDB
