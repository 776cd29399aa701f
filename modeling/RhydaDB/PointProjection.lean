import RhydaDB.StoredRows

namespace RhydaDB

open ByteStrings

/-!
# The two projections of a point lookup

A lookup by a single key column reads each selected cell straight from the row
value and skips the filters.  On rows that statements store, each regular
column has one cell, so its first cell is its last one, and the key part is
what the filter compares with: the generic projection gives the same row.
-/

/-! ## One cell -/

section Cell

variable
  {table : TableDef}
  {cell : UInt16}
  {column : ColumnDef}
  {value : Value}

/-- The index and the length that a scan reads in front of a cell. -/
theorem scanCell_header
    (cell : UInt16)
    (storable : Storable column.colType value)
    (before rest : Bytes) :
    let data := before ++ (toBe 2 cell.toNat ++ (value.toWire ++ rest))
    ofBe (slice data before.length 2) = cell.toNat ∧
      (readI32 data (before.length + 2) = -1 ∧ value = .null ∨
        readI32 data (before.length + 2) = value.rawBytes.length ∧
          value.WellTyped column.colType ∧
          value.rawBytes.length < 2 ^ 31) := by
  have index :
      slice (before ++ (toBe 2 cell.toNat ++ (value.toWire ++ rest)))
          before.length 2 =
        toBe 2 cell.toNat := by
    have whole := slice_append before (toBe 2 cell.toNat) (value.toWire ++ rest)
    rwa [length_toBe, List.append_assoc] at whole
  have bound : cell.toNat < 256 ^ 2 :=
    cell.toNat_lt.trans_eq (by norm_num)
  refine ⟨by rw [index, ofBe_toBe_of_lt bound], ?_⟩
  rcases storable with rfl | ⟨typed, fits⟩
  · refine .inl ⟨?_, rfl⟩
    have field :=
      slice_append (before ++ toBe 2 cell.toNat) Value.null.toWire rest
    rw [List.length_append, length_toBe, List.append_assoc, List.append_assoc]
      at field
    have short : Value.null.toWire.length = 4 := rfl
    rw [short] at field
    rw [readI32, field]
    decide
  · refine .inr ⟨?_, typed, fits⟩
    have field :=
      readI32_i32Be (before ++ toBe 2 cell.toNat) (value.rawBytes ++ rest) fits
    rw [List.length_append, length_toBe, List.append_assoc] at field
    rw [Value.toWire_eq_prefixed typed.isNull_eq_false, List.append_assoc]
    exact field

/-- A scan that meets the wanted cell finds its value. -/
theorem scanCell_hit
    (here : table.columns[cell.toNat]? = some column)
    (storable : Storable column.colType value)
    {before rest data : Bytes}
    (shape : data = before ++ (toBe 2 cell.toNat ++ (value.toWire ++ rest)))
    (small : data.length < 2 ^ 64) :
    scanCell table cell.toNat data before.length = .ok (.found value) := by
  obtain ⟨index, length⟩ := scanCell_header cell storable before rest
  rw [← shape] at index length
  have size :
      data.length = before.length + 2 + value.toWire.length + rest.length := by
    rw [shape]
    simp
    omega
  rcases length with ⟨isNull, rfl⟩ | ⟨raw, typed, fits⟩
  · have short : Value.null.toWire.length = 4 := rfl
    rw [scanCell, if_neg (by omega)]
    simp only [index, isNull, if_true]
  · have long := Value.length_toWire typed.isNull_eq_false
    have stop :
        (before.length + 6 + ((value.rawBytes.length : Int) % 2 ^ 64).toNat) %
            2 ^ 64 =
          before.length + 6 + value.rawBytes.length := by
      omega
    have payload :
        slice data (before.length + 6) value.rawBytes.length =
          value.rawBytes := by
      have field :=
        slice_append
          (before ++ toBe 2 cell.toNat ++ i32Be value.rawBytes.length)
          value.rawBytes rest
      rw [List.length_append, List.length_append, length_toBe, length_i32Be]
        at field
      rw [shape, Value.toWire_eq_prefixed typed.isNull_eq_false]
      simpa using field
    rw [scanCell, if_neg (by omega)]
    simp only [index, raw, stop, here, if_true]
    rw [if_neg (by omega), if_neg (by omega), if_neg (by omega),
      Nat.add_sub_cancel_left, payload, Value.fromRawBytes_rawBytes typed fits]
    rfl

/-- A scan for another column steps over the cell. -/
theorem scanCell_miss
    {index : Nat}
    (other : cell.toNat ≠ index)
    (storable : Storable column.colType value)
    {before rest data : Bytes}
    (shape : data = before ++ (toBe 2 cell.toNat ++ (value.toWire ++ rest)))
    (small : data.length < 2 ^ 64) :
    scanCell table index data before.length =
      .ok (.next (before.length + 2 + value.toWire.length)) := by
  obtain ⟨found, length⟩ := scanCell_header cell storable before rest
  rw [← shape] at found length
  have size :
      data.length = before.length + 2 + value.toWire.length + rest.length := by
    rw [shape]
    simp
    omega
  rcases length with ⟨isNull, rfl⟩ | ⟨raw, typed, fits⟩
  · have short : Value.null.toWire.length = 4 := rfl
    rw [scanCell, if_neg (by omega)]
    simp only [found, isNull, if_neg other, if_true, short]
  · have long := Value.length_toWire typed.isNull_eq_false
    have stop :
        (before.length + 6 + ((value.rawBytes.length : Int) % 2 ^ 64).toNat) %
            2 ^ 64 =
          before.length + 2 + value.toWire.length := by
      omega
    have positive : ¬ ((value.rawBytes.length : Int) = -1) := by
      omega
    rw [scanCell, if_neg (by omega)]
    simp only [found, raw, stop, if_neg other, if_neg positive]

end Cell

/-! ## The scan for one column -/

/-- A stored cell takes at most its index, its length and 2 GiB. -/
theorem Storable.length_toWire_le
    {columnType : ColumnType}
    {value : Value}
    (storable : Storable columnType value) :
    value.toWire.length ≤ 4 + 2 ^ 31 := by
  rcases storable with rfl | ⟨typed, fits⟩
  · simp [Value.toWire]
  · rw [Value.length_toWire typed.isNull_eq_false]
    omega

/-- Fitting cells of a table's columns are far from filling the address space. -/
theorem length_encodeRowColumns_le
    {table : TableDef}
    {cells : List (UInt16 × Value)}
    (fit : CellsFit table cells) :
    (encodeRowColumns cells).length ≤ cells.length * (6 + 2 ^ 31) := by
  induction cells with
  | nil =>
      simp [encodeRowColumns]
  | cons cell rest inductionHypothesis =>
      obtain ⟨index, value⟩ := cell
      obtain ⟨_, _, storable⟩ := fit (index, value) (by simp)
      have short : value.toWire.length ≤ 4 + 2 ^ 31 :=
        storable.length_toWire_le
      have others :=
        inductionHypothesis fun other member => fit other (by simp [member])
      rw [encodeRowColumns, List.length_append, List.length_append, length_toBe,
        List.length_cons]
      omega

/--
A scan from a cell boundary finds the first later cell of its column.

The rounds left exceed the bytes left, and every cell takes at least one byte.
-/
theorem scanCells_encodeRowColumns
    {table : TableDef}
    {cells : List (UInt16 × Value)}
    (fit : CellsFit table cells)
    (index : Nat)
    {before data : Bytes}
    (shape : data = before ++ encodeRowColumns cells)
    (small : data.length < 2 ^ 64)
    {rounds : Nat}
    (enough : (encodeRowColumns cells).length < rounds) :
    scanCells table index data rounds before.length =
      .ok (((cells.find? fun cell => cell.1.toNat == index).map Prod.snd).getD
        .null) := by
  induction cells generalizing before rounds with
  | nil =>
      have ended : data.length ≤ before.length := by
        rw [shape]
        simp [encodeRowColumns]
      unfold scanCells
      rw [if_pos ended]
      rfl
  | cons cell rest inductionHypothesis =>
      obtain ⟨first, value⟩ := cell
      obtain ⟨column, here, storable⟩ := fit (first, value) (by simp)
      have restFit : CellsFit table rest :=
        fun other member => fit other (by simp [member])
      have front :
          encodeRowColumns ((first, value) :: rest) =
            toBe 2 first.toNat ++ (value.toWire ++ encodeRowColumns rest) := by
        simp [encodeRowColumns]
      have frontLength :
          (encodeRowColumns ((first, value) :: rest)).length =
            2 + value.toWire.length + (encodeRowColumns rest).length := by
        rw [front]
        simp
        omega
      have inside : ¬ data.length ≤ before.length := by
        rw [shape, List.length_append]
        omega
      rw [front] at shape
      obtain ⟨left, rfl⟩ : ∃ left, rounds = left + 1 :=
        ⟨rounds - 1, by omega⟩
      rw [scanCells, if_neg inside]
      by_cases wanted : first.toNat = index
      · subst wanted
        rw [scanCell_hit here storable shape small]
        simp [Bind.bind, Except.bind, Pure.pure, Except.pure]
      · have next :
            data =
              (before ++ (toBe 2 first.toNat ++ value.toWire)) ++
                encodeRowColumns rest := by
          rw [shape]
          simp
        have nextLength :
            (before ++ (toBe 2 first.toNat ++ value.toWire)).length =
              before.length + 2 + value.toWire.length := by
          simp
          omega
        have fewer : (encodeRowColumns rest).length < left := by
          omega
        have later := inductionHypothesis restFit next fewer
        rw [nextLength] at later
        rw [scanCell_miss wanted storable shape small,
          List.find?_cons_of_neg (by simpa using wanted)]
        exact later

/-- A regular column has a cell in the row. -/
theorem find?_cells
    {table : TableDef}
    (columnsFit : table.columns.length ≤ 2 ^ 16)
    {valueOf : Nat → Value}
    {index : Nat}
    (regular : index ∈ table.regularIndexes) :
    ((table.cells valueOf).find? fun cell => cell.1.toNat == index) =
      some (UInt16.ofNat index, valueOf index) := by
  have indexes :
      ∀ other ∈ table.regularIndexes,
        ((UInt16.ofNat other).toNat == index) = (other == index) :=
    fun other member => by rw [toNat_index columnsFit member]
  unfold TableDef.cells
  generalize table.regularIndexes = all at indexes regular
  induction all with
  | nil =>
      cases regular
  | cons first rest inductionHypothesis =>
      have firstIndex := indexes first (by simp)
      rw [List.map_cons]
      by_cases same : first = index
      · subst same
        rw [List.find?_cons_of_pos]
        rw [firstIndex]
        simp
      · rw [List.find?_cons_of_neg]
        · exact inductionHypothesis
            (fun other member => indexes other (by simp [member]))
            (List.mem_of_ne_of_mem (Ne.symm same) regular)
        · rw [firstIndex]
          simpa using same

/-- The scan of a stored row finds each regular column's value. -/
theorem scanCells_cells
    {table : TableDef}
    (columnsFit : table.columns.length ≤ 2 ^ 16)
    {valueOf : Nat → Value}
    (holds : table.Holds valueOf)
    {index : Nat}
    (regular : index ∈ table.regularIndexes) :
    scanCells table index (encodeRowColumns (table.cells valueOf))
        ((encodeRowColumns (table.cells valueOf)).length + 1) 0 =
      .ok (valueOf index) := by
  generalize shape : encodeRowColumns (table.cells valueOf) = data
  have fit := cellsFit_cells columnsFit holds
  have few : (table.cells valueOf).length ≤ 2 ^ 16 := by
    have indexes :
        table.regularIndexes.length ≤ (List.range table.columns.length).length :=
      ((List.subperm_of_subset table.nodup_regularIndexes fun other member =>
        List.mem_range.mpr (TableDef.lt_of_mem_regularIndexes member))).length_le
    rw [List.length_range] at indexes
    simpa [TableDef.cells] using indexes.trans columnsFit
  have small : data.length < 2 ^ 64 := by
    have bound := length_encodeRowColumns_le fit
    rw [shape] at bound
    have product := Nat.mul_le_mul_right (6 + 2 ^ 31) few
    omega
  have whole : data = [] ++ encodeRowColumns (table.cells valueOf) :=
    shape.symm
  have enough : (encodeRowColumns (table.cells valueOf)).length < data.length + 1 := by
    rw [shape]
    exact Nat.lt_succ_self _
  have scanned := scanCells_encodeRowColumns fit index whole small enough
  rw [List.length_nil] at scanned
  rw [scanned]
  rw [find?_cells columnsFit regular]
  rfl

/-! ## Values that equal themselves -/

/-- A type in which no float occurs, neither alone nor inside a collection. -/
def ColumnType.FloatFree : ColumnType → Prop
  | .float =>
      False
  | .double =>
      False
  | .set element =>
      element.FloatFree
  | .list element =>
      element.FloatFree
  | .map key value =>
      key.FloatFree ∧ value.FloatFree
  | _ =>
      True

namespace Value

/-- Lists of values that equal themselves do. -/
theorem eqAllWith_self
    {values : List Value}
    (each : ∀ value ∈ values, value.partialEq value = true) :
    eqAllWith floatEq doubleEq values values = true := by
  induction values with
  | nil =>
      rfl
  | cons value rest inductionHypothesis =>
      rw [eqAllWith, Bool.and_eq_true]
      exact ⟨each value (by simp),
        inductionHypothesis fun other member => each other (by simp [member])⟩

/-- Lists of entries whose parts equal themselves do. -/
theorem eqEntriesWith_self
    {entries : List (Value × Value)}
    (each :
      ∀ entry ∈ entries,
        entry.1.partialEq entry.1 = true ∧ entry.2.partialEq entry.2 = true) :
    eqEntriesWith floatEq doubleEq entries entries = true := by
  induction entries with
  | nil =>
      rfl
  | cons entry rest inductionHypothesis =>
      obtain ⟨key, value⟩ := entry
      obtain ⟨keySelf, valueSelf⟩ := each (key, value) (by simp)
      rw [eqEntriesWith, Bool.and_eq_true, Bool.and_eq_true]
      exact ⟨⟨keySelf, valueSelf⟩,
        inductionHypothesis fun other member => each other (by simp [member])⟩

/-- Only a NaN differs from itself, so values without floats do not. -/
theorem WellTyped.partialEq_self
    {columnType : ColumnType}
    (floatFree : columnType.FloatFree)
    {value : Value}
    (typed : value.WellTyped columnType) :
    value.partialEq value = true := by
  induction columnType generalizing value with
  | float =>
      exact floatFree.elim
  | double =>
      exact floatFree.elim
  | set element inductionHypothesis =>
      cases value with
      | set values =>
          exact eqAllWith_self fun item member =>
            inductionHypothesis floatFree (typed item member)
      | _ =>
          exact typed.elim
  | list element inductionHypothesis =>
      cases value with
      | list values =>
          exact eqAllWith_self fun item member =>
            inductionHypothesis floatFree (typed item member)
      | _ =>
          exact typed.elim
  | map keyType valueType keyHypothesis valueHypothesis =>
      cases value with
      | map entries =>
          exact eqEntriesWith_self fun entry member =>
            ⟨keyHypothesis floatFree.1 (typed entry member).1,
              valueHypothesis floatFree.2 (typed entry member).2⟩
      | _ =>
          exact typed.elim
  | _ =>
      cases value <;> first | exact typed.elim | simp [partialEq, eqWith]

end Value

/-! ## Both projections -/

/-- The projection of a lookup by `=` on one key column. -/
def pointProjection
    (table : TableDef)
    (selectedIdxs : List Nat)
    (keyIndex : Nat)
    (value : Value) :
    Projection where
  table := table
  selectedIdxs := selectedIdxs
  eqFilters := [(keyIndex, value)]
  inFilters := []
  keyColIdxs := [keyIndex]

/-- In a table with one key column every other column is regular. -/
theorem TableDef.WellFormed.regular_of_ne_key
    {table : TableDef}
    (wellFormed : table.WellFormed)
    {keyName : String}
    (keyNames : table.keyNames = [keyName])
    {keyIndex : Nat}
    (keyFound : table.columnIndex keyName = some keyIndex)
    {index : Nat}
    (inside : index < table.columns.length)
    (other : index ≠ keyIndex) :
    index ∈ table.regularIndexes := by
  have here := List.getElem?_eq_getElem inside
  by_contra notRegular
  have isKey := (wellFormed.not_regular_iff here).mp notRegular
  rw [keyNames, List.mem_singleton] at isKey
  have found := wellFormed.columnIndex_name here
  rw [isKey, keyFound] at found
  cases found
  exact other rfl

section Point

variable
  {table : TableDef}
  {keyName : String}
  {keyIndex : Nat}
  {keyColumn : ColumnDef}
  {value : Value}
  {valueOf : Nat → Value}
  {selectedIdxs : List Nat}
  (columnsFit : table.columns.length ≤ 2 ^ 16)
  (keyHere : table.columns[keyIndex]? = some keyColumn)
  (typed : value.WellTyped keyColumn.colType)
  (fits : value.rawBytes.length < 2 ^ 31)
  (holds : table.Holds valueOf)

include columnsFit keyHere typed fits holds

/-- The generic projection overlays the key and compares it with the filter. -/
theorem projectDecoded_point (selectedIdxs : List Nat) :
    (pointProjection table selectedIdxs keyIndex value).projectDecoded
        [value.rawBytes] (encodeRowColumns (table.cells valueOf)) =
      .ok
        (if value.partialEq value then
          some (selectedIdxs.map fun index =>
            ((table.regularRow valueOf).set keyIndex value).getD index .null)
        else
          none) := by
  have inside : keyIndex < table.columns.length :=
    (List.getElem?_eq_some_iff.mp keyHere).1
  have overlaid :
      (pointProjection table selectedIdxs keyIndex value).decodeRow
          [value.rawBytes] (encodeRowColumns (table.cells valueOf)) =
        .ok ((table.regularRow valueOf).set keyIndex value) := by
    have decoded := decodeRowColumns_cells columnsFit holds
    refine Fallible.bind_eq_ok.mpr ⟨_, decoded, ?_⟩
    simp only [pointProjection, Projection.overlayKey, keyHere]
    have key := Value.fromRawBytes_rawBytes typed fits
    exact Fallible.bind_eq_ok.mpr ⟨_, key, rfl⟩
  have keyValue :
      (((table.regularRow valueOf).set keyIndex value)[keyIndex]?).getD .null =
        value := by
    simp [inside]
  have accepted :
      (pointProjection table selectedIdxs keyIndex value).accepts
          ((table.regularRow valueOf).set keyIndex value) =
        value.partialEq value := by
    simp [Projection.accepts, pointProjection, keyValue]
  refine Fallible.bind_eq_ok.mpr ⟨_, overlaid, ?_⟩
  rw [accepted]
  rfl

variable
  (wellFormed : table.WellFormed)
  (keyNames : table.keyNames = [keyName])
  (keyFound : table.columnIndex keyName = some keyIndex)

include wellFormed keyNames keyFound

/-- The point projection reads the key part and scans for every other column. -/
theorem projectFastPoint_point
    (selected : ∀ index ∈ selectedIdxs, index < table.columns.length) :
    (pointProjection table selectedIdxs keyIndex value).projectFastPoint
        [value.rawBytes] (encodeRowColumns (table.cells valueOf)) =
      .ok (selectedIdxs.map fun index =>
        ((table.regularRow valueOf).set keyIndex value).getD index .null) := by
  have each :
      ∀ index ∈ selectedIdxs,
        (pointProjection table selectedIdxs keyIndex value).fastValue
            [value.rawBytes] (encodeRowColumns (table.cells valueOf)) index =
          .ok (((table.regularRow valueOf).set keyIndex value).getD index
            .null) := by
    intro index member
    have inside := selected index member
    by_cases isKey : index = keyIndex
    · subst isKey
      have key := Value.fromRawBytes_rawBytes typed fits
      have here : ([index].idxOf? index) = some 0 := by
        simp
      rw [Projection.fastValue, pointProjection]
      simp only [here, List.getElem?_cons_zero, keyHere, key]
      simp [inside]
    · have regular :=
        wellFormed.regular_of_ne_key keyNames keyFound inside isKey
      have notKey : ([keyIndex].idxOf? index) = none := by
        rw [List.idxOf?_eq_none_iff, List.mem_singleton]
        exact isKey
      have value_ :
          ((table.regularRow valueOf).set keyIndex value).getD index .null =
            valueOf index := by
        rw [List.getD_eq_getElem?_getD, List.getElem?_set_ne (Ne.symm isKey),
          ← List.getD_eq_getElem?_getD]
        exact TableDef.getD_regularRow regular
      rw [Projection.fastValue, pointProjection]
      simp only [notKey, value_]
      exact scanCells_cells columnsFit holds regular
  unfold Projection.projectFastPoint
  refine Fallible.mapM_eq_ok.mpr ?_
  rw [List.forall₂_map_right_iff]
  exact List.forall₂_same.mpr each

end Point

/--
On rows that statements store, the point projection skips nothing.

Both projections give the same row whenever the key value equals itself, in
particular at every key type without floats; a key with a NaN inside is the
only one that the skipped comparison would reject.
-/
theorem fast_point_projection
    {hexDecode : HexDecode}
    (halves : hexDecode.Halves)
    {table : TableDef}
    (wellFormed : table.WellFormed)
    (columnsFit : table.columns.length ≤ 2 ^ 16)
    {keyName : String}
    (partitionKey : table.partitionKeys = [keyName])
    (noClustering : table.clusteringKeys = [])
    {keyIndex : Nat}
    (keyFound : table.columnIndex keyName = some keyIndex)
    {keyColumn : ColumnDef}
    (keyHere : table.columns[keyIndex]? = some keyColumn)
    {value : Value}
    (typed : value.WellTyped keyColumn.colType)
    (fits : value.rawBytes.length < 2 ^ 31)
    {data : Bytes}
    (stored : StoredRow hexDecode table data)
    {selectedIdxs : List Nat}
    (selected : ∀ index ∈ selectedIdxs, index < table.columns.length) :
    let projection := pointProjection table selectedIdxs keyIndex value
    let generic := projection.projectDecoded [value.rawBytes] data
    let fast := projection.projectFastPoint [value.rawBytes] data
    projection.fast = true ∧
      (keyColumn.colType.FloatFree → generic = fast.map some) ∧
      (generic = fast.map some ↔ value.partialEq value = true) := by
  intro projection generic fast
  obtain ⟨valueOf, holds, rfl⟩ := stored.exists_values halves columnsFit
  have keyNames : table.keyNames = [keyName] := by
    rw [TableDef.keyNames, partitionKey, noClustering]
    rfl
  have genericRow :=
    projectDecoded_point columnsFit keyHere typed fits holds selectedIdxs
  have fastRow :=
    projectFastPoint_point columnsFit keyHere typed fits holds wellFormed
      keyNames keyFound selected
  have agree : generic = fast.map some ↔ value.partialEq value = true := by
    simp only [generic, fast, projection, genericRow, fastRow, Except.map]
    cases value.partialEq value <;> simp
  refine ⟨?_, fun floatFree => agree.mpr (typed.partialEq_self floatFree), agree⟩
  simp [projection, Projection.fast, pointProjection, partitionKey, noClustering]

/-- `pair (k int PRIMARY KEY, v int)`. -/
def pairTable : TableDef where
  keyspace := "app"
  name := "pair"
  columns := [⟨"k", .int, true, false⟩, ⟨"v", .int, false, false⟩]
  partitionKeys := ["k"]
  clusteringKeys := []

/-- `INSERT INTO pair (k, v) VALUES (1, 2)`. -/
def pairInsert : Insert where
  tableName := ⟨none, .unquoted "pair"⟩
  columns := [.unquoted "k", .unquoted "v"]
  values := .values [.const "1", .const "2"]

/-- The row of an INSERT, read back by `SELECT v, k ... WHERE k = 1`. -/
theorem fast_point_projection_pair :
    let data := encodeRowColumns [(1, .int 2)]
    let projection := pointProjection pairTable [1, 0] 0 (.int 1)
    projection.projectDecoded [(Value.int 1).rawBytes] data =
        (projection.projectFastPoint [(Value.int 1).rawBytes] data).map some ∧
      projection.projectFastPoint [(Value.int 1).rawBytes] data =
        .ok [.int 2, .int 1] := by
  have halves : HexDecode.Halves fun _ => none := by
    intro text bytes decoded
    cases decoded
  have planned :
      planInsert (fun _ => none) pairTable pairInsert Binds.none =
        .ok ([(Value.int 1).rawBytes], [(1, .int 2)], .none) := by
    decide +kernel
  have fits : pairInsert.FitsFrame Binds.none := by
    refine ⟨?_, by simp [Binds.FitFrame, Binds.none, Binds.new]⟩
    intro operands isValues
    cases isValues
    simp only [List.mem_cons, List.not_mem_nil, or_false, forall_eq_or_imp,
      forall_eq, Operand.FitsFrame, Operand.textLength]
    decide +kernel
  have wellFormed : pairTable.WellFormed := by
    decide +kernel
  have point :=
    fast_point_projection halves wellFormed (by decide) rfl rfl
      (by decide +kernel : pairTable.columnIndex "k" = some 0)
      (by decide +kernel : pairTable.columns[0]? = some ⟨"k", .int, true, false⟩)
      (by trivial : (Value.int 1).WellTyped .int) (by decide)
      (.insert fits planned)
      (by decide : ∀ index ∈ [1, 0], index < pairTable.columns.length)
  exact ⟨point.2.1 trivial, by decide +kernel⟩

end RhydaDB
