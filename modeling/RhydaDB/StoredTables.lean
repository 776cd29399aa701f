import RhydaDB.PointProjection
import RhydaDB.SelectStream

namespace RhydaDB

open ByteStrings AtomicPrograms Storage

/-!
# Rows of a table

A row of a table is a value for each key column and one for each regular
column.  It is stored under the raw bytes of its key values, so both decoders
of a SELECT read these values back and both projections return the selected
ones.
-/

/-- A value of the key column of this name, short enough for its length field. -/
def TableDef.KeyHolds (table : TableDef) (name : String) (value : Value) : Prop :=
  ∃ column ∈ table.columns,
    column.name = name ∧
      value.WellTyped column.colType ∧
      value.rawBytes.length ≤ 65535

/-- The values of one row: a value for each key name and one for each regular index. -/
structure TableRow (table : TableDef) where
  keyValues : List Value
  valueOf : Nat → Value
  keysHeld : List.Forall₂ table.KeyHolds table.keyNames keyValues
  held : table.Holds valueOf

namespace TableRow

variable {table : TableDef}

/-- The key parts of a row. -/
def keyParts (row : TableRow table) : List Bytes :=
  row.keyValues.map Value.rawBytes

/-- The key a row is stored under. -/
def key (row : TableRow table) (keyspace : String) : Bytes :=
  rowKey keyspace table.name row.keyParts

/-- The value a row is stored with. -/
def bytes (row : TableRow table) : Bytes :=
  encodeRowColumns (table.cells row.valueOf)

/-- The value of the column of a name: a part of the key, or a cell. -/
def value (row : TableRow table) (name : String) : Value :=
  ((table.keyNames.zip row.keyValues).lookup name).getD
    ((table.columnIndex name).elim .null row.valueOf)

/-- The values of all columns in table order. -/
def values (row : TableRow table) : List Value :=
  table.columnNames.map row.value

/-- The length fields of a row's key hold its parts' lengths. -/
theorem partsFit (row : TableRow table) : PartsFit row.keyParts := by
  intro part member
  obtain ⟨value, isKey, rfl⟩ := List.mem_map.mp member
  obtain ⟨index, inside, rfl⟩ := List.mem_iff_getElem.mp isKey
  have named : index < table.keyNames.length := by
    rw [row.keysHeld.length_eq]
    exact inside
  obtain ⟨_, _, _, _, fits⟩ := row.keysHeld.get named inside
  exact fits

/-- The key of a row decodes to its parts. -/
theorem decodeKey_key (row : TableRow table) (keyspace : String) :
    decodeKey keyspace table.name (row.key keyspace) = .ok row.keyParts :=
  decodeKey_rowKey keyspace table.name row.partsFit

/-- The value at an index is the value of the column there. -/
theorem getD_values
    (row : TableRow table)
    {index : Nat}
    {column : ColumnDef}
    (here : table.columns[index]? = some column) :
    row.values.getD index .null = row.value column.name := by
  simp [values, TableDef.columnNames, List.getD_eq_getElem?_getD, here]

/-- Rows with the same values in table order have the same value in each column. -/
theorem value_eq_of_values
    {first second : TableRow table}
    (same : first.values = second.values)
    {column : ColumnDef}
    (member : column ∈ table.columns) :
    first.value column.name = second.value column.name := by
  obtain ⟨index, here⟩ := List.mem_iff_getElem?.mp member
  rw [← first.getD_values here, ← second.getD_values here, same]

end TableRow

/-! ## Decoding a row -/

section Decode

variable
  {table : TableDef}
  {names : List String}
  {indexes : List Nat}
  {keyValues : List Value}

/-- Decoding typed key parts assigns their values. -/
theorem overlayKey_held
    (wellFormed : table.WellFormed)
    (found :
      List.Forall₂ (fun name index => table.columnIndex name = some index)
        names indexes)
    (held : List.Forall₂ table.KeyHolds names keyValues)
    (row : List Value) :
    Projection.overlayKey table indexes (keyValues.map Value.rawBytes) row =
      .ok (assignValues row (indexes.zip keyValues)) := by
  induction found generalizing keyValues row with
  | nil =>
      cases held
      rfl
  | @cons name index names indexes first _ inductionHypothesis =>
      cases held with
      | @cons _ value _ others holds rest =>
          obtain ⟨column, member, named, typed, fits⟩ := holds
          obtain ⟨position, inside, same⟩ := List.mem_iff_getElem.mp member
          have here : table.columns[position]? = some column := by
            rw [List.getElem?_eq_getElem inside, same]
          have samePosition := wellFormed.columnIndex_name here
          rw [named, first] at samePosition
          cases samePosition
          have decoded : Value.fromRawBytes value.rawBytes column.colType = .ok value :=
            Value.fromRawBytes_rawBytes typed (by omega)
          rw [List.map_cons, Projection.overlayKey, here]
          exact Fallible.bind_eq_ok.mpr
            ⟨value, decoded, inductionHypothesis rest (row.set index value)⟩

/-- A value stands under an index as it stands under the name of the index. -/
theorem lookup_zip_indexes
    (found :
      List.Forall₂ (fun name index => table.columnIndex name = some index)
        names indexes)
    {name : String}
    {index : Nat}
    (here : table.columnIndex name = some index) :
    (indexes.zip keyValues).lookup index = (names.zip keyValues).lookup name := by
  induction found generalizing keyValues with
  | nil =>
      rfl
  | @cons other otherIndex _ _ first _ inductionHypothesis =>
      cases keyValues with
      | nil =>
          rfl
      | cons value rest =>
          rw [List.zip_cons_cons, List.zip_cons_cons]
          by_cases same : name = other
          · subst same
            rw [here] at first
            cases first
            simp [List.lookup]
          · have otherIndexes : index ≠ otherIndex := by
              intro sameIndex
              subst sameIndex
              exact same (TableDef.columnIndex_inj here first)
            rw [List.lookup_cons, List.lookup_cons, beq_false_of_ne same,
              beq_false_of_ne otherIndexes]
            exact inductionHypothesis

end Decode

namespace TableRow

variable
  {table : TableDef}
  (wellFormed : table.WellFormed)
  (columnsFit : table.columns.length ≤ 2 ^ 16)
  {keyColIdxs : List Nat}
  (keysFound :
    List.Forall₂ (fun name index => table.columnIndex name = some index)
      table.keyNames keyColIdxs)

include wellFormed

/-- A column without a key value is a regular one. -/
theorem regular_of_lookup
    (row : TableRow table)
    {index : Nat}
    {column : ColumnDef}
    (here : table.columns[index]? = some column)
    (missing : (table.keyNames.zip row.keyValues).lookup column.name = none) :
    index ∈ table.regularIndexes := by
  by_contra notRegular
  have isName := (wellFormed.not_regular_iff here).mp notRegular
  obtain ⟨position, insideNames, same⟩ := List.mem_iff_getElem.mp isName
  have insideValues : position < row.keyValues.length := by
    rw [← row.keysHeld.length_eq]
    exact insideNames
  have member :
      (column.name, row.keyValues[position]) ∈
        table.keyNames.zip row.keyValues := by
    rw [← same]
    exact List.mem_iff_getElem.mpr
      ⟨position, by simp [insideNames, insideValues], by simp⟩
  simpa using List.lookup_eq_none_iff.mp missing _ member

/-- A column's value in a row is null or of the column's type. -/
theorem value_typed
    (row : TableRow table)
    {column : ColumnDef}
    (member : column ∈ table.columns) :
    row.value column.name = .null ∨
      (row.value column.name).WellTyped column.colType := by
  obtain ⟨index, here⟩ := List.mem_iff_getElem?.mp member
  have named := wellFormed.columnIndex_name here
  rw [value, named]
  cases isKey : (table.keyNames.zip row.keyValues).lookup column.name with
  | some found =>
      obtain ⟨before, after, split, _⟩ := List.lookup_eq_some_iff.mp isKey
      have paired : (column.name, found) ∈ table.keyNames.zip row.keyValues := by
        rw [split]
        simp
      obtain ⟨other, isColumn, sameName, typed, _⟩ :=
        List.forall₂_iff_zip.mp row.keysHeld |>.2 paired
      cases wellFormed.column_unique isColumn member sameName
      exact .inr typed
  | none =>
      have regular := row.regular_of_lookup wellFormed here isKey
      exact (row.held index column regular here).imp id And.left

include keysFound

/-- Assigning the key values to a decoded row gives the values of all columns. -/
theorem assignValues_regularRow (row : TableRow table) :
    assignValues (table.regularRow row.valueOf) (keyColIdxs.zip row.keyValues) =
      row.values := by
  have distinct : ((keyColIdxs.zip row.keyValues).map Prod.fst).Nodup := by
    have sameLength : keyColIdxs.length = row.keyValues.length :=
      keysFound.length_eq.symm.trans row.keysHeld.length_eq
    rw [List.map_fst_zip sameLength.le, nodup_indexes_iff keysFound]
    exact wellFormed.keysNodup
  have sameLength :
      (assignValues (table.regularRow row.valueOf)
          (keyColIdxs.zip row.keyValues)).length =
        row.values.length := by
    rw [length_assignValues, TableDef.length_regularRow, values, List.length_map,
      TableDef.columnNames, List.length_map]
  refine List.ext_getElem sameLength fun index inside insideValues => ?_
  rw [length_assignValues, TableDef.length_regularRow] at inside
  have here := List.getElem?_eq_getElem inside
  have named := wellFormed.columnIndex_name here
  have sameValue :
      (assignValues (table.regularRow row.valueOf)
          (keyColIdxs.zip row.keyValues)).getD index .null =
        row.values.getD index .null := by
    rw [getD_assignValues (by rwa [TableDef.length_regularRow]),
      ← lookup_eq_lastAssigned distinct, lookup_zip_indexes keysFound named,
      row.getD_values here, value, named]
    cases isKey : (table.keyNames.zip row.keyValues).lookup
        table.columns[index].name with
    | some found =>
        rfl
    | none =>
        have regular := row.regular_of_lookup wellFormed here isKey
        exact TableDef.getD_regularRow regular
  rw [List.getD_eq_getElem _ _ (by
      rwa [length_assignValues, TableDef.length_regularRow]),
    List.getD_eq_getElem _ _ insideValues] at sameValue
  exact sameValue

include columnsFit

/-- A stored row decodes to the values of all columns. -/
theorem decodeRow_bytes
    (row : TableRow table)
    {projection : Projection}
    (ofTable : projection.table = table)
    (keyColumns : projection.keyColIdxs = keyColIdxs) :
    projection.decodeRow row.keyParts row.bytes = .ok row.values := by
  have cells := decodeRowColumns_cells columnsFit row.held
  have overlaid :=
    overlayKey_held wellFormed keysFound row.keysHeld
      (table.regularRow row.valueOf)
  rw [row.assignValues_regularRow wellFormed keysFound] at overlaid
  unfold Projection.decodeRow
  rw [ofTable, keyColumns]
  exact Fallible.bind_eq_ok.mpr ⟨_, cells, overlaid⟩

omit keysFound in
/-- Rows stored in the same way have the same values. -/
theorem values_unique
    {first second : TableRow table}
    (sameParts : first.keyParts = second.keyParts)
    (sameBytes : first.bytes = second.bytes) :
    first.values = second.values := by
  obtain ⟨keyColIdxs, found⟩ :
      ∃ keyColIdxs, table.keyNames.mapM table.columnIndex = some keyColIdxs :=
    Fallible.exists_mapM_eq_some fun name member =>
      TableDef.isSome_columnIndex.mpr (wellFormed.keysNamed name member)
  have keysFound := Fallible.mapM_eq_some.mp found
  have decoded :=
    first.decodeRow_bytes wellFormed columnsFit keysFound
      (rfl : (⟨table, [], [], [], keyColIdxs⟩ : Projection).table = table) rfl
  rw [sameParts, sameBytes,
    second.decodeRow_bytes wellFormed columnsFit keysFound rfl rfl] at decoded
  exact (Except.ok.inj decoded).symm

end TableRow

/-! ## Projecting a row -/

namespace Projection

/-- The lookups of a projection were made in its own table. -/
structure Resolves (projection : Projection) : Prop where
  keysFound :
    List.Forall₂
      (fun name index => projection.table.columnIndex name = some index)
      projection.table.keyNames projection.keyColIdxs
  selectedInside :
    ∀ index ∈ projection.selectedIdxs, index < projection.table.columns.length

/-- A projection that was built resolves. -/
theorem resolves_of_build
    {table : TableDef}
    {selected : List (String × ColumnType)}
    {filters : List Filter}
    {projection : Projection}
    (built : build table selected filters = some projection) :
    projection.table = table ∧ projection.Resolves := by
  obtain ⟨selectedIdxs, _, _, keyColIdxs, foundSelected, _, _, foundKeys, rfl⟩ :=
    build_eq_some_iff.mp built
  refine ⟨rfl, Fallible.mapM_eq_some.mp foundKeys, ?_⟩
  intro index member
  have found := Fallible.mapM_eq_some.mp foundSelected
  obtain ⟨position, inside, rfl⟩ := List.mem_iff_getElem.mp member
  have listed : position < selected.length := by
    rw [found.length_eq]
    exact inside
  exact TableDef.lt_of_columnIndex (found.get listed inside)

end Projection

section Project

variable
  {projection : Projection}
  (wellFormed : projection.table.WellFormed)
  (columnsFit : projection.table.columns.length ≤ 2 ^ 16)
  (resolves : projection.Resolves)

include wellFormed columnsFit resolves

/-- The generic projection returns the selected values of a row that passes. -/
theorem projectDecoded_row (row : TableRow projection.table) :
    projection.projectDecoded row.keyParts row.bytes =
      .ok (if projection.accepts row.values then
        some (projection.project row.values)
      else
        none) := by
  have decoded :=
    row.decodeRow_bytes wellFormed columnsFit resolves.keysFound rfl rfl
  exact Fallible.bind_eq_ok.mpr ⟨_, decoded, rfl⟩

/-- An entry that stores a row gives the selected values if the row passes. -/
theorem entryRow_row (keyspace : String) (row : TableRow projection.table) :
    entryRow projection keyspace (row.key keyspace) row.bytes =
      .ok (if projection.accepts row.values then
        some (projection.project row.values)
      else
        none) := by
  rw [entryRow, row.decodeKey_key]
  exact projectDecoded_row wellFormed columnsFit resolves row

/-- The point projection returns the selected values of every row. -/
theorem projectFastPoint_row
    (isFast : projection.fast = true)
    (row : TableRow projection.table) :
    projection.projectFastPoint row.keyParts row.bytes =
      .ok (projection.project row.values) := by
  obtain ⟨keyName, keyNames⟩ :
      ∃ keyName, projection.table.keyNames = [keyName] := by
    simp only [Projection.fast, Bool.and_eq_true, beq_iff_eq,
      List.isEmpty_iff] at isFast
    obtain ⟨keyName, partition⟩ := List.length_eq_one_iff.mp isFast.1.2
    refine ⟨keyName, ?_⟩
    rw [TableDef.keyNames, partition, isFast.1.1.2]
    rfl
  have keysFound := resolves.keysFound
  have keysHeld := row.keysHeld
  rw [keyNames] at keysFound keysHeld
  obtain ⟨keyIndex, _, found, noMore, keyColIdxs⟩ :=
    List.forall₂_cons_left_iff.mp keysFound
  cases List.forall₂_nil_left_iff.mp noMore
  obtain ⟨keyValue, _, held, noOther, keyValues⟩ :=
    List.forall₂_cons_left_iff.mp keysHeld
  cases List.forall₂_nil_left_iff.mp noOther
  obtain ⟨column, member, named, typed, fits⟩ := held
  obtain ⟨position, inside, same⟩ := List.mem_iff_getElem.mp member
  have here : projection.table.columns[position]? = some column := by
    rw [List.getElem?_eq_getElem inside, same]
  have samePosition := wellFormed.columnIndex_name here
  rw [named, found] at samePosition
  cases samePosition
  have point :=
    projectFastPoint_point columnsFit here typed (by omega) row.held wellFormed
      keyNames found resolves.selectedInside
  have assigned :=
    row.assignValues_regularRow wellFormed resolves.keysFound
  rw [keyColIdxs, keyValues] at assigned
  have sameProjection :
      projection.projectFastPoint row.keyParts row.bytes =
        (pointProjection projection.table projection.selectedIdxs keyIndex
          keyValue).projectFastPoint [keyValue.rawBytes] row.bytes := by
    rw [TableRow.keyParts, keyValues]
    unfold Projection.projectFastPoint Projection.fastValue pointProjection
    rw [keyColIdxs]
    rfl
  rw [sameProjection]
  refine point.trans ?_
  rw [← assigned]
  rfl

/-- A point lookup returns the selected values of a row that passes its check. -/
theorem projectPoint_row (row : TableRow projection.table) :
    projection.projectPoint row.keyParts row.bytes =
      .ok (if projection.fast || projection.accepts row.values then
        some (projection.project row.values)
      else
        none) := by
  unfold Projection.projectPoint
  cases isFast : projection.fast with
  | true =>
      rw [projectFastPoint_row wellFormed columnsFit resolves isFast]
      rfl
  | false =>
      rw [projectDecoded_row wellFormed columnsFit resolves]
      rfl

end Project

/-! ## Stores of rows -/

section Stores

variable {shards : Nat}

/-- The store binds a row's key to its value, in an engine or in the row cache. -/
def Storage.Stores
    (store : Storage shards)
    (keyspace : String)
    {table : TableDef}
    (row : TableRow table) :
    Prop :=
  (∃ engine, (store.engines engine).db[row.key keyspace]? = some row.bytes) ∨
    (store.rowCache.bind fun cache => cache[row.key keyspace]?) = some row.bytes

/-- Whatever the store holds under the prefix of a table are rows of the table. -/
structure Storage.HoldsRows
    (store : Storage shards)
    (keyspace : String)
    (table : TableDef) :
    Prop where
  stored :
    ∀ engine key bytes,
      dataPrefix keyspace table.name <+: key →
      (store.engines engine).db[key]? = some bytes →
      ∃ row : TableRow table, row.key keyspace = key ∧ row.bytes = bytes
  cached :
    ∀ key bytes,
      dataPrefix keyspace table.name <+: key →
      (store.rowCache.bind fun cache => cache[key]?) = some bytes →
      ∃ row : TableRow table, row.key keyspace = key ∧ row.bytes = bytes

/-- A row that a lookup returns lies in the row cache or in its engine. -/
theorem getRow_found
    [NeZero shards]
    {store final : Storage shards}
    {keyspace table : String}
    {keyParts : List Bytes}
    {bytes : Bytes}
    (looked :
      (getRow keyspace table keyParts).run answer store =
        (.ok (some bytes), final)) :
    (store.rowCache.bind fun cache => cache[rowKey keyspace table keyParts]?) =
        some bytes ∨
      (store.engines (dataEngine keyspace table (firstPart keyParts))).db[
          rowKey keyspace table keyParts]? =
        some bytes := by
  by_cases missed :
      shouldCache keyspace = true →
        (store.rowCache.bind fun cache =>
          cache[rowKey keyspace table keyParts]?) = none
  · rw [getRow_run_miss missed] at looked
    exact .inr (Except.ok.inj (congrArg Prod.fst looked))
  · push Not at missed
    obtain ⟨caches, present⟩ := missed
    obtain ⟨value, hit⟩ := Option.ne_none_iff_exists'.mp present
    rw [getRow_run_hit ⟨caches, hit⟩] at looked
    cases looked
    exact .inl hit

/-- The row under a key is read as it is stored. -/
theorem Storage.HoldsRows.exists_row_of_getRow
    [NeZero shards]
    {store final : Storage shards}
    {keyspace : String}
    {table : TableDef}
    (holds : store.HoldsRows keyspace table)
    {keyParts : List Bytes}
    (fits : PartsFit keyParts)
    {bytes : Bytes}
    (looked :
      (getRow keyspace table.name keyParts).run answer store =
        (.ok (some bytes), final)) :
    ∃ row : TableRow table,
      store.Stores keyspace row ∧ row.keyParts = keyParts ∧ row.bytes = bytes := by
  have under : dataPrefix keyspace table.name <+: rowKey keyspace table.name keyParts :=
    List.prefix_append _ _
  have sameParts :
      ∀ row : TableRow table,
        row.key keyspace = rowKey keyspace table.name keyParts →
        row.keyParts = keyParts :=
    fun row sameKey =>
      encodeKey_injective row.partsFit fits (List.append_cancel_left sameKey)
  rcases getRow_found looked with here | here
  · obtain ⟨row, sameKey, sameBytes⟩ := holds.cached _ _ under here
    refine ⟨row, .inr ?_, sameParts row sameKey, sameBytes⟩
    rw [sameKey, sameBytes]
    exact here
  · obtain ⟨row, sameKey, sameBytes⟩ := holds.stored _ _ _ under here
    refine ⟨row, .inl ⟨dataEngine keyspace table.name (firstPart keyParts), ?_⟩,
      sameParts row sameKey, sameBytes⟩
    rw [sameKey, sameBytes]
    exact here

/-- An output row with the key it was read from: the selected values of a stored row. -/
def ReadFrom
    (store : Storage shards)
    (projection : Projection)
    (keyspace : String)
    (output : List Value)
    (source : Bytes) :
    Prop :=
  ∃ row : TableRow projection.table,
    store.Stores keyspace row ∧
      row.key keyspace = source ∧
      output = projection.project row.values

/-- A scan that met no fault and gathered selected values of stored rows. -/
structure ScanState.Gathers
    (store : Storage shards)
    (projection : Projection)
    (keyspace : String)
    (state : ScanState) :
    Prop where
  noError :
    state.errorSlot = none
  readFrom :
    List.Forall₂ (ReadFrom store projection keyspace) state.rows state.sources

variable
  {store : Storage shards}
  {projection : Projection}
  (wellFormed : projection.table.WellFormed)
  (columnsFit : projection.table.columns.length ≤ 2 ^ 16)
  (resolves : projection.Resolves)
  {keyspace : String}
  (holds : store.HoldsRows keyspace projection.table)

include wellFormed columnsFit resolves

/-- Visiting an entry that stores a row keeps the scan sound, paged or not. -/
theorem ScanState.Gathers.visit
    {state : ScanState}
    (gathers : state.Gathers store projection keyspace)
    {row : TableRow projection.table}
    (stores : store.Stores keyspace row)
    (pagingState : Option Bytes)
    (limit : Nat) :
    ((state.visit projection keyspace pagingState limit (row.key keyspace)
      row.bytes).1).Gathers store projection keyspace := by
  have entry := entryRow_row wellFormed columnsFit resolves keyspace row
  have extended :
      List.Forall₂ (ReadFrom store projection keyspace)
        (state.rows ++ [projection.project row.values])
        (state.sources ++ [row.key keyspace]) :=
    List.rel_append gathers.readFrom
      (.cons ⟨row, stores, rfl, rfl⟩ .nil)
  rw [ScanState.visit, handleEntry, ← entryRow, entry]
  split
  · exact gathers
  · split
    · exact ⟨gathers.noError, gathers.readFrom⟩
    · cases projection.accepts row.values with
      | false =>
          simp only [Bool.false_eq_true, if_false, if_true]
          split
          · exact ⟨gathers.noError, gathers.readFrom⟩
          · exact gathers
      | true =>
          simp only [if_true]
          split
          · split
            · exact ⟨gathers.noError, extended⟩
            · exact ⟨gathers.noError, extended⟩
          · exact ⟨gathers.noError, extended⟩

/-- Visiting entries that store rows keeps the scan sound. -/
theorem ScanState.Gathers.visitAll
    {state : ScanState}
    (gathers : state.Gathers store projection keyspace)
    {entries : List (Bytes × Bytes)}
    (storesEach :
      ∀ entry ∈ entries,
        ∃ row : TableRow projection.table,
          store.Stores keyspace row ∧
            row.key keyspace = entry.1 ∧ row.bytes = entry.2)
    (pagingState : Option Bytes)
    (limit : Nat) :
    ((visitEntries (ScanState.visit projection keyspace pagingState limit) state
      entries).1).Gathers store projection keyspace := by
  induction entries generalizing state with
  | nil =>
      exact gathers
  | cons entry rest inductionHypothesis =>
      obtain ⟨row, stores, sameKey, sameBytes⟩ := storesEach entry (by simp)
      have next :=
        gathers.visit wellFormed columnsFit resolves stores pagingState limit
      rw [sameKey, sameBytes] at next
      rw [visitEntries]
      split
      · exact inductionHypothesis next fun other member =>
          storesEach other (by simp [member])
      · exact next

variable [NeZero shards]

include holds

/-- A scan of any plan is sound, paged or not. -/
theorem scanRowsMatching_gathers
    (filters : List Filter)
    (pagingState : Option Bytes)
    (limit : Nat) :
    ∃ state : ScanState,
      (scanRowsMatching projection keyspace filters pagingState limit).run answer
          store =
          (.ok state, store) ∧
        state.Gathers store projection keyspace := by
  have started : ScanState.start.Gathers store projection keyspace :=
    ⟨rfl, .nil⟩
  have onEngine :
      ∀ engine leading,
        dataPrefix keyspace projection.table.name <+: leading →
        ∀ entry ∈ (store.engines engine).db.scanStem leading,
          ∃ row : TableRow projection.table,
            store.Stores keyspace row ∧
              row.key keyspace = entry.1 ∧ row.bytes = entry.2 := by
    intro engine leading below entry member
    obtain ⟨under, here⟩ := ByteMap.mem_scanStem.mp member
    obtain ⟨row, sameKey, sameBytes⟩ :=
      holds.stored engine _ _ (below.trans under) here
    refine ⟨row, .inl ⟨engine, ?_⟩, sameKey, sameBytes⟩
    rw [sameKey, sameBytes]
    exact here
  unfold scanRowsMatching
  dsimp only
  split
  · generalize listedPartitions filters projection.table.partitionKeys =
      partitions
    generalize ScanState.start = state at started ⊢
    induction partitions generalizing state with
    | nil =>
        exact ⟨state, rfl, started⟩
    | cons partition rest inductionHypothesis =>
        have again : { state with done := false }.Gathers store projection keyspace :=
          ⟨started.noError, started.readFrom⟩
        have next :=
          again.visitAll wellFormed columnsFit resolves
            (onEngine
              (dataEngine keyspace projection.table.name (firstPart partition))
              (dataPrefix keyspace projection.table.name ++ encodeKey partition)
              (List.prefix_append _ _))
            pagingState limit
        rw [scanPartitions, Program.run_bind_of_ok answer
          (forEachInPartition_run store keyspace projection.table.name partition
            _ _)]
        split
        · exact ⟨_, rfl, next⟩
        · exact inductionHypothesis _ next
  · refine ⟨_, forEachInTable_run _ _ _ _ _, ?_⟩
    refine started.visitAll wellFormed columnsFit resolves ?_ pagingState limit
    intro entry member
    obtain ⟨engine, _, here⟩ := List.mem_flatMap.mp member
    exact onEngine engine _ List.prefix_rfl entry here

/-- A SELECT on rows succeeds and returns selected values of stored rows. -/
theorem selectRows_readFrom
    {filters : List Filter}
    (keyFits :
      ∀ keyParts,
        pointKey projection.table filters = some keyParts → PartsFit keyParts)
    (pageSize limit : Option Int32)
    (pagingState : Option Bytes) :
    ∃ rows sources next final,
      (selectRows projection keyspace filters pageSize limit pagingState).run
          answer store =
          (.ok (rows, sources, next), final) ∧
        List.Forall₂ (ReadFrom store projection keyspace) rows sources := by
  cases plan : pointKey projection.table filters with
  | none =>
      obtain ⟨state, ran, gathers⟩ :=
        scanRowsMatching_gathers wellFormed columnsFit resolves holds filters
          pagingState (pageLimit pageSize limit)
      refine ⟨state.rows, state.sources, nextPagingState pageSize limit state,
        store, ?_, gathers.readFrom⟩
      simp only [selectRows, plan, selectScan]
      rw [Program.run_bind_of_ok answer ran]
      simp [gathers.noError]
  | some keyParts =>
      obtain ⟨existing, final, looked⟩ :=
        exists_getRow_run store keyspace projection.table.name keyParts
      simp only [selectRows, plan, selectPoint]
      rw [Program.run_bind, Program.run_bind_of_ok answer looked]
      cases existing with
      | none =>
          exact ⟨[], [], none, final, rfl, .nil⟩
      | some bytes =>
          obtain ⟨row, stores, rfl, rfl⟩ :=
            holds.exists_row_of_getRow (keyFits keyParts plan) looked
          have projected :=
            projectPoint_row wellFormed columnsFit resolves row
          simp only [projected, Program.run_bind, Program.run_ofExcept]
          cases projection.fast || projection.accepts row.values with
          | false =>
              exact ⟨[], [], none, final, rfl, .nil⟩
          | true =>
              exact ⟨_, _, none, final, rfl,
                .cons ⟨row, stores, rfl, rfl⟩ .nil⟩

end Stores

end RhydaDB
