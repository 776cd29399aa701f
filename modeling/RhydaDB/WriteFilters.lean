import RhydaDB.SelectDistinct
import RhydaDB.StoredTables
import RhydaDB.UpdateMerge

namespace RhydaDB

open ByteStrings AtomicPrograms Storage

/-!
# WHERE of a DELETE and of an UPDATE

Both statements take the key of their row from the first `=` of each key
column and never look at the other filters, while a SELECT checks all of them
on the row it has read.  So a DELETE removes what the SELECT returns exactly
when the row under the key passes every filter or does not exist.
-/

/-! ## Filters -/

/-- The row has the wanted value in the column of the filter, or a listed one. -/
def Filter.Passes {table : TableDef} (row : TableRow table) : Filter → Prop
  | .eq name value =>
      value.partialEq (row.value name) = true
  | .isIn name values =>
      ∃ value ∈ values, value.partialEq (row.value name) = true

/-- The first `=` of a key column has a value with these raw bytes. -/
def FixesPart (filters : List Filter) (name : String) (part : Bytes) : Prop :=
  ∃ value,
    eqValue filters name = some value ∧
      value.partialEq .null = false ∧ value.rawBytes = part

/-- A lookup's key consists of the first `=` of each key column. -/
theorem pointKey_eq_some
    {table : TableDef}
    {filters : List Filter}
    {keyParts : List Bytes} :
    pointKey table filters = some keyParts ↔
      List.Forall₂ (FixesPart filters) table.keyNames keyParts := by
  unfold pointKey
  rw [Fallible.mapM_eq_some]
  refine Fallible.forall₂_congr fun name part => ?_
  unfold FixesPart
  cases eqValue filters name with
  | none =>
      simp
  | some value =>
      cases isNull : value.partialEq .null <;> simp [isNull]

/-- So does the key of a DELETE or an UPDATE. -/
theorem keyPartsFromFilters_eq_ok
    {table : TableDef}
    {filters : List Filter}
    {keyParts : List Bytes} :
    keyPartsFromFilters table filters = .ok keyParts ↔
      pointKey table filters = some keyParts := by
  unfold keyPartsFromFilters
  rw [pointKey_eq_some, Fallible.mapM_eq_ok]
  refine Fallible.forall₂_congr fun name part => ?_
  unfold FixesPart keyPartFromFilters
  cases eqValue filters name with
  | none =>
      simp
  | some value =>
      cases isNull : value.partialEq .null <;> simp [isNull]

/-- Without IN filters each filter is an `=` that is looked up. -/
theorem eqFilters_of_noIn
    {table : TableDef}
    {filters : List Filter}
    {eqFilters : List (Option (Nat × Value))}
    {inFilters : List (Option (Nat × List Value))}
    (eqPairs :
      List.Forall₂
        (fun filter entry => Projection.eqFilter? table filter = some entry)
        filters eqFilters)
    (inPairs :
      List.Forall₂
        (fun filter entry => Projection.inFilter? table filter = some entry)
        filters inFilters)
    (noIn : inFilters.filterMap id = []) :
    List.Forall₂
      (fun filter entry =>
        ∃ name value index,
          filter = Filter.eq name value ∧
            table.columnIndex name = some index ∧ entry = (index, value))
      filters (eqFilters.filterMap id) := by
  induction eqPairs generalizing inFilters with
  | nil =>
      exact .nil
  | @cons filter _ _ _ firstEq _ inductionHypothesis =>
      cases inPairs with
      | cons firstIn restIn =>
          cases filter with
          | eq name value =>
              cases firstIn
              obtain ⟨index, found, rfl⟩ := Option.map_eq_some_iff.mp firstEq
              exact .cons ⟨name, value, index, rfl, found, rfl⟩
                (inductionHypothesis restIn noIn)
          | isIn name values =>
              obtain ⟨index, found, rfl⟩ := Option.map_eq_some_iff.mp firstIn
              cases noIn

section Filters

variable
  {table : TableDef}
  {selected : List (String × ColumnType)}
  {filters : List Filter}
  {projection : Projection}
  (built : Projection.build table selected filters = some projection)

include built

/-- A projection checks the filters it was built from. -/
theorem accepts_values_iff (row : TableRow table) :
    projection.accepts row.values = true ↔
      ∀ filter ∈ filters, filter.Passes row := by
  obtain ⟨_, eqFilters, inFilters, _, _, foundEq, foundIn, _, rfl⟩ :=
    Projection.build_eq_some_iff.mp built
  have eqPairs := Fallible.mapM_eq_some.mp foundEq
  have inPairs := Fallible.mapM_eq_some.mp foundIn
  clear foundEq foundIn built
  simp only [Projection.accepts, Bool.and_eq_true]
  induction filters generalizing eqFilters inFilters with
  | nil =>
      cases eqPairs
      cases inPairs
      simp
  | cons filter rest inductionHypothesis =>
      cases eqPairs with
      | cons firstEq restEq =>
          cases inPairs with
          | cons firstIn restIn =>
              have later := inductionHypothesis _ _ restEq restIn
              rw [List.forall_mem_cons]
              refine Iff.trans ?_ (and_congr_right fun _ => later)
              cases filter with
              | eq name value =>
                  cases firstIn
                  obtain ⟨index, found, rfl⟩ := Option.map_eq_some_iff.mp firstEq
                  obtain ⟨column, here, named⟩ :=
                    TableDef.getElem?_of_columnIndex found
                  simp only [List.filterMap_cons, id_eq, List.all_cons,
                    row.getD_values here, named, Bool.and_eq_true, and_assoc,
                    Filter.Passes]
              | isIn name values =>
                  cases firstEq
                  obtain ⟨index, found, rfl⟩ := Option.map_eq_some_iff.mp firstIn
                  obtain ⟨column, here, named⟩ :=
                    TableDef.getElem?_of_columnIndex found
                  simp only [List.filterMap_cons, id_eq, List.all_cons,
                    row.getD_values here, named, Bool.and_eq_true,
                    Filter.Passes, List.any_eq_true]
                  exact and_left_comm

/-- A lookup that skips the filters has one, an `=` on the only key column. -/
theorem fast_filters
    (isFast : projection.fast = true) :
    ∃ name value,
      filters = [.eq name value] ∧ table.keyNames = [name] := by
  obtain ⟨selectedIdxs, eqFilters, inFilters, keyColIdxs, _, foundEq, foundIn,
    foundKeys, rfl⟩ := Projection.build_eq_some_iff.mp built
  have keyPairs := Fallible.mapM_eq_some.mp foundKeys
  simp only [Projection.fast, Bool.and_eq_true, beq_iff_eq, List.isEmpty_iff,
    List.all_eq_true] at isFast
  obtain ⟨⟨⟨⟨noIn, count⟩, noClustering⟩, onePartition⟩, onKeys⟩ := isFast
  have entries :=
    eqFilters_of_noIn (Fallible.mapM_eq_some.mp foundEq)
      (Fallible.mapM_eq_some.mp foundIn) noIn
  obtain ⟨keyName, isPartition⟩ := List.length_eq_one_iff.mp onePartition
  have keyNames : table.keyNames = [keyName] := by
    rw [TableDef.keyNames, isPartition, noClustering]
    rfl
  rw [keyNames] at keyPairs
  obtain ⟨keyIndex, _, keyFound, noMore, rfl⟩ :=
    List.forall₂_cons_left_iff.mp keyPairs
  cases List.forall₂_nil_left_iff.mp noMore
  obtain ⟨entry, isEntry⟩ := List.length_eq_one_iff.mp count
  rw [isEntry] at entries onKeys
  obtain ⟨filter, _, found, noOther, rfl⟩ :=
    List.forall₂_cons_right_iff.mp entries
  cases List.forall₂_nil_right_iff.mp noOther
  obtain ⟨name, value, index, rfl, foundIndex, rfl⟩ := found
  have onKey := onKeys (index, value) List.mem_cons_self
  simp only [List.contains_eq_mem, List.mem_singleton, decide_eq_true_eq] at onKey
  subst onKey
  refine ⟨name, value, rfl, ?_⟩
  rw [keyNames, TableDef.columnIndex_inj foundIndex keyFound]

/-- On keys without floats the skipped filter is the key itself. -/
theorem accepts_of_fast
    (wellFormed : table.WellFormed)
    (floatFree :
      ∀ column ∈ table.columns,
        column.name ∈ table.keyNames → column.colType.FloatFree)
    (fitTable : ∀ filter ∈ filters, filter.FitsTable table)
    (isFast : projection.fast = true)
    {row : TableRow table}
    (isPoint : pointKey table filters = some row.keyParts) :
    projection.accepts row.values = true := by
  obtain ⟨name, value, rfl, keyNames⟩ := fast_filters built isFast
  rw [accepts_values_iff built row, List.forall_mem_singleton]
  have fixes := pointKey_eq_some.mp isPoint
  have held := row.keysHeld
  rw [keyNames] at fixes held
  obtain ⟨keyValue, _, holds, noOther, keyValues⟩ :=
    List.forall₂_cons_left_iff.mp held
  cases List.forall₂_nil_left_iff.mp noOther
  rw [TableRow.keyParts, keyValues] at fixes
  obtain ⟨found, isValue, notNull, sameBytes⟩ := (List.forall₂_cons.mp fixes).1
  have isFound : found = value := by
    simpa [eqValue, eq_comm] using isValue
  subst isFound
  obtain ⟨column, member, named, typed, fits⟩ := holds
  obtain ⟨other, isOther, otherNamed, storable⟩ := fitTable _ List.mem_cons_self
  have sameName : other.name = column.name := by
    rw [named, ← otherNamed]
    rfl
  cases wellFormed.column_unique isOther member sameName
  have filterTyped : found.WellTyped column.colType := by
    rcases storable found List.mem_cons_self with rfl | ⟨filterTyped, _⟩
    · cases notNull
    · exact filterTyped
  have sameValue : found = keyValue := by
    have decoded := Value.fromRawBytes_rawBytes typed (by omega)
    rw [← sameBytes,
      Value.fromRawBytes_rawBytes filterTyped (by rw [sameBytes]; omega)] at decoded
    exact Except.ok.inj decoded
  subst sameValue
  have rowValue : row.value name = found := by
    simp [TableRow.value, keyNames, keyValues]
  rw [Filter.Passes, rowValue]
  refine typed.partialEq_self (floatFree column member ?_)
  rw [named, keyNames]
  exact List.mem_cons_self

end Filters

/-! ## What the statements do to the rows -/

/-- Whatever a row map holds for a table are rows of the table. -/
def RowMap.HoldsTable (rows : RowMap) (keyspace : String) (table : TableDef) : Prop :=
  ∀ (address : RowAddress) (bytes : Bytes),
    address.keyspace = keyspace →
    address.table = table.name →
    rows address = some bytes →
    ∃ row : TableRow table, row.keyParts = address.keyParts ∧ row.bytes = bytes

/-- Every row of the table under this key passes the filters. -/
def KeyPasses
    (rows : RowMap)
    (table : TableDef)
    (filters : List Filter)
    (address : RowAddress) :
    Prop :=
  ∀ row : TableRow table,
    row.keyParts = address.keyParts →
    rows address = some row.bytes →
    ∀ filter ∈ filters, filter.Passes row

/-- The SELECT of all columns with the WHERE clause of a DELETE. -/
def Delete.asSelect (del : Delete) : Select where
  tableName := del.tableName
  columns := [.star]
  whereClause := del.whereClause
  limit := none

section Statements

variable
  {shards : Nat} [NeZero shards]
  {json : CatalogJson}
  {hexDecode : HexDecode}
  {store middle : Storage shards}
  {sessionKs : Option String}
  {keyspace : String}
  {table : TableDef}
  {rows : RowMap}
  {address : RowAddress}
  {binds rest : Binds}
  {filters : List Filter}

/-- A store determines the rows it will hold. -/
theorem Refines.unique
    {first second : RowMap}
    (refinesFirst : Refines store first)
    (refinesSecond : Refines store second) :
    first = second := by
  funext address
  have row := refinesFirst.stores.row address.engine address
  rw [refinesSecond.stores.row, if_pos rfl, if_pos rfl] at row
  exact row.symm

/-- A DELETE that passes its checks removes the row under its key. -/
theorem execDelete_run
    {del : Delete}
    (resolved :
      (resolveTable json sessionKs del.tableName).run answer store =
        (.ok (keyspace, table), middle))
    (writable : checkWritable keyspace = .ok ())
    (planned :
      planDelete hexDecode table del binds = .ok (address.keyParts, rest))
    (ofKeyspace : address.keyspace = keyspace)
    (ofTable : address.table = table.name)
    (represents : Represents middle rows) :
    ∃ executed final,
      (execDelete json hexDecode sessionKs del binds).run answer store =
          (.ok executed, final) ∧
        Refines final (Function.update rows address none) := by
  have deleted := deleteRow_run represents.isOpen address
  have refines :=
    represents.toRefines.queueRow (setsRow_delete address)
      fun entries key => setsRow_delete address entries key
  have removes :
      (internally (deleteRow keyspace table.name address.keyParts)).run answer
          middle =
        (.ok ⟨address.engine, (middle.engines address.engine).nextTicket⟩,
          (middle.changeCache address.keyspace fun cache =>
              cache.erase address.key).setEngine address.engine
            ((middle.engines address.engine).accept (.delete address.key))) := by
    rw [← ofKeyspace, ← ofTable]
    exact (Program.run_mapFailure_eq_ok answer).mpr deleted
  refine ⟨⟨.void, [⟨address.engine, (middle.engines address.engine).nextTicket⟩],
    rest⟩, _, ?_, refines⟩
  rw [execDelete, Program.run_bind_of_ok answer resolved]
  simp only [writable, planned, Program.ofExcept]
  exact Program.run_bind_of_ok answer removes

/-- The keys that the SELECT of a point lookup returns. -/
theorem execSelect_asSelect
    (wellFormed : table.WellFormed)
    (columnsFit : table.columns.length ≤ 2 ^ 16)
    {del : Delete}
    (resolved :
      (resolveTable json sessionKs del.tableName).run answer store =
        (.ok (keyspace, table), middle))
    (parsed :
      parseFilters hexDecode table del.whereClause binds = .ok (filters, rest))
    (isPoint : pointKey table filters = some address.keyParts)
    (ofKeyspace : address.keyspace = keyspace)
    (ofTable : address.table = table.name)
    (represents : Represents middle rows)
    (holds : rows.HoldsTable keyspace table) :
    ∃ projection executed final,
      Projection.build table
            (table.columns.map fun column => (column.name, column.colType))
            filters =
          some projection ∧
        (execSelect json hexDecode sessionKs del.asSelect binds none none).run
            answer store =
          (.ok executed, final) ∧
        (rows address = none → executed.response.sources = []) ∧
        ∀ row : TableRow table,
          row.keyParts = address.keyParts →
          rows address = some row.bytes →
          executed.response.sources =
            if projection.fast || projection.accepts row.values then
              [address.key]
            else
              [] := by
  have selectedNamed :
      ∀ entry ∈ table.columns.map fun column => (column.name, column.colType),
        entry.1 ∈ table.columnNames := by
    intro entry member
    obtain ⟨column, isColumn, rfl⟩ := List.mem_map.mp member
    exact List.mem_map_of_mem isColumn
  obtain ⟨projection, built⟩ :=
    Projection.exists_build wellFormed.keysNamed (parseFilters_named parsed)
      selectedNamed
  obtain ⟨isTable, resolves⟩ := Projection.resolves_of_build built
  subst isTable
  have planned :
      PlannedSelect json hexDecode store sessionKs del.asSelect binds middle
        keyspace _ filters rest projection :=
    ⟨resolved, rfl, parsed, built⟩
  obtain ⟨final, ran⟩ := planned.execSelect_run
  obtain ⟨next, looked, _⟩ := represents.getRow address
  rw [ofKeyspace, ofTable] at looked
  simp only [planRows, streamPlan, isPoint, looked, Option.isSome_some, if_true,
    Except.toOption, Option.join_some] at ran
  cases found : rows address with
  | none =>
      rw [found] at ran
      exact ⟨projection, _, final, built, ran, fun _ => rfl,
        fun row _ isSome => by cases isSome⟩
  | some bytes =>
      obtain ⟨row, sameParts, rfl⟩ := holds address bytes ofKeyspace ofTable found
      have projected := projectPoint_row wellFormed columnsFit resolves row
      rw [found, pointRows, ← sameParts, projected] at ran
      have sameKey :
          rowKey keyspace projection.table.name row.keyParts = address.key := by
        rw [RowAddress.key, sameParts, ofKeyspace, ofTable]
      have sameValues :
          ∀ other : TableRow projection.table,
            other.keyParts = address.keyParts →
            some row.bytes = some other.bytes →
            other.values = row.values :=
        fun other otherParts sameBytes =>
          TableRow.values_unique wellFormed columnsFit
            (otherParts.trans sameParts.symm) (Option.some.inj sameBytes).symm
      cases returned : projection.fast || projection.accepts row.values with
      | false =>
          simp only [returned, Bool.false_eq_true, if_false] at ran
          refine ⟨projection, _, final, built, ran, (fun isNone => by cases isNone),
            fun other otherParts sameBytes => ?_⟩
          rw [sameValues other otherParts sameBytes, returned]
          rfl
      | true =>
          simp only [returned, if_true, sameKey] at ran
          refine ⟨projection, _, final, built, ran, (fun isNone => by cases isNone),
            fun other otherParts sameBytes => ?_⟩
          rw [sameValues other otherParts sameBytes, returned]
          rfl

/--
The DELETE and the SELECT with its WHERE clause succeed, and the DELETE removes
the rows that the SELECT returns and no other row.
-/
def RemovesSelected
    (json : CatalogJson)
    (hexDecode : HexDecode)
    (store : Storage shards)
    (sessionKs : Option String)
    (del : Delete)
    (binds : Binds)
    (rows : RowMap) :
    Prop :=
  ∃ deleted final selected after,
    (execDelete json hexDecode sessionKs del binds).run answer store =
        (.ok deleted, final) ∧
      (execSelect json hexDecode sessionKs del.asSelect binds none none).run
          answer store =
        (.ok selected, after) ∧
      Refines final fun other =>
        if other.key ∈ selected.response.sources then none else rows other

/-- A DELETE is planned: it may write, its filters parse and fix this key. -/
structure PlannedDelete
    (json : CatalogJson)
    (hexDecode : HexDecode)
    (store : Storage shards)
    (sessionKs : Option String)
    (del : Delete)
    (binds : Binds)
    (middle : Storage shards)
    (keyspace : String)
    (table : TableDef)
    (filters : List Filter)
    (address : RowAddress) :
    Prop where
  resolved :
    (resolveTable json sessionKs del.tableName).run answer store =
      (.ok (keyspace, table), middle)
  writable :
    checkWritable keyspace = .ok ()
  wholeRow :
    del.columns = []
  fits :
    ∀ relation ∈ del.whereClause, relation.FitsFrame
  bindsFit :
    binds.FitFrame
  parsed :
    ∃ rest,
      parseFilters hexDecode table del.whereClause binds = .ok (filters, rest)
  fixed :
    keyPartsFromFilters table filters = .ok address.keyParts
  ofKeyspace :
    address.keyspace = keyspace
  ofTable :
    address.table = table.name

/-- A DELETE removes what is selected when every row under its key passes. -/
theorem removesSelected_iff
    (halves : hexDecode.Halves)
    (wellFormed : table.WellFormed)
    (columnsFit : table.columns.length ≤ 2 ^ 16)
    (floatFree :
      ∀ column ∈ table.columns,
        column.name ∈ table.keyNames → column.colType.FloatFree)
    {del : Delete}
    (deletes :
      PlannedDelete json hexDecode store sessionKs del binds middle keyspace table
        filters address)
    (represents : Represents middle rows)
    (holds : rows.HoldsTable keyspace table) :
    RemovesSelected json hexDecode store sessionKs del binds rows ↔
      KeyPasses rows table filters address := by
  obtain ⟨resolved, writable, wholeRow, fits, bindsFit, ⟨rest, parsed⟩, fixed,
    ofKeyspace, ofTable⟩ := deletes
  have isPoint := keyPartsFromFilters_eq_ok.mp fixed
  have planned :
      planDelete hexDecode table del binds = .ok (address.keyParts, rest) := by
    rw [planDelete, if_neg (by simp [wholeRow])]
    exact Fallible.bind_eq_ok.mpr
      ⟨_, parsed, Fallible.bind_eq_ok.mpr ⟨_, fixed, rfl⟩⟩
  obtain ⟨deleted, final, removed, refines⟩ :=
    execDelete_run resolved writable planned ofKeyspace ofTable represents
  obtain ⟨projection, selected, after, built, returned, ofNone, ofRow⟩ :=
    execSelect_asSelect wellFormed columnsFit resolved parsed isPoint ofKeyspace
      ofTable represents holds
  have sameRows :
      RemovesSelected json hexDecode store sessionKs del binds rows ↔
        Function.update rows address none = fun other =>
          if other.key ∈ selected.response.sources then none else rows other := by
    constructor
    · rintro ⟨_, _, _, _, removedAgain, returnedAgain, refinesAgain⟩
      rw [removed] at removedAgain
      rw [returned] at returnedAgain
      cases removedAgain
      cases returnedAgain
      exact refines.unique refinesAgain
    · intro same
      exact ⟨deleted, final, selected, after, removed, returned, same ▸ refines⟩
  rw [sameRows]
  cases found : rows address with
  | none =>
      have passes : KeyPasses rows table filters address := by
        intro row _ isSome
        rw [found] at isSome
        cases isSome
      refine iff_of_true ?_ passes
      rw [ofNone found, ← found, Function.update_eq_self]
      simp
  | some bytes =>
      obtain ⟨row, sameParts, rfl⟩ := holds address bytes ofKeyspace ofTable found
      have checked :
          (projection.fast || projection.accepts row.values) = true ↔
            KeyPasses rows table filters address := by
        have passes := accepts_values_iff built
        constructor
        · intro returned other otherParts sameBytes
          rw [found] at sameBytes
          have sameValues : other.values = row.values :=
            TableRow.values_unique wellFormed columnsFit
              (otherParts.trans sameParts.symm) (Option.some.inj sameBytes).symm
          rw [← passes other, sameValues]
          rcases Bool.or_eq_true_iff.mp returned with isFast | accepted
          · rw [← sameParts] at isPoint
            exact accepts_of_fast built wellFormed floatFree
              (parseFilters_fitTable halves fits bindsFit parsed) isFast isPoint
          · exact accepted
        · intro keyPasses
          rw [(passes row).mpr (keyPasses row sameParts found), Bool.or_true]
      rw [← checked, ofRow row sameParts found]
      cases projection.fast || projection.accepts row.values with
      | true =>
          simp only [if_true, iff_true]
          funext other
          by_cases same : other = address
          · simp [same]
          · have otherKey : other.key ≠ address.key :=
              fun sameKey => same (RowAddress.key_injective sameKey)
            simp [same, otherKey]
      | false =>
          simp only [Bool.false_eq_true, if_false, List.not_mem_nil, iff_false]
          intro same
          have unchanged := congrFun same address
          rw [Function.update_self, found] at unchanged
          cases unchanged

/-- The last values assigned to regular columns are those the row already has. -/
def AssignsStored (newValues : List (Nat × Value)) (row : TableRow table) : Prop :=
  ∀ index ∈ table.regularIndexes,
    ∀ value, lastAssigned newValues index = some value → row.valueOf index = value

omit [NeZero shards] in
/-- Two rows of values are stored alike when they agree on the regular columns. -/
theorem encodeRowColumns_cells_inj
    (columnsFit : table.columns.length ≤ 2 ^ 16)
    {first second : Nat → Value}
    (holdsFirst : table.Holds first)
    (holdsSecond : table.Holds second) :
    encodeRowColumns (table.cells first) = encodeRowColumns (table.cells second) ↔
      ∀ index ∈ table.regularIndexes, first index = second index := by
  constructor
  · intro same index regular
    have decoded := decodeRowColumns_cells columnsFit holdsFirst
    rw [same, decodeRowColumns_cells columnsFit holdsSecond] at decoded
    have sameRow := congrArg (fun row => row.getD index .null) (Except.ok.inj decoded)
    rw [TableDef.getD_regularRow regular, TableDef.getD_regularRow regular]
      at sameRow
    exact sameRow.symm
  · intro agree
    have sameCells : table.cells first = table.cells second :=
      List.map_congr_left fun index regular => by rw [agree index regular]
    rw [sameCells]

/-- An UPDATE that counts a key column as a regular one changes nothing. -/
theorem execUpdate_run_panics
    (wellFormed : table.WellFormed)
    {upd : Update}
    (resolved :
      (resolveTable json sessionKs upd.tableName).run answer store =
        (.ok (keyspace, table), middle))
    (writable : checkWritable keyspace = .ok ())
    {newValues : List (Nat × Value)}
    {keyParts : List Bytes}
    (planned :
      planUpdate hexDecode table upd binds = .ok (newValues, keyParts, rest))
    (counts : upd.CountsKeyAsRegular table) :
    (execUpdate json hexDecode sessionKs upd binds).run answer store =
      (.error .panic, middle) := by
  obtain ⟨covers, keyAssigned⟩ :=
    (countsKeyAsRegular_iff wellFormed planned).mp counts
  obtain ⟨existing, read, looked⟩ :=
    exists_getRow_run middle keyspace table.name keyParts
  rw [execUpdate_run resolved writable planned, Program.run_bind,
    updatedCells_run looked, if_pos covers,
    coveredCells_panics covers keyAssigned]

/-- Any other UPDATE stores its last values over the row under its key. -/
theorem execUpdate_run_stores
    (halves : hexDecode.Halves)
    (wellFormed : table.WellFormed)
    (columnsFit : table.columns.length ≤ 2 ^ 16)
    {upd : Update}
    (resolved :
      (resolveTable json sessionKs upd.tableName).run answer store =
        (.ok (keyspace, table), middle))
    (writable : checkWritable keyspace = .ok ())
    (fits : upd.FitsFrame binds)
    {newValues : List (Nat × Value)}
    (planned :
      planUpdate hexDecode table upd binds =
        .ok (newValues, address.keyParts, rest))
    (ofKeyspace : address.keyspace = keyspace)
    (ofTable : address.table = table.name)
    (represents : Represents middle rows)
    (holds : rows.HoldsTable keyspace table)
    (notCounted : ¬ upd.CountsKeyAsRegular table) :
    ∃ executed final cells,
      (execUpdate json hexDecode sessionKs upd binds).run answer store =
          (.ok executed, final) ∧
        mergedCells table newValues (rows address) = .ok cells ∧
        Refines final
          (Function.update rows address (some (encodeRowColumns cells))) := by
  rw [countsKeyAsRegular_iff wellFormed planned] at notCounted
  obtain ⟨read, looked, representsRead⟩ := represents.getRow address
  rw [ofKeyspace, ofTable] at looked
  have earlier :
      ∀ bytes,
        rows address = some bytes →
        ∃ valueOf,
          table.Holds valueOf ∧
            bytes = encodeRowColumns (table.cells valueOf) := by
    intro bytes found
    obtain ⟨row, _, rfl⟩ := holds address bytes ofKeyspace ofTable found
    exact ⟨row.valueOf, row.held, rfl⟩
  obtain ⟨cells, merged, _, determined⟩ :=
    exists_updatedCells columnsFit (planUpdate_storable halves fits planned)
      earlier notCounted looked
  obtain ⟨ready, representsReady, determined⟩ :
      ∃ ready : Storage shards,
        Represents ready rows ∧
          (updatedCells keyspace table newValues address.keyParts).run answer
              middle =
            (.ok cells, ready) := by
    rcases determined with unread | wasRead
    · exact ⟨middle, represents, unread⟩
    · exact ⟨read, representsRead, wasRead⟩
  have refines :
      Refines
        ((ready.changeCache address.keyspace fun cache =>
            cache.insert address.key (encodeRowColumns cells)).setEngine
          address.engine
          ((ready.engines address.engine).accept
            (.put address.key (encodeRowColumns cells))))
        (Function.update rows address (some (encodeRowColumns cells))) :=
    representsReady.toRefines.queueRow
      (setsRow_put address (encodeRowColumns cells))
      fun entries key =>
        setsRow_put address (encodeRowColumns cells) entries key
  have written :=
    putRow_run representsReady.isOpen address (encodeRowColumns cells)
  rw [ofTable] at written
  refine ⟨⟨.void, [⟨address.engine, (ready.engines address.engine).nextTicket⟩],
    rest⟩, _, cells, ?_, merged, refines⟩
  rw [execUpdate_run resolved writable planned,
    Program.run_bind_of_ok answer determined, ← ofKeyspace]
  exact Program.run_bind_of_ok answer
    ((Program.run_mapFailure_eq_ok answer).mpr written)

/-- Whatever an UPDATE ends with, rows that fail a filter are as they were. -/
def KeepsRejected
    (json : CatalogJson)
    (hexDecode : HexDecode)
    (store : Storage shards)
    (sessionKs : Option String)
    (upd : Update)
    (binds : Binds)
    (keyspace : String)
    (table : TableDef)
    (filters : List Filter)
    (rows : RowMap) :
    Prop :=
  ∃ outcome final after,
    (execUpdate json hexDecode sessionKs upd binds).run answer store =
        (outcome, final) ∧
      Refines final after ∧
      ∀ (other : RowAddress) (row : TableRow table),
        other.keyspace = keyspace →
        other.table = table.name →
        row.keyParts = other.keyParts →
        rows other = some row.bytes →
        (∃ filter ∈ filters, ¬ filter.Passes row) →
        after other = rows other

/-- An UPDATE is planned: it may write, and its values and filters parse. -/
structure PlannedUpdate
    (json : CatalogJson)
    (hexDecode : HexDecode)
    (store : Storage shards)
    (sessionKs : Option String)
    (upd : Update)
    (binds : Binds)
    (middle : Storage shards)
    (keyspace : String)
    (table : TableDef)
    (newValues : List (Nat × Value))
    (filters : List Filter)
    (address : RowAddress) :
    Prop where
  resolved :
    (resolveTable json sessionKs upd.tableName).run answer store =
      (.ok (keyspace, table), middle)
  writable :
    checkWritable keyspace = .ok ()
  fits :
    upd.FitsFrame binds
  parsed :
    ∃ next rest,
      assignedValues hexDecode table upd.assignments binds =
          .ok (newValues, next) ∧
        parseFilters hexDecode table upd.whereClause next = .ok (filters, rest)
  fixed :
    keyPartsFromFilters table filters = .ok address.keyParts
  ofKeyspace :
    address.keyspace = keyspace
  ofTable :
    address.table = table.name

/-- An UPDATE keeps rejected rows when its own row passes or stays as it was. -/
theorem keepsRejected_iff
    (halves : hexDecode.Halves)
    (wellFormed : table.WellFormed)
    (columnsFit : table.columns.length ≤ 2 ^ 16)
    {upd : Update}
    {newValues : List (Nat × Value)}
    (updates :
      PlannedUpdate json hexDecode store sessionKs upd binds middle keyspace table
        newValues filters address)
    (represents : Represents middle rows)
    (holds : rows.HoldsTable keyspace table) :
    KeepsRejected json hexDecode store sessionKs upd binds keyspace table filters
        rows ↔
      ∀ row : TableRow table,
        row.keyParts = address.keyParts →
        rows address = some row.bytes →
        (∀ filter ∈ filters, filter.Passes row) ∨
          upd.CountsKeyAsRegular table ∨ AssignsStored newValues row := by
  obtain ⟨resolved, writable, fits, ⟨next, rest, assigned, parsed⟩, fixed,
    ofKeyspace, ofTable⟩ := updates
  have planned :
      planUpdate hexDecode table upd binds =
        .ok (newValues, address.keyParts, rest) :=
    Fallible.bind_eq_ok.mpr ⟨_, assigned, Fallible.bind_eq_ok.mpr
      ⟨_, parsed, Fallible.bind_eq_ok.mpr ⟨_, fixed, rfl⟩⟩⟩
  by_cases counts : upd.CountsKeyAsRegular table
  · refine iff_of_true ?_ fun _ _ _ => .inr (.inl counts)
    exact ⟨_, middle, rows,
      execUpdate_run_panics wellFormed resolved writable planned counts,
      represents.toRefines, fun _ _ _ _ _ _ _ => rfl⟩
  · obtain ⟨executed, final, cells, ran, merged, refines⟩ :=
      execUpdate_run_stores halves wellFormed columnsFit resolved writable fits
        planned ofKeyspace ofTable represents holds counts
    have storedAs :
        ∀ row : TableRow table,
          rows address = some row.bytes →
          (encodeRowColumns cells = row.bytes ↔ AssignsStored newValues row) := by
      intro row found
      have previous :
          previousRow table (some row.bytes) =
            .ok (table.regularRow row.valueOf) :=
        decodeRowColumns_cells columnsFit row.held
      rw [found, mergedCells_assign newValues previous] at merged
      cases merged
      rw [TableRow.bytes,
        encodeRowColumns_cells_inj columnsFit
          (row.held.assign (planUpdate_storable halves fits planned)) row.held]
      refine forall₂_congr fun index _ => ?_
      cases lastAssigned newValues index with
      | none =>
          simp
      | some value =>
          simp [eq_comm]
    constructor
    · rintro ⟨_, _, after, ranAgain, refinesAgain, kept⟩ row sameParts found
      rw [ran] at ranAgain
      cases ranAgain
      cases refinesAgain.unique refines
      by_cases passes : ∀ filter ∈ filters, filter.Passes row
      · exact .inl passes
      · push Not at passes
        have unchanged := kept address row ofKeyspace ofTable sameParts found passes
        rw [Function.update_self, found] at unchanged
        exact .inr (.inr ((storedAs row found).mp (Option.some.inj unchanged)))
    · intro keyPasses
      refine ⟨_, final, _, ran, refines, ?_⟩
      rintro other row _ _ sameParts found ⟨filter, isFilter, fails⟩
      by_cases same : other = address
      · subst same
        rcases keyPasses row sameParts found with passes | counted | stored
        · exact absurd (passes filter isFilter) fails
        · exact absurd counted counts
        · rw [Function.update_self, found, (storedAs row found).mpr stored]
      · rw [Function.update_of_ne same]

/--
DELETE and UPDATE respect their whole WHERE clause, as a SELECT does, exactly
when the row under their key passes it; an UPDATE also when it fails by another
defect or stores the row as it was.
-/
theorem writes_respect_where_iff
    (halves : hexDecode.Halves)
    (wellFormed : table.WellFormed)
    (columnsFit : table.columns.length ≤ 2 ^ 16)
    (floatFree :
      ∀ column ∈ table.columns,
        column.name ∈ table.keyNames → column.colType.FloatFree)
    (represents : Represents middle rows)
    (holds : rows.HoldsTable keyspace table)
    {del : Delete}
    (deletes :
      PlannedDelete json hexDecode store sessionKs del binds middle keyspace table
        filters address)
    {upd : Update}
    {updBinds : Binds}
    {newValues : List (Nat × Value)}
    {updFilters : List Filter}
    {target : RowAddress}
    (updates :
      PlannedUpdate json hexDecode store sessionKs upd updBinds middle keyspace
        table newValues updFilters target) :
    (RemovesSelected json hexDecode store sessionKs del binds rows ↔
        KeyPasses rows table filters address) ∧
      (KeepsRejected json hexDecode store sessionKs upd updBinds keyspace table
          updFilters rows ↔
        ∀ row : TableRow table,
          row.keyParts = target.keyParts →
          rows target = some row.bytes →
          (∀ filter ∈ updFilters, filter.Passes row) ∨
            upd.CountsKeyAsRegular table ∨ AssignsStored newValues row) :=
  ⟨removesSelected_iff halves wellFormed columnsFit floatFree deletes represents
      holds,
    keepsRejected_iff halves wellFormed columnsFit updates represents holds⟩

end Statements

/-- The one-engine store of one row represents that row. -/
theorem represents_storeHolding
    (table : TableDef)
    (address : RowAddress)
    (ofKeyspace : address.keyspace = table.keyspace)
    (ofTable : address.table = table.name)
    (bytes : Bytes) :
    Represents (storeHolding table [(address.keyParts, bytes)])
      (Function.update (fun _ => none) address (some bytes)) := by
  have contents :
      ∀ engine key,
        ((storeHolding table [(address.keyParts, bytes)]).engines
            engine).settled[key]? =
          if address.engine = engine ∧ address.key = key then
            some bytes
          else
            ((Storage.fresh 1 false false).engines engine).settled[key]? := by
    intro engine key
    have here : address.engine = engine := Subsingleton.elim _ _
    simp [here, storeHolding, Storage.fresh, Pipeline.settled, Pipeline.start,
      Pipeline.inFlight, Pipeline.committerBatch, Pipeline.collectorBatch, applyOps,
      RowAddress.key, ofKeyspace, ofTable]
  refine ⟨⟨?_, ?_, ?_⟩, ?_⟩
  · intro engine
    exact ⟨Pipeline.ordered_start _ _, rfl⟩
  · exact (represents_fresh false false).stores.setRow address (some bytes) contents
  · intro entries present
    cases present
  · intro engine
    rfl

/-- `k = 1` of `kvTable`. -/
def kvAddress : RowAddress where
  keyspace := "bench"
  table := "kv"
  keyspaceFree := by decide
  tableFree := bangFree_kv
  keyParts := [[0, 0, 0, 1]]
  nonempty := by decide
  fits := by decide

/-- The row `(1, 'a')` of `kvTable`. -/
def kvRow : TableRow kvTable where
  keyValues := [.int 1]
  valueOf _ := .text "a"
  keysHeld :=
    .cons ⟨⟨"k", .int, true, false⟩, by decide, rfl, trivial, by decide⟩ .nil
  held := by
    intro index column regular here
    have isSecond : index = 1 := by
      simpa using (show index ∈ [1] from regular)
    subst isSecond
    cases here
    exact .inr ⟨trivial, by decide⟩

/-- The store of `kvRow`. -/
def kvSingle : Storage 1 :=
  storeHolding kvTable [([[0, 0, 0, 1]], kvRow.bytes)]

/-- `WHERE k = 1 AND v = value`. -/
def kvWhere (value : String) : List RelationElement :=
  [⟨.column (.unquoted "k"), .equal, .const "1"⟩,
    ⟨.column (.unquoted "v"), .equal, .const value⟩]

/-- `DELETE FROM bench.kv WHERE k = 1 AND v = value`. -/
def kvDeleteWhere (value : String) : Delete where
  columns := []
  tableName := kvName
  whereClause := kvWhere value

/-- `UPDATE bench.kv SET v = 'z' WHERE k = 1 AND v = value`. -/
def kvUpdateWhere (value : String) : Update where
  tableName := kvName
  assignments := [⟨.unquoted "v", .const "'z'", none⟩]
  whereClause := kvWhere value

/-- What an engine holds for `kvRow` once its queue is written. -/
def kvSettled (store : Storage 1) : Option Bytes :=
  ((store.engines (dataEngine "bench" "kv" [0, 0, 0, 1])).settled)[kvAddress.key]?

/--
With `v = 'x'` in its WHERE clause a DELETE removes the row whose `v` is `'a'`,
which the SELECT does not return, and an UPDATE overwrites it.
-/
theorem excluded_row_is_written :
    kvTable.WellFormed ∧
      kvSettled kvSingle = some kvRow.bytes ∧
      (((execSelect cachedJson (fun _ => none) none (kvDeleteWhere "'x'").asSelect
            .none none none).run answer kvSingle).1.toOption.map
          fun executed => executed.response.sources) =
        some [] ∧
      kvSettled
          ((execDelete cachedJson (fun _ => none) none (kvDeleteWhere "'x'")
            .none).run answer kvSingle).2 =
        none ∧
      kvSettled
          ((execUpdate cachedJson (fun _ => none) none (kvUpdateWhere "'x'")
            .none).run answer kvSingle).2 =
        some (encodeRowColumns [(1, .text "z")]) := by
  decide +kernel

/-- The rows of the store of `kvRow`. -/
def kvRows : RowMap :=
  Function.update (fun _ => none) kvAddress (some kvRow.bytes)

/-- The store holds its row at its address only. -/
theorem kvRows_holdsTable : kvRows.HoldsTable "bench" kvTable := by
  intro address bytes _ _ found
  by_cases here : address = kvAddress
  · subst here
    rw [kvRows, Function.update_self] at found
    exact ⟨kvRow, rfl, Option.some.inj found⟩
  · rw [kvRows, Function.update_of_ne here] at found
    cases found

/-- Every row stored like `kvRow` passes `k = 1 AND v = 'a'`. -/
theorem kvRow_passes
    {row : TableRow kvTable}
    (sameParts : row.keyParts = [[0, 0, 0, 1]])
    (sameBytes : row.bytes = kvRow.bytes) :
    ∀ filter ∈ [Filter.eq "k" (.int 1), Filter.eq "v" (.text "a")],
      filter.Passes row := by
  have wellFormed : kvTable.WellFormed := by
    decide +kernel
  have sameValues : row.values = kvRow.values :=
    TableRow.values_unique wellFormed (by decide) sameParts sameBytes
  have key : row.value "k" = .int 1 :=
    TableRow.value_eq_of_values sameValues
      (by decide : (⟨"k", .int, true, false⟩ : ColumnDef) ∈ kvTable.columns)
  have regular : row.value "v" = .text "a" :=
    TableRow.value_eq_of_values sameValues
      (by decide : (⟨"v", .text, false, false⟩ : ColumnDef) ∈ kvTable.columns)
  intro filter member
  simp only [List.mem_cons, List.not_mem_nil, or_false] at member
  rcases member with rfl | rfl
  · rw [Filter.Passes, key]
    decide
  · rw [Filter.Passes, regular]
    decide

/-- Short WHERE clauses fit one frame. -/
theorem kvWhere_fits : ∀ relation ∈ kvWhere "'a'", relation.FitsFrame := by
  intro relation member
  simp only [kvWhere, List.mem_cons, List.not_mem_nil, or_false] at member
  rcases member with rfl | rfl
  · refine ⟨?_, fun items isTuple => by cases isTuple⟩
    change "1".length ≤ maxFrameLength
    decide +kernel
  · refine ⟨?_, fun items isTuple => by cases isTuple⟩
    change "'a'".length ≤ maxFrameLength
    decide +kernel

/-- With the row's own value in the clause both statements respect it. -/
theorem writes_respect_where_iff_kv :
    RemovesSelected cachedJson (fun _ => none) kvSingle none
        (kvDeleteWhere "'a'") .none kvRows ∧
      KeepsRejected cachedJson (fun _ => none) kvSingle none
        (kvUpdateWhere "'a'") .none "bench" kvTable
        [.eq "k" (.int 1), .eq "v" (.text "a")] kvRows := by
  have halves : HexDecode.Halves fun _ => none := by
    intro text bytes decoded
    cases decoded
  have wellFormed : kvTable.WellFormed := by
    decide +kernel
  have floatFree :
      ∀ column ∈ kvTable.columns,
        column.name ∈ kvTable.keyNames → column.colType.FloatFree := by
    intro column member _
    simp only [kvTable, List.mem_cons, List.not_mem_nil, or_false] at member
    rcases member with rfl | rfl <;> trivial
  have known : kvSingle.tables ("bench", "kv") = some kvTable := by
    simp [kvSingle, storeHolding, storeWith, kvTable]
  have resolved :
      (resolveTable cachedJson none kvName).run answer kvSingle =
        (.ok ("bench", kvTable), kvSingle) :=
    resolveTable_run_cached (by decide) known
  have bindsFit : Binds.none.FitFrame := by
    simp [Binds.FitFrame, Binds.none, Binds.new]
  have represents : Represents kvSingle kvRows :=
    represents_storeHolding kvTable kvAddress rfl rfl kvRow.bytes
  have deletes :
      PlannedDelete cachedJson (fun _ => none) kvSingle none (kvDeleteWhere "'a'")
        .none kvSingle "bench" kvTable
        [.eq "k" (.int 1), .eq "v" (.text "a")] kvAddress :=
    ⟨resolved, by decide, rfl, kvWhere_fits, bindsFit,
      ⟨.none, rfl⟩, by decide +kernel, rfl, rfl⟩
  have assignedFits :
      ∀ assignment ∈ (kvUpdateWhere "'a'").assignments,
        assignment.value.FitsFrame := by
    intro assignment member
    rw [List.mem_singleton.mp member]
    change "'z'".length ≤ maxFrameLength
    decide +kernel
  have updates :
      PlannedUpdate cachedJson (fun _ => none) kvSingle none (kvUpdateWhere "'a'")
        .none kvSingle "bench" kvTable [(1, .text "z")]
        [.eq "k" (.int 1), .eq "v" (.text "a")] kvAddress :=
    ⟨resolved, by decide, ⟨assignedFits, kvWhere_fits, bindsFit⟩,
      ⟨.none, .none, by decide +kernel, rfl⟩, by decide +kernel, rfl, rfl⟩
  have stored :
      ∀ row : TableRow kvTable,
        row.keyParts = kvAddress.keyParts →
        kvRows kvAddress = some row.bytes →
        ∀ filter ∈ [Filter.eq "k" (.int 1), Filter.eq "v" (.text "a")],
          filter.Passes row := by
    intro row sameParts found
    rw [kvRows, Function.update_self] at found
    exact kvRow_passes sameParts (Option.some.inj found).symm
  obtain ⟨removes, keeps⟩ :=
    writes_respect_where_iff halves wellFormed (by decide) floatFree represents
      kvRows_holdsTable deletes updates
  exact ⟨removes.mpr stored,
    keeps.mpr fun row sameParts found => .inl (stored row sameParts found)⟩

end RhydaDB
