import RhydaDB.WriteStatements

namespace RhydaDB

open ByteStrings AtomicPrograms

/-!
# SELECT

`exec_select` chooses one of three plans: a point lookup when `=` fixes every
key column, a scan of the listed partitions when every partition key column is
restricted, and a scan of the whole table otherwise.  Scans stream entries
through one callback that decodes, filters and projects them, and that also
decides where a page ends.
-/

/-- `n as usize` for a 32-bit integer on a 64-bit target. -/
def usizeOfI32 (count : Int32) : Nat :=
  (count.toInt % 2 ^ 64).toNat

/-- Rows a scan without page size and limit may return. -/
def hardCap : Nat :=
  5000

/-- The number of rows after which a scan stops. -/
def pageLimit (pageSize limit : Option Int32) : Nat :=
  match pageSize, limit with
  | some size, some limit =>
      min (usizeOfI32 size) (usizeOfI32 limit)
  | some size, none =>
      usizeOfI32 size
  | none, some limit =>
      usizeOfI32 limit
  | none, none =>
      hardCap

/-- Column indices and filters, looked up once for the rows of a statement. -/
structure Projection where
  table : TableDef
  selectedIdxs : List Nat
  eqFilters : List (Nat × Value)
  inFilters : List (Nat × List Value)
  keyColIdxs : List Nat

namespace Projection

/-- The `=` filter of a column index. -/
def eqFilter? (table : TableDef) : Filter → Option (Option (Nat × Value))
  | .eq name value =>
      (table.columnIndex name).map fun index => some (index, value)
  | .isIn _ _ =>
      some none

/-- The IN filter of a column index. -/
def inFilter? (table : TableDef) : Filter → Option (Option (Nat × List Value))
  | .eq _ _ =>
      some none
  | .isIn name values =>
      (table.columnIndex name).map fun index => some (index, values)

/-- Look all columns up; a name that is no column of the table panics. -/
def build
    (table : TableDef)
    (selected : List (String × ColumnType))
    (filters : List Filter) :
    Option Projection := do
  let selectedIdxs ← selected.mapM fun (name, _) => table.columnIndex name
  let eqFilters ← filters.mapM (eqFilter? table)
  let inFilters ← filters.mapM (inFilter? table)
  let keyColIdxs ← table.keyNames.mapM table.columnIndex
  return {
    table := table
    selectedIdxs := selectedIdxs
    eqFilters := eqFilters.filterMap id
    inFilters := inFilters.filterMap id
    keyColIdxs := keyColIdxs }

/-- Decode key parts into the key columns of a row. -/
def overlayKey
    (table : TableDef) :
    List Nat →
    List Bytes →
    List Value →
    Outcome (List Value)
  | index :: indexes, part :: parts, row =>
      match table.columns[index]? with
      | none =>
          .error .panic
      | some column => do
          let value ← Value.fromRawBytes part column.colType
          overlayKey table indexes parts (row.set index value)
  | _, _, row =>
      .ok row

/-- Whether a row passes all filters. -/
def accepts (projection : Projection) (row : List Value) : Bool :=
  (projection.eqFilters.all fun (index, expected) =>
    expected.partialEq (row.getD index .null)) &&
  (projection.inFilters.all fun (index, values) =>
    values.any fun value => value.partialEq (row.getD index .null))

/-- The selected columns of a row. -/
def project (projection : Projection) (row : List Value) : List Value :=
  projection.selectedIdxs.map fun index => row.getD index .null

/-- All columns of a stored row: its cells and its key. -/
def decodeRow
    (projection : Projection)
    (keyParts : List Bytes)
    (value : Bytes) :
    Outcome (List Value) := do
  let row ← decodeRowColumns value projection.table
  overlayKey projection.table projection.keyColIdxs keyParts row

/-- The output row of a stored one, unless a filter rejects it. -/
def projectDecoded
    (projection : Projection)
    (keyParts : List Bytes)
    (value : Bytes) :
    Outcome (Option (List Value)) := do
  let row ← projection.decodeRow keyParts value
  return if projection.accepts row then some (projection.project row) else none

end Projection

/-- What one round of the cell scan of a point lookup finds. -/
inductive CellScan where
  | found (value : Value)
  | next (offset : Nat)

/--
Read the cell at an offset.

Offsets are machine words, so a negative length wraps around and moves the
offset backwards; only the wanted column's length is compared with the data.
-/
def scanCell
    (table : TableDef)
    (index : Nat)
    (data : Bytes)
    (offset : Nat) :
    Outcome CellScan :=
  if data.length < offset + 6 then
    fail "corrupt row value"
  else
    let len := readI32 data (offset + 2)
    let stop := (offset + 6 + (len % 2 ^ 64).toNat) % 2 ^ 64
    if ofBe (slice data offset 2) = index then
      if len = -1 then
        .ok (.found .null)
      else if data.length < stop then
        fail "corrupt row value"
      else
        match table.columns[index]? with
        | none =>
            .error .panic
        | some column =>
            if stop < offset + 6 then
              -- the slice would end before it starts
              .error .panic
            else
              (Value.fromRawBytes (slice data (offset + 6) (stop - (offset + 6)))
                column.colType).map .found
    else if len = -1 then
      .ok (.next (offset + 6))
    else
      .ok (.next stop)

/--
Look for a column's cell from an offset on; a row without it has null there.

A round is determined by its offset, which lies inside the data, so a scan of
more rounds than there are bytes repeats an offset and never ends.
-/
def scanCells
    (table : TableDef)
    (index : Nat)
    (data : Bytes) :
    Nat → Nat → Outcome Value
  | rounds, offset =>
      if data.length ≤ offset then
        .ok .null
      else
        match rounds with
        | 0 =>
            .error .hang
        | rounds + 1 => do
            match ← scanCell table index data offset with
            | .found value =>
                return value
            | .next offset =>
                scanCells table index data rounds offset

namespace Projection

/-- One output value of a point lookup by a single key part. -/
def fastValue
    (projection : Projection)
    (keyParts : List Bytes)
    (data : Bytes)
    (index : Nat) :
    Outcome Value :=
  match projection.keyColIdxs.idxOf? index with
  | some position =>
      match keyParts[position]?, projection.table.columns[index]? with
      | some part, some column =>
          Value.fromRawBytes part column.colType
      | _, _ =>
          .error .panic
  | none =>
      scanCells projection.table index data (data.length + 1) 0

/-- The output row of a point lookup, without decoding the whole row. -/
def projectFastPoint
    (projection : Projection)
    (keyParts : List Bytes)
    (data : Bytes) :
    Outcome (List Value) :=
  projection.selectedIdxs.mapM (projection.fastValue keyParts data)

/-- Whether a point lookup may skip decoding and filtering the row. -/
def fast (projection : Projection) : Bool :=
  projection.inFilters.isEmpty &&
    projection.eqFilters.length == projection.keyColIdxs.length &&
    projection.table.clusteringKeys.isEmpty &&
    projection.table.partitionKeys.length == 1 &&
    projection.eqFilters.all fun (index, _) =>
      projection.keyColIdxs.contains index

/-- The output row of a point lookup, if the row passes. -/
def projectPoint
    (projection : Projection)
    (keyParts : List Bytes)
    (data : Bytes) :
    Outcome (Option (List Value)) :=
  if projection.fast then
    (projection.projectFastPoint keyParts data).map some
  else
    projection.projectDecoded keyParts data

end Projection

/-- The raw bytes of each key column, if `=` fixes all of them. -/
def pointKey (table : TableDef) (filters : List Filter) : Option (List Bytes) :=
  table.keyNames.mapM fun name =>
    match eqValue filters name with
    | some value =>
        if value.partialEq .null then none else some value.rawBytes
    | none =>
        none

/-- The raw bytes of all values the filters list for a column. -/
def listedParts (filters : List Filter) (name : String) : List Bytes :=
  filters.flatMap fun filter =>
    match filter with
    | .eq column value =>
        if column = name then [value.rawBytes] else []
    | .isIn column values =>
        if column = name then values.map Value.rawBytes else []

/-- Whether a filter restricts a column. -/
def Filter.restricts (filter : Filter) (name : String) : Bool :=
  match filter with
  | .eq column _ =>
      column == name
  | .isIn column _ =>
      column == name

/-- The combinations of listed values, one per partition key column. -/
def listedPartitions (filters : List Filter) (names : List String) : List (List Bytes) :=
  names.foldl
    (fun partitions name =>
      partitions.flatMap fun combo =>
        (listedParts filters name).map fun part => combo ++ [part])
    [[]]

/-- What a scan has gathered so far. -/
structure ScanState where
  rows : List (List Value)
  /-- History: the storage key of each row. -/
  sources : List Bytes
  pagingLastKey : Option Bytes
  /-- The current partition's scan was cut short. -/
  done : Bool
  errorSlot : Option Fault

namespace ScanState

/-- Nothing scanned yet. -/
def start : ScanState where
  rows := []
  sources := []
  pagingLastKey := none
  done := false
  errorSlot := none

/-- Decode, filter and project one entry; tell whether to go on. -/
def handleEntry
    (projection : Projection)
    (keyspace : String)
    (limit : Nat)
    (state : ScanState)
    (key value : Bytes) :
    ScanState × Bool :=
  match
    (decodeKey keyspace projection.table.name key).bind fun keyParts =>
      projection.projectDecoded keyParts value with
  | .ok (some row) =>
      ({ state with
        rows := state.rows ++ [row], sources := state.sources ++ [key] },
        decide (state.rows.length + 1 < limit))
  | .ok none =>
      (state, true)
  | .error fault =>
      ({ state with errorSlot := state.errorSlot.or (some fault) }, false)

/-- The callback of both scans. -/
def visit
    (projection : Projection)
    (keyspace : String)
    (pagingState : Option Bytes)
    (limit : Nat)
    (state : ScanState)
    (key value : Bytes) :
    ScanState × Bool :=
  if pagingState.any fun last => decide (key ≤ last) then
    (state, true)
  else if limit ≤ state.rows.length then
    ({ state with pagingLastKey := some key, done := true }, false)
  else
    let (next, goOn) := state.handleEntry projection keyspace limit key value
    if goOn then
      if limit ≤ next.rows.length then
        ({ next with pagingLastKey := some key, done := true }, false)
      else
        (next, true)
    else
      ({ next with done := true }, false)

end ScanState

section Programs

variable
  {shards : Nat} [NeZero shards]
  (json : CatalogJson)
  (hexDecode : HexDecode)

/-- Scan the listed partitions one after the other until the page is full. -/
def scanPartitions
    (keyspace table : String)
    (limit : Nat)
    (visit : ScanState → Bytes → Bytes → ScanState × Bool) :
    List (List Bytes) →
    ScanState →
    StorageProgram shards Fault ScanState
  | [], state =>
      return state
  | partition :: rest, state => do
      let next ←
        forEachInPartition keyspace table partition visit
          { state with done := false }
      if next.done || next.errorSlot.isSome || decide (limit ≤ next.rows.length) then
        return next
      else
        scanPartitions keyspace table limit visit rest next

/-- Run the scan that the filters allow. -/
def scanRowsMatching
    (projection : Projection)
    (keyspace : String)
    (filters : List Filter)
    (pagingState : Option Bytes)
    (limit : Nat) :
    StorageProgram shards Fault ScanState :=
  let table := projection.table
  let visit := ScanState.visit projection keyspace pagingState limit
  if table.partitionKeys.all fun name => filters.any (·.restricts name) then
    scanPartitions keyspace table.name limit visit
      (listedPartitions filters table.partitionKeys) .start
  else
    forEachInTable keyspace table.name visit .start

/-- The paging state to report after a scan. -/
def nextPagingState
    (pageSize limit : Option Int32)
    (state : ScanState) :
    Option Bytes :=
  match pageSize, limit with
  | some size, _ =>
      if usizeOfI32 size ≤ state.rows.length then state.pagingLastKey else none
  | none, some _ =>
      none
  | none, none =>
      if hardCap ≤ state.rows.length then state.pagingLastKey else none

/-- Look one row up by its key. -/
def selectPoint
    (projection : Projection)
    (keyspace : String)
    (keyParts : List Bytes) :
    StorageProgram shards Fault (List (List Value) × List Bytes) := do
  match ← getRow keyspace projection.table.name keyParts with
  | none =>
      return ([], [])
  | some bytes =>
      match ← .ofExcept (projection.projectPoint keyParts bytes) with
      | some row =>
          return ([row], [rowKey keyspace projection.table.name keyParts])
      | none =>
          return ([], [])

/-- Scan for rows and report the page. -/
def selectScan
    (projection : Projection)
    (keyspace : String)
    (filters : List Filter)
    (pageSize limit : Option Int32)
    (pagingState : Option Bytes) :
    StorageProgram shards Fault
      (List (List Value) × List Bytes × Option Bytes) := do
  let state ←
    scanRowsMatching projection keyspace filters pagingState
      (pageLimit pageSize limit)
  match state.errorSlot with
  | some fault =>
      .fail fault
  | none =>
      return (state.rows, state.sources, nextPagingState pageSize limit state)

/-- The rows of a statement whose columns and filters are resolved. -/
def selectRows
    (projection : Projection)
    (keyspace : String)
    (filters : List Filter)
    (pageSize limit : Option Int32)
    (pagingState : Option Bytes) :
    StorageProgram shards Fault
      (List (List Value) × List Bytes × Option Bytes) :=
  match pointKey projection.table filters with
  | some keyParts => do
      let (rows, sources) ← selectPoint projection keyspace keyParts
      return (rows, sources, none)
  | none =>
      selectScan projection keyspace filters pageSize limit pagingState

/-- Whether the statement reads a virtual table that does not exist. -/
def missesVirtualTable
    (sessionKs : Option String)
    (name : FQName) :
    StorageProgram shards QueryFault Bool :=
  if (nameKeyspace sessionKs name).toOption = some "system_virtual_schema" then do
    let found ←
      internally (getTable json "system_virtual_schema" (normId name.name))
    return found.isNone
  else
    return false

/-- Execute a SELECT on the table it names. -/
def selectFrom
    (keyspace : String)
    (table : TableDef)
    (sel : Select)
    (binds : Binds)
    (pageSize : Option Int32)
    (pagingState : Option Bytes) :
    StorageProgram shards QueryFault (Executed shards) := do
  let selected ← .ofExcept (selectColumns table sel.columns)
  let (filters, binds) ←
    .ofExcept (parseFilters hexDecode table sel.whereClause binds)
  match Projection.build table selected filters with
  | none =>
      .fail .panic
  | some projection => do
      let (rows, sources, next) ←
        internally (selectRows projection keyspace filters pageSize sel.limit
          pagingState)
      return ⟨.rows keyspace table.name selected rows sources next, [], binds⟩

/-- Execute a SELECT. -/
def execSelect
    (sessionKs : Option String)
    (sel : Select)
    (binds : Binds)
    (pageSize : Option Int32)
    (pagingState : Option Bytes) :
    StorageProgram shards QueryFault (Executed shards) := do
  if ← missesVirtualTable json sessionKs sel.tableName then
    return ⟨.rows "system_virtual_schema" (normId sel.tableName.name) [] [] []
      none, [], binds⟩
  else do
    let (keyspace, table) ← resolveTable json sessionKs sel.tableName
    selectFrom hexDecode keyspace table sel binds pageSize pagingState

end Programs

end RhydaDB
