import RhydaDB.RowCodec
import RhydaDB.Statement
import RhydaDB.Storage

namespace RhydaDB

open ByteStrings AtomicPrograms

/-!
# Statements that write

The writing statements of `query.rs` as programs over the store.  What a
statement computes from its own text, the table definition and the bind values
is kept apart from its accesses to the store: those computations are ordinary
functions, and the programs below only look a table up, read or write rows and
collect the tickets the server waits for.
-/

/-- The keyspaces no statement may change. -/
def systemKeyspaces : List String :=
  ["system", "system_schema", "system_virtual_schema"]

/-- Refuse changes to the system keyspaces. -/
def checkWritable (keyspace : String) : QueryOutcome Unit :=
  if keyspace ∈ systemKeyspaces then
    .error (invalidErr
      s!"Modifications to keyspace '{keyspace}' are not allowed")
  else
    .ok ()

/-- What a statement answers. -/
inductive Response where
  /--
  A page of rows.  `sources` is history: the storage key each row was read
  from.
  -/
  | rows
      (keyspace table : String)
      (cols : List (String × ColumnType))
      (rows : List (List Value))
      (sources : List Bytes)
      (pagingState : Option Bytes)
  | void
  | setKeyspace (keyspace : String)
  | schemaChange (change target keyspace table : String)

/-- A statement's response, the tickets to settle and the binds it leaves. -/
structure Executed (shards : Nat) where
  response : Response
  gates : List (WriteTicket shards)
  binds : Binds

namespace TableDef

/-- The index of the column an identifier refers to. -/
def resolveIndex (table : TableDef) (identifier : Identifier) : Option Nat :=
  table.columns.findIdx? fun column => identEq identifier column.name

/-- The indices of the columns outside the primary key. -/
def regularIndexes (table : TableDef) : List Nat :=
  (table.columns.zipIdx.filter fun (column, _) =>
    !(column.isPartitionKey || column.isClustering)).map Prod.snd

/-- The stored cells of a row, from the value of each column. -/
def cells (table : TableDef) (valueOf : Nat → Value) : List (UInt16 × Value) :=
  table.regularIndexes.map fun index => (UInt16.ofNat index, valueOf index)

end TableDef

section Insert

variable (hexDecode : HexDecode)

/-- Place each supplied value at the index of its column. -/
def resolveValues
    (table : TableDef) :
    List (Identifier × Operand) →
    List (Option Value) →
    Binds →
    QueryOutcome (List (Option Value) × Binds)
  | [], resolved, binds =>
      .ok (resolved, binds)
  | (identifier, operand) :: rest, resolved, binds =>
      match table.resolveIndex identifier with
      | none =>
          .error (invalidErr s!"Undefined column name {normId identifier}")
      | some index =>
          match table.columns[index]? with
          | none =>
              .error .panic
          | some column => do
              let (value, binds) ← operandToValue hexDecode operand column binds
              resolveValues table rest (resolved.set index (some value)) binds

/-- The raw bytes of a key column of the new row. -/
def insertKeyPart
    (table : TableDef)
    (resolved : List (Option Value))
    (name : String) :
    QueryOutcome Bytes :=
  match table.columnIndex name with
  | none =>
      .error (internalErr (.error "key column missing"))
  | some index =>
      match resolved.getD index none with
      | none =>
          .error (invalidErr s!"Some key parts are missing: {name}")
      | some value =>
          if value.partialEq .null then
            .error (invalidErr s!"Invalid null value for key part {name}")
          else
            .ok value.rawBytes

/-- The key, the cells and the remaining binds of an INSERT. -/
def planInsert
    (table : TableDef)
    (ins : Insert)
    (binds : Binds) :
    QueryOutcome (List Bytes × List (UInt16 × Value) × Binds) :=
  match ins.values with
  | .json _ =>
      .error (invalidErr "INSERT JSON is not supported")
  | .values operands =>
      if ins.columns.length ≠ operands.length then
        .error (syntaxErr "Wrong number of values provided")
      else do
        let (resolved, binds) ←
          resolveValues hexDecode table (ins.columns.zip operands)
            (List.replicate table.columns.length none) binds
        let keyParts ← table.keyNames.mapM (insertKeyPart table resolved)
        return (keyParts,
          table.cells fun index => (resolved.getD index none).getD .null,
          binds)

end Insert

section Update

variable (hexDecode : HexDecode)

/-- The index and value of each assigned column, in order. -/
def assignedValues
    (table : TableDef) :
    List AssignmentElement →
    Binds →
    QueryOutcome (List (Nat × Value) × Binds)
  | [], binds =>
      .ok ([], binds)
  | assignment :: rest, binds =>
      if assignment.operator.isSome then
        .error (invalidErr "Increment/decrement assignments are not supported")
      else
        match
          table.column (normId assignment.column),
          table.columnIndex (normId assignment.column) with
        | none, _ =>
            .error (invalidErr
              s!"Undefined column name {normId assignment.column}")
        | some _, none =>
            .error .panic
        | some column, some index => do
            let (value, binds) ←
              operandToValue hexDecode assignment.value column binds
            let (values, binds) ← assignedValues table rest binds
            return ((index, value) :: values, binds)

/-- The assigned values, the key and the remaining binds of an UPDATE. -/
def planUpdate
    (table : TableDef)
    (upd : Update)
    (binds : Binds) :
    QueryOutcome (List (Nat × Value) × List Bytes × Binds) := do
  let (newValues, binds) ← assignedValues hexDecode table upd.assignments binds
  let (filters, binds) ← parseFilters hexDecode table upd.whereClause binds
  let keyParts ← keyPartsFromFilters table filters
  return (newValues, keyParts, binds)

/-- Whether distinct columns are assigned, as many as are regular. -/
def coversAllRegular (table : TableDef) (newValues : List (Nat × Value)) : Bool :=
  newValues.length == table.regularIndexes.length &&
    decide (newValues.map Prod.fst).Nodup

/-- The cells of a row whose every regular column is assigned. -/
def coveredCells
    (table : TableDef)
    (newValues : List (Nat × Value)) :
    QueryOutcome (List (UInt16 × Value)) :=
  table.regularIndexes.mapM fun index =>
    match newValues.lookup index with
    | some value =>
        .ok (UInt16.ofNat index, value)
    | none =>
        -- an assigned key column can stand in for a regular one
        .error .panic

/-- Assign values to a decoded row, later ones winning. -/
def assignValues (row : List Value) (newValues : List (Nat × Value)) : List Value :=
  newValues.foldl (fun row (index, value) => row.set index value) row

/-- The cells of a row after assigning values over what was stored. -/
def mergedCells
    (table : TableDef)
    (newValues : List (Nat × Value))
    (existing : Option Bytes) :
    QueryOutcome (List (UInt16 × Value)) := do
  let row ←
    match existing with
    | some bytes =>
        (decodeRowColumns bytes table).mapError internalErr
    | none =>
        .ok (List.replicate table.columns.length .null)
  let row := assignValues row newValues
  return table.cells fun index => row.getD index .null

end Update

/-- The key and the remaining binds of a DELETE. -/
def planDelete
    (hexDecode : HexDecode)
    (table : TableDef)
    (del : Delete)
    (binds : Binds) :
    QueryOutcome (List Bytes × Binds) :=
  if del.columns ≠ [] then
    .error (invalidErr "Column-level DELETE is not supported yet")
  else do
    let (filters, binds) ← parseFilters hexDecode table del.whereClause binds
    let keyParts ← keyPartsFromFilters table filters
    return (keyParts, binds)

section Programs

variable
  {shards : Nat} [NeZero shards]
  (json : CatalogJson)
  (hexDecode : HexDecode)

/-- Report a storage program's failures as internal errors. -/
def internally
    {α : Type}
    (program : StorageProgram shards Fault α) :
    StorageProgram shards QueryFault α :=
  program.mapFailure internalErr

/-- The keyspace a table name refers to. -/
def nameKeyspace (sessionKs : Option String) (name : FQName) : QueryOutcome String :=
  match name.keyspace, sessionKs with
  | some keyspace, _ =>
      .ok (normId keyspace)
  | none, some keyspace =>
      .ok keyspace
  | none, none =>
      .error (invalidErr "No keyspace specified; use USE <keyspace>")

/-- Look up the table a statement names. -/
def resolveTable
    (sessionKs : Option String)
    (name : FQName) :
    StorageProgram shards QueryFault (String × TableDef) := do
  let keyspace ← .ofExcept (nameKeyspace sessionKs name)
  match ← internally (getTable json keyspace (normId name.name)) with
  | some table =>
      return (keyspace, table)
  | none =>
      .fail (invalidErr
        s!"table {keyspace}.{normId name.name} does not exist")

/-- Execute an INSERT. -/
def execInsert
    (sessionKs : Option String)
    (ins : Insert)
    (binds : Binds) :
    StorageProgram shards QueryFault (Executed shards) := do
  let (keyspace, table) ← resolveTable json sessionKs ins.tableName
  .ofExcept (checkWritable keyspace)
  let (keyParts, cells, binds) ← .ofExcept (planInsert hexDecode table ins binds)
  let ticket ←
    internally (putRow keyspace table.name keyParts (encodeRowColumns cells))
  return ⟨.void, [ticket], binds⟩

/-- The cells an UPDATE stores, read and merged unless it assigns them all. -/
def updatedCells
    (keyspace : String)
    (table : TableDef)
    (newValues : List (Nat × Value))
    (keyParts : List Bytes) :
    StorageProgram shards QueryFault (List (UInt16 × Value)) :=
  if coversAllRegular table newValues then
    .ofExcept (coveredCells table newValues)
  else do
    let existing ← internally (getRow keyspace table.name keyParts)
    .ofExcept (mergedCells table newValues existing)

/-- Execute an UPDATE. -/
def execUpdate
    (sessionKs : Option String)
    (upd : Update)
    (binds : Binds) :
    StorageProgram shards QueryFault (Executed shards) := do
  let (keyspace, table) ← resolveTable json sessionKs upd.tableName
  .ofExcept (checkWritable keyspace)
  let (newValues, keyParts, binds) ←
    .ofExcept (planUpdate hexDecode table upd binds)
  let cells ← updatedCells keyspace table newValues keyParts
  let ticket ←
    internally (putRow keyspace table.name keyParts (encodeRowColumns cells))
  return ⟨.void, [ticket], binds⟩

/-- Execute a DELETE. -/
def execDelete
    (sessionKs : Option String)
    (del : Delete)
    (binds : Binds) :
    StorageProgram shards QueryFault (Executed shards) := do
  let (keyspace, table) ← resolveTable json sessionKs del.tableName
  .ofExcept (checkWritable keyspace)
  let (keyParts, binds) ← .ofExcept (planDelete hexDecode table del binds)
  let ticket ← internally (deleteRow keyspace table.name keyParts)
  return ⟨.void, [ticket], binds⟩

/-- Execute a TRUNCATE. -/
def execTruncate
    (sessionKs : Option String)
    (name : FQName)
    (binds : Binds) :
    StorageProgram shards QueryFault (Executed shards) := do
  let (keyspace, _) ← resolveTable json sessionKs name
  .ofExcept (checkWritable keyspace)
  let tickets ← internally (truncateTable keyspace (normId name.name))
  return ⟨.void, tickets, binds⟩

/-- Delete the listed mirror rows, each on the engine that holds it. -/
def deleteSystemSchemaRows
    (table : String) :
    List (Bytes × Bytes) →
    StorageProgram shards Fault Unit
  | [] =>
      return ()
  | (key, _) :: rest => do
      let parts ← .ofExcept (decodeKey "system_schema" table key)
      deleteRowSync "system_schema" table parts
      deleteSystemSchemaRows table rest

/-- Delete a partition of a system schema table. -/
def deleteSystemSchemaPartition
    (table : String)
    (partitionKey : List Bytes) :
    StorageProgram shards Fault Unit := do
  let entries ← scanPartition "system_schema" table partitionKey
  deleteSystemSchemaRows table entries

/-- Remove a table from the schema mirror; the queued delete's ticket is lost. -/
def unmirrorTableMetadata
    (keyspace table : String) :
    StorageProgram shards Fault Unit := do
  let _ ← deleteRow "system_schema" "tables" [utf8 keyspace, utf8 table]
  deleteSystemSchemaPartition "columns" [utf8 keyspace, utf8 table]

/-- Delete the keyspace's partition of each listed system schema table. -/
def deleteSystemSchemaPartitions
    (partitionKey : List Bytes) :
    List String →
    StorageProgram shards Fault Unit
  | [] =>
      return ()
  | table :: rest => do
      deleteSystemSchemaPartition table partitionKey
      deleteSystemSchemaPartitions partitionKey rest

/-- Execute a DROP KEYSPACE. -/
def execDropKeyspace
    (drop : CommonDrop)
    (binds : Binds) :
    StorageProgram shards QueryFault (Executed shards) := do
  let name := normId drop.name.name
  match ← internally (getKeyspace json name) with
  | none =>
      if drop.ifExists then
        return ⟨.void, [], binds⟩
      else
        .fail (invalidErr s!"Cannot drop non existing keyspace '{name}'")
  | some _ => do
      .ofExcept (checkWritable name)
      let tickets ← internally (deleteKeyspace name)
      internally (deleteSystemSchemaPartitions [utf8 name]
        ["keyspaces", "tables", "columns"])
      return ⟨.schemaChange "DROPPED" "KEYSPACE" name "", tickets, binds⟩

/-- Execute a DROP TABLE. -/
def execDropTable
    (sessionKs : Option String)
    (drop : CommonDrop)
    (binds : Binds) :
    StorageProgram shards QueryFault (Executed shards) := do
  let keyspace ← .ofExcept (nameKeyspace sessionKs drop.name)
  let table := normId drop.name.name
  match ← internally (getTable json keyspace table) with
  | none =>
      if drop.ifExists then
        return ⟨.void, [], binds⟩
      else
        .fail (invalidErr
          s!"Cannot drop non existing table '{keyspace}.{table}'")
  | some _ => do
      .ofExcept (checkWritable keyspace)
      let tickets ← internally (deleteTable keyspace table)
      internally (unmirrorTableMetadata keyspace table)
      return ⟨.schemaChange "DROPPED" "TABLE" keyspace table, tickets, binds⟩

end Programs

end RhydaDB
