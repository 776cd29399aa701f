import RhydaDB.WriteStatements

namespace RhydaDB

open ByteStrings AtomicPrograms

/-!
# Statements that change the catalog or the session

USE, CREATE KEYSPACE and CREATE TABLE.  A created keyspace or table is
persisted and cached first and then mirrored, row by row, into the
`system_schema` tables that drivers read.
-/

namespace ColumnType

/-- The type as the grammar spells it. -/
def cqlString : ColumnType → String
  | .int =>
      "int"
  | .bigInt =>
      "bigint"
  | .smallInt =>
      "smallint"
  | .tinyInt =>
      "tinyint"
  | .float =>
      "float"
  | .double =>
      "double"
  | .boolean =>
      "boolean"
  | .text =>
      "text"
  | .blob =>
      "blob"
  | .timestamp =>
      "timestamp"
  | .uuid =>
      "uuid"
  | .inet =>
      "inet"
  | .set element =>
      "set<" ++ element.cqlString ++ ">"
  | .list element =>
      "list<" ++ element.cqlString ++ ">"
  | .map key value =>
      "map<" ++ key.cqlString ++ ", " ++ value.cqlString ++ ">"

/-- The column type of a type name, given the types of its elements. -/
def ofElements
    (element : Nat → Option ColumnType)
    (first : Option DataTypeName)
    (ofName : DataTypeName → Option ColumnType) :
    DataTypeName → Option ColumnType
  | .int =>
      some .int
  | .bigInt =>
      some .bigInt
  | .smallInt =>
      some .smallInt
  | .tinyInt =>
      some .tinyInt
  | .float =>
      some .float
  | .double =>
      some .double
  | .boolean =>
      some .boolean
  | .text =>
      some .text
  | .varChar =>
      some .text
  | .ascii =>
      some .text
  | .blob =>
      some .blob
  | .timestamp =>
      some .timestamp
  | .uuid =>
      some .uuid
  | .timeUuid =>
      some .uuid
  | .inet =>
      some .inet
  | .set =>
      (element 0).map .set
  | .list =>
      (element 0).map .list
  | .map => do
      return .map (← element 0) (← element 1)
  | .frozen =>
      match first with
      | none =>
          none
      | some .set =>
          (element 1).map .set
      | some .list =>
          (element 1).map .list
      | some .map => do
          return .map (← element 1) (← element 2)
      | some other =>
          ofName other
  | _ =>
      none

/-- The type a name without brackets stands for. -/
def fromBareName : DataTypeName → Option ColumnType :=
  ofElements (fun _ => none) none fun _ => none

/-- The type a declaration stands for; element types are bare names. -/
def fromDataType (name : DataTypeName) (definition : List DataTypeName) :
    Option ColumnType :=
  ofElements (fun index => definition[index]?.bind fromBareName)
    definition.head? fromBareName name

end ColumnType

/-- The column a definition declares, given the names of the key clause. -/
def buildColumnDef
    (partitionKeys clusteringKeys : List String)
    (definition : ColumnDefinition) :
    Option ColumnDef := do
  let colType ←
    ColumnType.fromDataType definition.dataType.name
      definition.dataType.definition
  let name := normId definition.name
  let isPartitionKey := definition.primaryKey || partitionKeys.contains name
  return {
    name := name
    colType := colType
    isPartitionKey := isPartitionKey
    isClustering := !isPartitionKey && clusteringKeys.contains name }

/-- The table a CREATE TABLE describes. -/
def buildTableDef
    (keyspace tableName : String)
    (create : CreateTable) :
    Option TableDef := do
  let partitionKeys := (create.key.map (·.partition)).getD [] |>.map normId
  let clusteringKeys := (create.key.map (·.clustering)).getD [] |>.map normId
  let columns ←
    create.columns.mapM (buildColumnDef partitionKeys clusteringKeys)
  return {
    keyspace := keyspace
    name := tableName
    columns := columns
    partitionKeys :=
      if partitionKeys.isEmpty then
        (columns.filter (·.isPartitionKey)).map (·.name)
      else
        partitionKeys
    clusteringKeys := clusteringKeys }

/-- Drop white space and then quotes at both ends. -/
def stripQuotes (text : String) : String :=
  String.ofList
    (trimEnd (· == '\'') ((trim text.toList).dropWhile (· == '\'')))

/-- The name is taken. -/
def alreadyExistsErr (keyspace table : String) : QueryFault :=
  .error 0x2400 s!"{keyspace}.{table} already exists"

/-- The columns of a table's row in the mirror. -/
def mirroredTableCells : List (String × Value) :=
  [("bloom_filter_fp_chance", .double 0x3F847AE147AE147B),
    ("caching", .map []),
    ("comment", .text ""),
    ("compaction",
      .map [(.text "class",
        .text
          "org.apache.cassandra.db.compaction.SizeTieredCompactionStrategy")]),
    ("compression", .map []),
    ("crc_check_chance", .double 0x3FF0000000000000),
    ("dclocal_read_repair_chance", .double 0x3FB999999999999A),
    ("default_time_to_live", .int 0),
    ("extensions", .map []),
    ("flags", .set [.text "compound"]),
    ("gc_grace_seconds", .int 864000),
    ("max_index_interval", .int 2048),
    ("memtable_flush_period_in_ms", .int 0),
    ("min_index_interval", .int 128),
    ("read_repair_chance", .double 0),
    ("speculative_retry", .text "99PERCENTILE")]

/-- The kind, position and order of a column; a key flag without its name panics. -/
def columnRole (table : TableDef) (column : ColumnDef) :
    Outcome (String × Int32 × String) :=
  if column.isPartitionKey then
    match table.partitionKeys.idxOf? column.name with
    | some position =>
        .ok ("partition_key", Int32.ofNat position, "NONE")
    | none =>
        .error .panic
  else if column.isClustering then
    match table.clusteringKeys.idxOf? column.name with
    | some position =>
        .ok ("clustering", Int32.ofNat position, "ASC")
    | none =>
        .error .panic
  else
    .ok ("regular", -1, "NONE")

/-- The columns of a column's row in the mirror. -/
def mirroredColumnCells
    (column : ColumnDef)
    (kind : String)
    (position : Int32)
    (clusteringOrder : String) :
    List (String × Value) :=
  [("clustering_order", .text clusteringOrder),
    ("column_name_bytes", .blob (utf8 column.name)),
    ("kind", .text kind),
    ("position", .int position),
    ("type", .text column.colType.cqlString)]

/-- The columns of a keyspace's row in the mirror. -/
def mirroredKeyspaceCells (keyspace : KeyspaceDef) : List (String × Value) :=
  [("durable_writes", .boolean true),
    ("replication",
      .map (keyspace.replication.map fun (key, value) =>
        (.text (stripQuotes key), .text (stripQuotes value))))]

/-- The stored cell of a named column. -/
def systemSchemaCell (table : TableDef) :
    String × Value → Outcome (UInt16 × Value)
  | (name, value) =>
      match table.columnIndex name with
      | some index =>
          .ok (UInt16.ofNat index, value)
      | none =>
          fail s!"column {name} missing"

section Programs

variable
  {shards : Nat} [NeZero shards]
  (json : CatalogJson)

/-- Write one row of a system schema table past its pipeline. -/
def putSystemSchemaRow
    (table : String)
    (primaryKey : List String)
    (columns : List (String × Value)) :
    StorageProgram shards Fault Unit := do
  match ← getTable json "system_schema" table with
  | none =>
      .fail (.error s!"system_schema.{table} missing")
  | some definition => do
      let row ← .ofExcept (columns.mapM (systemSchemaCell definition))
      putRowSync "system_schema" table (primaryKey.map utf8)
        (encodeRowColumns row)

/-- Mirror the listed columns of a table one by one. -/
def mirrorColumns (table : TableDef) :
    List ColumnDef → StorageProgram shards Fault Unit
  | [] =>
      return ()
  | column :: rest => do
      let (kind, position, clusteringOrder) ←
        .ofExcept (columnRole table column)
      putSystemSchemaRow json "columns"
        [table.keyspace, table.name, column.name]
        (mirroredColumnCells column kind position clusteringOrder)
      mirrorColumns table rest

/-- Mirror a table: its own row and one row per column. -/
def mirrorTableMetadata (table : TableDef) : StorageProgram shards Fault Unit := do
  putSystemSchemaRow json "tables" [table.keyspace, table.name]
    mirroredTableCells
  mirrorColumns json table table.columns

/-- Execute a USE; the server changes the session when it answers. -/
def execUse
    (identifier : Identifier)
    (binds : Binds) :
    StorageProgram shards QueryFault (Executed shards) := do
  let keyspace := normId identifier
  match ← internally (getKeyspace json keyspace) with
  | none =>
      .fail (invalidErr s!"Keyspace '{keyspace}' does not exist")
  | some _ =>
      return ⟨.setKeyspace keyspace, [], binds⟩

/-- Execute a CREATE KEYSPACE. -/
def execCreateKeyspace
    (create : CreateKeyspace)
    (binds : Binds) :
    StorageProgram shards QueryFault (Executed shards) := do
  let name := normId create.name
  match ← internally (getKeyspace json name) with
  | some _ =>
      if create.ifNotExists then
        return ⟨.void, [], binds⟩
      else
        .fail (alreadyExistsErr name "")
  | none =>
      if name ∈ systemKeyspaces then
        .fail (invalidErr s!"Cannot create keyspace '{name}'")
      else do
        let definition : KeyspaceDef := ⟨name, create.replication⟩
        internally (putKeyspace json definition)
        internally (putSystemSchemaRow json "keyspaces" [name]
          (mirroredKeyspaceCells definition))
        return ⟨.schemaChange "CREATED" "KEYSPACE" name "", [], binds⟩

/-- The definition a CREATE TABLE is about to store, if it is acceptable. -/
def planCreateTable (keyspace table : String) (create : CreateTable) :
    QueryOutcome TableDef := do
  checkWritable keyspace
  match buildTableDef keyspace table create with
  | none =>
      .error (invalidErr <|
        "Unsupported column type; supported types: int, bigint, smallint, " ++
        "tinyint, float, double, boolean, text, varchar, ascii, blob, " ++
        "timestamp, uuid, inet")
  | some definition =>
      if definition.partitionKeys.isEmpty then
        .error (invalidErr "Primary key is required")
      else
        .ok definition

/-- Execute a CREATE TABLE. -/
def execCreateTable
    (sessionKs : Option String)
    (create : CreateTable)
    (binds : Binds) :
    StorageProgram shards QueryFault (Executed shards) := do
  let keyspace ← .ofExcept (nameKeyspace sessionKs create.name)
  let table := normId create.name.name
  match ← internally (getTable json keyspace table) with
  | some _ =>
      if create.ifNotExists then
        return ⟨.void, [], binds⟩
      else
        .fail (alreadyExistsErr keyspace table)
  | none => do
      let definition ← .ofExcept (planCreateTable keyspace table create)
      internally (putTable json definition)
      internally (mirrorTableMetadata json definition)
      return ⟨.schemaChange "CREATED" "TABLE" keyspace table, [], binds⟩

end Programs

end RhydaDB
