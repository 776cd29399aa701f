import RhydaDB.CatalogSpec
import RhydaDB.RowCodec

namespace RhydaDB

open ByteStrings AtomicPrograms Program Storage

/-!
# Seeding the system keyspaces

Opening a store defines the three system keyspaces and their tables, each
keyspace only if it is not there yet.  The driver tables are stubs; the node's
own row is the only data.
-/

/-- A column of a system table. -/
def col (name : String) (colType : ColumnType) (isPartitionKey : Bool) : ColumnDef where
  name := name
  colType := colType
  isPartitionKey := isPartitionKey
  isClustering := false

/-- The definition of `system.local`. -/
def localTable : TableDef where
  keyspace := "system"
  name := "local"
  columns :=
    [col "key" .text true,
      col "bootstrapped" .text false,
      col "broadcast_address" .inet false,
      col "cluster_name" .text false,
      col "cql_version" .text false,
      col "data_center" .text false,
      col "gossip_generation" .int false,
      col "host_id" .uuid false,
      col "listen_address" .inet false,
      col "native_protocol_version" .text false,
      col "partitioner" .text false,
      col "rack" .text false,
      col "release_version" .text false,
      col "rpc_address" .inet false,
      col "schema_version" .uuid false,
      col "tokens" (.set .text) false]
  partitionKeys := ["key"]
  clusteringKeys := []

/-- The definition of `system.peers`. -/
def peersTable : TableDef where
  keyspace := "system"
  name := "peers"
  columns :=
    [col "peer" .inet true,
      col "data_center" .text false,
      col "host_id" .uuid false,
      col "preferred_ip" .inet false,
      col "rack" .text false,
      col "release_version" .text false,
      col "rpc_address" .inet false,
      col "schema_version" .uuid false,
      col "tokens" (.set .text) false]
  partitionKeys := ["peer"]
  clusteringKeys := []

/-- The definition of `system_schema.keyspaces`. -/
def schemaKeyspacesTable : TableDef where
  keyspace := "system_schema"
  name := "keyspaces"
  columns :=
    [col "keyspace_name" .text true,
      col "durable_writes" .boolean false,
      col "replication" (.map .text .text) false]
  partitionKeys := ["keyspace_name"]
  clusteringKeys := []

/-- The definition of `system_schema.tables`. -/
def schemaTablesTable : TableDef where
  keyspace := "system_schema"
  name := "tables"
  columns :=
    [col "keyspace_name" .text true,
      col "table_name" .text true,
      col "bloom_filter_fp_chance" .double false,
      col "caching" (.map .text .text) false,
      col "comment" .text false,
      col "compaction" (.map .text .text) false,
      col "compression" (.map .text .text) false,
      col "crc_check_chance" .double false,
      col "dclocal_read_repair_chance" .double false,
      col "default_time_to_live" .int false,
      col "extensions" (.map .text .blob) false,
      col "flags" (.set .text) false,
      col "gc_grace_seconds" .int false,
      col "max_index_interval" .int false,
      col "memtable_flush_period_in_ms" .int false,
      col "min_index_interval" .int false,
      col "read_repair_chance" .double false,
      col "speculative_retry" .text false]
  partitionKeys := ["keyspace_name", "table_name"]
  clusteringKeys := []

/-- The definition of `system_schema.columns`. -/
def schemaColumnsTable : TableDef where
  keyspace := "system_schema"
  name := "columns"
  columns :=
    [col "keyspace_name" .text true,
      col "table_name" .text true,
      col "column_name" .text true,
      col "clustering_order" .text false,
      col "column_name_bytes" .blob false,
      col "kind" .text false,
      col "position" .int false,
      col "type" .text false]
  partitionKeys := ["keyspace_name", "table_name", "column_name"]
  clusteringKeys := []

/-- The definition of `system_schema.indexes`. -/
def schemaIndexesTable : TableDef where
  keyspace := "system_schema"
  name := "indexes"
  columns :=
    [col "keyspace_name" .text true,
      col "table_name" .text true,
      col "index_name" .text true,
      col "kind" .text false,
      col "options" .text false]
  partitionKeys := ["keyspace_name", "table_name", "index_name"]
  clusteringKeys := []

/-- The definition of `system_schema.triggers`. -/
def schemaTriggersTable : TableDef where
  keyspace := "system_schema"
  name := "triggers"
  columns :=
    [col "keyspace_name" .text true,
      col "table_name" .text true,
      col "trigger_name" .text true,
      col "options" .text false]
  partitionKeys := ["keyspace_name", "table_name", "trigger_name"]
  clusteringKeys := []

/-- The definition of `system_schema.types`. -/
def schemaTypesTable : TableDef where
  keyspace := "system_schema"
  name := "types"
  columns :=
    [col "keyspace_name" .text true,
      col "type_name" .text true,
      col "field_names" (.list .text) false,
      col "field_types" (.list .text) false]
  partitionKeys := ["keyspace_name", "type_name"]
  clusteringKeys := []

/-- The definition of `system_schema.functions`. -/
def schemaFunctionsTable : TableDef where
  keyspace := "system_schema"
  name := "functions"
  columns :=
    [col "keyspace_name" .text true,
      col "function_name" .text true,
      col "argument_names" (.list .text) false,
      col "argument_types" (.list .text) false,
      col "body" .text false,
      col "called_on_null_input" .boolean false,
      col "language" .text false,
      col "return_type" .text false,
      col "deterministic" .boolean false,
      col "monotonic" .boolean false,
      col "monotonic_on" (.set .text) false]
  partitionKeys := ["keyspace_name", "function_name", "argument_types"]
  clusteringKeys := []

/-- The definition of `system_schema.aggregates`. -/
def schemaAggregatesTable : TableDef where
  keyspace := "system_schema"
  name := "aggregates"
  columns :=
    [col "keyspace_name" .text true,
      col "aggregate_name" .text true,
      col "argument_types" (.list .text) true,
      col "deterministic" .boolean false,
      col "final_func" .text false,
      col "initcond" .text false,
      col "return_type" .text false,
      col "state_func" .text false,
      col "state_type" .text false]
  partitionKeys := ["keyspace_name", "aggregate_name", "argument_types"]
  clusteringKeys := []

/-- The definition of `system_schema.views`. -/
def schemaViewsTable : TableDef where
  keyspace := "system_schema"
  name := "views"
  columns :=
    [col "keyspace_name" .text true,
      col "view_name" .text true,
      col "base_table_name" .text false,
      col "include_all_columns" .boolean false,
      col "where_clause" .text false,
      col "bloom_filter_fp_chance" .double false,
      col "caching" (.map .text .text) false,
      col "comment" .text false,
      col "compaction" (.map .text .text) false,
      col "compression" (.map .text .text) false,
      col "crc_check_chance" .double false,
      col "dclocal_read_repair_chance" .double false,
      col "default_time_to_live" .int false,
      col "extensions" (.map .text .blob) false,
      col "flags" (.set .text) false,
      col "gc_grace_seconds" .int false,
      col "max_index_interval" .int false,
      col "memtable_flush_period_in_ms" .int false,
      col "min_index_interval" .int false,
      col "read_repair_chance" .double false,
      col "speculative_retry" .text false]
  partitionKeys := ["keyspace_name", "view_name"]
  clusteringKeys := []

/-- The definition of `system_virtual_schema.keyspaces`. -/
def virtualKeyspacesTable : TableDef where
  keyspace := "system_virtual_schema"
  name := "keyspaces"
  columns :=
    [col "keyspace_name" .text true,
      col "durable_writes" .boolean false,
      col "replication" (.map .text .text) false]
  partitionKeys := ["keyspace_name"]
  clusteringKeys := []

/-- The tables of the keyspace `system_schema`, in the order they are stored. -/
def sysSchemaDefs : List TableDef :=
  [schemaKeyspacesTable, schemaTablesTable, schemaColumnsTable,
    schemaIndexesTable, schemaTriggersTable, schemaTypesTable,
    schemaFunctionsTable, schemaAggregatesTable, schemaViewsTable]

/-- The loopback address. -/
def localhost : IpAddr :=
  .v4 ⟨[127, 0, 0, 1], rfl⟩

/-- The two identifiers drawn when the node's row is written. -/
structure NodeIds where
  hostId : List.Vector UInt8 16
  schemaVersion : List.Vector UInt8 16

/-- A node without identifiers of its own. -/
def zeroIds : NodeIds where
  hostId := ⟨List.replicate 16 0, rfl⟩
  schemaVersion := ⟨List.replicate 16 0, rfl⟩

/-- The node's own row. -/
def localRow (ids : NodeIds) : List (UInt16 × Value) :=
  [(0, .text "local"),
    (1, .text "COMPLETED"),
    (2, .inet localhost),
    (3, .text "RhydaDB Cluster"),
    (4, .text "3.4.5"),
    (5, .text "datacenter1"),
    (6, .int 0),
    (7, .uuid ids.hostId),
    (8, .inet localhost),
    (9, .text "4"),
    (10, .text "org.apache.cassandra.dht.Murmur3Partitioner"),
    (11, .text "rack1"),
    (12, .text "4.0.7"),
    (13, .inet localhost),
    (14, .uuid ids.schemaVersion),
    (15, .set [.text "-9223372036854775808"])]

section Programs

variable
  {shards : Nat} [NeZero shards]
  (json : CatalogJson)

/-- Store table definitions one by one. -/
def putTables : List TableDef → StorageProgram shards Fault Unit
  | [] =>
      return ()
  | table :: rest => do
      putTable json table
      putTables rest

/-- Define a system keyspace, unless it is there. -/
def seedKeyspace
    (name : String)
    (fill : StorageProgram shards Fault Unit) :
    StorageProgram shards Fault Unit := do
  match ← getKeyspace json name with
  | some _ =>
      return ()
  | none => do
      putKeyspace json ⟨name, []⟩
      fill

/-- The tables of the keyspace `system` and the node's row. -/
def fillSystem (ids : NodeIds) : StorageProgram shards Fault Unit := do
  putTable json localTable
  putRowSync "system" "local" [utf8 "local"] (encodeRowColumns (localRow ids))
  putTable json peersTable

/-- Define the system keyspaces that are not there yet. -/
def seedSystem (ids : NodeIds) : StorageProgram shards Fault Unit := do
  seedKeyspace json "system" (fillSystem json ids)
  seedKeyspace json "system_schema" (putTables json sysSchemaDefs)
  seedKeyspace json "system_virtual_schema" (putTable json virtualKeyspacesTable)

end Programs

/-! ## What seeding means -/

/-- A definition whose names contain no `!`. -/
def TableDef.Named (table : TableDef) : Prop :=
  BangFree table.keyspace ∧ BangFree table.name

instance (table : TableDef) : Decidable table.Named :=
  inferInstanceAs (Decidable (_ ∧ _))

/-- The name a definition is stored under. -/
def TableDef.tableName (table : TableDef) (named : table.Named) : TableName :=
  ⟨table.keyspace, table.name, named.1, named.2⟩

namespace Catalog

/-- Define a table under its own name. -/
def define (catalog : Catalog) (table : TableDef) : Catalog :=
  if named : table.Named then
    catalog.putTable (table.tableName named) table
  else
    catalog

/-- Define a system keyspace with its tables, unless it is there. -/
def seedKeyspace
    (catalog : Catalog)
    (name : String)
    (tables : List TableDef) :
    Catalog :=
  match catalog.keyspaces name with
  | some _ =>
      catalog
  | none =>
      tables.foldl define (catalog.putKeyspace name ⟨name, []⟩)

/-- Define the system keyspaces that are not there yet. -/
def seed (catalog : Catalog) : Catalog :=
  ((catalog.seedKeyspace "system" [localTable, peersTable]).seedKeyspace
    "system_schema" sysSchemaDefs).seedKeyspace
      "system_virtual_schema" [virtualKeyspacesTable]

end Catalog

variable
  {shards : Nat} [NeZero shards]
  {json : CatalogJson}
  {catalog recorded cached : Catalog}
  {permitted : PipelineLabel → Prop}

/-- Storing a definition defines the table. -/
theorem putTable_defines
    {table : TableDef}
    (named : table.Named) :
    Triple answer (engineRely permitted)
      (Catalogued json catalog catalog)
      (putTable json table : StorageProgram shards Fault _)
      (fun _ =>
        Catalogued json (catalog.define table) (catalog.define table))
      noFailure := by
  rw [Catalog.define, dif_pos named]
  exact putTable_catalogued rfl rfl

/-- Storing definitions defines the tables in order. -/
theorem putTables_defines
    {tables : List TableDef}
    (named : ∀ table ∈ tables, table.Named) :
    Triple answer (engineRely permitted)
      (Catalogued json catalog catalog)
      (putTables json tables : StorageProgram shards Fault _)
      (fun _ =>
        Catalogued json (tables.foldl Catalog.define catalog)
          (tables.foldl Catalog.define catalog))
      noFailure := by
  induction tables generalizing catalog with
  | nil =>
      exact .pure (Catalogued.kept _ _ _ _) fun _ holds => holds
  | cons table rest inductionHypothesis =>
      refine .bind (putTable_defines (named table (by simp))) fun _ => ?_
      exact inductionHypothesis fun table member =>
        named table (by simp [member])

/-- Writing a row past its pipeline keeps the catalog. -/
theorem putRowSync_catalogued
    (keyspace table : String)
    (keyParts : List Bytes)
    (value : Bytes) :
    Triple answer (engineRely permitted)
      (Catalogued json recorded cached)
      (putRowSync keyspace table keyParts value :
        StorageProgram shards Fault _)
      (fun _ => Catalogued json recorded cached)
      noFailure := by
  have isRow : dtPrefix <+: rowKey keyspace table keyParts := by
    simp [rowKey, dataPrefix, List.append_assoc]
  refine .act (Catalogued.kept _ _ _ _)
    (fun _ => Catalogued json recorded cached)
    (fun _ catalogued => catalogued.answer
      (not_not.mpr (WriteOp.onRows_put isRow value))) fun _ => ?_
  change Triple _ _ _ (if shouldCache keyspace then _ else _) _ _
  split
  · exact .act (Catalogued.kept _ _ _ _) _
      (fun _ catalogued => catalogued.mapCache _)
      fun _ => .pure (Catalogued.kept _ _ _ _) fun _ holds => holds
  · exact .pure (Catalogued.kept _ _ _ _) fun _ holds => holds

/-- Seeding one system keyspace. -/
theorem seedKeyspace_catalogued
    (roundTrips : json.RoundTrips)
    {name : String}
    {fill : StorageProgram shards Fault Unit}
    (tables : List TableDef)
    (fills :
      Triple answer (engineRely permitted)
        (Catalogued json (catalog.putKeyspace name ⟨name, []⟩)
          (catalog.putKeyspace name ⟨name, []⟩))
        fill
        (fun _ =>
          Catalogued json
            (tables.foldl Catalog.define
              (catalog.putKeyspace name ⟨name, []⟩))
            (tables.foldl Catalog.define
              (catalog.putKeyspace name ⟨name, []⟩)))
        noFailure) :
    Triple answer (engineRely permitted)
      (Catalogued json catalog catalog)
      (seedKeyspace json name fill)
      (fun _ =>
        Catalogued json (catalog.seedKeyspace name tables)
          (catalog.seedKeyspace name tables))
      noFailure := by
  refine .bind (getKeyspace_catalogued roundTrips name) fun found => ?_
  apply Triple.of_fact
  rintro rfl
  cases found : catalog.keyspaces name with
  | some keyspace =>
      simp only [Catalog.seedKeyspace, found]
      exact .pure (Catalogued.kept _ _ _ _) fun _ holds => holds
  | none =>
      simp only [Catalog.seedKeyspace, found]
      exact .bind (putKeyspace_catalogued ⟨name, []⟩) fun _ => fills

/-- Filling the keyspace `system` defines its tables. -/
theorem fillSystem_defines (ids : NodeIds) :
    Triple answer (engineRely permitted)
      (Catalogued json catalog catalog)
      (fillSystem json ids : StorageProgram shards Fault _)
      (fun _ =>
        Catalogued json ([localTable, peersTable].foldl Catalog.define catalog)
          ([localTable, peersTable].foldl Catalog.define catalog))
      noFailure := by
  refine .bind (putTable_defines (by decide)) fun _ => ?_
  refine .bind (putRowSync_catalogued _ _ _ _) fun _ => ?_
  exact putTable_defines (by decide)

/-- Seeding defines the system keyspaces that are missing. -/
theorem seedSystem_catalogued
    (roundTrips : json.RoundTrips)
    (ids : NodeIds) :
    Triple answer (engineRely permitted)
      (Catalogued json catalog catalog)
      (seedSystem json ids : StorageProgram shards Fault _)
      (fun _ => Catalogued json catalog.seed catalog.seed)
      noFailure := by
  refine .bind (seedKeyspace_catalogued roundTrips _ (fillSystem_defines ids))
    fun _ => ?_
  refine .bind (seedKeyspace_catalogued roundTrips _
    (putTables_defines (by decide))) fun _ => ?_
  exact seedKeyspace_catalogued roundTrips [virtualKeyspacesTable]
    (putTable_defines (by decide))

/-! ## Opening a store -/

/-- A store over empty engines has an empty catalog. -/
theorem catalogued_fresh (writeSync caching : Bool) :
    Catalogued json Catalog.empty Catalog.empty
      (Storage.fresh shards writeSync caching) where
  isOpen := fun _ => ⟨Pipeline.ordered_start _ _, rfl⟩
  queued := by
    simp [Storage.fresh, Pipeline.start, Pipeline.inFlight,
      Pipeline.committerBatch, Pipeline.collectorBatch]
  keyspaceRecord := by
    simp [Storage.fresh, Pipeline.start, Catalog.empty]
  tableRecord := by
    simp [Storage.fresh, Pipeline.start, Catalog.empty]
  keyspaceCached := fun _ _ held => nomatch held
  tableCached := fun _ _ held => nomatch held
  unnamedRecord := by
    simp [Storage.fresh, Pipeline.start]
  unnamedCached := fun _ _ _ => rfl

/-- A freshly opened store. -/
def Storage.opened
    (json : CatalogJson)
    (shards : Nat) [NeZero shards]
    (writeSync caching : Bool)
    (ids : NodeIds) :
    Storage shards :=
  ((seedSystem json ids).run answer (Storage.fresh shards writeSync caching)).2

/-- A freshly opened store holds the seeded catalog. -/
theorem catalogued_opened
    (roundTrips : json.RoundTrips)
    (writeSync caching : Bool)
    (ids : NodeIds) :
    Catalogued json Catalog.empty.seed Catalog.empty.seed
      (Storage.opened json shards writeSync caching ids) := by
  have seeds :
      (seedSystem json ids).Ensures answer (engineRely fun _ => True)
        (fun _ => Catalogued json Catalog.empty.seed Catalog.empty.seed)
        noFailure (Storage.fresh shards writeSync caching) :=
    seedSystem_catalogued roundTrips ids _ (catalogued_fresh writeSync caching)
  unfold Storage.opened
  rcases ran :
      (seedSystem json ids).run answer
        (Storage.fresh shards writeSync caching) with ⟨failure | _, final⟩
  · exact (seeds.abort_of_run ran).elim
  · exact seeds.post_of_run ran

end RhydaDB
