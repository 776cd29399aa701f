import RhydaDB.MirroredCatalog
import RhydaDB.CatalogHistory

namespace RhydaDB

open ByteStrings AtomicPrograms FiniteRuns Program Storage

/-!
# Statements that keep the mirror

Each statement that defines or drops keyspaces and tables changes the mirror as
it changes the catalog.  A dropped table's own row is deleted through a queue,
so a table of the same name must not be created before that deletion has been
written: the new row, written past the queue, would be deleted with the old one.
-/

/-! ## Tables and names of the mirror -/

/-- The tables of the mirror. -/
inductive MirrorTable where
  | keyspaces
  | tables
  | columns

namespace MirrorTable

/-- The definition of a table of the mirror. -/
def definition : MirrorTable → TableDef
  | .keyspaces =>
      schemaKeyspacesTable
  | .tables =>
      schemaTablesTable
  | .columns =>
      schemaColumnsTable

/-- The definitions have names without `!`. -/
theorem named (table : MirrorTable) : table.definition.Named := by
  cases table <;> decide

/-- The name of a table of the mirror. -/
def tableName (table : MirrorTable) : TableName :=
  table.definition.tableName table.named

/-- The tables of the mirror belong to its keyspace. -/
@[simp] theorem tableName_keyspace (table : MirrorTable) :
    table.tableName.keyspace = "system_schema" := by
  cases table <;> rfl

@[simp] theorem tableName_table (table : MirrorTable) :
    table.tableName.table = table.definition.name :=
  rfl

end MirrorTable

/-- The name's bytes fit a key part. -/
def Fits (name : String) : Prop :=
  (utf8 name).length ≤ 65535

instance (name : String) : Decidable (Fits name) :=
  inferInstanceAs (Decidable (_ ≤ _))

/-- Names that fit are key parts that fit. -/
theorem partsFit_map_utf8
    {names : List String}
    (fits : ∀ name ∈ names, Fits name) :
    PartsFit (names.map utf8) := by
  intro part member
  obtain ⟨name, isName, rfl⟩ := List.mem_map.mp member
  exact fits name isName

/-- The address of a row of the mirror. -/
def MirrorTable.address
    (table : MirrorTable)
    (names : List String)
    (nonempty : names ≠ [])
    (fits : ∀ name ∈ names, Fits name) :
    RowAddress where
  toTableName := table.tableName
  keyParts := names.map utf8
  nonempty := by
    simpa using nonempty
  fits := partsFit_map_utf8 fits

/-- The key of a row of the mirror. -/
theorem MirrorTable.address_key
    (table : MirrorTable)
    {names : List String}
    (nonempty : names ≠ [])
    (fits : ∀ name ∈ names, Fits name) :
    (table.address names nonempty fits).key =
      rowKey "system_schema" table.definition.name (names.map utf8) := by
  rw [RowAddress.key, MirrorTable.address, MirrorTable.tableName_keyspace,
    MirrorTable.tableName_table]

/-! ## The catalog and the mirror together -/

/-- A catalog the mirror can hold. -/
structure Catalog.Mirrorable (catalog : Catalog) : Prop where
  seeded :
    ∀ table : MirrorTable,
      catalog.tables table.tableName = some table.definition
  keyspaceNames :
    ∀ name keyspace,
      catalog.userKeyspace name = some keyspace →
      BangFree name ∧ Fits name
  tableNames :
    ∀ keyspace table definition,
      catalog.userTable keyspace table = some definition →
      Fits keyspace ∧ Fits table
  columnNames :
    ∀ keyspace table definition,
      catalog.userTable keyspace table = some definition →
      (definition.columns.map (·.name)).Nodup ∧
        ∀ column ∈ definition.columns, Fits column.name

variable
  {shards : Nat} [NeZero shards]
  {json : CatalogJson}
  {catalog : Catalog}
  {row : String → List String → Option Bytes}
  {pending : Bytes → Prop}

/-- The store holds a catalog, and its mirror will hold the given rows. -/
structure Mirroring
    (json : CatalogJson)
    (catalog : Catalog)
    (row : String → List String → Option Bytes)
    (pending : Bytes → Prop)
    (store : Storage shards) :
    Prop where
  catalogued : Catalogued json catalog catalog store
  mirrored : Mirrored (.ofStrings row) pending store

/-- The row a named row is set to. -/
def setNamed
    (row : String → List String → Option Bytes)
    (table : String)
    (names : List String)
    (value : Option Bytes) :
    String → List String → Option Bytes :=
  fun other others =>
    if other = table ∧ others = names then value else row other others

/-- A partition of named rows is removed. -/
def removeNamed
    (row : String → List String → Option Bytes)
    (table : String)
    (names : List String) :
    String → List String → Option Bytes :=
  fun other others =>
    if other = table ∧ names <+: others then none else row other others

namespace Mirroring

/-- Successful thread steps keep both. -/
theorem kept
    (json : CatalogJson)
    (catalog : Catalog)
    (row : String → List String → Option Bytes)
    (pending : Bytes → Prop) :
    backgroundRely.Keeps
      (Mirroring json catalog row pending : Storage shards → Prop) :=
  fun _ _ moved ⟨catalogued, mirrored⟩ =>
    ⟨Catalogued.kept _ _ _ _ moved catalogued,
      Mirrored.kept _ _ moved mirrored⟩

/-- A program that changes only the catalog. -/
theorem catalog_triple
    {α : Type}
    {program : StorageProgram shards Fault α}
    {later : Catalog}
    (onCatalog :
      Triple answer backgroundRely
        (Catalogued json catalog catalog)
        program
        (fun _ => Catalogued json later later)
        noFailure)
    (never : program.Never StorageAction.ChangesSchema) :
    Triple answer backgroundRely
      (Mirroring json catalog row pending)
      program
      (fun _ => Mirroring json later row pending)
      noFailure :=
  (onCatalog.and (mirrored_of_never never)).conseq
    (fun _ holds => ⟨holds.catalogued, holds.mirrored⟩)
    (fun _ _ holds => ⟨holds.1, holds.2⟩)
    fun _ _ fails => fails.1

/-- A program that changes only the mirror. -/
theorem mirror_triple
    {α : Type}
    {program : StorageProgram shards Fault α}
    {rowsAfter : String → List String → Option Bytes}
    {pendingAfter : Bytes → Prop}
    {abort : Fault → Storage shards → Prop}
    (onCatalog :
      Triple answer backgroundRely
        (Catalogued json catalog catalog)
        program
        (fun _ => Catalogued json catalog catalog)
        abort)
    (onMirror :
      Triple answer backgroundRely
        (Mirrored (.ofStrings row) pending)
        program
        (fun _ => Mirrored (.ofStrings rowsAfter) pendingAfter)
        noFailure) :
    Triple answer backgroundRely
      (Mirroring json catalog row pending)
      program
      (fun _ => Mirroring json catalog rowsAfter pendingAfter)
      noFailure :=
  (onCatalog.and onMirror).conseq
    (fun _ holds => ⟨holds.catalogued, holds.mirrored⟩)
    (fun _ _ holds => ⟨holds.1, holds.2⟩)
    fun _ _ fails => fails.2

/-- A lookup in the catalog changes nothing. -/
theorem lookup_triple
    {α : Type}
    {program : StorageProgram shards Fault α}
    {fact : α → Prop}
    (onCatalog :
      Triple answer backgroundRely
        (Catalogued json catalog catalog)
        program
        (fun value store =>
          fact value ∧ Catalogued json catalog catalog store)
        noFailure)
    (never : program.Never StorageAction.ChangesSchema) :
    Triple answer backgroundRely
      (Mirroring json catalog row pending)
      program
      (fun value store =>
        fact value ∧ Mirroring json catalog row pending store)
      noFailure :=
  (onCatalog.and (mirrored_of_never never)).conseq
    (fun _ holds => ⟨holds.catalogued, holds.mirrored⟩)
    (fun _ _ holds => ⟨holds.1.1, holds.1.2, holds.2⟩)
    fun _ _ fails => fails.1

end Mirroring

/-! ## Programs that write and remove rows -/

section Rows

variable
  (table : MirrorTable)
  {names : List String}
  (nonempty : names ≠ [])
  (fits : ∀ name ∈ names, Fits name)

include nonempty fits

/-- Writing a named row past the pipelines. -/
theorem putRowSync_named
    (notPending :
      ¬ pending
        (rowKey "system_schema" table.definition.name (names.map utf8)))
    (value : Bytes) :
    Triple answer backgroundRely
      (Mirrored (.ofStrings row) pending)
      (putRowSync "system_schema" table.definition.name (names.map utf8)
        value : StorageProgram shards Fault _)
      (fun _ =>
        Mirrored
          (.ofStrings (setNamed row table.definition.name names (some value)))
          pending)
      noFailure := by
  have inSchema :
      (table.address names nonempty fits).keyspace = "system_schema" :=
    table.tableName_keyspace
  rw [← table.address_key nonempty fits] at notPending
  have writes :
      Triple answer backgroundRely
        (Mirrored (.ofStrings row) pending)
        (putRowSync (table.address names nonempty fits).keyspace
          table.definition.name (names.map utf8) value :
            StorageProgram shards Fault _)
        _ noFailure :=
    putRowSync_mirrored inSchema notPending value
  rw [inSchema] at writes
  refine writes.conseq (fun _ => id) ?_ fun _ _ => id
  intro _ store mirrored
  have rows := SchemaRows.ofStrings_set row table.definition.name names (some value)
  exact rows ▸ mirrored

/-- Queueing the deletion of a named row. -/
theorem deleteRow_named :
    Triple answer backgroundRely
      (Mirrored (.ofStrings row) pending)
      (deleteRow "system_schema" table.definition.name (names.map utf8) :
        StorageProgram shards Fault _)
      (fun _ =>
        Mirrored (.ofStrings (setNamed row table.definition.name names none))
          fun key =>
            pending key ∨
              key =
                rowKey "system_schema" table.definition.name
                  (names.map utf8))
      noFailure := by
  have inSchema :
      (table.address names nonempty fits).keyspace = "system_schema" :=
    table.tableName_keyspace
  have deletes :
      Triple answer backgroundRely
        (Mirrored (.ofStrings row) pending)
        (deleteRow (table.address names nonempty fits).keyspace
          table.definition.name (names.map utf8) :
            StorageProgram shards Fault _)
        _ noFailure :=
    deleteRow_mirrored inSchema
  rw [inSchema] at deletes
  refine deletes.conseq (fun _ => id) ?_ fun _ _ => id
  intro _ store mirrored
  have rows := SchemaRows.ofStrings_set row table.definition.name names none
  rw [table.address_key nonempty fits] at mirrored
  exact rows ▸ mirrored

/-- Removing a partition of named rows. -/
theorem deleteSystemSchemaPartition_named :
    Triple answer backgroundRely
      (Mirrored (.ofStrings row) pending)
      (deleteSystemSchemaPartition table.definition.name (names.map utf8) :
        StorageProgram shards Fault _)
      (fun _ =>
        Mirrored (.ofStrings (removeNamed row table.definition.name names))
          pending)
      noFailure := by
  have someParts : names.map utf8 ≠ [] := by
    simpa using nonempty
  refine (deleteSystemSchemaPartition_mirrored table.tableName_keyspace
    someParts (partsFit_map_utf8 fits)).conseq (fun _ => id) ?_ fun _ _ => id
  intro _ store mirrored
  have rows :=
    SchemaRows.ofStrings_removePartition row table.definition.name names
  exact rows ▸ mirrored

/-- Writing a row of the mirror from its columns. -/
theorem putSystemSchemaRow_mirroring
    (roundTrips : json.RoundTrips)
    (seeded : catalog.tables table.tableName = some table.definition)
    {cells : List (String × Value)}
    (found :
      ∀ cell ∈ cells, (table.definition.columnIndex cell.1).isSome = true)
    (notPending :
      ¬ pending
        (rowKey "system_schema" table.definition.name (names.map utf8))) :
    Triple answer backgroundRely
      (Mirroring json catalog row pending)
      (putSystemSchemaRow json table.definition.name names cells :
        StorageProgram shards Fault _)
      (fun _ =>
        Mirroring json catalog
          (setNamed row table.definition.name names
            (some (encodeRowColumns (schemaCells table.definition cells))))
          pending)
      noFailure := by
  have looked :
      Triple answer backgroundRely
        (Mirroring json catalog row pending)
        (getTable json "system_schema" table.definition.name :
          StorageProgram shards Fault _)
        (fun answered store =>
          answered = some table.definition ∧
            Mirroring json catalog row pending store)
        noFailure := by
    rw [← seeded, ← table.tableName_keyspace]
    exact Mirroring.lookup_triple
      (getTable_catalogued roundTrips table.tableName)
      (never_getTable_changesSchema json _ _)
  refine .bind looked fun answered => ?_
  apply Triple.of_fact
  rintro rfl
  simp only [mapM_systemSchemaCell found, Program.ofExcept, return_bind]
  exact Mirroring.mirror_triple
    (putRowSync_catalogued _ _ _ _)
    (putRowSync_named table nonempty fits notPending _)

end Rows

/-- Removing a keyspace's partitions of the mirror. -/
theorem deleteSystemSchemaPartitions_mirroring
    {name : String}
    (fits : Fits name) :
    Triple answer backgroundRely
      (Mirroring json catalog row pending)
      (deleteSystemSchemaPartitions [utf8 name]
        ["keyspaces", "tables", "columns"] : StorageProgram shards Fault _)
      (fun _ =>
        Mirroring json catalog
          (removeNamed
            (removeNamed (removeNamed row "keyspaces" [name]) "tables" [name])
            "columns" [name])
          pending)
      noFailure := by
  have removes :
      ∀ (table : MirrorTable) {label : String} row,
        table.definition.name = label →
        Triple answer backgroundRely
          (Mirroring json catalog row pending)
          (deleteSystemSchemaPartition label [utf8 name] :
            StorageProgram shards Fault _)
          (fun _ =>
            Mirroring json catalog (removeNamed row label [name]) pending)
          noFailure := by
    rintro table _ row rfl
    have removed :
        Triple answer backgroundRely
          (Mirrored (.ofStrings row) pending)
          (deleteSystemSchemaPartition table.definition.name
            ([name].map utf8) : StorageProgram shards Fault _)
          _ noFailure :=
      deleteSystemSchemaPartition_named table (List.cons_ne_nil _ _)
        (by simpa using fits)
    exact Mirroring.mirror_triple (catalogued_of_never
      (never_deleteSystemSchemaPartition_changesCatalog _ _)) removed
  simp only [deleteSystemSchemaPartitions]
  refine .bind (removes .keyspaces _ rfl) fun _ => ?_
  refine .bind (removes .tables _ rfl) fun _ => ?_
  refine .bind (removes .columns _ rfl) fun _ => ?_
  exact .pure (Mirroring.kept _ _ _ _) fun _ => id

/-- Removing a table's rows of the mirror, its own row through its queue. -/
theorem unmirrorTableMetadata_mirroring
    {keyspace table : String}
    (keyspaceFits : Fits keyspace)
    (tableFits : Fits table) :
    Triple answer backgroundRely
      (Mirroring json catalog row pending)
      (unmirrorTableMetadata keyspace table : StorageProgram shards Fault _)
      (fun _ =>
        Mirroring json catalog
          (removeNamed (setNamed row "tables" [keyspace, table] none)
            "columns" [keyspace, table])
          fun key =>
            pending key ∨
              key =
                rowKey "system_schema" "tables"
                  ([keyspace, table].map utf8))
      noFailure := by
  have fits : ∀ name ∈ [keyspace, table], Fits name := by
    simp [keyspaceFits, tableFits]
  have deletes :
      Triple answer backgroundRely
        (Mirrored (.ofStrings row) pending)
        (deleteRow "system_schema" "tables" ([keyspace, table].map utf8) :
          StorageProgram shards Fault _)
        _ noFailure :=
    deleteRow_named .tables (List.cons_ne_nil _ _) fits
  have removes :
      Triple answer backgroundRely
        (Mirrored (.ofStrings (setNamed row "tables" [keyspace, table] none))
          fun key =>
            pending key ∨
              key =
                rowKey "system_schema" "tables" ([keyspace, table].map utf8))
        (deleteSystemSchemaPartition "columns" ([keyspace, table].map utf8) :
          StorageProgram shards Fault _)
        _ noFailure :=
    deleteSystemSchemaPartition_named .columns (List.cons_ne_nil _ _) fits
  refine .bind (Mirroring.mirror_triple (catalogued_of_never
    (never_deleteRow_changesCatalog _ _ _)) deletes) fun _ => ?_
  exact Mirroring.mirror_triple (catalogued_of_never
    (never_deleteSystemSchemaPartition_changesCatalog _ _)) removes

/-- A row whose column names the table has. -/
theorem columnIndex_found
    {table : TableDef}
    {cells : List (String × Value)}
    {names : List String}
    (cellNames : cells.map Prod.fst = names)
    (found : ∀ name ∈ names, (table.columnIndex name).isSome = true) :
    ∀ cell ∈ cells, (table.columnIndex cell.1).isSome = true := by
  intro cell member
  refine found cell.1 ?_
  rw [← cellNames]
  exact List.mem_map_of_mem member

/-- The cells of a column's row are columns of the mirror. -/
theorem mirroredColumnCells_found
    (column : ColumnDef)
    (kind : String)
    (position : Int32)
    (clusteringOrder : String) :
    ∀ cell ∈ mirroredColumnCells column kind position clusteringOrder,
      (schemaColumnsTable.columnIndex cell.1).isSome = true := by
  have names :
      (mirroredColumnCells column kind position clusteringOrder).map Prod.fst =
        ["clustering_order", "column_name_bytes", "kind", "position", "type"] :=
    rfl
  exact columnIndex_found names (by decide)

/-- The cells of a table's row are columns of the mirror. -/
theorem mirroredTableCells_found :
    ∀ cell ∈ mirroredTableCells,
      (schemaTablesTable.columnIndex cell.1).isSome = true :=
  columnIndex_found rfl (by decide)

/-- The cells of a keyspace's row are columns of the mirror. -/
theorem mirroredKeyspaceCells_found (keyspace : KeyspaceDef) :
    ∀ cell ∈ mirroredKeyspaceCells keyspace,
      (schemaKeyspacesTable.columnIndex cell.1).isSome = true := by
  have names :
      (mirroredKeyspaceCells keyspace).map Prod.fst =
        ["durable_writes", "replication"] :=
    rfl
  exact columnIndex_found names (by decide)

/-- Mirroring columns one by one; a key flag without its key name panics. -/
theorem mirrorColumns_mirroring
    (roundTrips : json.RoundTrips)
    (seeded :
      catalog.tables MirrorTable.columns.tableName = some schemaColumnsTable)
    {definition : TableDef}
    (keyspaceFits : Fits definition.keyspace)
    (tableFits : Fits definition.name)
    {columns : List ColumnDef}
    (columnsFit : ∀ column ∈ columns, Fits column.name)
    (notPending :
      ∀ parts, ¬ pending (rowKey "system_schema" "columns" parts)) :
    Triple answer backgroundRely
      (Mirroring json catalog row pending)
      (mirrorColumns json definition columns : StorageProgram shards Fault _)
      (fun _ =>
        Mirroring json catalog
          (Catalog.mirroredColumns row definition columns) pending)
      (fun fault _ => fault = .panic) := by
  induction columns generalizing row with
  | nil =>
      exact .pure (Mirroring.kept _ _ _ _) fun _ => id
  | cons column rest inductionHypothesis =>
      rcases columnRole_eq definition column with role | panics
      · have fits :
            ∀ name ∈ [definition.keyspace, definition.name, column.name],
              Fits name := by
          simp [keyspaceFits, tableFits, columnsFit column (by simp)]
        have writes :
            Triple answer backgroundRely
              (Mirroring json catalog row pending)
              (putSystemSchemaRow json "columns"
                [definition.keyspace, definition.name, column.name]
                (mirroredColumnCells column (columnKind definition column).1
                  (columnKind definition column).2.1
                  (columnKind definition column).2.2) :
                    StorageProgram shards Fault _)
              _ noFailure :=
          putSystemSchemaRow_mirroring .columns (List.cons_ne_nil _ _) fits
            roundTrips seeded (mirroredColumnCells_found _ _ _ _)
            (notPending _)
        simp only [mirrorColumns, role, Program.ofExcept, return_bind]
        refine .bind (writes.conseq (fun _ => id) (fun _ _ => id)
          fun _ _ => False.elim) fun _ => ?_
        exact inductionHypothesis fun column member =>
          columnsFit column (by simp [member])
      · simp only [mirrorColumns, panics, Program.ofExcept, fail_bind]
        exact .fail (Mirroring.kept _ _ _ _) fun _ _ => rfl

/-! ## Catalogs the mirror can hold -/

namespace Catalog.Mirrorable

/-- A user table is no table of the mirror. -/
theorem tableName_ne
    {name : TableName}
    (isUser : name.keyspace ∉ systemKeyspaces)
    (table : MirrorTable) :
    table.tableName ≠ name := by
  rintro rfl
  exact isUser (by simp [systemKeyspaces])

/-- Defining a keyspace whose name can be mirrored. -/
theorem putKeyspace
    (mirrorable : catalog.Mirrorable)
    {name : String}
    (free : BangFree name)
    (fits : Fits name)
    (keyspace : KeyspaceDef) :
    (catalog.putKeyspace name keyspace).Mirrorable := by
  refine ⟨mirrorable.seeded, ?_, mirrorable.tableNames, mirrorable.columnNames⟩
  intro other found exists_
  by_cases same : other = name
  · subst same
    exact ⟨free, fits⟩
  · refine mirrorable.keyspaceNames other found ?_
    simpa [userKeyspace, Catalog.putKeyspace, same] using exists_

/-- Defining a user table whose names can be mirrored. -/
theorem putTable
    (mirrorable : catalog.Mirrorable)
    {name : TableName}
    (isUser : name.keyspace ∉ systemKeyspaces)
    (keyspaceFits : Fits name.keyspace)
    (tableFits : Fits name.table)
    {definition : TableDef}
    (distinct : (definition.columns.map (·.name)).Nodup)
    (columnsFit : ∀ column ∈ definition.columns, Fits column.name) :
    (catalog.putTable name definition).Mirrorable := by
  refine ⟨?_, mirrorable.keyspaceNames, ?_, ?_⟩
  · intro table
    simp [Catalog.putTable, tableName_ne isUser, mirrorable.seeded]
  · intro keyspace table found exists_
    rw [userTable_putTable _ isUser] at exists_
    split at exists_
    · rename_i here
      rw [here.1, here.2]
      exact ⟨keyspaceFits, tableFits⟩
    · exact mirrorable.tableNames keyspace table found exists_
  · intro keyspace table found exists_
    rw [userTable_putTable _ isUser] at exists_
    split at exists_
    · cases exists_
      exact ⟨distinct, columnsFit⟩
    · exact mirrorable.columnNames keyspace table found exists_

/-- Forgetting a user table. -/
theorem deleteTable
    (mirrorable : catalog.Mirrorable)
    {name : TableName}
    (isUser : name.keyspace ∉ systemKeyspaces) :
    (catalog.deleteTable name).Mirrorable := by
  have kept :
      ∀ keyspace table definition,
        (catalog.deleteTable name).userTable keyspace table =
          some definition →
        catalog.userTable keyspace table = some definition := by
    intro keyspace table definition exists_
    rw [userTable_deleteTable] at exists_
    split at exists_
    · cases exists_
    · exact exists_
  refine ⟨?_, mirrorable.keyspaceNames, ?_, ?_⟩
  · intro table
    simp [Catalog.deleteTable, tableName_ne isUser, mirrorable.seeded]
  · exact fun keyspace table found exists_ =>
      mirrorable.tableNames keyspace table found (kept _ _ _ exists_)
  · exact fun keyspace table found exists_ =>
      mirrorable.columnNames keyspace table found (kept _ _ _ exists_)

/-- Forgetting a user keyspace. -/
theorem deleteKeyspace
    (mirrorable : catalog.Mirrorable)
    {name : String}
    (isUser : name ∉ systemKeyspaces) :
    (catalog.deleteKeyspace name).Mirrorable := by
  have kept :
      ∀ keyspace table definition,
        (catalog.deleteKeyspace name).userTable keyspace table =
          some definition →
        catalog.userTable keyspace table = some definition := by
    intro keyspace table definition exists_
    rw [userTable_deleteKeyspace] at exists_
    split at exists_
    · cases exists_
    · exact exists_
  refine ⟨?_, ?_, ?_, ?_⟩
  · intro table
    have different : "system_schema" ≠ name := by
      rintro rfl
      exact isUser (by decide)
    simp [Catalog.deleteKeyspace, forgetTables, forgetKeyspace, different,
      mirrorable.seeded]
  · intro other found exists_
    refine mirrorable.keyspaceNames other found ?_
    by_cases same : other = name
    · simp [userKeyspace, Catalog.deleteKeyspace, forgetTables,
        forgetKeyspace, same] at exists_
    · simpa [userKeyspace, Catalog.deleteKeyspace, forgetTables,
        forgetKeyspace, same] using exists_
  · exact fun keyspace table found exists_ =>
      mirrorable.tableNames keyspace table found (kept _ _ _ exists_)
  · exact fun keyspace table found exists_ =>
      mirrorable.columnNames keyspace table found (kept _ _ _ exists_)

/-- The freshly seeded catalog has nothing to mirror. -/
theorem seed :
    Catalog.empty.seed.Mirrorable ∧
      ∀ table names, Catalog.empty.seed.schemaRow table names = none := by
  have follows : Catalog.empty.seed.Follows [] :=
    Catalog.Follows.seed ⟨fun _ _ => rfl, fun _ _ => rfl⟩
  have noKeyspace :
      ∀ name, Catalog.empty.seed.userKeyspace name = none := by
    intro name
    unfold userKeyspace
    split
    · rfl
    · rename_i isUser
      exact follows.keyspaces name isUser
  have noTable :
      ∀ keyspace table,
        Catalog.empty.seed.userTable keyspace table = none := by
    intro keyspace table
    unfold userTable
    split
    · split
      · rfl
      · rename_i isUser
        exact follows.tables _ isUser
    · rfl
  refine ⟨⟨?_, ?_, ?_, ?_⟩, ?_⟩
  · intro table
    cases table <;> decide +kernel
  · simp [noKeyspace]
  · simp [noTable]
  · simp [noTable]
  · intro table names
    rcases names with _ | ⟨first, _ | ⟨second, _ | ⟨third, _ | _⟩⟩⟩ <;>
      simp [schemaRow, noKeyspace, noTable]

end Catalog.Mirrorable

/-! ## Statements -/

/-- A row of another table of the mirror has another key. -/
theorem rowKey_ne
    {first second : String}
    (apart :
      ¬ dataPrefix "system_schema" first <+:
          dataPrefix "system_schema" second ∧
        ¬ dataPrefix "system_schema" second <+:
          dataPrefix "system_schema" first)
    (parts others : List Bytes) :
    rowKey "system_schema" first parts ≠
      rowKey "system_schema" second others := by
  intro same
  have below : dataPrefix "system_schema" first <+:
      rowKey "system_schema" second others := by
    rw [← same]
    exact List.prefix_append _ _
  rcases List.prefix_or_prefix_of_prefix below (List.prefix_append _ _) with
    shorter | longer
  · exact apart.1 shorter
  · exact apart.2 longer

/-- Only rows of tables themselves are deleted through queues. -/
def OnlyTableRows (pending : Bytes → Prop) : Prop :=
  ∀ key,
    pending key →
    ∃ parts, key = rowKey "system_schema" "tables" parts

/-- Once the queues are written, the mirror will be that of the catalog. -/
def Mirrors (json : CatalogJson) (store : Storage shards) : Prop :=
  ∃ catalog pending,
    catalog.Mirrorable ∧
      OnlyTableRows pending ∧
      Mirroring json catalog catalog.schemaRow pending store

/-- Successful thread steps keep that. -/
theorem mirrors_kept :
    backgroundRely.Keeps (Mirrors json : Storage shards → Prop) := by
  rintro before after moved ⟨catalog, pending, mirrorable, only, mirroring⟩
  exact ⟨catalog, pending, mirrorable, only,
    Mirroring.kept _ _ _ _ moved mirroring⟩

omit [NeZero shards] in
/-- An internal program that fails only by a panic. -/
theorem internally_panics
    {α : Type}
    {program : StorageProgram shards Fault α}
    {pre : Storage shards → Prop}
    {post : α → Storage shards → Prop}
    {abort : Storage shards → Prop}
    (triple :
      Triple answer backgroundRely pre program post
        fun fault _ => fault = .panic) :
    Triple answer backgroundRely pre (internally program) post
      fun fault store => fault ≠ .panic → abort store := by
  refine .mapFailure (triple.conseq (fun _ => id) (fun _ _ => id) ?_)
  rintro fault store rfl noPanic
  exact absurd rfl noPanic

section Statements

variable
  (roundTrips : json.RoundTrips)
  {store : Storage shards}

include roundTrips

/-- A lookup finds no table only if the catalog has none of that name. -/
theorem getTable_looked
    {permitted : PipelineLabel → Prop}
    (keyspace table : String) :
    Triple answer (engineRely permitted)
      (Catalogued json catalog catalog)
      (getTable json keyspace table : StorageProgram shards Fault _)
      (fun found store =>
        (∀ name : TableName,
          name.keyspace = keyspace →
          name.table = table →
          catalog.tables name = found) ∧
          Catalogued json catalog catalog store)
      noFailure := by
  by_cases named : BangFree keyspace ∧ BangFree table
  · let name : TableName := ⟨keyspace, table, named.1, named.2⟩
    refine (getTable_catalogued roundTrips name).conseq (fun _ => id) ?_
      fun _ _ => id
    rintro found store ⟨rfl, catalogued⟩
    refine ⟨fun other keyspaces tables => ?_, catalogued⟩
    exact congrArg _ (TableName.ext_names keyspaces tables)
  · refine (getTable_unnamed named).conseq (fun _ => id) ?_ fun _ _ => id
    rintro found store ⟨rfl, catalogued⟩
    refine ⟨?_, catalogued⟩
    rintro name rfl rfl
    exact absurd ⟨name.keyspaceFree, name.tableFree⟩ named

/-- A USE changes nothing. -/
theorem execUse_mirrors
    (identifier : Identifier)
    (binds : Binds) :
    Triple answer backgroundRely
      (Mirrors json)
      (execUse json identifier binds : StorageProgram shards QueryFault _)
      (fun _ => Mirrors json)
      (fun fault store => fault ≠ .panic → Mirrors json store) := by
  rintro store ⟨catalog, pending, mirrorable, only, mirroring⟩
  refine Triple.bind (internally_noFailure (Mirroring.lookup_triple
    (getKeyspace_catalogued roundTrips (normId identifier))
    (never_getKeyspace_changesSchema json _))) (fun found => ?_) store
    mirroring
  apply Triple.of_fact
  intro _
  cases found with
  | none =>
      exact .fail (Mirroring.kept _ _ _ _) fun _ holds _ =>
        ⟨catalog, pending, mirrorable, only, holds⟩
  | some keyspace =>
      exact .pure (Mirroring.kept _ _ _ _) fun _ holds =>
        ⟨catalog, pending, mirrorable, only, holds⟩

/-- A CREATE KEYSPACE mirrors a keyspace whose name can be mirrored. -/
theorem execCreateKeyspace_mirrors
    {create : CreateKeyspace}
    (free : BangFree (normId create.name))
    (fits : Fits (normId create.name))
    (binds : Binds) :
    Triple answer backgroundRely
      (Mirrors json)
      (execCreateKeyspace json create binds :
        StorageProgram shards QueryFault _)
      (fun _ => Mirrors json)
      (fun fault store => fault ≠ .panic → Mirrors json store) := by
  rintro store ⟨catalog, pending, mirrorable, only, mirroring⟩
  have kept :
      backgroundRely.Keeps (Mirroring json catalog catalog.schemaRow pending :
        Storage shards → Prop) :=
    Mirroring.kept _ _ _ _
  have same :
      ∀ store : Storage shards,
        Mirroring json catalog catalog.schemaRow pending store →
        Mirrors json store :=
    fun _ holds => ⟨catalog, pending, mirrorable, only, holds⟩
  refine Triple.bind (internally_noFailure (Mirroring.lookup_triple
    (getKeyspace_catalogued roundTrips (normId create.name))
    (never_getKeyspace_changesSchema json _))) (fun found => ?_) store
    mirroring
  apply Triple.of_fact
  intro _
  cases found with
  | some keyspace =>
      simp only
      split
      · exact .pure kept same
      · exact .fail kept fun store holds _ => same store holds
  | none =>
      simp only
      split
      · exact .fail kept fun store holds _ => same store holds
      · rename_i isUser
        have notPending :
            ¬ pending
              (rowKey "system_schema" "keyspaces"
                ([normId create.name].map utf8)) := by
          intro isPending
          obtain ⟨parts, key⟩ := only _ isPending
          exact rowKey_ne (by decide) _ _ key
        have defined :=
          mirrorable.putKeyspace free fits
            ⟨normId create.name, create.replication⟩
        refine .bind (internally_noFailure (Mirroring.catalog_triple
          (putKeyspace_catalogued _) (never_putKeyspace_changesSchema json _)))
          fun _ => ?_
        refine .bind (internally_noFailure (putSystemSchemaRow_mirroring
          .keyspaces (List.cons_ne_nil _ _) (by simpa using fits) roundTrips
          (defined.seeded .keyspaces) (mirroredKeyspaceCells_found _)
          notPending)) fun _ => ?_
        refine .pure (Mirroring.kept _ _ _ _) fun store holds =>
          ⟨_, pending, defined, only, ?_⟩
        rw [Catalog.schemaRow_putKeyspace _ isUser]
        exact holds

/-- A DROP KEYSPACE removes the keyspace's partitions. -/
theorem execDropKeyspace_mirrors
    (drop : CommonDrop)
    (binds : Binds) :
    Triple answer backgroundRely
      (Mirrors json)
      (execDropKeyspace json drop binds : StorageProgram shards QueryFault _)
      (fun _ => Mirrors json)
      (fun fault store => fault ≠ .panic → Mirrors json store) := by
  rintro store ⟨catalog, pending, mirrorable, only, mirroring⟩
  have kept :
      backgroundRely.Keeps (Mirroring json catalog catalog.schemaRow pending :
        Storage shards → Prop) :=
    Mirroring.kept _ _ _ _
  have same :
      ∀ store : Storage shards,
        Mirroring json catalog catalog.schemaRow pending store →
        Mirrors json store :=
    fun _ holds => ⟨catalog, pending, mirrorable, only, holds⟩
  refine Triple.bind (internally_noFailure (Mirroring.lookup_triple
    (getKeyspace_catalogued roundTrips (normId drop.name.name))
    (never_getKeyspace_changesSchema json _))) (fun found => ?_) store
    mirroring
  apply Triple.of_fact
  rintro rfl
  cases found : catalog.keyspaces (normId drop.name.name) with
  | none =>
      simp only
      split
      · exact .pure kept same
      · exact .fail kept fun store holds _ => same store holds
  | some keyspace =>
      simp only [checkWritable]
      split
      · exact .fail kept fun store holds _ => same store holds
      · rename_i isUser
        have exists_ :
            catalog.userKeyspace (normId drop.name.name) = some keyspace := by
          simp [Catalog.userKeyspace, isUser, found]
        obtain ⟨free, fits⟩ := mirrorable.keyspaceNames _ _ exists_
        have notSchema : normId drop.name.name ≠ "system_schema" := by
          intro isSchema
          exact isUser (by simp [isSchema, systemKeyspaces])
        simp only [Program.ofExcept, return_bind]
        refine .bind (internally_noFailure (Mirroring.catalog_triple
          (deleteKeyspace_catalogued _)
          (never_deleteKeyspace_changesSchema free notSchema)))
          fun tickets => ?_
        refine .bind (internally_noFailure
          (deleteSystemSchemaPartitions_mirroring fits)) fun _ => ?_
        refine .pure (Mirroring.kept _ _ _ _) fun store holds =>
          ⟨_, pending, mirrorable.deleteKeyspace isUser, only, ?_⟩
        rw [Catalog.schemaRow_deleteKeyspace]
        exact holds

/-- A DROP TABLE removes the table's row, once the queues are written. -/
theorem execDropTable_mirrors
    (sessionKs : Option String)
    (drop : CommonDrop)
    (binds : Binds) :
    Triple answer backgroundRely
      (Mirrors json)
      (execDropTable json sessionKs drop binds :
        StorageProgram shards QueryFault _)
      (fun _ => Mirrors json)
      (fun fault store => fault ≠ .panic → Mirrors json store) := by
  rintro store ⟨catalog, pending, mirrorable, only, mirroring⟩
  have kept :
      backgroundRely.Keeps (Mirroring json catalog catalog.schemaRow pending :
        Storage shards → Prop) :=
    Mirroring.kept _ _ _ _
  have same :
      ∀ store : Storage shards,
        Mirroring json catalog catalog.schemaRow pending store →
        Mirrors json store :=
    fun _ holds => ⟨catalog, pending, mirrorable, only, holds⟩
  cases named : nameKeyspace sessionKs drop.name with
  | error fault =>
      simp only [execDropTable, named, Program.ofExcept, fail_bind]
      exact Triple.fail kept (fun store holds _ => same store holds) store
        mirroring
  | ok keyspace =>
      simp only [execDropTable, named, Program.ofExcept, return_bind]
      refine Triple.bind (internally_noFailure (Mirroring.lookup_triple
        (getTable_found roundTrips _ _)
        (never_getTable_changesSchema json _ _))) (fun found => ?_) store
        mirroring
      apply Triple.of_fact
      intro looked
      cases found with
      | none =>
          simp only
          split
          · exact .pure kept same
          · exact .fail kept fun store holds _ => same store holds
      | some definition =>
          obtain ⟨name, rfl, sameTable, exists_⟩ := looked definition rfl
          rw [← sameTable]
          by_cases isUser : name.keyspace ∈ systemKeyspaces
          · simp only [checkWritable, isUser, if_true, fail_bind]
            exact .fail kept fun store holds _ => same store holds
          · simp only [checkWritable, isUser, if_false, return_bind]
            rw [← catalog.userTable_name isUser] at exists_
            obtain ⟨keyspaceFits, tableFits⟩ :=
              mirrorable.tableNames _ _ _ exists_
            have notSchema : name.keyspace ≠ "system_schema" := by
              intro isSchema
              exact isUser (by simp [isSchema, systemKeyspaces])
            refine .bind (internally_noFailure (Mirroring.catalog_triple
              (deleteTable_catalogued name)
              (never_deleteTable_changesSchema name.keyspaceFree notSchema _)))
              fun tickets => ?_
            refine .bind (internally_noFailure
              (unmirrorTableMetadata_mirroring keyspaceFits tableFits))
              fun _ => ?_
            have stillOnly :
                OnlyTableRows fun key =>
                  pending key ∨
                    key =
                      rowKey "system_schema" "tables"
                        ([name.keyspace, name.table].map utf8) := by
              rintro key (before | rfl)
              · exact only key before
              · exact ⟨_, rfl⟩
            refine .pure (Mirroring.kept _ _ _ _) fun store holds =>
              ⟨_, _, mirrorable.deleteTable isUser, stillOnly, ?_⟩
            rw [Catalog.schemaRow_deleteTable]
            exact holds

omit roundTrips

/-- No deletion of the table's own row of the mirror is queued. -/
def NoQueuedDeletion (keyspace table : String) (store : Storage shards) : Prop :=
  ∀ engine,
    ∀ queued ∈ (store.engines engine).inFlight,
      queued.op ≠
        .delete (rowKey "system_schema" "tables" [utf8 keyspace, utf8 table])

instance (keyspace table : String) (store : Storage shards) :
    Decidable (NoQueuedDeletion keyspace table store) :=
  inferInstanceAs (Decidable (∀ _, _))

/-- The definition's names can be mirrored and its columns told apart. -/
def TableDef.Mirrorable (definition : TableDef) : Prop :=
  (BangFree definition.keyspace ∧ Fits definition.keyspace) ∧
    (BangFree definition.name ∧ Fits definition.name) ∧
    (definition.columns.map (·.name)).Nodup ∧
    ∀ column ∈ definition.columns, Fits column.name

instance (definition : TableDef) : Decidable definition.Mirrorable :=
  inferInstanceAs (Decidable (_ ∧ _))

/-- What a CREATE TABLE that passes its own checks relies on. -/
def CreatesMirrored
    (sessionKs : Option String)
    (create : CreateTable)
    (store : Storage shards) :
    Prop :=
  match nameKeyspace sessionKs create.name with
  | .error _ =>
      True
  | .ok keyspace =>
      match planCreateTable keyspace (normId create.name.name) create with
      | .error _ =>
          True
      | .ok definition =>
          definition.Mirrorable ∧
            NoQueuedDeletion keyspace (normId create.name.name) store

instance
    (sessionKs : Option String)
    (create : CreateTable)
    (store : Storage shards) :
    Decidable (CreatesMirrored sessionKs create store) :=
  match named : nameKeyspace sessionKs create.name with
  | .error _ =>
      isTrue (by simp [CreatesMirrored, named])
  | .ok keyspace =>
      match planned :
          planCreateTable keyspace (normId create.name.name) create with
      | .error _ =>
          isTrue (by simp [CreatesMirrored, named, planned])
      | .ok definition =>
          decidable_of_iff
            (definition.Mirrorable ∧
              NoQueuedDeletion keyspace (normId create.name.name) store)
            (by simp [CreatesMirrored, named, planned])

/-- Mirroring a table: its row and its columns' rows. -/
theorem mirrorTableMetadata_mirroring
    (roundTrips : json.RoundTrips)
    (mirrorable : catalog.Mirrorable)
    (only : OnlyTableRows pending)
    {definition : TableDef}
    (keyspaceFits : Fits definition.keyspace)
    (tableFits : Fits definition.name)
    (columnsFit : ∀ column ∈ definition.columns, Fits column.name)
    (notPending :
      ¬ pending
        (rowKey "system_schema" "tables"
          [utf8 definition.keyspace, utf8 definition.name])) :
    Triple answer backgroundRely
      (Mirroring json catalog row pending)
      (mirrorTableMetadata json definition : StorageProgram shards Fault _)
      (fun _ =>
        Mirroring json catalog
          (Catalog.mirroredColumns
            (setNamed row "tables" [definition.keyspace, definition.name]
              (some tableRow))
            definition definition.columns)
          pending)
      (fun fault _ => fault = .panic) := by
  have fits :
      ∀ name ∈ [definition.keyspace, definition.name], Fits name := by
    simp [keyspaceFits, tableFits]
  have writes :
      Triple answer backgroundRely
        (Mirroring json catalog row pending)
        (putSystemSchemaRow json "tables"
          [definition.keyspace, definition.name] mirroredTableCells :
            StorageProgram shards Fault _)
        _ noFailure :=
    putSystemSchemaRow_mirroring .tables (List.cons_ne_nil _ _) fits roundTrips
      (mirrorable.seeded .tables) mirroredTableCells_found notPending
  have notColumns :
      ∀ parts, ¬ pending (rowKey "system_schema" "columns" parts) := by
    intro parts isPending
    obtain ⟨others, key⟩ := only _ isPending
    exact rowKey_ne (by decide) _ _ key
  refine .bind (writes.conseq (fun _ => id) (fun _ _ => id)
    fun _ _ => False.elim) fun _ => ?_
  exact mirrorColumns_mirroring roundTrips (mirrorable.seeded .columns)
    keyspaceFits tableFits columnsFit notColumns

/-- A CREATE TABLE mirrors a table whose old row is not about to be deleted. -/
theorem execCreateTable_mirrors
    (roundTrips : json.RoundTrips)
    {sessionKs : Option String}
    {create : CreateTable}
    (creates : CreatesMirrored sessionKs create store)
    (holds : Mirrors json store)
    (binds : Binds) :
    (execCreateTable json sessionKs create binds :
      StorageProgram shards QueryFault _).Ensures answer backgroundRely
        (fun _ => Mirrors json)
        (fun fault later => fault ≠ .panic → Mirrors json later) store := by
  obtain ⟨catalog, wider, mirrorable, onlyWider, mirroring⟩ := holds
  -- deletions that have been written no longer matter
  let pending : Bytes → Prop := fun key =>
    wider key ∧
      ∃ engine,
        ∃ queued ∈ (store.engines engine).inFlight, queued.op = .delete key
  have only : OnlyTableRows pending := fun key isPending =>
    onlyWider key isPending.1
  replace mirroring :
      Mirroring json catalog catalog.schemaRow pending store :=
    ⟨mirroring.catalogued, mirroring.mirrored.restrict⟩
  have kept :
      backgroundRely.Keeps (Mirroring json catalog catalog.schemaRow pending :
        Storage shards → Prop) :=
    Mirroring.kept _ _ _ _
  have same :
      ∀ later : Storage shards,
        Mirroring json catalog catalog.schemaRow pending later →
        Mirrors json later :=
    fun _ holds => ⟨catalog, pending, mirrorable, only, holds⟩
  cases named : nameKeyspace sessionKs create.name with
  | error fault =>
      simp only [execCreateTable, named, Program.ofExcept, fail_bind]
      exact Triple.fail kept (fun store holds _ => same store holds) store
        mirroring
  | ok keyspace =>
      simp only [execCreateTable, named, Program.ofExcept, return_bind]
      refine Triple.bind (internally_noFailure (Mirroring.lookup_triple
        (getTable_looked roundTrips keyspace (normId create.name.name))
        (never_getTable_changesSchema json _ _))) (fun found => ?_) store
        mirroring
      apply Triple.of_fact
      intro looked
      cases found with
      | some definition =>
          simp only
          split
          · exact .pure kept same
          · exact .fail kept fun store holds _ => same store holds
      | none =>
          cases planned :
              planCreateTable keyspace (normId create.name.name) create with
          | error fault =>
              exact .fail kept fun store holds _ => same store holds
          | ok definition =>
              simp only [return_bind]
              simp only [CreatesMirrored, named, planned] at creates
              obtain ⟨isUser, built, _⟩ := planCreateTable_eq_ok planned
              obtain ⟨rfl, sameTable⟩ := buildTableDef_names built
              rw [← sameTable] at creates looked
              obtain ⟨⟨⟨keyspaceFree, keyspaceFits⟩, ⟨tableFree, tableFits⟩,
                distinct, columnsFit⟩, noneQueued⟩ := creates
              let name : TableName :=
                ⟨definition.keyspace, definition.name, keyspaceFree, tableFree⟩
              have notPending :
                  ¬ pending
                    (rowKey "system_schema" "tables"
                      [utf8 definition.keyspace, utf8 definition.name]) := by
                rintro ⟨_, engine, queued, member, op⟩
                exact noneQueued engine queued member op
              have defined : (catalog.putTable name definition).Mirrorable :=
                mirrorable.putTable isUser keyspaceFits tableFits distinct
                  columnsFit
              have stored :
                  Triple answer backgroundRely
                    (Catalogued json catalog catalog)
                    (putTable json definition : StorageProgram shards Fault _)
                    (fun _ =>
                      Catalogued json (catalog.putTable name definition)
                        (catalog.putTable name definition))
                    noFailure :=
                putTable_catalogued rfl rfl
              refine .bind (internally_noFailure (Mirroring.catalog_triple
                stored (never_putTable_changesSchema json _))) fun _ => ?_
              refine .bind (internally_panics
                (mirrorTableMetadata_mirroring roundTrips defined only
                  keyspaceFits tableFits columnsFit notPending)) fun _ => ?_
              refine .pure (Mirroring.kept _ _ _ _) fun store holds =>
                ⟨_, pending, defined, only, ?_⟩
              rw [catalog.schemaRow_putTable isUser (looked name rfl rfl) rfl
                rfl distinct]
              exact holds

end Statements

end RhydaDB
