import RhydaDB.MirroredStatements

namespace RhydaDB

open ByteStrings AtomicPrograms FiniteRuns Program Storage

/-!
# The schema mirror over whole runs

Statements that define and drop keyspaces and tables, each started when the one
before has been answered, while the engines' threads take any steps: whenever
the queues have been written, the rows of `system_schema` are those of the
catalog that lookups find.
-/

variable
  {shards : Nat} [NeZero shards]
  {json : CatalogJson}
  {catalog : Catalog}
  {row : String → List String → Option Bytes}
  {pending : Bytes → Prop}
  {store : Storage shards}

/-! ## What lookups find -/

/-- The keyspace a lookup finds. -/
def foundKeyspace
    (json : CatalogJson)
    (store : Storage shards)
    (name : String) :
    Option KeyspaceDef :=
  ((getKeyspace json name).run answer store).1.toOption.join

/-- The table a lookup finds. -/
def foundTable
    (json : CatalogJson)
    (store : Storage shards)
    (keyspace table : String) :
    Option TableDef :=
  ((getTable json keyspace table).run answer store).1.toOption.join

/-- A lookup finds the keyspace of the catalog. -/
theorem foundKeyspace_eq
    (roundTrips : json.RoundTrips)
    (catalogued : Catalogued json catalog catalog store)
    (name : String) :
    foundKeyspace json store name = catalog.keyspaces name := by
  have looks :
      (getKeyspace json name).Ensures answer (engineRely fun _ => True)
        _ noFailure store :=
    getKeyspace_catalogued roundTrips name store catalogued
  unfold foundKeyspace
  rcases ran : (getKeyspace json name).run answer store with
    ⟨failure | found, last⟩
  · exact (looks.abort_of_run ran).elim
  · obtain ⟨rfl, _⟩ := looks.post_of_run ran
    rfl

/-- A lookup outside the system finds the user table of the catalog. -/
theorem foundTable_eq
    (roundTrips : json.RoundTrips)
    (catalogued : Catalogued json catalog catalog store)
    {keyspace : String}
    (isUser : keyspace ∉ systemKeyspaces)
    (table : String) :
    foundTable json store keyspace table = catalog.userTable keyspace table := by
  unfold foundTable
  by_cases named : BangFree keyspace ∧ BangFree table
  · let name : TableName := ⟨keyspace, table, named.1, named.2⟩
    have looks :
        (getTable json keyspace table).Ensures answer
          (engineRely fun _ => True) _ noFailure store :=
      getTable_catalogued roundTrips name store catalogued
    rcases ran : (getTable json keyspace table).run answer store with
      ⟨failure | found, last⟩
    · exact (looks.abort_of_run ran).elim
    · obtain ⟨rfl, _⟩ := looks.post_of_run ran
      have found :
          catalog.userTable name.keyspace name.table = catalog.tables name :=
        catalog.userTable_name isUser
      exact found.symm
  · have looks :
        (getTable json keyspace table).Ensures answer
          (engineRely fun _ => True) _ noFailure store :=
      getTable_unnamed named store catalogued
    rcases ran : (getTable json keyspace table).run answer store with
      ⟨failure | found, last⟩
    · exact (looks.abort_of_run ran).elim
    · obtain ⟨rfl, _⟩ := looks.post_of_run ran
      simp [Catalog.userTable, named, Except.toOption]

/-! ## What the mirror holds -/

omit [NeZero shards] in
/-- With nothing queued, an engine's contents are its settled contents. -/
theorem Storage.Drained.settled
    {store : Storage shards}
    (drained : store.Drained)
    (engine : Fin shards) :
    (store.engines engine).settled = (store.engines engine).db := by
  rw [Pipeline.settled, drained engine]
  rfl

/-- The entries of a table of the mirror are its rows. -/
theorem Mirrored.mem_tableEntries
    (mirrored : Mirrored (.ofStrings row) pending store)
    (drained : store.Drained)
    (table : MirrorTable)
    (fits :
      ∀ names value,
        row table.definition.name names = some value →
        names ≠ [] ∧ ∀ name ∈ names, Fits name)
    {key value : Bytes} :
    (key, value) ∈
        tableEntries store
          (dataPrefix "system_schema" table.definition.name) ↔
      ∃ names,
        row table.definition.name names = some value ∧
          key =
            rowKey "system_schema" table.definition.name
              (names.map utf8) := by
  have held := mirrored.row
  simp only [drained.settled] at held
  have leading :
      dataPrefix "system_schema" table.definition.name =
        table.tableName.dataPrefix := by
    rw [TableName.dataPrefix, table.tableName_keyspace]
    rfl
  simp only [tableEntries, List.mem_flatMap, List.mem_finRange, true_and,
    ByteMap.mem_scanStem]
  constructor
  · rintro ⟨engine, under, present⟩
    have inPrefix : schemaPrefix <+: key := by
      refine List.IsPrefix.trans ?_ under
      simp [schemaPrefix, keyspaceDataPrefix, dataPrefix, List.append_assoc]
    obtain ⟨address, rfl⟩ :=
      mirrored.addressed engine key value inPrefix present
    have sameTable : table.tableName = address.toTableName := by
      rw [leading] at under
      exact (dataPrefix_prefix_key_iff _ address).mp under
    have inSchema : address.keyspace = "system_schema" := by
      rw [← sameTable, table.tableName_keyspace]
    have tableIs : address.table = table.definition.name := by
      rw [← sameTable]
      rfl
    rw [held engine address inSchema] at present
    split at present
    · obtain ⟨names, parts, isRow⟩ :=
        SchemaRows.ofStrings_eq_some_iff.mp present
      rw [tableIs] at isRow
      exact ⟨names, isRow, by rw [RowAddress.key, inSchema, tableIs, parts]⟩
    · cases present
  · rintro ⟨names, isRow, rfl⟩
    obtain ⟨nonempty, allFit⟩ := fits names value isRow
    have inSchema :
        (table.address names nonempty allFit).keyspace = "system_schema" :=
      table.tableName_keyspace
    refine ⟨(table.address names nonempty allFit).engine,
      List.prefix_append _ _, ?_⟩
    rw [← table.address_key nonempty allFit, held _ _ inSchema, if_pos rfl]
    exact (SchemaRows.ofStrings_map _ _ _).trans isRow

/-- No row of the mirror is there twice. -/
theorem Mirrored.nodup_tableEntries
    (mirrored : Mirrored (.ofStrings row) pending store)
    (drained : store.Drained)
    (table : String) :
    ((tableEntries store (dataPrefix "system_schema" table)).map
      Prod.fst).Nodup := by
  have held := mirrored.row
  simp only [drained.settled] at held
  rw [tableEntries, List.map_flatMap, List.nodup_flatMap]
  refine ⟨fun engine _ => ByteMap.nodup_keys_scanStem _ _, ?_⟩
  refine (List.nodup_finRange shards).imp ?_
  intro first second different key inFirst inSecond
  -- a row is only on the engine its address names
  have listed :
      ∀ engine,
        key ∈ ((store.engines engine).db.scanStem
          (dataPrefix "system_schema" table)).map Prod.fst →
        dataPrefix "system_schema" table <+: key ∧
          ∃ value, (store.engines engine).db[key]? = some value := by
    intro engine member
    obtain ⟨entry, isEntry, rfl⟩ := List.mem_map.mp member
    obtain ⟨under, present⟩ := ByteMap.mem_scanStem.mp isEntry
    exact ⟨under, entry.2, present⟩
  obtain ⟨under, value, present⟩ := listed first inFirst
  obtain ⟨_, other, alsoPresent⟩ := listed second inSecond
  have inPrefix : schemaPrefix <+: key := by
    refine List.IsPrefix.trans ?_ under
    simp [schemaPrefix, keyspaceDataPrefix, dataPrefix, List.append_assoc]
  obtain ⟨address, rfl⟩ := mirrored.addressed first key value inPrefix present
  have inSchema : address.keyspace = "system_schema" :=
    (schemaPrefix_prefix_key_iff address).mp inPrefix
  rw [held first address inSchema] at present
  rw [held second address inSchema] at alsoPresent
  split at present
  · split at alsoPresent
    · rename_i here there
      exact different (here.symm.trans there)
    · cases alsoPresent
  · cases present

/-- The mirror has exactly the rows of the catalog that lookups find. -/
structure SchemaMirrorsCatalog
    (json : CatalogJson)
    (store : Storage shards) :
    Prop where
  keyspaces :
    ∀ key value,
      (key, value) ∈
          tableEntries store (dataPrefix "system_schema" "keyspaces") ↔
        ∃ name keyspace,
          name ∉ systemKeyspaces ∧
            foundKeyspace json store name = some keyspace ∧
            key = rowKey "system_schema" "keyspaces" [utf8 name] ∧
            value = keyspaceRow keyspace
  tables :
    ∀ key value,
      (key, value) ∈
          tableEntries store (dataPrefix "system_schema" "tables") ↔
        ∃ keyspace table definition,
          keyspace ∉ systemKeyspaces ∧
            foundTable json store keyspace table = some definition ∧
            key =
              rowKey "system_schema" "tables" [utf8 keyspace, utf8 table] ∧
            value = tableRow
  columns :
    ∀ key value,
      (key, value) ∈
          tableEntries store (dataPrefix "system_schema" "columns") ↔
        ∃ keyspace table definition,
          keyspace ∉ systemKeyspaces ∧
            foundTable json store keyspace table = some definition ∧
            ∃ column ∈ definition.columns,
              key =
                rowKey "system_schema" "columns"
                  [utf8 keyspace, utf8 table, utf8 column.name] ∧
              value = columnRow definition column
  distinct :
    ∀ table,
      ((tableEntries store (dataPrefix "system_schema" table)).map
        Prod.fst).Nodup

/-- The rows of a mirrorable catalog have names that fit. -/
theorem Catalog.Mirrorable.schemaRow_fits
    (mirrorable : catalog.Mirrorable)
    {table : String}
    {names : List String}
    {value : Bytes}
    (isRow : catalog.schemaRow table names = some value) :
    names ≠ [] ∧ ∀ name ∈ names, Fits name := by
  rcases names with _ | ⟨first, _ | ⟨second, _ | ⟨third, _ | _⟩⟩⟩
  · cases isRow
  · simp only [schemaRow] at isRow
    split at isRow
    · obtain ⟨keyspace, exists_, _⟩ := Option.map_eq_some_iff.mp isRow
      have names := mirrorable.keyspaceNames first keyspace exists_
      simpa using names.2
    · cases isRow
  · simp only [schemaRow] at isRow
    split at isRow
    · obtain ⟨definition, exists_, _⟩ := Option.map_eq_some_iff.mp isRow
      simpa using mirrorable.tableNames first second definition exists_
    · cases isRow
  · simp only [schemaRow] at isRow
    split at isRow
    · obtain ⟨definition, exists_, columns⟩ :=
        Option.bind_eq_some_iff.mp isRow
      obtain ⟨column, found, _⟩ := Option.map_eq_some_iff.mp columns
      have names := mirrorable.tableNames first second definition exists_
      have columnFits :=
        (mirrorable.columnNames first second definition exists_).2 column
          (List.mem_of_find?_eq_some found)
      have named := List.find?_some found
      rw [beq_iff_eq.mp named] at columnFits
      simpa using ⟨names.1, names.2, columnFits⟩
    · cases isRow
  · cases isRow

/-- With distinct names, a name finds its column. -/
theorem find?_name_eq_some_iff
    {columns : List ColumnDef}
    (distinct : (columns.map (·.name)).Nodup)
    {name : String}
    {column : ColumnDef} :
    (columns.find? fun candidate => candidate.name == name) = some column ↔
      column ∈ columns ∧ column.name = name := by
  induction columns with
  | nil =>
      simp
  | cons first rest inductionHypothesis =>
      simp only [List.map_cons, List.nodup_cons] at distinct
      by_cases here : first.name = name
      · have unique :
            ∀ other ∈ rest, other.name ≠ name := by
          rintro other member rfl
          exact distinct.1 (here ▸ List.mem_map_of_mem member)
        simp only [List.find?_cons, here, beq_self_eq_true,
          Option.some.injEq, List.mem_cons]
        constructor
        · rintro rfl
          exact ⟨.inl rfl, here⟩
        · rintro ⟨rfl | member, named⟩
          · rfl
          · exact absurd named (unique column member)
      · have notFirst : (first.name == name) = false := by
          simpa using here
        rw [List.find?_cons, notFirst, inductionHypothesis distinct.2,
          List.mem_cons]
        constructor
        · exact fun found => ⟨.inr found.1, found.2⟩
        · rintro ⟨rfl | member, named⟩
          · exact absurd named here
          · exact ⟨member, named⟩

/-! ## The rows of the three tables -/

/-- The rows of `system_schema.keyspaces`. -/
theorem Catalog.schemaRow_keyspaces {key value : Bytes} :
    (∃ names,
      catalog.schemaRow "keyspaces" names = some value ∧
        key = rowKey "system_schema" "keyspaces" (names.map utf8)) ↔
      ∃ name keyspace,
        catalog.userKeyspace name = some keyspace ∧
          key = rowKey "system_schema" "keyspaces" [utf8 name] ∧
          value = keyspaceRow keyspace := by
  constructor
  · rintro ⟨names, isRow, rfl⟩
    rcases names with _ | ⟨name, _ | ⟨_, _ | ⟨_, _ | _⟩⟩⟩
    · cases isRow
    · obtain ⟨keyspace, exists_, rfl⟩ := Option.map_eq_some_iff.mp isRow
      exact ⟨name, keyspace, exists_, rfl, rfl⟩
    all_goals cases isRow
  · rintro ⟨name, keyspace, exists_, rfl, rfl⟩
    exact ⟨[name], by simp [schemaRow, exists_], rfl⟩

/-- The rows of `system_schema.tables`. -/
theorem Catalog.schemaRow_tables {key value : Bytes} :
    (∃ names,
      catalog.schemaRow "tables" names = some value ∧
        key = rowKey "system_schema" "tables" (names.map utf8)) ↔
      ∃ keyspace table definition,
        catalog.userTable keyspace table = some definition ∧
          key = rowKey "system_schema" "tables" [utf8 keyspace, utf8 table] ∧
          value = tableRow := by
  constructor
  · rintro ⟨names, isRow, rfl⟩
    rcases names with _ | ⟨keyspace, _ | ⟨table, _ | ⟨_, _ | _⟩⟩⟩
    · cases isRow
    · cases isRow
    · obtain ⟨definition, exists_, rfl⟩ := Option.map_eq_some_iff.mp isRow
      exact ⟨keyspace, table, definition, exists_, rfl, rfl⟩
    all_goals cases isRow
  · rintro ⟨keyspace, table, definition, exists_, rfl, rfl⟩
    exact ⟨[keyspace, table], by simp [schemaRow, exists_], rfl⟩

/-- The rows of `system_schema.columns`. -/
theorem Catalog.Mirrorable.schemaRow_columns
    (mirrorable : catalog.Mirrorable)
    {key value : Bytes} :
    (∃ names,
      catalog.schemaRow "columns" names = some value ∧
        key = rowKey "system_schema" "columns" (names.map utf8)) ↔
      ∃ keyspace table definition,
        catalog.userTable keyspace table = some definition ∧
          ∃ column ∈ definition.columns,
            key =
              rowKey "system_schema" "columns"
                [utf8 keyspace, utf8 table, utf8 column.name] ∧
            value = columnRow definition column := by
  constructor
  · rintro ⟨names, isRow, rfl⟩
    rcases names with _ | ⟨keyspace, _ | ⟨table, _ | ⟨name, _ | _⟩⟩⟩
    · cases isRow
    · cases isRow
    · cases isRow
    · obtain ⟨definition, exists_, columns⟩ :=
        Option.bind_eq_some_iff.mp isRow
      obtain ⟨column, found, rfl⟩ := Option.map_eq_some_iff.mp columns
      obtain ⟨member, rfl⟩ :=
        (find?_name_eq_some_iff
          (mirrorable.columnNames _ _ _ exists_).1).mp found
      exact ⟨keyspace, table, definition, exists_, column, member, rfl, rfl⟩
    · cases isRow
  · rintro ⟨keyspace, table, definition, exists_, column, member, rfl, rfl⟩
    have found :=
      (find?_name_eq_some_iff
        (mirrorable.columnNames _ _ _ exists_).1).mpr ⟨member, rfl⟩
    exact ⟨[keyspace, table, column.name],
      by simp [schemaRow, exists_, found], rfl⟩

/-- Once the queues are written, the mirror is that of the catalog. -/
theorem Mirrors.schemaMirrorsCatalog
    (roundTrips : json.RoundTrips)
    (mirrors : Mirrors json store)
    (drained : store.Drained) :
    SchemaMirrorsCatalog json store := by
  obtain ⟨catalog, pending, mirrorable, _, catalogued, mirrored⟩ := mirrors
  have rows :
      ∀ (table : MirrorTable) key value,
        (key, value) ∈
            tableEntries store
              (dataPrefix "system_schema" table.definition.name) ↔
          ∃ names,
            catalog.schemaRow table.definition.name names = some value ∧
              key =
                rowKey "system_schema" table.definition.name
                  (names.map utf8) :=
    fun table key value =>
      mirrored.mem_tableEntries drained table
        fun _ _ isRow => mirrorable.schemaRow_fits isRow
  have userKeyspace :
      ∀ name keyspace,
        catalog.userKeyspace name = some keyspace ↔
          name ∉ systemKeyspaces ∧
            foundKeyspace json store name = some keyspace := by
    intro name keyspace
    rw [foundKeyspace_eq roundTrips catalogued, Catalog.userKeyspace]
    by_cases isSystem : name ∈ systemKeyspaces <;> simp [isSystem]
  have userTable :
      ∀ keyspace table definition,
        catalog.userTable keyspace table = some definition ↔
          keyspace ∉ systemKeyspaces ∧
            foundTable json store keyspace table = some definition := by
    intro keyspace table definition
    constructor
    · intro exists_
      obtain ⟨_, _, _, isUser, _⟩ := Catalog.userTable_eq_some exists_
      rw [foundTable_eq roundTrips catalogued isUser]
      exact ⟨isUser, exists_⟩
    · rintro ⟨isUser, exists_⟩
      rwa [foundTable_eq roundTrips catalogued isUser] at exists_
  refine ⟨?_, ?_, ?_, mirrored.nodup_tableEntries drained⟩
  · intro key value
    refine (rows .keyspaces key value).trans ?_
    refine Catalog.schemaRow_keyspaces.trans ?_
    simp only [userKeyspace, and_assoc]
  · intro key value
    refine (rows .tables key value).trans ?_
    refine Catalog.schemaRow_tables.trans ?_
    simp only [userTable, and_assoc]
  · intro key value
    refine (rows .columns key value).trans ?_
    refine mirrorable.schemaRow_columns.trans ?_
    simp only [userTable, and_assoc]

/-! ## Runs -/

/-- What a statement relies on for the mirror. -/
def Request.KeepsMirror (store : Storage shards) (request : Request) : Prop :=
  match request.statement with
  | .createKeyspace create =>
      BangFree (normId create.name) ∧ Fits (normId create.name)
  | .createTable create =>
      CreatesMirrored request.sessionKs create store
  | _ =>
      True

instance (store : Storage shards) (request : Request) :
    Decidable (request.KeepsMirror store) := by
  unfold Request.KeepsMirror
  split <;> infer_instance

/-- Such a statement keeps the mirror. -/
theorem Request.program_mirrors
    (roundTrips : json.RoundTrips)
    (hexDecode : HexDecode)
    {request : Request}
    (defines : request.statement.DefinesOrUses)
    (keeps : request.KeepsMirror store)
    (holds : Mirrors json store) :
    (request.program json hexDecode).Ensures answer backgroundRely
      (fun _ => Mirrors json)
      (fun fault later => fault ≠ .panic → Mirrors json later) store := by
  unfold Request.program
  unfold Request.KeepsMirror at keeps
  cases statement : request.statement with
  | use keyspace =>
      exact execUse_mirrors roundTrips keyspace _ store holds
  | createKeyspace create =>
      rw [statement] at keeps
      exact execCreateKeyspace_mirrors roundTrips keeps.1 keeps.2 _ store holds
  | createTable create =>
      rw [statement] at keeps
      exact execCreateTable_mirrors roundTrips keeps holds _
  | dropTable drop =>
      exact execDropTable_mirrors roundTrips _ drop _ store holds
  | dropKeyspace drop =>
      exact execDropKeyspace_mirrors roundTrips drop _ store holds
  | insert ins =>
      rw [statement] at defines
      exact defines.elim
  | select sel =>
      rw [statement] at defines
      exact defines.elim
  | delete del =>
      rw [statement] at defines
      exact defines.elim
  | update upd =>
      rw [statement] at defines
      exact defines.elim
  | truncate name =>
      rw [statement] at defines
      exact defines.elim
  | other shortName =>
      rw [statement] at defines
      exact defines.elim

omit [NeZero shards] in
/-- A row of the system is no row of the mirror. -/
theorem leavesSchema_put_system
    (table : String)
    (parts : List Bytes)
    (value : Bytes) :
    WriteOp.LeavesSchema (.put (rowKey "system" table parts) value) := by
  intro db key inSchema
  have different : rowKey "system" table parts ≠ key := by
    rintro rfl
    have under :
        keyspaceDataPrefix "system" <+: rowKey "system" table parts := by
      simp [rowKey, dataPrefix, keyspaceDataPrefix, List.append_assoc]
    exact not_schemaPrefix_prefix (by decide) (by decide) under inSchema
  simp [applyOp, different]

/-- Seeding leaves the mirror alone. -/
theorem never_seedSystem_changesSchema (ids : NodeIds) :
    (seedSystem json ids : StorageProgram shards Fault _).Never
      StorageAction.ChangesSchema := by
  have seeds :
      ∀ name (fill : StorageProgram shards Fault Unit),
        fill.Never StorageAction.ChangesSchema →
        (seedKeyspace json name fill).Never StorageAction.ChangesSchema := by
    intro name fill fills
    refine Never.bind_all (never_getKeyspace_changesSchema json name)
      fun found => ?_
    cases found with
    | some keyspace =>
        trivial
    | none =>
        exact Never.bind_all (never_putKeyspace_changesSchema json _)
          fun _ => fills
  have puts :
      ∀ tables,
        (putTables json tables : StorageProgram shards Fault _).Never
          StorageAction.ChangesSchema := by
    intro tables
    induction tables with
    | nil =>
        trivial
    | cons table rest inductionHypothesis =>
        exact Never.bind_all (never_putTable_changesSchema json table)
          fun _ => inductionHypothesis
  have fills :
      (fillSystem json ids : StorageProgram shards Fault _).Never
        StorageAction.ChangesSchema := by
    refine Never.bind_all (never_putTable_changesSchema json _) fun _ => ?_
    refine Never.bind_all ?_ fun _ => never_putTable_changesSchema json _
    exact ⟨not_not.mpr (leavesSchema_put_system _ _ _), fun _ => trivial⟩
  refine Never.bind_all (seeds _ _ fills) fun _ => ?_
  refine Never.bind_all (seeds _ _ (puts _)) fun _ => ?_
  exact seeds _ _ (never_putTable_changesSchema json _)

/-- The mirror of a freshly opened store is empty. -/
theorem mirrors_opened
    (roundTrips : json.RoundTrips)
    (writeSync caching : Bool)
    (ids : NodeIds) :
    Mirrors json (Storage.opened json shards writeSync caching ids) := by
  obtain ⟨mirrorable, noRows⟩ := Catalog.Mirrorable.seed
  have fresh :
      Mirrored (.ofStrings Catalog.empty.seed.schemaRow) (fun _ => False)
        (Storage.fresh shards writeSync caching) := by
    refine ⟨fun _ => ⟨Pipeline.ordered_start _ _, rfl⟩, ?_, ?_, ?_⟩
    · simp [Storage.fresh, Pipeline.start, Pipeline.inFlight,
        Pipeline.committerBatch, Pipeline.collectorBatch]
    · intro engine address _
      simp [Storage.fresh, Pipeline.start, Pipeline.settled,
        Pipeline.inFlight, Pipeline.committerBatch, Pipeline.collectorBatch,
        SchemaRows.ofStrings, noRows, applyOps]
    · simp [Storage.fresh, Pipeline.start]
  have seeds :
      (seedSystem json ids).Ensures answer backgroundRely _ _
        (Storage.fresh shards writeSync caching) :=
    mirrored_of_never (never_seedSystem_changesSchema ids) _ fresh
  refine ⟨Catalog.empty.seed, fun _ => False, mirrorable,
    fun _ => False.elim, catalogued_opened roundTrips writeSync caching ids, ?_⟩
  unfold Storage.opened
  rcases ran :
      (seedSystem json ids).run answer
        (Storage.fresh shards writeSync caching) with ⟨failure | _, final⟩
  · exact seeds.abort_of_run ran
  · exact seeds.post_of_run ran

/--
Statements about the catalog, each issued after the last was answered, while
the engines' batch writes succeed.
-/
def DefinitionsAcknowledged
    (server : Server shards)
    (label : ServerLabel shards) :
    Prop :=
  server.InSequence (· ≠ .panic) (fun label => label.background = true)
      label ∧
    server.Starts (fun _ request => request.statement.DefinesOrUses) label

instance (server : Server shards) (label : ServerLabel shards) :
    Decidable (DefinitionsAcknowledged server label) :=
  inferInstanceAs (Decidable (_ ∧ _))

/-- Moreover, created tables and keyspaces can be mirrored. -/
def DefinitionsMirrored
    (server : Server shards)
    (label : ServerLabel shards) :
    Prop :=
  DefinitionsAcknowledged server label ∧
    server.Starts Request.KeepsMirror label

instance (server : Server shards) (label : ServerLabel shards) :
    Decidable (DefinitionsMirrored server label) :=
  inferInstanceAs (Decidable (_ ∧ _))

/--
However definitions, drops and thread steps follow one another, once the
queues are written the mirror is that of the catalog, provided that names can
be mirrored and no table is created while the deletion of its own row is
queued.
-/
theorem schema_mirrors_catalog
    (roundTrips : json.RoundTrips)
    {hexDecode : HexDecode}
    {writeSync caching : Bool}
    {ids : NodeIds}
    {labels : List (ServerLabel shards)}
    {server : Server shards}
    (run :
      Run (Server.step? json hexDecode) DefinitionsMirrored
        (.idle (Storage.opened json shards writeSync caching ids)) labels
        server)
    (quiet : server.Quiet (· ≠ .panic))
    (drained : server.store.Drained) :
    SchemaMirrorsCatalog json server.store := by
  have holds : Mirrors json server.store := by
    refine Server.good_of_run mirrors_kept (fun allowed => allowed.1.1) ?_
      (mirrors_opened roundTrips writeSync caching ids) run quiet
    intro before request allowed mirrors
    exact request.program_mirrors roundTrips hexDecode allowed.1.2 allowed.2
      mirrors
  exact holds.schemaMirrorsCatalog roundTrips drained

/-! ## A table dropped and created again -/

/-- `DROP TABLE keyspace.t`. -/
def dropTableRequest (keyspace : String) : Request :=
  plainRequest (.dropTable
    { ifExists := false
      name := ⟨some (.unquoted keyspace), .unquoted "t"⟩ })

/-- The thread steps that commit one queued operation. -/
def commitOne : List (ServerLabel 1) :=
  (List.finRange 1).flatMap fun engine =>
    [.receive, .closeBatch, .hand, .take, .write true, .release].map
      (.engine engine)

/--
A table is created and dropped.  The drop is answered when the deletion of the
table's rows is committed; the deletion of its mirrored row is still queued.
-/
def droppedTable : List (ServerLabel 1) :=
  tableInKeyspace ++
    serveRequest 2 (dropTableRequest "app") 4 ++ commitOne ++
    List.replicate 7 (.advance 2)

/-- The table is created again before the deletion is committed. -/
def recreatedTooSoon : List (ServerLabel 1) :=
  droppedTable ++ serveRequest 3 (createTableRequest "app") 10 ++ commitOne

/-- The table exists and the mirror has no row for it. -/
theorem recreated_table_not_mirrored :
    ∃ server,
      Run (Server.step? serdeJson fun _ => none) DefinitionsAcknowledged
          (.idle (Storage.opened serdeJson 1 false true zeroIds))
          recreatedTooSoon server ∧
        server.Quiet (· ≠ .panic) ∧
        server.store.Drained ∧
        ¬ SchemaMirrorsCatalog serdeJson server.store := by
  have looked :
      (run? (Server.step? serdeJson fun _ => none)
          (.idle (Storage.opened serdeJson 1 false true zeroIds))
          recreatedTooSoon).map
        (fun server =>
          (decide (server.Quiet (· ≠ .panic)),
            decide server.store.Drained,
            (foundTable serdeJson server.store "app" "t").isSome,
            (tableEntries server.store
              (dataPrefix "system_schema" "tables")).length)) =
        some (true, true, true, 0) := by
    decide +kernel
  obtain ⟨server, ran, observed⟩ := Option.map_eq_some_iff.mp looked
  simp only [Prod.mk.injEq, decide_eq_true_eq] at observed
  obtain ⟨quiet, drained, exists_, noRows⟩ := observed
  have permitted :
      Permitted (Server.step? serdeJson fun _ => none) DefinitionsAcknowledged
        (.idle (Storage.opened serdeJson 1 false true zeroIds))
        recreatedTooSoon := by
    decide +kernel
  refine ⟨server, Run.of_run? permitted ran, quiet, drained, ?_⟩
  intro mirrors
  obtain ⟨definition, found⟩ := Option.isSome_iff_exists.mp exists_
  have mirrored :=
    (mirrors.tables (rowKey "system_schema" "tables" [utf8 "app", utf8 "t"])
      tableRow).mpr
        ⟨"app", "t", definition, by decide, found, rfl, rfl⟩
  rw [List.length_eq_zero_iff.mp noRows] at mirrored
  cases mirrored

/-- The table is created again when the deletion has been committed. -/
def recreatedTable : List (ServerLabel 1) :=
  droppedTable ++ commitOne ++ serveRequest 3 (createTableRequest "app") 10

/-- Then the mirror has its row. -/
theorem schema_mirrors_catalog_recreated :
    ∃ server,
      Run (Server.step? serdeJson fun _ => none) DefinitionsMirrored
          (.idle (Storage.opened serdeJson 1 false true zeroIds))
          recreatedTable server ∧
        (tableEntries server.store
          (dataPrefix "system_schema" "tables")).length = 1 ∧
        SchemaMirrorsCatalog serdeJson server.store := by
  have served :
      (run? (Server.step? serdeJson fun _ => none)
          (.idle (Storage.opened serdeJson 1 false true zeroIds))
          recreatedTable).map
        (fun server =>
          (decide (server.Quiet (· ≠ .panic)),
            decide server.store.Drained,
            (tableEntries server.store
              (dataPrefix "system_schema" "tables")).length)) =
        some (true, true, 1) := by
    decide +kernel
  obtain ⟨server, ran, observed⟩ := Option.map_eq_some_iff.mp served
  simp only [Prod.mk.injEq, decide_eq_true_eq] at observed
  obtain ⟨quiet, drained, rows⟩ := observed
  have permitted :
      Permitted (Server.step? serdeJson fun _ => none) DefinitionsMirrored
        (.idle (Storage.opened serdeJson 1 false true zeroIds))
        recreatedTable := by
    decide +kernel
  have run := Run.of_run? permitted ran
  exact ⟨server, run, rows,
    schema_mirrors_catalog serdeJson_roundTrips run quiet drained⟩

end RhydaDB
