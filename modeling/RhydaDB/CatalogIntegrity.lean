import RhydaDB.Fallible
import RhydaDB.SequentialServer
import RhydaDB.SerdeJson
import RhydaDB.SeedSystem

namespace RhydaDB

open ByteStrings AtomicPrograms FiniteRuns Program Storage

/-!
# Every table belongs to a keyspace

What the statements that change the catalog or the session leave of it, each
statement started when the one before has been answered.  Dropping a keyspace
takes its tables along; creating a table does not look whether its keyspace
exists, so integrity rests on the statements that create tables.
-/

variable
  {shards : Nat} [NeZero shards]
  {json : CatalogJson}
  {catalog recorded cached : Catalog}
  {permitted : PipelineLabel → Prop}

/-! ## Accesses that leave the catalog alone -/

omit [NeZero shards] in
theorem never_sendOp_changesCatalog
    (engine : Fin shards)
    {op : WriteOp}
    (onRows : op.OnRows) :
    (sendOp engine op).Never StorageAction.ChangesCatalog := by
  refine ⟨not_not.mpr onRows, fun response => ?_⟩
  cases response <;> trivial

theorem never_deleteRow_changesCatalog
    (keyspace table : String)
    (keyParts : List Bytes) :
    (deleteRow keyspace table keyParts :
      StorageProgram shards Fault _).Never StorageAction.ChangesCatalog := by
  have isRow : dtPrefix <+: rowKey keyspace table keyParts := by
    simp [rowKey, dataPrefix, List.append_assoc]
  have sends :=
    never_sendOp_changesCatalog
      (dataEngine keyspace table (firstPart keyParts) : Fin shards)
      (WriteOp.onRows_delete isRow)
  unfold deleteRow
  split
  · exact ⟨id, fun _ => sends⟩
  · exact sends

theorem never_deleteRowSync_changesCatalog
    (keyspace table : String)
    (keyParts : List Bytes) :
    (deleteRowSync keyspace table keyParts :
      StorageProgram shards Fault _).Never StorageAction.ChangesCatalog := by
  have isRow : dtPrefix <+: rowKey keyspace table keyParts := by
    simp [rowKey, dataPrefix, List.append_assoc]
  refine ⟨not_not.mpr (WriteOp.onRows_delete isRow), fun _ => ?_⟩
  change (if shouldCache keyspace then _ else _ : StorageProgram shards Fault _).Never _
  split
  · exact ⟨id, fun _ => trivial⟩
  · trivial

/-- Removing a partition of the mirror concerns rows only. -/
theorem never_deleteSystemSchemaPartition_changesCatalog
    (table : String)
    (partitionKey : List Bytes) :
    (deleteSystemSchemaPartition table partitionKey :
      StorageProgram shards Fault _).Never StorageAction.ChangesCatalog := by
  have deletes :
      ∀ entries,
        (deleteSystemSchemaRows table entries :
          StorageProgram shards Fault _).Never
            StorageAction.ChangesCatalog := by
    intro entries
    induction entries with
    | nil =>
        trivial
    | cons entry rest inductionHypothesis =>
        refine Never.bind_all (never_ofExcept _) fun parts => ?_
        exact Never.bind_all (never_deleteRowSync_changesCatalog _ _ _)
          fun _ => inductionHypothesis
  exact ⟨id, fun entries => deletes _⟩

/-- So does removing partitions of several mirror tables. -/
theorem never_deleteSystemSchemaPartitions_changesCatalog
    (partitionKey : List Bytes)
    (tables : List String) :
    (deleteSystemSchemaPartitions partitionKey tables :
      StorageProgram shards Fault _).Never StorageAction.ChangesCatalog := by
  induction tables with
  | nil =>
      trivial
  | cons table rest inductionHypothesis =>
      exact Never.bind_all
        (never_deleteSystemSchemaPartition_changesCatalog _ _)
        fun _ => inductionHypothesis

/-- So does removing a table from the mirror. -/
theorem never_unmirrorTableMetadata_changesCatalog
    (keyspace table : String) :
    (unmirrorTableMetadata keyspace table :
      StorageProgram shards Fault _).Never StorageAction.ChangesCatalog :=
  Never.bind_all (never_deleteRow_changesCatalog _ _ _) fun _ =>
    never_deleteSystemSchemaPartition_changesCatalog _ _

/-! ## Reading the catalog -/

/-- Looking any table up keeps the catalog, and finds only what exists. -/
theorem getTable_found
    (roundTrips : json.RoundTrips)
    (keyspace table : String) :
    Triple answer (engineRely permitted)
      (Catalogued json catalog catalog)
      (getTable json keyspace table : StorageProgram shards Fault _)
      (fun found store =>
        (∀ definition,
          found = some definition →
          ∃ name : TableName,
            name.keyspace = keyspace ∧
              name.table = table ∧
              catalog.tables name = some definition) ∧
          Catalogued json catalog catalog store)
      noFailure := by
  by_cases named : BangFree keyspace ∧ BangFree table
  · let name : TableName := ⟨keyspace, table, named.1, named.2⟩
    refine (getTable_catalogued roundTrips name).conseq (fun _ => id) ?_
      fun _ _ => id
    rintro found store ⟨rfl, catalogued⟩
    exact ⟨fun definition exists_ => ⟨name, rfl, rfl, exists_⟩, catalogued⟩
  · refine (getTable_unnamed named).conseq (fun _ => id) ?_ fun _ _ => id
    rintro found store ⟨rfl, catalogued⟩
    exact ⟨(fun definition exists_ => nomatch exists_), catalogued⟩

/-- Writing a row of the mirror keeps the catalog. -/
theorem putSystemSchemaRow_catalogued
    (roundTrips : json.RoundTrips)
    (table : String)
    (primaryKey : List String)
    (columns : List (String × Value)) :
    Triple answer (engineRely permitted)
      (Catalogued json catalog catalog)
      (putSystemSchemaRow json table primaryKey columns :
        StorageProgram shards Fault _)
      (fun _ => Catalogued json catalog catalog)
      (fun _ => Catalogued json catalog catalog) := by
  have kept :
      (engineRely permitted).Keeps
        (Catalogued json catalog catalog : Storage shards → Prop) :=
    Catalogued.kept json catalog catalog permitted
  have looked :
      Triple answer (engineRely permitted)
        (Catalogued json catalog catalog)
        (getTable json "system_schema" table : StorageProgram shards Fault _)
        (fun _ => Catalogued json catalog catalog)
        (fun _ => Catalogued json catalog catalog) :=
    (getTable_found roundTrips "system_schema" table).conseq (fun _ => id)
      (fun _ _ found => found.2) fun _ _ => False.elim
  refine .bind looked fun found => ?_
  cases found with
  | none =>
      exact .fail kept fun _ => id
  | some definition =>
      refine .bind (.ofExcept kept (fun _ _ _ => id) fun _ _ _ => id)
        fun row => ?_
      exact (putRowSync_catalogued _ _ _ _).conseq (fun _ => id)
        (fun _ _ => id) fun _ _ => False.elim

/-- Mirroring columns keeps the catalog. -/
theorem mirrorColumns_catalogued
    (roundTrips : json.RoundTrips)
    (table : TableDef)
    (columns : List ColumnDef) :
    Triple answer (engineRely permitted)
      (Catalogued json catalog catalog)
      (mirrorColumns json table columns : StorageProgram shards Fault _)
      (fun _ => Catalogued json catalog catalog)
      (fun _ => Catalogued json catalog catalog) := by
  have kept :
      (engineRely permitted).Keeps
        (Catalogued json catalog catalog : Storage shards → Prop) :=
    Catalogued.kept json catalog catalog permitted
  induction columns with
  | nil =>
      exact .pure kept fun _ => id
  | cons column rest inductionHypothesis =>
      refine .bind (.ofExcept kept (fun _ _ _ => id) fun _ _ _ => id)
        fun role => ?_
      exact .bind (putSystemSchemaRow_catalogued roundTrips _ _ _)
        fun _ => inductionHypothesis

/-- Mirroring a table keeps the catalog. -/
theorem mirrorTableMetadata_catalogued
    (roundTrips : json.RoundTrips)
    (table : TableDef) :
    Triple answer (engineRely permitted)
      (Catalogued json catalog catalog)
      (mirrorTableMetadata json table : StorageProgram shards Fault _)
      (fun _ => Catalogued json catalog catalog)
      (fun _ => Catalogued json catalog catalog) :=
  .bind (putSystemSchemaRow_catalogued roundTrips _ _ _) fun _ =>
    mirrorColumns_catalogued roundTrips table _

/-! ## Integrity -/

/-- Every table is stored under its own name and belongs to a keyspace. -/
def Catalog.Integral (catalog : Catalog) : Prop :=
  ∀ name table,
    catalog.tables name = some table →
    table.keyspace = name.keyspace ∧
      (catalog.keyspaces name.keyspace).isSome = true

/-- The store's catalog is complete and every table belongs to a keyspace. -/
def Integral (json : CatalogJson) (store : Storage shards) : Prop :=
  ∃ catalog : Catalog,
    catalog.Integral ∧ Catalogued json catalog catalog store

/-- Thread steps keep integrity. -/
theorem integral_kept :
    (engineRely permitted).Keeps (Integral json : Storage shards → Prop) := by
  rintro before after moved ⟨catalog, integral, catalogued⟩
  exact ⟨catalog, integral, Catalogued.kept _ _ _ _ moved catalogued⟩

namespace Catalog.Integral

/-- A new keyspace leaves the others alone. -/
theorem putKeyspace
    (integral : catalog.Integral)
    (name : String)
    (keyspace : KeyspaceDef) :
    (catalog.putKeyspace name keyspace).Integral := by
  intro table definition exists_
  obtain ⟨sameName, belongs⟩ := integral table definition exists_
  refine ⟨sameName, ?_⟩
  by_cases same : table.keyspace = name
  · simp [Catalog.putKeyspace, same]
  · simpa [Catalog.putKeyspace, same] using belongs

/-- A new table of an existing keyspace. -/
theorem putTable
    (integral : catalog.Integral)
    {name : TableName}
    {table : TableDef}
    (sameName : table.keyspace = name.keyspace)
    (belongs : (catalog.keyspaces name.keyspace).isSome = true) :
    (catalog.putTable name table).Integral := by
  intro other definition exists_
  by_cases same : other = name
  · subst same
    simp only [Catalog.putTable, Function.update_self,
      Option.some.injEq] at exists_
    rw [← exists_]
    exact ⟨sameName, belongs⟩
  · simp only [Catalog.putTable, Function.update_of_ne same] at exists_
    exact integral other definition exists_

/-- A forgotten table needs no keyspace. -/
theorem deleteTable
    (integral : catalog.Integral)
    (name : TableName) :
    (catalog.deleteTable name).Integral := by
  intro other definition exists_
  by_cases same : other = name
  · subst same
    simp [Catalog.deleteTable] at exists_
  · simp only [Catalog.deleteTable, Function.update_of_ne same] at exists_
    exact integral other definition exists_

/-- A forgotten keyspace takes its tables along. -/
theorem deleteKeyspace
    (integral : catalog.Integral)
    (name : String) :
    (catalog.deleteKeyspace name).Integral := by
  intro other definition exists_
  by_cases same : other.keyspace = name
  · simp [Catalog.deleteKeyspace, forgetTables, same] at exists_
  · simp only [Catalog.deleteKeyspace, forgetTables, forgetKeyspace, same,
      if_false] at exists_ ⊢
    simpa [same] using integral other definition exists_

/-- Defining named tables of an existing keyspace. -/
theorem foldl_define
    (integral : catalog.Integral)
    {keyspace : String}
    (belongs : (catalog.keyspaces keyspace).isSome = true)
    {tables : List TableDef}
    (sameKeyspace : ∀ table ∈ tables, table.keyspace = keyspace) :
    (tables.foldl Catalog.define catalog).Integral := by
  induction tables generalizing catalog with
  | nil =>
      exact integral
  | cons table rest inductionHypothesis =>
      have here := sameKeyspace table (by simp)
      have defined :
          (catalog.define table).Integral ∧
            ((catalog.define table).keyspaces keyspace).isSome = true := by
        unfold Catalog.define
        split
        · refine ⟨integral.putTable rfl ?_, belongs⟩
          change (catalog.keyspaces table.keyspace).isSome = true
          rw [here]
          exact belongs
        · exact ⟨integral, belongs⟩
      exact inductionHypothesis defined.1 defined.2
        fun table member => sameKeyspace table (by simp [member])

/-- Seeding a keyspace. -/
theorem seedKeyspace
    (integral : catalog.Integral)
    {name : String}
    {tables : List TableDef}
    (sameKeyspace : ∀ table ∈ tables, table.keyspace = name) :
    (catalog.seedKeyspace name tables).Integral := by
  unfold Catalog.seedKeyspace
  split
  · exact integral
  · exact (integral.putKeyspace name _).foldl_define
      (by simp [Catalog.putKeyspace]) sameKeyspace

/-- A freshly seeded catalog. -/
theorem seed (integral : catalog.Integral) : catalog.seed.Integral :=
  ((integral.seedKeyspace (by decide)).seedKeyspace (by decide)).seedKeyspace
    (by decide)

end Catalog.Integral

/-! ## Statements -/

section Statements

omit [NeZero shards] in
/-- An internal program that cannot fail. -/
theorem internally_noFailure
    {α : Type}
    {program : StorageProgram shards Fault α}
    {pre : Storage shards → Prop}
    {post : α → Storage shards → Prop}
    {abort : QueryFault → Storage shards → Prop}
    (triple :
      Triple answer (engineRely permitted) pre program post noFailure) :
    Triple answer (engineRely permitted) pre (internally program) post abort :=
  .mapFailure (triple.conseq (fun _ => id) (fun _ _ => id)
    fun _ _ => False.elim)

/-- An internal program that leaves the catalog as it is, even if it fails. -/
theorem internally_integral
    {α : Type}
    {program : StorageProgram shards Fault α}
    (integral : catalog.Integral)
    (triple :
      Triple answer (engineRely permitted)
        (Catalogued json catalog catalog)
        program
        (fun _ => Catalogued json catalog catalog)
        (fun _ => Catalogued json catalog catalog)) :
    Triple answer (engineRely permitted)
      (Catalogued json catalog catalog)
      (internally program)
      (fun _ => Catalogued json catalog catalog)
      (fun _ => Integral json) :=
  .mapFailure (triple.conseq (fun _ => id) (fun _ _ => id)
    fun _ _ catalogued => ⟨catalog, integral, catalogued⟩)

variable (roundTrips : json.RoundTrips)

include roundTrips

/-- A USE keeps integrity. -/
theorem execUse_integral
    (identifier : Identifier)
    (binds : Binds) :
    Triple answer (engineRely permitted)
      (Integral json)
      (execUse json identifier binds : StorageProgram shards QueryFault _)
      (fun _ => Integral json)
      (fun _ => Integral json) := by
  rintro store ⟨catalog, integral, catalogued⟩
  refine Triple.bind (internally_noFailure
    (getKeyspace_catalogued roundTrips (normId identifier)))
    (fun found => ?_) store catalogued
  cases found with
  | none =>
      exact .fail ((Catalogued.kept _ _ _ _).withFact _)
        fun _ holds => ⟨catalog, integral, holds.2⟩
  | some keyspace =>
      exact .pure ((Catalogued.kept _ _ _ _).withFact _)
        fun _ holds => ⟨catalog, integral, holds.2⟩

/-- A CREATE KEYSPACE keeps integrity. -/
theorem execCreateKeyspace_integral
    (create : CreateKeyspace)
    (binds : Binds) :
    Triple answer (engineRely permitted)
      (Integral json)
      (execCreateKeyspace json create binds :
        StorageProgram shards QueryFault _)
      (fun _ => Integral json)
      (fun _ => Integral json) := by
  rintro store ⟨catalog, integral, catalogued⟩
  refine Triple.bind (internally_noFailure
    (getKeyspace_catalogued roundTrips (normId create.name)))
    (fun found => ?_) store catalogued
  apply Triple.of_fact
  intro _
  have kept :
      (engineRely permitted).Keeps
        (Catalogued json catalog catalog : Storage shards → Prop) :=
    Catalogued.kept json catalog catalog permitted
  cases found with
  | some keyspace =>
      simp only
      split
      · exact .pure kept fun _ holds => ⟨catalog, integral, holds⟩
      · exact .fail kept fun _ holds => ⟨catalog, integral, holds⟩
  | none =>
      simp only
      split
      · exact .fail kept fun _ holds => ⟨catalog, integral, holds⟩
      · have defined := integral.putKeyspace (normId create.name)
          ⟨normId create.name, create.replication⟩
        refine .bind (internally_noFailure (putKeyspace_catalogued _))
          fun _ => ?_
        refine .bind (internally_integral defined
          (putSystemSchemaRow_catalogued roundTrips _ _ _)) fun _ => ?_
        exact .pure (Catalogued.kept _ _ _ _) fun _ holds =>
          ⟨_, defined, holds⟩

/-- A DROP KEYSPACE keeps integrity. -/
theorem execDropKeyspace_integral
    (drop : CommonDrop)
    (binds : Binds) :
    Triple answer (engineRely permitted)
      (Integral json)
      (execDropKeyspace json drop binds : StorageProgram shards QueryFault _)
      (fun _ => Integral json)
      (fun _ => Integral json) := by
  rintro store ⟨catalog, integral, catalogued⟩
  refine Triple.bind (internally_noFailure
    (getKeyspace_catalogued roundTrips (normId drop.name.name)))
    (fun found => ?_) store catalogued
  apply Triple.of_fact
  intro _
  have kept :
      (engineRely permitted).Keeps
        (Catalogued json catalog catalog : Storage shards → Prop) :=
    Catalogued.kept json catalog catalog permitted
  cases found with
  | none =>
      simp only
      split
      · exact .pure kept fun _ holds => ⟨catalog, integral, holds⟩
      · exact .fail kept fun _ holds => ⟨catalog, integral, holds⟩
  | some keyspace =>
      have forgotten := integral.deleteKeyspace (normId drop.name.name)
      refine .bind (.ofExcept kept (fun _ _ _ => id)
        fun _ _ _ holds => ⟨catalog, integral, holds⟩) fun _ => ?_
      refine .bind (internally_noFailure (deleteKeyspace_catalogued _))
        fun tickets => ?_
      refine .bind (internally_integral forgotten (catalogued_of_never
        (never_deleteSystemSchemaPartitions_changesCatalog _ _))) fun _ => ?_
      exact .pure (Catalogued.kept _ _ _ _) fun _ holds =>
        ⟨_, forgotten, holds⟩

/-- A DROP TABLE keeps integrity. -/
theorem execDropTable_integral
    (sessionKs : Option String)
    (drop : CommonDrop)
    (binds : Binds) :
    Triple answer (engineRely permitted)
      (Integral json)
      (execDropTable json sessionKs drop binds :
        StorageProgram shards QueryFault _)
      (fun _ => Integral json)
      (fun _ => Integral json) := by
  rintro store ⟨catalog, integral, catalogued⟩
  have kept :
      (engineRely permitted).Keeps
        (Catalogued json catalog catalog : Storage shards → Prop) :=
    Catalogued.kept json catalog catalog permitted
  refine Triple.bind (.ofExcept kept (fun _ _ _ => id)
    fun _ _ _ holds => ⟨catalog, integral, holds⟩) (fun keyspace => ?_)
    store catalogued
  refine .bind (internally_noFailure (getTable_found roundTrips _ _))
    fun found => ?_
  apply Triple.of_fact
  intro looked
  cases found with
  | none =>
      simp only
      split
      · exact .pure kept fun _ holds => ⟨catalog, integral, holds⟩
      · exact .fail kept fun _ holds => ⟨catalog, integral, holds⟩
  | some definition =>
      obtain ⟨name, rfl, sameTable, _⟩ := looked definition rfl
      rw [← sameTable]
      have forgotten := integral.deleteTable name
      refine .bind (.ofExcept kept (fun _ _ _ => id)
        fun _ _ _ holds => ⟨catalog, integral, holds⟩) fun _ => ?_
      refine .bind (internally_noFailure (deleteTable_catalogued name))
        fun tickets => ?_
      refine .bind (internally_integral forgotten (catalogued_of_never
        (never_unmirrorTableMetadata_changesCatalog _ _))) fun _ => ?_
      exact .pure (Catalogued.kept _ _ _ _) fun _ holds =>
        ⟨_, forgotten, holds⟩

omit roundTrips

omit [NeZero shards] in
/-- A planned definition is built from the statement outside the system. -/
theorem planCreateTable_eq_ok
    {keyspace table : String}
    {create : CreateTable}
    {definition : TableDef}
    (planned : planCreateTable keyspace table create = .ok definition) :
    keyspace ∉ systemKeyspaces ∧
      buildTableDef keyspace table create = some definition ∧
      definition.partitionKeys ≠ [] := by
  obtain ⟨_, checked, chosen⟩ := Fallible.bind_eq_ok.mp planned
  have isUser : keyspace ∉ systemKeyspaces := by
    intro isSystem
    simp [checkWritable, isSystem] at checked
  refine ⟨isUser, ?_⟩
  split at chosen
  · cases chosen
  · rename_i built found
    split at chosen
    · cases chosen
    · rename_i hasKey
      cases chosen
      refine ⟨found, ?_⟩
      intro none_
      simp [none_] at hasKey

omit [NeZero shards] in
/-- A built definition has the names it was built for. -/
theorem buildTableDef_names
    {keyspace table : String}
    {create : CreateTable}
    {definition : TableDef}
    (built : buildTableDef keyspace table create = some definition) :
    definition.keyspace = keyspace ∧ definition.name = table := by
  unfold buildTableDef at built
  obtain ⟨columns, _, shape⟩ := Option.bind_eq_some_iff.mp built
  cases shape
  exact ⟨rfl, rfl⟩

/-- A keyspace that a lookup finds. -/
def KeyspaceExists
    (json : CatalogJson)
    (store : Storage shards)
    (keyspace : String) :
    Prop :=
  ((getKeyspace json keyspace).run answer store).1.toOption.join.isSome = true

instance (json : CatalogJson) (store : Storage shards) (keyspace : String) :
    Decidable (KeyspaceExists json store keyspace) :=
  inferInstanceAs (Decidable (_ = _))

/-- A lookup finds the keyspaces of the catalog. -/
theorem keyspaceExists_iff
    {store : Storage shards}
    (catalogued : Catalogued json catalog catalog store)
    (roundTrips : json.RoundTrips)
    (keyspace : String) :
    KeyspaceExists json store keyspace ↔
      (catalog.keyspaces keyspace).isSome = true := by
  have looks :
      (getKeyspace json keyspace).Ensures answer (engineRely fun _ => True)
        _ noFailure store :=
    getKeyspace_catalogued roundTrips keyspace store catalogued
  unfold KeyspaceExists
  rcases ran :
      (getKeyspace json keyspace).run answer store with ⟨failure | found, last⟩
  · exact (looks.abort_of_run ran).elim
  · obtain ⟨rfl, _⟩ := looks.post_of_run ran
    cases catalog.keyspaces keyspace <;> simp [Except.toOption]

/--
What a CREATE TABLE that passes its own checks relies on: its keyspace exists
and neither name contains `!`.
-/
def CreatesInKeyspace
    (json : CatalogJson)
    (sessionKs : Option String)
    (create : CreateTable)
    (store : Storage shards) :
    Prop :=
  match nameKeyspace sessionKs create.name with
  | .error _ =>
      True
  | .ok keyspace =>
      match planCreateTable keyspace (normId create.name.name) create with
      | .error _ =>
          True
      | .ok _ =>
          BangFree keyspace ∧
            BangFree (normId create.name.name) ∧
            KeyspaceExists json store keyspace

instance
    (json : CatalogJson)
    (sessionKs : Option String)
    (create : CreateTable)
    (store : Storage shards) :
    Decidable (CreatesInKeyspace json sessionKs create store) :=
  match named : nameKeyspace sessionKs create.name with
  | .error _ =>
      isTrue (by simp [CreatesInKeyspace, named])
  | .ok keyspace =>
      match planned :
          planCreateTable keyspace (normId create.name.name) create with
      | .error _ =>
          isTrue (by simp [CreatesInKeyspace, named, planned])
      | .ok _ =>
          decidable_of_iff
            (BangFree keyspace ∧
              BangFree (normId create.name.name) ∧
              KeyspaceExists json store keyspace)
            (by simp [CreatesInKeyspace, named, planned])

include roundTrips

/-- A CREATE TABLE in an existing keyspace keeps integrity. -/
theorem execCreateTable_integral
    {sessionKs : Option String}
    {create : CreateTable}
    {store : Storage shards}
    (inKeyspace : CreatesInKeyspace json sessionKs create store)
    (holds : Integral json store)
    (binds : Binds) :
    (execCreateTable json sessionKs create binds :
      StorageProgram shards QueryFault _).Ensures answer (engineRely permitted)
        (fun _ => Integral json) (fun _ => Integral json) store := by
  obtain ⟨catalog, integral, catalogued⟩ := holds
  have kept :
      (engineRely permitted).Keeps
        (Catalogued json catalog catalog : Storage shards → Prop) :=
    Catalogued.kept json catalog catalog permitted
  cases named : nameKeyspace sessionKs create.name with
  | error fault =>
      simp only [execCreateTable, named, Program.ofExcept, fail_bind]
      exact Triple.fail kept (fun _ holds => ⟨catalog, integral, holds⟩) store
        catalogued
  | ok keyspace =>
      simp only [execCreateTable, named, Program.ofExcept, return_bind]
      refine Triple.bind (internally_noFailure
        (getTable_found roundTrips keyspace (normId create.name.name)))
        (fun found => ?_) store catalogued
      apply Triple.of_fact
      intro _
      cases found with
      | some definition =>
          simp only
          split
          · exact .pure kept fun _ holds => ⟨catalog, integral, holds⟩
          · exact .fail kept fun _ holds => ⟨catalog, integral, holds⟩
      | none =>
          cases planned :
              planCreateTable keyspace (normId create.name.name) create with
          | error fault =>
              exact .fail kept fun _ holds => ⟨catalog, integral, holds⟩
          | ok definition =>
              simp only [return_bind]
              simp only [CreatesInKeyspace, named, planned] at inKeyspace
              obtain ⟨keyspaceFree, tableFree, exists_⟩ := inKeyspace
              let name : TableName :=
                ⟨keyspace, normId create.name.name, keyspaceFree, tableFree⟩
              have sameKeyspace : definition.keyspace = name.keyspace :=
                (buildTableDef_names (planCreateTable_eq_ok planned).2.1).1
              have sameTable : definition.name = name.table :=
                (buildTableDef_names (planCreateTable_eq_ok planned).2.1).2
              have belongs :
                  (catalog.keyspaces name.keyspace).isSome = true := by
                rw [← keyspaceExists_iff catalogued roundTrips]
                exact exists_
              have defined : (catalog.putTable name definition).Integral :=
                integral.putTable sameKeyspace belongs
              refine .bind (internally_noFailure (putTable_catalogued
                sameKeyspace sameTable)) fun _ => ?_
              refine .bind (internally_integral defined
                (mirrorTableMetadata_catalogued roundTrips definition))
                fun _ => ?_
              exact .pure (Catalogued.kept _ _ _ _) fun _ holds =>
                ⟨_, defined, holds⟩

end Statements

/-! ## Runs -/

/-- Every table that can be looked up belongs to a keyspace that can be. -/
def ReferentialIntegrity (json : CatalogJson) (store : Storage shards) : Prop :=
  ∀ keyspace table definition,
    (∃ final,
      (getTable json keyspace table).run answer store =
        (.ok (some definition), final)) →
    KeyspaceExists json store definition.keyspace

/-- Integrity of the catalog shows in lookups. -/
theorem Integral.referentialIntegrity
    (roundTrips : json.RoundTrips)
    {store : Storage shards}
    (holds : Integral json store) :
    ReferentialIntegrity json store := by
  obtain ⟨catalog, integral, catalogued⟩ := holds
  rintro keyspace table definition ⟨final, looked⟩
  have finds :
      (getTable json keyspace table).Ensures answer (engineRely fun _ => True)
        _ noFailure store :=
    getTable_found roundTrips keyspace table store catalogued
  obtain ⟨name, _, _, exists_⟩ := (finds.post_of_run looked).1 definition rfl
  obtain ⟨sameKeyspace, belongs⟩ := integral name definition exists_
  rw [sameKeyspace, keyspaceExists_iff catalogued roundTrips]
  exact belongs

/-- The statements that change the catalog or the session. -/
def Statement.DefinesOrUses : Statement → Prop
  | .use _ =>
      True
  | .createKeyspace _ =>
      True
  | .createTable _ =>
      True
  | .dropTable _ =>
      True
  | .dropKeyspace _ =>
      True
  | _ =>
      False

instance : DecidablePred Statement.DefinesOrUses
  | .use _ =>
      isTrue trivial
  | .createKeyspace _ =>
      isTrue trivial
  | .createTable _ =>
      isTrue trivial
  | .dropTable _ =>
      isTrue trivial
  | .dropKeyspace _ =>
      isTrue trivial
  | .insert _ =>
      isFalse id
  | .select _ =>
      isFalse id
  | .delete _ =>
      isFalse id
  | .update _ =>
      isFalse id
  | .truncate _ =>
      isFalse id
  | .other _ =>
      isFalse id

/-- A created table's keyspace exists and its names contain no `!`. -/
def Request.CreatesInKeyspace
    (json : CatalogJson)
    (store : Storage shards)
    (request : Request) :
    Prop :=
  match request.statement with
  | .createTable create =>
      RhydaDB.CreatesInKeyspace json request.sessionKs create store
  | _ =>
      True

instance
    (json : CatalogJson)
    (store : Storage shards)
    (request : Request) :
    Decidable (request.CreatesInKeyspace json store) :=
  match statement : request.statement with
  | .createTable create =>
      decidable_of_iff
        (RhydaDB.CreatesInKeyspace json request.sessionKs create store)
        (by simp [Request.CreatesInKeyspace, statement])
  | .use _ =>
      isTrue (by simp [Request.CreatesInKeyspace, statement])
  | .createKeyspace _ =>
      isTrue (by simp [Request.CreatesInKeyspace, statement])
  | .dropTable _ =>
      isTrue (by simp [Request.CreatesInKeyspace, statement])
  | .dropKeyspace _ =>
      isTrue (by simp [Request.CreatesInKeyspace, statement])
  | .insert _ =>
      isTrue (by simp [Request.CreatesInKeyspace, statement])
  | .select _ =>
      isTrue (by simp [Request.CreatesInKeyspace, statement])
  | .delete _ =>
      isTrue (by simp [Request.CreatesInKeyspace, statement])
  | .update _ =>
      isTrue (by simp [Request.CreatesInKeyspace, statement])
  | .truncate _ =>
      isTrue (by simp [Request.CreatesInKeyspace, statement])
  | .other _ =>
      isTrue (by simp [Request.CreatesInKeyspace, statement])

/-- A started statement has a property in the state it is started in. -/
def Server.Starts
    (property : Storage shards → Request → Prop)
    (server : Server shards) :
    ServerLabel shards → Prop
  | .start request =>
      property server.store request
  | _ =>
      True

instance
    (property : Storage shards → Request → Prop)
    [∀ store, DecidablePred (property store)]
    (server : Server shards) :
    (label : ServerLabel shards) → Decidable (server.Starts property label)
  | .start request =>
      inferInstanceAs (Decidable (property server.store request))
  | .advance _ =>
      isTrue trivial
  | .engine _ _ =>
      isTrue trivial

/-- Statements about the catalog, each issued after the last was answered. -/
def DefinitionsInSequence (server : Server shards) (label : ServerLabel shards) : Prop :=
  server.InSequence (fun _ => True) (fun _ => True) label ∧
    server.Starts (fun _ request => request.statement.DefinesOrUses) label

instance (server : Server shards) (label : ServerLabel shards) :
    Decidable (DefinitionsInSequence server label) :=
  inferInstanceAs (Decidable (_ ∧ _))

/-- Moreover, tables are created in existing keyspaces. -/
def DefinitionsInKeyspaces
    (json : CatalogJson)
    (server : Server shards)
    (label : ServerLabel shards) :
    Prop :=
  DefinitionsInSequence server label ∧
    server.Starts (Request.CreatesInKeyspace json) label

instance
    (json : CatalogJson)
    (server : Server shards)
    (label : ServerLabel shards) :
    Decidable (DefinitionsInKeyspaces json server label) :=
  inferInstanceAs (Decidable (_ ∧ _))

/-- Such a statement keeps integrity. -/
theorem Request.program_integral
    (roundTrips : json.RoundTrips)
    (hexDecode : HexDecode)
    {request : Request}
    {store : Storage shards}
    (defines : request.statement.DefinesOrUses)
    (inKeyspace : request.CreatesInKeyspace json store)
    (holds : Integral json store) :
    (request.program json hexDecode).Ensures answer (engineRely permitted)
      (fun _ => Integral json) (fun _ => Integral json) store := by
  unfold Request.program
  unfold Request.CreatesInKeyspace at inKeyspace
  cases statement : request.statement with
  | use keyspace =>
      exact execUse_integral roundTrips keyspace _ store holds
  | createKeyspace create =>
      exact execCreateKeyspace_integral roundTrips create _ store holds
  | createTable create =>
      rw [statement] at inKeyspace
      exact execCreateTable_integral roundTrips inKeyspace holds _
  | dropTable drop =>
      exact execDropTable_integral roundTrips _ drop _ store holds
  | dropKeyspace drop =>
      exact execDropKeyspace_integral roundTrips drop _ store holds
  | insert ins =>
      rw [statement] at defines
      exact defines.elim
  | select sel =>
      rw [statement] at defines
      exact defines.elim
  | delete del =>
      rw [statement] at defines
      exact defines.elim
  | update upd =>
      rw [statement] at defines
      exact defines.elim
  | truncate name =>
      rw [statement] at defines
      exact defines.elim
  | other shortName =>
      rw [statement] at defines
      exact defines.elim

/--
However statements that define, drop or use keyspaces and tables follow one
another, every table belongs to a keyspace, provided that tables are created in
keyspaces that exist.
-/
theorem referential_integrity
    (roundTrips : json.RoundTrips)
    {hexDecode : HexDecode}
    {writeSync caching : Bool}
    {ids : NodeIds}
    {labels : List (ServerLabel shards)}
    {server : Server shards}
    (run :
      Run (Server.step? json hexDecode) (DefinitionsInKeyspaces json)
        (.idle (Storage.opened json shards writeSync caching ids)) labels
        server)
    (quiet : server.Quiet fun _ => True) :
    ReferentialIntegrity json server.store := by
  have holds : Integral json server.store := by
    refine Server.good_of_run integral_kept (fun allowed => allowed.1.1) ?_ ?_
      run quiet
    · intro before request allowed integral
      exact (request.program_integral roundTrips hexDecode allowed.1.2
        allowed.2 integral).mono (fun _ _ => id) fun _ _ holds _ => holds
    · have empty : Catalog.empty.Integral := by
        intro name table exists_
        cases exists_
      exact ⟨_, empty.seed,
        catalogued_opened roundTrips writeSync caching ids⟩
  exact holds.referentialIntegrity roundTrips

/-! ## Two sessions -/

/-- A request without values. -/
def plainRequest (statement : Statement) : Request where
  sessionKs := none
  statement := statement
  values := []
  pageSize := none
  pagingState := none

/-- `CREATE KEYSPACE keyspace`. -/
def createKeyspaceRequest (keyspace : String) : Request :=
  plainRequest (.createKeyspace
    { ifNotExists := false
      name := .unquoted keyspace
      replication := [("'class'", "'SimpleStrategy'")] })

/-- `CREATE TABLE keyspace.t (k int PRIMARY KEY)`. -/
def createTableRequest (keyspace : String) : Request :=
  plainRequest (.createTable
    { ifNotExists := false
      name := ⟨some (.unquoted keyspace), .unquoted "t"⟩
      columns := [⟨.unquoted "k", ⟨.int, []⟩, true⟩]
      key := none })

/-- A request and the steps of its task. -/
def serveRequest (index : Nat) (request : Request) (count : Nat) :
    List (ServerLabel 1) :=
  .start request :: List.replicate count (.advance index)

/-- A table created without its keyspace. -/
def strayTable : List (ServerLabel 1) :=
  serveRequest 0 (createTableRequest "nowhere") 10

/-- The table can be looked up and its keyspace cannot. -/
theorem created_outside_keyspaces :
    ∃ server,
      Run (Server.step? serdeJson fun _ => none) DefinitionsInSequence
          (.idle (Storage.opened serdeJson 1 false true zeroIds)) strayTable
          server ∧
        (server.Quiet fun _ => True) ∧
        ¬ ReferentialIntegrity serdeJson server.store := by
  have looked :
      (run? (Server.step? serdeJson fun _ => none)
          (.idle (Storage.opened serdeJson 1 false true zeroIds))
          strayTable).map
        (fun server =>
          (decide (server.Quiet fun _ => True),
            ((getTable serdeJson "nowhere" "t").run answer
              server.store).1.toOption.join.map TableDef.keyspace,
            decide (KeyspaceExists serdeJson server.store "nowhere"))) =
        some (true, some "nowhere", false) := by
    decide +kernel
  obtain ⟨server, ran, observed⟩ := Option.map_eq_some_iff.mp looked
  simp only [Prod.mk.injEq, decide_eq_true_eq, decide_eq_false_iff_not]
    at observed
  obtain ⟨quiet, found, missing⟩ := observed
  have permitted :
      Permitted (Server.step? serdeJson fun _ => none) DefinitionsInSequence
        (.idle (Storage.opened serdeJson 1 false true zeroIds))
        strayTable := by
    decide +kernel
  refine ⟨server, Run.of_run? permitted ran, quiet, fun integrity => ?_⟩
  rcases outcome :
      (getTable serdeJson "nowhere" "t").run answer server.store with
    ⟨failure | definition?, final⟩
  · rw [outcome] at found
    cases found
  · rw [outcome] at found
    obtain ⟨definition, rfl, sameKeyspace⟩ :
        ∃ definition,
          definition? = some definition ∧ definition.keyspace = "nowhere" := by
      simpa [Except.toOption] using found
    have exists_ := integrity "nowhere" "t" definition ⟨final, outcome⟩
    rw [sameKeyspace] at exists_
    exact missing exists_

/-- A keyspace and a table in it. -/
def tableInKeyspace : List (ServerLabel 1) :=
  serveRequest 0 (createKeyspaceRequest "app") 8 ++
    serveRequest 1 (createTableRequest "app") 10

/-- With its keyspace created first, the table belongs to it. -/
theorem referential_integrity_app :
    ∃ server,
      Run (Server.step? serdeJson fun _ => none)
          (DefinitionsInKeyspaces serdeJson)
          (.idle (Storage.opened serdeJson 1 false true zeroIds))
          tableInKeyspace server ∧
        server.tasks.length = 2 ∧
        ReferentialIntegrity serdeJson server.store := by
  have served :
      (run? (Server.step? serdeJson fun _ => none)
          (.idle (Storage.opened serdeJson 1 false true zeroIds))
          tableInKeyspace).map
        (fun server =>
          (decide (server.Quiet fun _ => True), server.tasks.length)) =
        some (true, 2) := by
    decide +kernel
  obtain ⟨server, ran, observed⟩ := Option.map_eq_some_iff.mp served
  simp only [Prod.mk.injEq, decide_eq_true_eq] at observed
  have permitted :
      Permitted (Server.step? serdeJson fun _ => none)
        (DefinitionsInKeyspaces serdeJson)
        (.idle (Storage.opened serdeJson 1 false true zeroIds))
        tableInKeyspace := by
    decide +kernel
  have run := Run.of_run? permitted ran
  exact ⟨server, run, observed.2,
    referential_integrity serdeJson_roundTrips run observed.1⟩

end RhydaDB
