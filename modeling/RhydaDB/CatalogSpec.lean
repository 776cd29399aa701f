import RhydaDB.Catalog

namespace RhydaDB

open ByteStrings AtomicPrograms Program Storage

/-!
# What the catalog's programs do

One rule per program of the store that reads or changes the catalog.  Each
holds while pipeline threads move between the program's accesses, and none of
the programs can fail on an open store.
-/

variable
  {shards : Nat} [NeZero shards]
  {json : CatalogJson}
  {recorded cached catalog : Catalog}
  {store : Storage shards}

/-- No failure is possible. -/
def noFailure {Failure State : Type} : Failure → State → Prop :=
  fun _ _ => False

namespace Catalogued

/-! ## Changing records -/

/-- A write to engine 0 that turns the records into those of another catalog. -/
theorem writeRecords
    (catalogued : Catalogued json recorded cached store)
    {next : Catalog}
    (op : WriteOp)
    (keyspaces :
      ∀ name,
        (applyOp (store.engines 0).db op)[keyspaceKey name]? =
          (next.keyspaces name).map json.keyspaceToVec)
    (tables :
      ∀ name : TableName,
        (applyOp (store.engines 0).db op)[name.recordKey]? =
          (next.tables name).map json.tableToVec)
    (unnamed :
      ∀ keyspace table,
        ¬ (BangFree keyspace ∧ BangFree table) →
        (applyOp (store.engines 0).db op)[tableKey keyspace table]? = none) :
    Catalogued json next cached (store.answer (.dbWrite 0 op)).1 := by
  refine ⟨catalogued.isOpen.setEngine
    ((catalogued.isOpen 0).directWrite op), ?_, ?_, ?_,
    catalogued.keyspaceCached, catalogued.tableCached, ?_,
    catalogued.unnamedCached⟩
  · simpa [Storage.answer] using catalogued.queued
  · simpa [Storage.answer, Pipeline.directWrite] using keyspaces
  · simpa [Storage.answer, Pipeline.directWrite] using tables
  · simpa [Storage.answer, Pipeline.directWrite] using unnamed

/-- Writing a keyspace's record defines the keyspace. -/
theorem putKeyspaceRecord
    (catalogued : Catalogued json recorded cached store)
    (name : String)
    (keyspace : KeyspaceDef) :
    Catalogued json (recorded.putKeyspace name keyspace) cached
      (store.answer (.dbWrite 0
        (.put (keyspaceKey name) (json.keyspaceToVec keyspace)))).1 := by
  apply catalogued.writeRecords
  · intro other
    by_cases same : name = other
    · simp [applyOp, Catalog.putKeyspace, same]
    · simp [applyOp, Catalog.putKeyspace, keyspaceKey_inj, same,
        Ne.symm same, catalogued.keyspaceRecord]
  · intro other
    have different : keyspaceKey name ≠ other.recordKey :=
      keyspaceKey_ne_tableKey _ _ _
    simp [applyOp, Catalog.putKeyspace, different, catalogued.tableRecord]
  · intro first second unnamed
    simp [applyOp, keyspaceKey_ne_tableKey,
      catalogued.unnamedRecord first second unnamed]

/-- Deleting a keyspace's record forgets the keyspace. -/
theorem deleteKeyspaceRecord
    (catalogued : Catalogued json recorded cached store)
    (name : String) :
    Catalogued json (recorded.forgetKeyspace name) cached
      (store.answer (.dbWrite 0 (.delete (keyspaceKey name)))).1 := by
  apply catalogued.writeRecords
  · intro other
    by_cases same : name = other
    · simp [applyOp, Catalog.forgetKeyspace, same]
    · simp [applyOp, Catalog.forgetKeyspace, keyspaceKey_inj, same,
        Ne.symm same, catalogued.keyspaceRecord]
  · intro other
    have different : keyspaceKey name ≠ other.recordKey :=
      keyspaceKey_ne_tableKey _ _ _
    simp [applyOp, Catalog.forgetKeyspace, different, catalogued.tableRecord]
  · intro first second unnamed
    simp [applyOp, keyspaceKey_ne_tableKey,
      catalogued.unnamedRecord first second unnamed]

/-- Writing a table's record defines the table. -/
theorem putTableRecord
    (catalogued : Catalogued json recorded cached store)
    (name : TableName)
    (table : TableDef) :
    Catalogued json (recorded.putTable name table) cached
      (store.answer (.dbWrite 0
        (.put name.recordKey (json.tableToVec table)))).1 := by
  apply catalogued.writeRecords
  · intro other
    have different : name.recordKey ≠ keyspaceKey other :=
      (keyspaceKey_ne_tableKey _ _ _).symm
    simp [applyOp, Catalog.putTable, different, catalogued.keyspaceRecord]
  · intro other
    by_cases same : name = other
    · simp [applyOp, Catalog.putTable, same]
    · simp [applyOp, Catalog.putTable, TableName.recordKey_inj, same,
        Ne.symm same, catalogued.tableRecord]
  · intro first second unnamed
    have different : name.recordKey ≠ tableKey first second :=
      fun same => unnamed (bangFree_of_tableKey_eq_recordKey same.symm)
    simp [applyOp, different, catalogued.unnamedRecord first second unnamed]

/-- Deleting a table's record forgets the table. -/
theorem deleteTableRecord
    (catalogued : Catalogued json recorded cached store)
    (name : TableName) :
    Catalogued json (recorded.deleteTable name) cached
      (store.answer (.dbWrite 0 (.delete name.recordKey))).1 := by
  apply catalogued.writeRecords
  · intro other
    have different : name.recordKey ≠ keyspaceKey other :=
      (keyspaceKey_ne_tableKey _ _ _).symm
    simp [applyOp, Catalog.deleteTable, different, catalogued.keyspaceRecord]
  · intro other
    by_cases same : name = other
    · simp [applyOp, Catalog.deleteTable, same]
    · simp [applyOp, Catalog.deleteTable, TableName.recordKey_inj, same,
        Ne.symm same, catalogued.tableRecord]
  · intro first second unnamed
    simp [applyOp, catalogued.unnamedRecord first second unnamed]

/-- Deleting a keyspace's range of records forgets its tables and no others. -/
theorem deleteTableRecords
    (catalogued : Catalogued json recorded cached store)
    (name : String) :
    Catalogued json (recorded.forgetTables name) cached
      (store.answer (.dbWrite 0
        (.deleteRange (tbPrefix ++ utf8 name ++ [bang])
          (tbPrefix ++ utf8 name ++ [bang + 1])))).1 := by
  apply catalogued.writeRecords
  · intro other
    have outside : ¬ tbPrefix ++ utf8 name ++ [bang] <+: keyspaceKey other := by
      rw [List.append_assoc]
      exact not_tbPrefix_prefix_keyspaceKey _ _
    simp only [applyOp, ByteMap.getElem?_eraseRange, bang_range_iff, outside,
      if_false]
    exact catalogued.keyspaceRecord other
  · intro other
    simp only [applyOp, ByteMap.getElem?_eraseRange, bang_range_iff,
      keyspace_prefix_recordKey_iff, Catalog.forgetTables]
    split
    · rfl
    · exact catalogued.tableRecord other
  · intro first second unnamed
    simp [applyOp, catalogued.unnamedRecord first second unnamed]

/-! ## Changing the maps in memory -/

/-- Caching a keyspace. -/
theorem insertKeyspace
    (catalogued : Catalogued json recorded cached store)
    (name : String)
    (keyspace : KeyspaceDef) :
    Catalogued json recorded (cached.putKeyspace name keyspace)
      (store.answer (.keyspacesInsert name keyspace)).1 := by
  refine { catalogued with keyspaceCached := ?_ }
  intro other found held
  by_cases same : other = name
  · subst same
    simpa [Storage.answer, Catalog.putKeyspace] using held
  · simp only [Storage.answer, Function.update_of_ne same] at held
    simpa [Catalog.putKeyspace, same] using
      catalogued.keyspaceCached other found held

/-- Uncaching a keyspace. -/
theorem removeKeyspace
    (catalogued : Catalogued json recorded cached store)
    (name : String) :
    Catalogued json recorded (cached.forgetKeyspace name)
      (store.answer (.keyspacesRemove name)).1 := by
  refine { catalogued with keyspaceCached := ?_ }
  intro other found held
  by_cases same : other = name
  · subst same
    simp [Storage.answer] at held
  · simp only [Storage.answer, Function.update_of_ne same] at held
    simpa [Catalog.forgetKeyspace, same] using
      catalogued.keyspaceCached other found held

/-- Caching a table. -/
theorem insertTable
    (catalogued : Catalogued json recorded cached store)
    (name : TableName)
    (table : TableDef) :
    Catalogued json recorded (cached.putTable name table)
      (store.answer (.tablesInsert (name.keyspace, name.table) table)).1 := by
  refine { catalogued with tableCached := ?_, unnamedCached := ?_ }
  · intro other found held
    by_cases same : other = name
    · subst same
      simpa [Storage.answer, Catalog.putTable] using held
    · have names : (other.keyspace, other.table) ≠ (name.keyspace, name.table) :=
        fun pair => same (TableName.ext_names (congrArg Prod.fst pair)
          (congrArg Prod.snd pair))
      simp only [Storage.answer, Function.update_of_ne names] at held
      simpa [Catalog.putTable, same] using
        catalogued.tableCached other found held
  · intro first second unnamed
    have names : (first, second) ≠ (name.keyspace, name.table) := by
      rintro ⟨⟩
      exact unnamed ⟨name.keyspaceFree, name.tableFree⟩
    simpa only [Storage.answer, Function.update_of_ne names] using
      catalogued.unnamedCached first second unnamed

/-- Uncaching a table. -/
theorem removeTable
    (catalogued : Catalogued json recorded cached store)
    (name : TableName) :
    Catalogued json recorded (cached.deleteTable name)
      (store.answer (.tablesRemove (name.keyspace, name.table))).1 := by
  refine { catalogued with tableCached := ?_, unnamedCached := ?_ }
  · intro other found held
    by_cases same : other = name
    · subst same
      simp [Storage.answer] at held
    · have names : (other.keyspace, other.table) ≠ (name.keyspace, name.table) :=
        fun pair => same (TableName.ext_names (congrArg Prod.fst pair)
          (congrArg Prod.snd pair))
      simp only [Storage.answer, Function.update_of_ne names] at held
      simpa [Catalog.deleteTable, same] using
        catalogued.tableCached other found held
  · intro first second unnamed
    by_cases names : (first, second) = (name.keyspace, name.table)
    · simp [Storage.answer, names]
    · simpa only [Storage.answer, Function.update_of_ne names] using
        catalogued.unnamedCached first second unnamed

/-- Uncaching the tables of a keyspace. -/
theorem retainOther
    (catalogued : Catalogued json recorded cached store)
    (name : String) :
    Catalogued json recorded (cached.forgetTables name)
      (store.answer (.tablesRetainOther name)).1 := by
  refine { catalogued with tableCached := ?_, unnamedCached := ?_ }
  · intro other found held
    by_cases same : other.keyspace = name
    · simp [Storage.answer, same] at held
    · simp only [Storage.answer, same, ne_eq, not_false_eq_true,
        if_true] at held
      simpa [Catalog.forgetTables, same] using
        catalogued.tableCached other found held
  · intro first second unnamed
    simp only [Storage.answer]
    split
    · exact catalogued.unnamedCached first second unnamed
    · rfl

end Catalogued

/-! ## The programs -/

variable {permitted : PipelineLabel → Prop}

/-- A program without catalog changes keeps the catalog. -/
theorem catalogued_of_never
    {Failure α : Type}
    {program : StorageProgram shards Failure α}
    (never : program.Never StorageAction.ChangesCatalog) :
    Triple answer (engineRely permitted)
      (Catalogued json recorded cached)
      program
      (fun _ => Catalogued json recorded cached)
      (fun _ => Catalogued json recorded cached) :=
  .of_never never (Catalogued.kept json recorded cached permitted)
    fun _ _ unchanging catalogued => catalogued.answer unchanging

/-- Queueing an operation on rows succeeds and keeps the catalog. -/
theorem sendOp_catalogued
    (engine : Fin shards)
    {op : WriteOp}
    (onRows : op.OnRows) :
    Triple answer (engineRely permitted)
      (Catalogued json recorded cached)
      (sendOp engine op)
      (fun _ => Catalogued json recorded cached)
      noFailure := by
  have kept :
      (engineRely permitted).Keeps
        (Catalogued json recorded cached : Storage shards → Prop) :=
    Catalogued.kept json recorded cached permitted
  apply Triple.act kept fun response store =>
    response.isSome = true ∧ Catalogued json recorded cached store
  · intro store catalogued
    refine ⟨?_, catalogued.answer (not_not.mpr onRows)⟩
    simp [Storage.answer, catalogued.isOpen.send engine op]
  · intro response
    apply Triple.of_fact
    intro sent
    cases response with
    | none =>
        cases sent
    | some ticket =>
        exact .pure kept fun _ holds => holds

/-- So does queueing it on several engines. -/
theorem sendToEach_catalogued
    {op : WriteOp}
    (onRows : op.OnRows)
    (engines : List (Fin shards)) :
    Triple answer (engineRely permitted)
      (Catalogued json recorded cached)
      (sendToEach op engines)
      (fun _ => Catalogued json recorded cached)
      noFailure := by
  have kept :
      (engineRely permitted).Keeps
        (Catalogued json recorded cached : Storage shards → Prop) :=
    Catalogued.kept json recorded cached permitted
  induction engines with
  | nil =>
      exact .pure kept fun _ holds => holds
  | cons engine rest inductionHypothesis =>
      refine .bind (sendOp_catalogued engine onRows) fun ticket => ?_
      refine .bind inductionHypothesis fun tickets => ?_
      exact .pure kept fun _ holds => holds

/-- Removing a range of rows succeeds and keeps the catalog. -/
theorem deleteDataPrefix_catalogued
    {stem : Bytes}
    (isRow : dtPrefix <+: stem ++ [bang]) :
    Triple answer (engineRely permitted)
      (Catalogued json recorded cached)
      (deleteDataPrefix (stem ++ [bang]) : StorageProgram shards Fault _)
      (fun _ => Catalogued json recorded cached)
      noFailure := by
  have kept :
      (engineRely permitted).Keeps
        (Catalogued json recorded cached : Storage shards → Prop) :=
    Catalogued.kept json recorded cached permitted
  have bound := prefixUpperBound_append stem (by decide : bang < 0xFF)
  have isUnder : dtPrefix.isPrefixOf (stem ++ [bang]) = true :=
    List.isPrefixOf_iff_prefix.mpr isRow
  rw [deleteDataPrefix, bound]
  refine .bind (sendToEach_catalogued (WriteOp.onRows_deleteRange isRow) _)
    fun tickets => ?_
  rw [isUnder]
  refine .act kept (fun _ => Catalogued json recorded cached)
    (fun _ catalogued => catalogued.mapCache _) fun _ => ?_
  exact .pure kept fun _ holds => holds

/-- Looking a keyspace up returns what the catalog has. -/
theorem getKeyspace_catalogued
    (roundTrips : json.RoundTrips)
    (name : String) :
    Triple answer (engineRely permitted)
      (Catalogued json catalog catalog)
      (getKeyspace json name : StorageProgram shards Fault _)
      (fun found store =>
        found = catalog.keyspaces name ∧ Catalogued json catalog catalog store)
      noFailure := by
  have kept :
      (engineRely permitted).Keeps
        (Catalogued json catalog catalog : Storage shards → Prop) :=
    Catalogued.kept json catalog catalog permitted
  simp only [getKeyspace, RhydaDB.get, atomically, perform_bind]
  apply Triple.act kept fun response store =>
    (∀ keyspace, response = some keyspace →
      catalog.keyspaces name = some keyspace) ∧
      Catalogued json catalog catalog store
  · intro store catalogued
    exact ⟨catalogued.keyspaceCached name, catalogued⟩
  intro response
  apply Triple.of_fact
  intro hit
  cases response with
  | some keyspace =>
      exact .pure kept fun _ holds => ⟨(hit keyspace rfl).symm, holds⟩
  | none =>
      apply Triple.act kept fun bytes store =>
        bytes = (catalog.keyspaces name).map json.keyspaceToVec ∧
          Catalogued json catalog catalog store
      · exact fun store catalogued =>
          ⟨catalogued.keyspaceRecord name, catalogued⟩
      intro bytes
      apply Triple.of_fact
      rintro rfl
      cases found : catalog.keyspaces name with
      | none =>
          exact .pure kept fun _ holds => ⟨rfl, holds⟩
      | some keyspace =>
          have unchanged : catalog.putKeyspace name keyspace = catalog := by
            simp [Catalog.putKeyspace, ← found]
          simp only [Option.map_some, roundTrips.keyspace, Program.ofExcept,
            return_bind]
          refine .act kept (fun _ => Catalogued json catalog catalog) ?_
            fun _ => .pure kept fun _ holds => ⟨rfl, holds⟩
          intro store catalogued
          have inserted := catalogued.insertKeyspace name keyspace
          rwa [unchanged] at inserted

/-- Looking a table up returns what the catalog has. -/
theorem getTable_catalogued
    (roundTrips : json.RoundTrips)
    (name : TableName) :
    Triple answer (engineRely permitted)
      (Catalogued json catalog catalog)
      (getTable json name.keyspace name.table : StorageProgram shards Fault _)
      (fun found store =>
        found = catalog.tables name ∧ Catalogued json catalog catalog store)
      noFailure := by
  have kept :
      (engineRely permitted).Keeps
        (Catalogued json catalog catalog : Storage shards → Prop) :=
    Catalogued.kept json catalog catalog permitted
  simp only [getTable, RhydaDB.get, atomically, perform_bind]
  apply Triple.act kept fun response store =>
    (∀ table, response = some table → catalog.tables name = some table) ∧
      Catalogued json catalog catalog store
  · intro store catalogued
    exact ⟨catalogued.tableCached name, catalogued⟩
  intro response
  apply Triple.of_fact
  intro hit
  cases response with
  | some table =>
      exact .pure kept fun _ holds => ⟨(hit table rfl).symm, holds⟩
  | none =>
      apply Triple.act kept fun bytes store =>
        bytes = (catalog.tables name).map json.tableToVec ∧
          Catalogued json catalog catalog store
      · exact fun store catalogued => ⟨catalogued.tableRecord name, catalogued⟩
      intro bytes
      apply Triple.of_fact
      rintro rfl
      cases found : catalog.tables name with
      | none =>
          exact .pure kept fun _ holds => ⟨rfl, holds⟩
      | some table =>
          have unchanged : catalog.putTable name table = catalog := by
            simp [Catalog.putTable, ← found]
          simp only [Option.map_some, roundTrips.table, Program.ofExcept,
            return_bind]
          refine .act kept (fun _ => Catalogued json catalog catalog) ?_
            fun _ => .pure kept fun _ holds => ⟨rfl, holds⟩
          intro store catalogued
          have inserted := catalogued.insertTable name table
          rwa [unchanged] at inserted

/-- Nothing is found under a name with `!`. -/
theorem getTable_unnamed
    {keyspace table : String}
    (unnamed : ¬ (BangFree keyspace ∧ BangFree table)) :
    Triple answer (engineRely permitted)
      (Catalogued json catalog catalog)
      (getTable json keyspace table : StorageProgram shards Fault _)
      (fun found store =>
        found = none ∧ Catalogued json catalog catalog store)
      noFailure := by
  have kept :
      (engineRely permitted).Keeps
        (Catalogued json catalog catalog : Storage shards → Prop) :=
    Catalogued.kept json catalog catalog permitted
  simp only [getTable, RhydaDB.get, atomically, perform_bind]
  apply Triple.act kept fun response store =>
    response = none ∧ Catalogued json catalog catalog store
  · exact fun store catalogued =>
      ⟨catalogued.unnamedCached keyspace table unnamed, catalogued⟩
  intro response
  apply Triple.of_fact
  rintro rfl
  apply Triple.act kept fun bytes store =>
    bytes = none ∧ Catalogued json catalog catalog store
  · exact fun store catalogued =>
      ⟨catalogued.unnamedRecord keyspace table unnamed, catalogued⟩
  intro bytes
  apply Triple.of_fact
  rintro rfl
  exact .pure kept fun _ holds => ⟨rfl, holds⟩

/-- Storing a keyspace defines it. -/
theorem putKeyspace_catalogued (keyspace : KeyspaceDef) :
    Triple answer (engineRely permitted)
      (Catalogued json catalog catalog)
      (putKeyspace json keyspace : StorageProgram shards Fault _)
      (fun _ =>
        Catalogued json (catalog.putKeyspace keyspace.name keyspace)
          (catalog.putKeyspace keyspace.name keyspace))
      noFailure := by
  refine .act (Catalogued.kept _ _ _ _)
    (fun _ => Catalogued json (catalog.putKeyspace keyspace.name keyspace)
      catalog)
    (fun _ catalogued => catalogued.putKeyspaceRecord _ keyspace) fun _ => ?_
  exact .act (Catalogued.kept _ _ _ _) _
    (fun _ catalogued => catalogued.insertKeyspace _ keyspace)
    fun _ => .pure (Catalogued.kept _ _ _ _) fun _ holds => holds

/-- Storing a table defines it. -/
theorem putTable_catalogued
    {name : TableName}
    {table : TableDef}
    (keyspaces : table.keyspace = name.keyspace)
    (tables : table.name = name.table) :
    Triple answer (engineRely permitted)
      (Catalogued json catalog catalog)
      (putTable json table : StorageProgram shards Fault _)
      (fun _ =>
        Catalogued json (catalog.putTable name table)
          (catalog.putTable name table))
      noFailure := by
  rw [putTable, keyspaces, tables]
  refine .act (Catalogued.kept _ _ _ _)
    (fun _ => Catalogued json (catalog.putTable name table) catalog)
    (fun _ catalogued => catalogued.putTableRecord name table) fun _ => ?_
  exact .act (Catalogued.kept _ _ _ _) _
    (fun _ catalogued => catalogued.insertTable name table)
    fun _ => .pure (Catalogued.kept _ _ _ _) fun _ holds => holds

/-- Deleting a table forgets it. -/
theorem deleteTable_catalogued (name : TableName) :
    Triple answer (engineRely permitted)
      (Catalogued json catalog catalog)
      (deleteTable name.keyspace name.table : StorageProgram shards Fault _)
      (fun _ =>
        Catalogued json (catalog.deleteTable name) (catalog.deleteTable name))
      noFailure := by
  simp only [deleteTable, delete, atomically, perform_bind]
  refine .act (Catalogued.kept _ _ _ _)
    (fun _ => Catalogued json (catalog.deleteTable name) catalog)
    (fun _ catalogued => catalogued.deleteTableRecord name) fun _ => ?_
  refine .bind (deleteDataPrefix_catalogued ?_) fun tickets => ?_
  · simp [List.append_assoc]
  exact .act (Catalogued.kept _ _ _ _) _
    (fun _ catalogued => catalogued.removeTable name)
    fun _ => .pure (Catalogued.kept _ _ _ _) fun _ holds => holds

/-- Deleting a keyspace forgets it and exactly its tables. -/
theorem deleteKeyspace_catalogued (name : String) :
    Triple answer (engineRely permitted)
      (Catalogued json catalog catalog)
      (deleteKeyspace name : StorageProgram shards Fault _)
      (fun _ =>
        Catalogued json (catalog.deleteKeyspace name)
          (catalog.deleteKeyspace name))
      noFailure := by
  have bound :=
    prefixUpperBound_append (tbPrefix ++ utf8 name) (by decide : bang < 0xFF)
  simp only [deleteKeyspace, delete, deletePrefix, bound, atomically,
    perform_bind]
  refine .act (Catalogued.kept _ _ _ _)
    (fun _ => Catalogued json (catalog.forgetKeyspace name) catalog)
    (fun _ catalogued => catalogued.deleteKeyspaceRecord name) fun _ => ?_
  refine .act (Catalogued.kept _ _ _ _)
    (fun _ => Catalogued json (catalog.deleteKeyspace name) catalog)
    (fun _ catalogued => catalogued.deleteTableRecords name) fun _ => ?_
  refine .bind (deleteDataPrefix_catalogued ?_) fun tickets => ?_
  · simp [List.append_assoc]
  refine .act (Catalogued.kept _ _ _ _)
    (fun _ => Catalogued json (catalog.deleteKeyspace name)
      (catalog.forgetKeyspace name))
    (fun _ catalogued => catalogued.removeKeyspace name) fun _ => ?_
  exact .act (Catalogued.kept _ _ _ _) _
    (fun _ catalogued => catalogued.retainOther name)
    fun _ => .pure (Catalogued.kept _ _ _ _) fun _ holds => holds

end RhydaDB
