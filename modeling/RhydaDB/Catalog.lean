import Mathlib.Logic.Relation
import RhydaDB.Interference
import RhydaDB.StorageSpec

namespace RhydaDB

open ByteStrings AtomicPrograms Storage

/-!
# The catalog

Keyspaces and tables are kept twice: as records of engine 0 and in two maps in
memory that are filled on demand.  The abstract catalog says which definitions
exist.  `Catalogued` relates it to a store: the records are those of one
catalog, the maps hold part of another one, and whatever is queued concerns
rows only.  The two catalogs differ only while a change is under way.

Pipeline threads move between the accesses of every call.
-/

/-- Which keyspaces and tables exist. -/
structure Catalog where
  keyspaces : String → Option KeyspaceDef
  tables : TableName → Option TableDef

namespace Catalog

/-- Nothing exists. -/
def empty : Catalog where
  keyspaces := fun _ => none
  tables := fun _ => none

/-- Define a keyspace. -/
def putKeyspace
    (catalog : Catalog)
    (name : String)
    (keyspace : KeyspaceDef) :
    Catalog :=
  { catalog with
    keyspaces := Function.update catalog.keyspaces name (some keyspace) }

/-- Define a table. -/
def putTable (catalog : Catalog) (name : TableName) (table : TableDef) : Catalog :=
  { catalog with tables := Function.update catalog.tables name (some table) }

/-- Forget a table. -/
def deleteTable (catalog : Catalog) (name : TableName) : Catalog :=
  { catalog with tables := Function.update catalog.tables name none }

/-- Forget a keyspace's own definition. -/
def forgetKeyspace (catalog : Catalog) (keyspace : String) : Catalog :=
  { catalog with
    keyspaces := Function.update catalog.keyspaces keyspace none }

/-- Forget the tables of a keyspace. -/
def forgetTables (catalog : Catalog) (keyspace : String) : Catalog :=
  { catalog with
    tables := fun name =>
      if name.keyspace = keyspace then none else catalog.tables name }

/-- Forget a keyspace and its tables. -/
def deleteKeyspace (catalog : Catalog) (keyspace : String) : Catalog :=
  (catalog.forgetKeyspace keyspace).forgetTables keyspace

end Catalog

/-- Deserialising a definition yields what was serialised. -/
structure CatalogJson.RoundTrips (json : CatalogJson) : Prop where
  keyspace :
    ∀ keyspace,
      json.keyspaceFromSlice (json.keyspaceToVec keyspace) = .ok keyspace
  table :
    ∀ table, json.tableFromSlice (json.tableToVec table) = .ok table

/-- An operation that leaves everything but rows alone. -/
def WriteOp.OnRows (op : WriteOp) : Prop :=
  ∀ (db : ByteMap Bytes) key,
    ¬ dtPrefix <+: key →
    (applyOp db op)[key]? = db[key]?

namespace WriteOp

theorem onRows_put
    {key : Bytes}
    (isRow : dtPrefix <+: key)
    (value : Bytes) :
    OnRows (.put key value) := by
  intro db other notRow
  have different : key ≠ other := by
    rintro rfl
    exact notRow isRow
  simp [applyOp, different]

theorem onRows_delete
    {key : Bytes}
    (isRow : dtPrefix <+: key) :
    OnRows (.delete key) := by
  intro db other notRow
  have different : key ≠ other := by
    rintro rfl
    exact notRow isRow
  simp [applyOp, different]

theorem onRows_deleteRange
    {stem : Bytes}
    (isRow : dtPrefix <+: stem ++ [bang]) :
    OnRows (.deleteRange (stem ++ [bang]) (stem ++ [bang + 1])) := by
  intro db other notRow
  have outside : ¬ stem ++ [bang] <+: other :=
    fun under => notRow (isRow.trans under)
  simp [applyOp, bang_range_iff, outside]

end WriteOp

/-! ## Keys of the catalog -/

/-- The key of a table's catalog record. -/
def TableName.recordKey (name : TableName) : Bytes :=
  tableKey name.keyspace name.table

/-- A keyspace's record is no row. -/
theorem not_dtPrefix_prefix_keyspaceKey (name : String) :
    ¬ dtPrefix <+: keyspaceKey name := by
  intro isRow
  have same := List.prefix_of_prefix_length_le isRow
    (List.prefix_append ksPrefix (utf8 name)) (by decide)
  revert same
  decide

/-- A table's catalog record is no row. -/
theorem not_dtPrefix_prefix_tableKey (keyspace table : String) :
    ¬ dtPrefix <+: tableKey keyspace table := by
  intro isRow
  rw [tableKey, List.append_assoc, List.append_assoc] at isRow
  have same := List.prefix_of_prefix_length_le isRow
    (List.prefix_append tbPrefix _) (by decide)
  revert same
  decide

/-- Keyspaces have distinct records. -/
theorem keyspaceKey_inj {first second : String} :
    keyspaceKey first = keyspaceKey second ↔ first = second := by
  simp [keyspaceKey, utf8_injective.eq_iff]

/-- Tables have distinct records. -/
theorem TableName.recordKey_inj {first second : TableName} :
    first.recordKey = second.recordKey ↔ first = second := by
  constructor
  · intro same
    have bytes :
        utf8 first.keyspace ++ bang :: utf8 first.table =
          utf8 second.keyspace ++ bang :: utf8 second.table := by
      simpa [recordKey, tableKey] using same
    have below :
        utf8 first.keyspace ++ bang :: utf8 first.table <+:
          utf8 second.keyspace ++ bang :: utf8 second.table := by
      rw [bytes]
    obtain ⟨keyspaces, _⟩ :=
      (name_prefix_iff first.keyspaceFree second.keyspaceFree).mp below
    rw [keyspaces] at bytes
    exact TableName.ext_names keyspaces
      (utf8_injective (List.cons_injective (List.append_cancel_left bytes)))
  · rintro rfl
    rfl

/-- No record is both a keyspace's and a table's. -/
theorem keyspaceKey_ne_tableKey (name keyspace table : String) :
    keyspaceKey name ≠ tableKey keyspace table := by
  intro same
  have head := congrArg (List.take 3) same
  revert head
  simp [keyspaceKey, tableKey, ksPrefix, tbPrefix]

/-- A name without the byte `!` contains no `!`. -/
theorem bangFree_of_bang_notMem
    {name : String}
    (absent : bang ∉ utf8 name) :
    BangFree name := by
  intro occurs
  refine absent ?_
  rw [utf8_eq_flatMap, List.mem_flatMap]
  exact ⟨'!', occurs, by decide⟩

/-- A record of a table without `!` in its names is of no other name pair. -/
theorem bangFree_of_tableKey_eq_recordKey
    {keyspace table : String}
    {name : TableName}
    (same : tableKey keyspace table = name.recordKey) :
    BangFree keyspace ∧ BangFree table := by
  have bytes :
      utf8 keyspace ++ bang :: utf8 table =
        utf8 name.keyspace ++ bang :: utf8 name.table := by
    simpa [TableName.recordKey, tableKey] using same
  have counts := congrArg (List.count bang) bytes
  have keyspaceCount : (utf8 name.keyspace).count bang = 0 :=
    List.count_eq_zero.mpr (bang_notMem_utf8 name.keyspaceFree)
  have tableCount : (utf8 name.table).count bang = 0 :=
    List.count_eq_zero.mpr (bang_notMem_utf8 name.tableFree)
  simp only [List.count_append, List.count_cons_self, keyspaceCount,
    tableCount] at counts
  exact ⟨bangFree_of_bang_notMem (List.count_eq_zero.mp (by omega)),
    bangFree_of_bang_notMem (List.count_eq_zero.mp (by omega))⟩

/-- A table's record lies under its keyspace's prefix and no other's. -/
theorem keyspace_prefix_recordKey_iff
    (keyspace : String)
    (name : TableName) :
    tbPrefix ++ utf8 keyspace ++ [bang] <+: name.recordKey ↔
      name.keyspace = keyspace := by
  have shape :
      name.recordKey =
        tbPrefix ++ (utf8 name.keyspace ++ bang :: utf8 name.table) := by
    simp [TableName.recordKey, tableKey]
  have stem :
      tbPrefix ++ utf8 keyspace ++ [bang] =
        tbPrefix ++ (utf8 keyspace ++ bang :: []) := by
    simp
  rw [shape, stem, List.prefix_append_right_inj]
  by_cases free : BangFree keyspace
  · rw [name_prefix_iff free name.keyspaceFree, eq_comm]
    simp
  · -- a longer name would put a second `!` into the record's key
    constructor
    · rintro ⟨rest, same⟩
      rw [List.append_assoc, List.cons_append, List.nil_append] at same
      have counts := congrArg (List.count bang) same
      have keyspaceCount : (utf8 name.keyspace).count bang = 0 :=
        List.count_eq_zero.mpr (bang_notMem_utf8 name.keyspaceFree)
      have tableCount : (utf8 name.table).count bang = 0 :=
        List.count_eq_zero.mpr (bang_notMem_utf8 name.tableFree)
      simp only [List.count_append, List.count_cons_self, keyspaceCount,
        tableCount] at counts
      exact (free (bangFree_of_bang_notMem
        (List.count_eq_zero.mp (by omega)))).elim
    · rintro rfl
      exact (free name.keyspaceFree).elim

/-- A keyspace's record lies under no table prefix. -/
theorem not_tbPrefix_prefix_keyspaceKey
    (rest : Bytes)
    (name : String) :
    ¬ tbPrefix ++ rest <+: keyspaceKey name := by
  intro under
  have same := List.prefix_of_prefix_length_le
    ((List.prefix_append tbPrefix rest).trans under)
    (List.prefix_append ksPrefix (utf8 name)) (by decide)
  revert same
  decide

/-! ## The environment -/

variable {shards : Nat}

namespace Pipeline

/--
A thread step takes nothing into flight, and it applies to the engine what it
takes out of flight, if anything.
-/
theorem Step.thread_frame
    {pipeline next : Pipeline}
    {label : PipelineLabel}
    (step : Step pipeline label next)
    (thread : label.isThread = true) :
    (∀ queued ∈ next.inFlight, queued ∈ pipeline.inFlight) ∧
      ∃ batch : List QueuedOp,
        (∀ queued ∈ batch, queued ∈ pipeline.inFlight) ∧
          next.db = applyOps pipeline.db (batch.map QueuedOp.op) := by
  cases step with
  | send op connected alive =>
      cases thread
  | disconnect connected =>
      cases thread
  | @write batch succeeds writing =>
      refine ⟨?_, if succeeds then batch else [], ?_, ?_⟩
      · simp only [inFlight, committerBatch, collectorBatch]
        intro queued member
        simp_all
      · intro queued member
        cases succeeds with
        | false =>
            simp at member
        | true =>
            simp only [↓reduceIte] at member
            simp [inFlight, committerBatch, writing, member]
      · cases succeeds <;> rfl
  | handFails handing gone =>
      refine ⟨?_, [], by simp, rfl⟩
      intro queued member
      simp only [inFlight, committerBatch, collectorBatch, handing, gone,
        List.mem_append] at member ⊢
      tauto
  | _ =>
      refine ⟨?_, [], by simp, rfl⟩
      simp_all [inFlight, committerBatch, collectorBatch]

/-- Thread steps keep an engine open. -/
theorem Live.thread_step
    {pipeline next : Pipeline}
    {label : PipelineLabel}
    (live : Live pipeline)
    (thread : label.isThread = true)
    (step : Step pipeline label next) :
    Live next := by
  refine ⟨live.ordered.step step, ?_⟩
  cases step with
  | disconnect connected =>
      cases thread
  | _ =>
      exact live.connected

end Pipeline

/-- One permitted step of some engine's threads. -/
def EngineMove
    (permitted : PipelineLabel → Prop)
    (before after : Storage shards) :
    Prop :=
  ∃ engine label,
    label.isThread = true ∧
      permitted label ∧
      before.engineStep? engine label = some after

/-- Between the accesses of a call, the engines' threads move. -/
def engineRely (permitted : PipelineLabel → Prop) : Rely (Storage shards) where
  moves := Relation.ReflTransGen (EngineMove permitted)
  refl := fun _ => .refl
  trans := Relation.ReflTransGen.trans

/-- What single thread steps keep, the environment keeps. -/
theorem engineRely_keeps
    {permitted : PipelineLabel → Prop}
    {property : Storage shards → Prop}
    (stepped :
      ∀ {store engine label pipeline},
        label.isThread = true →
        permitted label →
        Pipeline.Step (store.engines engine) label pipeline →
        property store →
        property (store.setEngine engine pipeline)) :
    (engineRely permitted).Keeps property := by
  intro before after moved holds
  induction moved with
  | refl =>
      exact holds
  | tail _ last inductionHypothesis =>
      obtain ⟨engine, label, thread, allowed, taken⟩ := last
      obtain ⟨pipeline, step, rfl⟩ := Option.map_eq_some_iff.mp taken
      exact stepped thread allowed (Pipeline.step?_sound step)
        inductionHypothesis

/-! ## Stores and catalogs -/

variable [NeZero shards]

/--
The records of engine 0 are those of `recorded`, the maps in memory hold part
of `cached`, and everything queued on engine 0 concerns rows.  Tables exist
under names without `!` only.
-/
structure Catalogued
    (json : CatalogJson)
    (recorded cached : Catalog)
    (store : Storage shards) :
    Prop where
  isOpen : store.Open
  queued :
    ∀ queued ∈ (store.engines 0).inFlight, queued.op.OnRows
  keyspaceRecord :
    ∀ name,
      (store.engines 0).db[keyspaceKey name]? =
        (recorded.keyspaces name).map json.keyspaceToVec
  tableRecord :
    ∀ name : TableName,
      (store.engines 0).db[name.recordKey]? =
        (recorded.tables name).map json.tableToVec
  keyspaceCached :
    ∀ name keyspace,
      store.keyspaces name = some keyspace →
      cached.keyspaces name = some keyspace
  tableCached :
    ∀ (name : TableName) table,
      store.tables (name.keyspace, name.table) = some table →
      cached.tables name = some table
  unnamedRecord :
    ∀ keyspace table,
      ¬ (BangFree keyspace ∧ BangFree table) →
      (store.engines 0).db[tableKey keyspace table]? = none
  unnamedCached :
    ∀ keyspace table,
      ¬ (BangFree keyspace ∧ BangFree table) →
      store.tables (keyspace, table) = none

/-- An access that may change the catalog. -/
def StorageAction.ChangesCatalog : StorageAction shards → Prop
  | .dbWrite _ op =>
      ¬ op.OnRows
  | .send _ op =>
      ¬ op.OnRows
  | .keyspacesInsert _ _ =>
      True
  | .keyspacesRemove _ =>
      True
  | .tablesInsert _ _ =>
      True
  | .tablesRemove _ =>
      True
  | .tablesRetainOther _ =>
      True
  | _ =>
      False

namespace Catalogued

variable
  {json : CatalogJson}
  {recorded cached : Catalog}
  {store : Storage shards}

/-- Only engine 0 and the maps in memory matter. -/
theorem setEngine
    (catalogued : Catalogued json recorded cached store)
    {engine : Fin shards}
    {pipeline : Pipeline}
    (live : pipeline.Live)
    (queued :
      (∀ queued ∈ (store.engines engine).inFlight, queued.op.OnRows) →
      ∀ queued ∈ pipeline.inFlight, queued.op.OnRows)
    (records :
      (∀ queued ∈ (store.engines engine).inFlight, queued.op.OnRows) →
      ∀ key,
        ¬ dtPrefix <+: key →
        pipeline.db[key]? = (store.engines engine).db[key]?) :
    Catalogued json recorded cached (store.setEngine engine pipeline) := by
  by_cases isFirst : engine = 0
  · subst isFirst
    refine ⟨catalogued.isOpen.setEngine live, ?_, ?_, ?_,
      catalogued.keyspaceCached, catalogued.tableCached, ?_,
      catalogued.unnamedCached⟩
    · simpa using queued catalogued.queued
    · intro name
      rw [← catalogued.keyspaceRecord, ← records catalogued.queued _
        (not_dtPrefix_prefix_keyspaceKey name)]
      simp
    · intro name
      rw [← catalogued.tableRecord, ← records catalogued.queued name.recordKey
        (not_dtPrefix_prefix_tableKey name.keyspace name.table)]
      simp
    · intro keyspace table unnamed
      rw [← catalogued.unnamedRecord keyspace table unnamed,
        ← records catalogued.queued _
          (not_dtPrefix_prefix_tableKey keyspace table)]
      simp
  · have first : (store.setEngine engine pipeline).engines 0 =
        store.engines 0 := by
      simp [Ne.symm isFirst]
    refine ⟨catalogued.isOpen.setEngine live, ?_, ?_, ?_,
      catalogued.keyspaceCached, catalogued.tableCached, ?_,
      catalogued.unnamedCached⟩
    · rw [first]
      exact catalogued.queued
    · rw [first]
      exact catalogued.keyspaceRecord
    · rw [first]
      exact catalogued.tableRecord
    · rw [first]
      exact catalogued.unnamedRecord

/-- The row cache does not matter. -/
theorem mapCache
    (catalogued : Catalogued json recorded cached store)
    (change : ByteMap Bytes → ByteMap Bytes) :
    Catalogued json recorded cached (store.mapCache change) :=
  ⟨catalogued.isOpen, catalogued.queued, catalogued.keyspaceRecord,
    catalogued.tableRecord, catalogued.keyspaceCached, catalogued.tableCached,
    catalogued.unnamedRecord, catalogued.unnamedCached⟩

/-- The threads of the engines leave the catalog alone. -/
theorem kept
    (json : CatalogJson)
    (recorded cached : Catalog)
    (permitted : PipelineLabel → Prop) :
    (engineRely permitted).Keeps
      (Catalogued json recorded cached : Storage shards → Prop) := by
  apply engineRely_keeps
  intro store engine label pipeline thread _ step catalogued
  obtain ⟨shrinks, batch, wasQueued, applied⟩ := step.thread_frame thread
  refine catalogued.setEngine
    ((catalogued.isOpen engine).thread_step thread step) ?_ ?_
  · exact fun onRows queued member => onRows queued (shrinks queued member)
  · intro onRows key notRow
    rw [applied]
    apply getElem?_applyOps
    intro op member db
    obtain ⟨queued, isQueued, rfl⟩ := List.mem_map.mp member
    exact onRows queued (wasQueued queued isQueued) db key notRow

/-- So do the accesses that do not change it. -/
theorem answer
    (catalogued : Catalogued json recorded cached store)
    {action : StorageAction shards}
    (unchanging : ¬ action.ChangesCatalog) :
    Catalogued json recorded cached (store.answer action).1 := by
  cases action with
  | dbWrite engine op =>
      have onRows : op.OnRows := not_not.mp unchanging
      exact catalogued.setEngine ((catalogued.isOpen engine).directWrite op)
        (fun queued => queued)
        (fun _ key notRow => onRows (store.engines engine).db key notRow)
  | send engine op =>
      have onRows : op.OnRows := not_not.mp unchanging
      simp only [Storage.answer, catalogued.isOpen.send engine op]
      refine catalogued.setEngine ((catalogued.isOpen engine).accept op) ?_
        (fun _ _ _ => rfl)
      intro wasOnRows queued member
      simp only [Pipeline.inFlight, Pipeline.accept, Pipeline.committerBatch,
        Pipeline.collectorBatch, List.mem_append, List.mem_singleton] at member
      rcases member with before | before | rfl
      · exact wasOnRows queued (by
          simp only [Pipeline.inFlight, Pipeline.committerBatch,
            Pipeline.collectorBatch, List.mem_append]
          exact .inl before)
      · exact wasOnRows queued (by
          simp only [Pipeline.inFlight, List.mem_append]
          exact .inr before)
      · exact onRows
  | cacheGet key =>
      exact catalogued
  | cacheInsert key value =>
      exact catalogued.mapCache _
  | cacheRemove key =>
      exact catalogued.mapCache _
  | cacheClear =>
      exact catalogued.mapCache _
  | dbGet engine key =>
      exact catalogued
  | dbScan engine leading =>
      exact catalogued
  | keyspacesGet name =>
      exact catalogued
  | tablesGet name =>
      exact catalogued
  | _ =>
      exact (unchanging trivial).elim

end Catalogued

end RhydaDB
