import RhydaDB.CatalogSpec
import RhydaDB.Guarantees
import RhydaDB.StoredTables

namespace RhydaDB

open ByteStrings AtomicPrograms Storage

/-!
# Stores whose rows can be read

A store that serves a catalog holds, in its engines, in their queues and in the
row cache, only rows that the tables of the catalog can read.  An access keeps
this unless it changes the catalog or writes something else, and so does every
step of the pipeline threads; a program is therefore judged by its own accesses,
whatever runs beside it.
-/

namespace Catalog

/-- The table under a pair of names, if names like these can exist. -/
def find (catalog : Catalog) (keyspace table : String) : Option TableDef :=
  if keyspaceFree : BangFree keyspace then
    if tableFree : BangFree table then
      catalog.tables ⟨keyspace, table, keyspaceFree, tableFree⟩
    else
      none
  else
    none

/-- A table is found under its name. -/
theorem find_name (catalog : Catalog) (name : TableName) :
    catalog.find name.keyspace name.table = catalog.tables name := by
  rw [find, dif_pos name.keyspaceFree, dif_pos name.tableFree]

/-- There is no table under a name with a separator. -/
theorem find_unnamed
    {catalog : Catalog}
    {keyspace table : String}
    (unnamed : ¬ (BangFree keyspace ∧ BangFree table)) :
    catalog.find keyspace table = none := by
  unfold find
  split
  · split
    · exact absurd ⟨‹_›, ‹_›⟩ unnamed
    · rfl
  · rfl

/-- A table that is found exists under its name. -/
theorem find_eq_some
    {catalog : Catalog}
    {keyspace table : String}
    {definition : TableDef} :
    catalog.find keyspace table = some definition ↔
      ∃ name : TableName,
        name.keyspace = keyspace ∧
          name.table = table ∧
          catalog.tables name = some definition := by
  constructor
  · intro found
    unfold find at found
    split at found
    · split at found
      · exact ⟨_, rfl, rfl, found⟩
      · cases found
    · cases found
  · rintro ⟨name, rfl, rfl, exists_⟩
    exact (catalog.find_name name).trans exists_

/--
Tables are defined under their own names, are well formed and have as many
columns as a row can number.
-/
structure Sound (catalog : Catalog) : Prop where
  named :
    ∀ name table,
      catalog.tables name = some table →
      table.name = name.table
  wellFormed :
    ∀ name table, catalog.tables name = some table → table.WellFormed
  columnsFit :
    ∀ name table,
      catalog.tables name = some table →
      table.columns.length ≤ 2 ^ 16

/-- A binding that is a row of the table whose prefix its key has, if any. -/
def Reads (catalog : Catalog) (key bytes : Bytes) : Prop :=
  ∀ name table,
    catalog.tables name = some table →
    name.dataPrefix <+: key →
    ∃ row : TableRow table, row.key name.keyspace = key ∧ row.bytes = bytes

end Catalog

/-- A row key lies under the prefix of its own table only. -/
theorem dataPrefix_prefix_rowKey_iff
    (name owner : TableName)
    (keyParts : List Bytes) :
    name.dataPrefix <+: rowKey owner.keyspace owner.table keyParts ↔
      name = owner := by
  have shape :
      rowKey owner.keyspace owner.table keyParts =
        dtPrefix ++ (utf8 owner.keyspace ++
          bang :: (utf8 owner.table ++ bang :: encodeKey keyParts)) := by
    simp [rowKey, dataPrefix]
  have stem :
      name.dataPrefix =
        dtPrefix ++ (utf8 name.keyspace ++
          bang :: (utf8 name.table ++ bang :: [])) := by
    simp [TableName.dataPrefix, dataPrefix]
  rw [shape, stem, List.prefix_append_right_inj,
    name_prefix_iff name.keyspaceFree owner.keyspaceFree,
    name_prefix_iff name.tableFree owner.tableFree]
  constructor
  · rintro ⟨keyspaces, tables, _⟩
    exact TableName.ext_names keyspaces tables
  · rintro rfl
    exact ⟨rfl, rfl, List.nil_prefix⟩

/-- What stores a row of a table is readable by the whole catalog. -/
theorem Catalog.Sound.reads_row
    {catalog : Catalog}
    (sound : catalog.Sound)
    {name : TableName}
    {table : TableDef}
    (exists_ : catalog.tables name = some table)
    (row : TableRow table) :
    catalog.Reads (row.key name.keyspace) row.bytes := by
  intro other definition otherExists under
  have same : other = name := by
    rwa [TableRow.key, sound.named name table exists_,
      dataPrefix_prefix_rowKey_iff] at under
  subst same
  obtain rfl : table = definition := by
    simpa [exists_] using otherExists
  exact ⟨row, rfl, rfl⟩

/-! ## Operations and engines -/

/-- The operation writes nothing that the catalog cannot read. -/
def WriteOp.Readable (catalog : Catalog) : WriteOp → Prop
  | .put key bytes =>
      catalog.Reads key bytes
  | _ =>
      True

section Engines

variable {catalog : Catalog}

/-- A readable operation leaves readable bindings. -/
theorem WriteOp.Readable.applyOp
    {op : WriteOp}
    (readable : op.Readable catalog)
    {db : ByteMap Bytes}
    (stored : ∀ key bytes, db[key]? = some bytes → catalog.Reads key bytes)
    (key bytes : Bytes)
    (found : (RhydaDB.applyOp db op)[key]? = some bytes) :
    catalog.Reads key bytes := by
  cases op with
  | put target value =>
      simp only [RhydaDB.applyOp, ByteMap.getElem?_insert_bytes] at found
      split at found
      · rename_i same
        subst same
        cases found
        exact readable
      · exact stored key bytes found
  | delete target =>
      simp only [RhydaDB.applyOp, ByteMap.getElem?_erase_bytes] at found
      split at found
      · cases found
      · exact stored key bytes found
  | deleteRange start stop =>
      simp only [RhydaDB.applyOp, ByteMap.getElem?_eraseRange] at found
      split at found
      · cases found
      · exact stored key bytes found

/-- So do readable operations in a row. -/
theorem readable_applyOps
    {ops : List WriteOp}
    (readable : ∀ op ∈ ops, op.Readable catalog)
    {db : ByteMap Bytes}
    (stored : ∀ key bytes, db[key]? = some bytes → catalog.Reads key bytes) :
    ∀ key bytes,
      (applyOps db ops)[key]? = some bytes →
      catalog.Reads key bytes := by
  induction ops generalizing db with
  | nil =>
      exact stored
  | cons op rest inductionHypothesis =>
      have first : op.Readable catalog :=
        readable op List.mem_cons_self
      exact inductionHypothesis
        (fun later member => readable later (List.mem_cons_of_mem op member))
        (first.applyOp stored)

end Engines

/-! ## Stores -/

variable
  {shards : Nat} [NeZero shards]
  {json : CatalogJson}
  {catalog : Catalog}
  {store : Storage shards}

/--
The store has this catalog, and whatever it holds, has queued or has cached is
readable by it.
-/
structure Serves
    (json : CatalogJson)
    (catalog : Catalog)
    (store : Storage shards) :
    Prop where
  catalogued : Catalogued json catalog catalog store
  stored :
    ∀ engine key bytes,
      (store.engines engine).db[key]? = some bytes →
      catalog.Reads key bytes
  queued :
    ∀ engine,
      ∀ queued ∈ (store.engines engine).inFlight,
        queued.op.Readable catalog
  cached :
    ∀ key bytes,
      (store.rowCache.bind fun cache => cache[key]?) = some bytes →
      catalog.Reads key bytes

/-- An access that changes the catalog or writes what it cannot read. -/
def StorageAction.Harms (catalog : Catalog) : StorageAction shards → Prop
  | .cacheInsert key bytes =>
      ¬ catalog.Reads key bytes
  | .dbWrite _ op =>
      ¬ (op.OnRows ∧ op.Readable catalog)
  | .send _ op =>
      ¬ (op.OnRows ∧ op.Readable catalog)
  | action =>
      action.ChangesCatalog

namespace Serves

omit [NeZero shards] in
/-- An access without harm does not change the catalog. -/
theorem not_changesCatalog
    {action : StorageAction shards}
    (harmless : ¬ action.Harms catalog) :
    ¬ action.ChangesCatalog := by
  cases action with
  | dbWrite engine op =>
      exact not_not.mpr (not_not.mp harmless).1
  | send engine op =>
      exact not_not.mpr (not_not.mp harmless).1
  | cacheInsert key bytes =>
      exact id
  | _ =>
      exact harmless

omit [NeZero shards] in
/-- An access without harm leaves each engine's bindings and queue readable. -/
theorem setEngine_readable
    (stored :
      ∀ engine key bytes,
        (store.engines engine).db[key]? = some bytes →
        catalog.Reads key bytes)
    {engine : Fin shards}
    {pipeline : Pipeline}
    (readable :
      ∀ key bytes, pipeline.db[key]? = some bytes → catalog.Reads key bytes) :
    ∀ other key bytes,
      ((store.setEngine engine pipeline).engines other).db[key]? = some bytes →
      catalog.Reads key bytes := by
  intro other key bytes found
  by_cases same : other = engine
  · simp only [setEngine_engines, same, ↓reduceIte] at found
    exact readable key bytes found
  · simp only [setEngine_engines, same, ↓reduceIte] at found
    exact stored other key bytes found

omit [NeZero shards] in
/-- Replacing an engine by one with a readable queue keeps the queues readable. -/
theorem setEngine_queued
    (wereQueued :
      ∀ engine,
        ∀ queued ∈ (store.engines engine).inFlight,
          queued.op.Readable catalog)
    {engine : Fin shards}
    {pipeline : Pipeline}
    (readable : ∀ queued ∈ pipeline.inFlight, queued.op.Readable catalog) :
    ∀ other,
      ∀ queued ∈ ((store.setEngine engine pipeline).engines other).inFlight,
        queued.op.Readable catalog := by
  intro other
  by_cases same : other = engine
  · simpa only [setEngine_engines, same, ↓reduceIte] using readable
  · simpa only [setEngine_engines, same, ↓reduceIte] using wereQueued other

omit [NeZero shards] in
/-- Changing the row cache to one that is readable keeps it readable. -/
theorem mapCache_readable
    (cached :
      ∀ key bytes,
        (store.rowCache.bind fun cache => cache[key]?) = some bytes →
        catalog.Reads key bytes)
    {change : ByteMap Bytes → ByteMap Bytes}
    (readable :
      ∀ cache : ByteMap Bytes,
        (∀ key bytes, cache[key]? = some bytes → catalog.Reads key bytes) →
        ∀ key bytes,
          (change cache)[key]? = some bytes → catalog.Reads key bytes) :
    ∀ key bytes,
      ((store.mapCache change).rowCache.bind fun cache => cache[key]?) =
          some bytes →
      catalog.Reads key bytes := by
  intro key bytes found
  cases caching : store.rowCache with
  | none =>
      simp [mapCache, caching] at found
  | some cache =>
      simp only [mapCache, caching, Option.map_some, Option.bind_some] at found
      simp only [caching, Option.bind_some] at cached
      exact readable cache cached key bytes found

/-- An access without harm keeps the store serving its catalog. -/
theorem answer
    (serves : Serves json catalog store)
    {action : StorageAction shards}
    (harmless : ¬ action.Harms catalog) :
    Serves json catalog (store.answer action).1 := by
  have catalogued :
      Catalogued json catalog catalog (store.answer action).1 :=
    serves.catalogued.answer (not_changesCatalog harmless)
  cases action with
  | dbWrite engine op =>
      refine ⟨catalogued, ?_, ?_, serves.cached⟩
      · exact setEngine_readable serves.stored
          ((not_not.mp harmless).2.applyOp (serves.stored engine))
      · exact setEngine_queued serves.queued (serves.queued engine)
  | send engine op =>
      simp only [Storage.answer, serves.catalogued.isOpen.send engine op] at *
      refine ⟨catalogued, ?_, ?_, serves.cached⟩
      · exact setEngine_readable serves.stored (serves.stored engine)
      · apply setEngine_queued serves.queued
        intro queued member
        have accepted :
            ((store.engines engine).accept op).inFlight =
              (store.engines engine).inFlight ++
                [⟨op, (store.engines engine).nextTicket⟩] := by
          simp [Pipeline.inFlight, Pipeline.accept, Pipeline.committerBatch,
            Pipeline.collectorBatch]
        rw [accepted] at member
        rcases List.mem_append.mp member with before | last
        · exact serves.queued engine queued before
        · rw [List.mem_singleton.mp last]
          exact (not_not.mp harmless).2
  | cacheInsert key bytes =>
      have writes : (WriteOp.put key bytes).Readable catalog := not_not.mp harmless
      exact ⟨catalogued, serves.stored, serves.queued,
        mapCache_readable serves.cached fun _ => writes.applyOp⟩
  | cacheRemove key =>
      have writes : (WriteOp.delete key).Readable catalog := trivial
      exact ⟨catalogued, serves.stored, serves.queued,
        mapCache_readable serves.cached fun _ => writes.applyOp⟩
  | cacheClear =>
      refine ⟨catalogued, serves.stored, serves.queued,
        mapCache_readable serves.cached ?_⟩
      intro cache _ key bytes found
      simp at found
  | cacheGet key =>
      exact ⟨catalogued, serves.stored, serves.queued, serves.cached⟩
  | dbGet engine key =>
      exact ⟨catalogued, serves.stored, serves.queued, serves.cached⟩
  | dbScan engine leading =>
      exact ⟨catalogued, serves.stored, serves.queued, serves.cached⟩
  | keyspacesGet name =>
      exact ⟨catalogued, serves.stored, serves.queued, serves.cached⟩
  | tablesGet name =>
      exact ⟨catalogued, serves.stored, serves.queued, serves.cached⟩
  | _ =>
      exact (harmless trivial).elim

/-- The threads of the engines keep the store serving its catalog. -/
theorem thread
    (serves : Serves json catalog store)
    {engine : Fin shards}
    {label : PipelineLabel}
    {pipeline : Pipeline}
    (isThread : label.isThread = true)
    (taken : (store.engines engine).step? label = some pipeline) :
    Serves json catalog (store.setEngine engine pipeline) := by
  obtain ⟨shrinks, batch, wasQueued, applied⟩ :=
    (Pipeline.step?_sound taken).thread_frame isThread
  have moved :
      (engineRely fun _ => True).moves store (store.setEngine engine pipeline) := by
    refine .single ⟨engine, label, isThread, trivial, ?_⟩
    rw [engineStep?, taken]
    rfl
  refine ⟨Catalogued.kept json catalog catalog _ moved serves.catalogued, ?_, ?_,
    serves.cached⟩
  · apply setEngine_readable serves.stored
    rw [applied]
    apply readable_applyOps _ (serves.stored engine)
    intro op member
    obtain ⟨queued, isQueued, rfl⟩ := List.mem_map.mp member
    exact serves.queued engine queued (wasQueued queued isQueued)
  · apply setEngine_queued serves.queued
    intro queued member
    exact serves.queued engine queued (shrinks queued member)

end Serves

end RhydaDB
