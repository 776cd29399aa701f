import RhydaDB.SeedSystem
import RhydaDB.SerdeJson
import RhydaDB.StorageSpec

namespace RhydaDB

open ByteStrings AtomicPrograms Program FiniteRuns Storage

/-!
# The size of the row cache

`RHYDADB_ROW_CACHE_ENTRIES` decides whether there is a row cache and is not
looked at afterwards.  Queued writes, synchronous writes and reads that miss
all insert into the map, and none of them evicts: a run keeps within a capacity
exactly as long as its own operations ask for no further key.
-/

/-- `env_num`: the parsed variable or a default, clamped. -/
def envNum (parsed : Option Nat) (default minimum maximum : Nat) : Nat :=
  max minimum (min maximum (parsed.getD default))

/-- The number of row cache entries that is asked for. -/
def rowCacheEntries (parsed : Option Nat) : Nat :=
  envNum parsed 500000 0 10000000

namespace Storage

/-- A store that is opened with a number of row cache entries configured. -/
def openedWith
    (json : CatalogJson)
    (shards : Nat) [NeZero shards]
    (writeSync : Bool)
    (entries : Nat)
    (ids : NodeIds) :
    Storage shards :=
  opened json shards writeSync (decide (rowCacheEntries (some entries) ≠ 0)) ids

/-- The number of cached rows. -/
def cacheSize {shards : Nat} (store : Storage shards) : Nat :=
  match store.rowCache with
  | some cache =>
      cache.size
  | none =>
      0

end Storage

/-! ## Accesses to the cache -/

namespace StorageAction

/-- The action changes the row cache. -/
def ChangesCache {shards : Nat} : StorageAction shards → Prop
  | .cacheInsert _ _ =>
      True
  | .cacheRemove _ =>
      True
  | .cacheClear =>
      True
  | _ =>
      False

/-- The action adds to the row cache. -/
def InsertsRow {shards : Nat} : StorageAction shards → Prop
  | .cacheInsert _ _ =>
      True
  | _ =>
      False

end StorageAction

variable {shards : Nat}

/-- Other actions leave the row cache alone. -/
theorem rowCache_answer
    {action : StorageAction shards}
    (unchanging : ¬ action.ChangesCache)
    (store : Storage shards) :
    (answer store action).1.rowCache = store.rowCache := by
  cases action with
  | cacheInsert key value =>
      exact (unchanging trivial).elim
  | cacheRemove key =>
      exact (unchanging trivial).elim
  | cacheClear =>
      exact (unchanging trivial).elim
  | send engine op =>
      simp only [answer, Storage.send]
      split <;> rfl
  | _ =>
      rfl

/-- A program without such actions does so too. -/
theorem rowCache_run
    {Failure α : Type}
    {program : StorageProgram shards Failure α}
    (never : program.Never StorageAction.ChangesCache)
    (store : Storage shards) :
    (program.run answer store).2.rowCache = store.rowCache := by
  induction program generalizing store with
  | pure value =>
      rfl
  | fail failure =>
      rfl
  | act action next inductionHypothesis =>
      exact (inductionHypothesis _ (never.2 _) _).trans
        (rowCache_answer never.1 store)

/-- Only insertions make the row cache larger. -/
theorem cacheSize_answer_le
    {action : StorageAction shards}
    (inserts : ¬ action.InsertsRow)
    (store : Storage shards) :
    (answer store action).1.cacheSize ≤ store.cacheSize := by
  by_cases changes : action.ChangesCache
  · cases action with
    | cacheInsert key value =>
        exact (inserts trivial).elim
    | cacheRemove key =>
        cases held : store.rowCache with
        | none =>
            simp [answer, mapCache, cacheSize, held]
        | some cache =>
            simpa [answer, mapCache, cacheSize, held] using
              Std.ExtTreeMap.size_erase_le
    | cacheClear =>
        cases held : store.rowCache with
        | none =>
            simp [answer, mapCache, cacheSize, held]
        | some cache =>
            simp [answer, mapCache, cacheSize, held]
    | _ =>
        exact changes.elim
  · simp only [cacheSize, rowCache_answer changes store]
    exact le_rfl

/-- A program without insertions leaves no more cached rows. -/
theorem cacheSize_run_le
    {Failure α : Type}
    {program : StorageProgram shards Failure α}
    (never : program.Never StorageAction.InsertsRow)
    (store : Storage shards) :
    (program.run answer store).2.cacheSize ≤ store.cacheSize := by
  induction program generalizing store with
  | pure value =>
      exact le_rfl
  | fail failure =>
      exact le_rfl
  | act action next inductionHypothesis =>
      exact (inductionHypothesis _ (never.2 _) _).trans
        (cacheSize_answer_le never.1 store)

/-- One insertion adds a row unless its key is cached. -/
theorem cacheSize_insert
    {store next : Storage shards}
    {cache : ByteMap Bytes}
    (held : store.rowCache = some cache)
    {key value : Bytes}
    (inserted : next.rowCache = some (cache.insert key value)) :
    next.cacheSize =
      if cache[key]? = none then store.cacheSize + 1 else store.cacheSize := by
  simp only [cacheSize, held, inserted, Std.ExtTreeMap.size_insert,
    Std.ExtTreeMap.contains_eq_isSome_getElem?]
  cases cache[key]? <;> simp

/-! ## The operations on rows -/

section Programs

variable [NeZero shards] {marked : StorageAction shards → Prop}

omit [NeZero shards] in
theorem never_sendOp
    (unmarked : ∀ engine op, ¬ marked (.send engine op))
    (engine : Fin shards)
    (op : WriteOp) :
    (sendOp engine op).Never marked := by
  refine ⟨unmarked engine op, fun response => ?_⟩
  cases response <;> trivial

omit [NeZero shards] in
theorem never_sendToEach
    (unmarked : ∀ engine op, ¬ marked (.send engine op))
    (op : WriteOp)
    (engines : List (Fin shards)) :
    (sendToEach op engines).Never marked := by
  induction engines with
  | nil =>
      trivial
  | cons engine rest inductionHypothesis =>
      refine Never.bind_all (never_sendOp unmarked engine op) fun ticket => ?_
      exact Never.bind_all inductionHypothesis fun tickets => trivial

omit [NeZero shards] in
theorem never_sendDeletesUnder
    (unmarked : ∀ engine op, ¬ marked (.send engine op))
    (unmarkedScan : ∀ engine leading, ¬ marked (.dbScan engine leading))
    (leading : Bytes)
    (engines : List (Fin shards)) :
    (sendDeletesUnder leading engines).Never marked := by
  have sends :
      ∀ (engine : Fin shards) entries,
        (sendDeletes engine entries).Never marked := by
    intro engine entries
    induction entries with
    | nil =>
        trivial
    | cons entry rest inductionHypothesis =>
        refine Never.bind_all ⟨unmarked _ _, fun _ => trivial⟩ fun ticket => ?_
        exact Never.bind_all inductionHypothesis fun tickets => trivial
  induction engines with
  | nil =>
      trivial
  | cons engine rest inductionHypothesis =>
      refine Never.bind_all ⟨unmarkedScan _ _, fun _ => trivial⟩ fun entries => ?_
      refine Never.bind_all (sends _ _) fun tickets => ?_
      exact Never.bind_all inductionHypothesis fun later => trivial

omit [NeZero shards] in
/-- Removing a data range empties the cache at most. -/
theorem never_deleteDataPrefix_insertsRow (leading : Bytes) :
    (deleteDataPrefix leading : StorageProgram shards Fault _).Never
      StorageAction.InsertsRow := by
  cases bound : prefixUpperBound leading with
  | some stop =>
      rw [deleteDataPrefix, bound]
      refine Never.bind_all (never_sendToEach (fun _ _ => id) _ _) fun tickets => ?_
      split
      · exact ⟨id, fun _ => trivial⟩
      · trivial
  | none =>
      rw [deleteDataPrefix, bound]
      refine Never.bind_all
        (never_sendDeletesUnder (fun _ _ => id) (fun _ _ => id) _ _)
        fun tickets => ?_
      split
      · exact ⟨id, fun _ => trivial⟩
      · trivial

/-- Removing a metadata prefix does not touch the cache. -/
theorem never_deletePrefix_insertsRow (leading : Bytes) :
    (deletePrefix leading : StorageProgram shards Fault _).Never
      StorageAction.InsertsRow := by
  have deletes :
      ∀ entries,
        (deleteEach entries : StorageProgram shards Fault _).Never
          StorageAction.InsertsRow := by
    intro entries
    induction entries with
    | nil =>
        trivial
    | cons entry rest inductionHypothesis =>
        exact ⟨id, fun _ => inductionHypothesis⟩
  unfold deletePrefix
  split
  · exact ⟨id, fun _ => trivial⟩
  · exact ⟨id, fun entries => deletes _⟩

/-- An operation on the rows of a store. -/
inductive RowOperation where
  | putRow (keyspace table : String) (keyParts : List Bytes) (value : Bytes)
  | putRowSync (keyspace table : String) (keyParts : List Bytes) (value : Bytes)
  | getRow (keyspace table : String) (keyParts : List Bytes)
  | deleteRow (keyspace table : String) (keyParts : List Bytes)
  | deleteRowSync (keyspace table : String) (keyParts : List Bytes)
  | truncateTable (keyspace table : String)
  | deleteTable (keyspace table : String)
  | deleteKeyspace (keyspace : String)

namespace RowOperation

/-- The store after an operation, whether it succeeds or fails. -/
def perform (store : Storage shards) : RowOperation → Storage shards
  | .putRow keyspace table keyParts value =>
      ((RhydaDB.putRow keyspace table keyParts value).run answer store).2
  | .putRowSync keyspace table keyParts value =>
      ((RhydaDB.putRowSync keyspace table keyParts value).run answer store).2
  | .getRow keyspace table keyParts =>
      ((RhydaDB.getRow keyspace table keyParts).run answer store).2
  | .deleteRow keyspace table keyParts =>
      ((RhydaDB.deleteRow keyspace table keyParts).run answer store).2
  | .deleteRowSync keyspace table keyParts =>
      ((RhydaDB.deleteRowSync keyspace table keyParts).run answer store).2
  | .truncateTable keyspace table =>
      ((RhydaDB.truncateTable keyspace table).run answer store).2
  | .deleteTable keyspace table =>
      ((RhydaDB.deleteTable keyspace table).run answer store).2
  | .deleteKeyspace keyspace =>
      ((RhydaDB.deleteKeyspace keyspace).run answer store).2

/--
The operation is going to cache a key that is not cached: a write to a cached
keyspace, or a read from one that finds the row in its engine.
-/
def CachesNewKey (store : Storage shards) : RowOperation → Prop
  | .putRow keyspace table keyParts _ =>
      shouldCache keyspace = true ∧
        ∃ cache,
          store.rowCache = some cache ∧
            cache[rowKey keyspace table keyParts]? = none
  | .putRowSync keyspace table keyParts _ =>
      shouldCache keyspace = true ∧
        ∃ cache,
          store.rowCache = some cache ∧
            cache[rowKey keyspace table keyParts]? = none
  | .getRow keyspace table keyParts =>
      shouldCache keyspace = true ∧
        (∃ cache,
          store.rowCache = some cache ∧
            cache[rowKey keyspace table keyParts]? = none) ∧
        ((store.engines (dataEngine keyspace table (firstPart keyParts))).db[
          rowKey keyspace table keyParts]?).isSome = true
  | _ =>
      False

/-- The number of cached rows after the operation. -/
def SizeChange
    (operation : RowOperation)
    (store next : Storage shards) :
    Prop :=
  (operation.CachesNewKey store → next.cacheSize = store.cacheSize + 1) ∧
    (¬ operation.CachesNewKey store → next.cacheSize ≤ store.cacheSize)

/-- A program that never inserts leaves no more cached rows. -/
theorem sizeChange_of_never
    {operation : RowOperation}
    {store : Storage shards}
    {α : Type}
    {program : StorageProgram shards Fault α}
    (cachesNothing : ¬ operation.CachesNewKey store)
    (never : program.Never StorageAction.InsertsRow) :
    operation.SizeChange store (program.run answer store).2 :=
  ⟨fun caches => (cachesNothing caches).elim,
    fun _ => cacheSize_run_le never store⟩

omit [NeZero shards] in
/-- Caching one row of a keyspace changes the size by at most one. -/
theorem cacheSize_changeCache
    {store next : Storage shards}
    {keyspace : String}
    {key value : Bytes}
    (changed :
      next.rowCache =
        if shouldCache keyspace then
          store.rowCache.map fun cache => cache.insert key value
        else
          store.rowCache) :
    ((shouldCache keyspace = true ∧
        ∃ cache, store.rowCache = some cache ∧ cache[key]? = none) →
      next.cacheSize = store.cacheSize + 1) ∧
    (¬ (shouldCache keyspace = true ∧
        ∃ cache, store.rowCache = some cache ∧ cache[key]? = none) →
      next.cacheSize ≤ store.cacheSize) := by
  cases caches : shouldCache keyspace with
  | false =>
      rw [caches] at changed
      have same : next.cacheSize = store.cacheSize := by
        simp [cacheSize, changed]
      refine ⟨?_, fun _ => same.le⟩
      rintro ⟨caching, _⟩
      cases caching
  | true =>
      rw [caches] at changed
      cases held : store.rowCache with
      | none =>
          rw [held] at changed
          have same : next.cacheSize = store.cacheSize := by
            simp [cacheSize, changed, held]
          refine ⟨?_, fun _ => same.le⟩
          rintro ⟨_, _, absent, _⟩
          cases absent
      | some cache =>
          rw [held] at changed
          have size := cacheSize_insert held changed
          constructor
          · rintro ⟨_, _, same, absent⟩
            cases same
            rw [size, if_pos absent]
          · intro cached
            have present : cache[key]? ≠ none :=
              fun absent => cached ⟨rfl, cache, rfl, absent⟩
            rw [size, if_neg present]

/-- The cache after a queued write. -/
theorem putRow_rowCache
    (store : Storage shards)
    (keyspace table : String)
    (keyParts : List Bytes)
    (value : Bytes) :
    ((RhydaDB.putRow keyspace table keyParts value).run answer store).2.rowCache =
      if shouldCache keyspace then
        store.rowCache.map fun cache =>
          cache.insert (rowKey keyspace table keyParts) value
      else
        store.rowCache := by
  have sends :
      ∀ store : Storage shards,
        ((writeDataOp keyspace table keyParts
          (.put (rowKey keyspace table keyParts) value)).run answer store).2.rowCache =
          store.rowCache :=
    rowCache_run (never_sendOp (fun _ _ => id) _ _)
  cases caches : shouldCache keyspace with
  | false =>
      simpa [RhydaDB.putRow, caches] using sends store
  | true =>
      simpa [RhydaDB.putRow, caches, atomically, answer, mapCache] using
        sends (store.mapCache fun cache =>
          cache.insert (rowKey keyspace table keyParts) value)

/-- A read caches what it finds in the engine. -/
theorem getRow_sizeChange
    (store : Storage shards)
    (keyspace table : String)
    (keyParts : List Bytes) :
    SizeChange (.getRow keyspace table keyParts) store
      (perform store (.getRow keyspace table keyParts)) := by
  let key := rowKey keyspace table keyParts
  let engine : Fin shards := dataEngine keyspace table (firstPart keyParts)
  by_cases missed :
      shouldCache keyspace = true →
        (store.rowCache.bind fun cache => cache[key]?) = none
  · have ran := getRow_run_miss missed
    cases found : (store.engines engine).db[key]? with
    | none =>
        have same : perform store (.getRow keyspace table keyParts) = store := by
          simp only [perform, ran, engine, key] at found ⊢
          rw [found]
          cases shouldCache keyspace <;> rfl
        refine ⟨?_, fun _ => by rw [same]⟩
        rintro ⟨_, _, present⟩
        rw [show (store.engines _).db[_]? = none from found] at present
        cases present
    | some value =>
        have changed :
            (perform store (.getRow keyspace table keyParts)).rowCache =
              if shouldCache keyspace then
                store.rowCache.map fun cache => cache.insert key value
              else
                store.rowCache := by
          simp only [perform, ran, engine, key] at found ⊢
          rw [found]
          cases shouldCache keyspace <;> rfl
        obtain ⟨grows, stays⟩ := cacheSize_changeCache changed
        refine ⟨fun caches => grows ⟨caches.1, caches.2.1⟩, fun caches => stays ?_⟩
        rintro ⟨cached, absent⟩
        refine caches ⟨cached, absent, ?_⟩
        rw [show (store.engines _).db[_]? = some value from found]
        rfl
  · obtain ⟨caches, hit⟩ := Classical.not_imp.mp missed
    obtain ⟨value, cached⟩ := Option.ne_none_iff_exists'.mp hit
    have ran := getRow_run_hit ⟨caches, cached⟩
    have same : perform store (.getRow keyspace table keyParts) = store := by
      rw [perform, ran]
    refine ⟨?_, fun _ => by rw [same]⟩
    rintro ⟨_, ⟨cache, held, absent⟩, _⟩
    rw [held] at cached
    have present : cache[key]? = some value := cached
    rw [absent] at present
    cases present

/-- The number of cached rows changes by one for each new key and never else. -/
theorem sizeChange (operation : RowOperation) (store : Storage shards) :
    operation.SizeChange store (operation.perform store) := by
  cases operation with
  | putRow keyspace table keyParts value =>
      exact cacheSize_changeCache (putRow_rowCache store keyspace table keyParts value)
  | putRowSync keyspace table keyParts value =>
      have changed :
          (perform store (.putRowSync keyspace table keyParts value)).rowCache =
            if shouldCache keyspace then
              store.rowCache.map fun cache =>
                cache.insert (rowKey keyspace table keyParts) value
            else
              store.rowCache := by
        cases caches : shouldCache keyspace with
        | false =>
            simp [perform, RhydaDB.putRowSync, caches, atomically, answer]
        | true =>
            simp [perform, RhydaDB.putRowSync, caches, atomically, answer, mapCache]
      exact cacheSize_changeCache changed
  | getRow keyspace table keyParts =>
      exact getRow_sizeChange store keyspace table keyParts
  | deleteRow keyspace table keyParts =>
      refine sizeChange_of_never id ?_
      have sends :
          (writeDataOp keyspace table keyParts
            (.delete (rowKey keyspace table keyParts)) :
            StorageProgram shards Fault _).Never StorageAction.InsertsRow :=
        never_sendOp (fun _ _ => id) _ _
      unfold RhydaDB.deleteRow
      split
      · exact ⟨id, fun _ => sends⟩
      · exact sends
  | deleteRowSync keyspace table keyParts =>
      refine sizeChange_of_never id ⟨id, fun _ => ?_⟩
      change (if shouldCache keyspace then _ else _ : StorageProgram shards Fault _).Never _
      split
      · exact ⟨id, fun _ => trivial⟩
      · trivial
  | truncateTable keyspace table =>
      exact sizeChange_of_never id (never_deleteDataPrefix_insertsRow _)
  | deleteTable keyspace table =>
      refine sizeChange_of_never id (Never.bind_all ⟨id, fun _ => trivial⟩ fun _ => ?_)
      exact Never.bind_all (never_deleteDataPrefix_insertsRow _)
        fun _ => ⟨id, fun _ => trivial⟩
  | deleteKeyspace keyspace =>
      refine sizeChange_of_never id (Never.bind_all ⟨id, fun _ => trivial⟩ fun _ => ?_)
      refine Never.bind_all (never_deletePrefix_insertsRow _) fun _ => ?_
      exact Never.bind_all (never_deleteDataPrefix_insertsRow _)
        fun _ => ⟨id, fun _ => ⟨id, fun _ => trivial⟩⟩

end RowOperation

/-! ## Runs -/

/-- One step of a store in use: an operation, or a step of an engine's thread. -/
inductive CacheLabel (shards : Nat) where
  | perform (operation : RowOperation)
  | thread (engine : Fin shards) (label : PipelineLabel)

namespace CacheLabel

/-- Take a step, if it is enabled. -/
def step? (store : Storage shards) : CacheLabel shards → Option (Storage shards)
  | .perform operation =>
      some (operation.perform store)
  | .thread engine label =>
      if label.isThread then store.engineStep? engine label else none

/-- The step is an operation that is going to cache a key that is not cached. -/
def CachesNewKey (store : Storage shards) : CacheLabel shards → Prop
  | .perform operation =>
      operation.CachesNewKey store
  | .thread _ _ =>
      False

/-- A step that caches a new key takes place, and adds one row. -/
theorem step?_of_cachesNewKey
    {store : Storage shards}
    {label : CacheLabel shards}
    (caches : label.CachesNewKey store) :
    ∃ next,
      label.step? store = some next ∧ next.cacheSize = store.cacheSize + 1 := by
  cases label with
  | perform operation =>
      exact ⟨_, rfl, (operation.sizeChange store).1 caches⟩
  | thread engine label =>
      exact caches.elim

/-- All other steps add none. -/
theorem step?_of_not_cachesNewKey
    {store next : Storage shards}
    {label : CacheLabel shards}
    (caches : ¬ label.CachesNewKey store)
    (taken : label.step? store = some next) :
    next.cacheSize ≤ store.cacheSize := by
  cases label with
  | perform operation =>
      cases taken
      exact (operation.sizeChange store).2 caches
  | thread engine label =>
      simp only [step?, engineStep?] at taken
      split at taken
      · obtain ⟨pipeline, _, rfl⟩ := Option.map_eq_some_iff.mp taken
        exact le_rfl
      · cases taken

end CacheLabel

open CacheLabel

/-- After each step of the run the cache holds at most so many rows. -/
def CacheBounded
    (capacity : Nat)
    (store : Storage shards)
    (labels : List (CacheLabel shards)) :
    Prop :=
  Permitted (fun store label => CacheLabel.step? store label)
    (fun store label =>
      ∀ next, label.step? store = some next → next.cacheSize ≤ capacity)
    store labels

/-- Each step that caches a new key is taken while the cache has room for it. -/
def RoomForNewKeys
    (capacity : Nat)
    (store : Storage shards)
    (labels : List (CacheLabel shards)) :
    Prop :=
  Permitted (fun store label => CacheLabel.step? store label)
    (fun store label => label.CachesNewKey store → store.cacheSize < capacity)
    store labels

/-- A run from a store within the capacity stays in it while it has room. -/
theorem cacheBounded_iff_roomForNewKeys
    {capacity : Nat}
    {store : Storage shards}
    (within : store.cacheSize ≤ capacity)
    (labels : List (CacheLabel shards)) :
    CacheBounded capacity store labels ↔ RoomForNewKeys capacity store labels := by
  induction labels generalizing store with
  | nil =>
      exact Iff.rfl
  | cons label rest inductionHypothesis =>
      have here :
          (∀ next, label.step? store = some next → next.cacheSize ≤ capacity) ↔
            (label.CachesNewKey store → store.cacheSize < capacity) := by
        constructor
        · intro bounded caches
          obtain ⟨next, taken, grown⟩ := step?_of_cachesNewKey caches
          have small := bounded next taken
          omega
        · intro room next taken
          by_cases caches : label.CachesNewKey store
          · obtain ⟨other, same, grown⟩ := step?_of_cachesNewKey caches
            rw [taken] at same
            cases same
            have space := room caches
            omega
          · exact (step?_of_not_cachesNewKey caches taken).trans within
      constructor
      · rintro ⟨bounded, later⟩
        exact ⟨here.mp bounded, fun next taken =>
          (inductionHypothesis (bounded next taken)).mp (later next taken)⟩
      · rintro ⟨room, later⟩
        have bounded := here.mpr room
        exact ⟨bounded, fun next taken =>
          (inductionHypothesis (bounded next taken)).mpr (later next taken)⟩

/-- Seeding caches nothing. -/
theorem never_seedSystem_changesCache (json : CatalogJson) (ids : NodeIds) :
    (seedSystem json ids : StorageProgram shards Fault _).Never
      StorageAction.ChangesCache := by
  have defines :
      ∀ table,
        (putTable json table : StorageProgram shards Fault _).Never
          StorageAction.ChangesCache :=
    fun table => ⟨id, fun _ => ⟨id, fun _ => trivial⟩⟩
  have looksUp :
      ∀ name,
        (getKeyspace json name : StorageProgram shards Fault _).Never
          StorageAction.ChangesCache := by
    intro name
    refine ⟨id, fun cached => ?_⟩
    change Option KeyspaceDef at cached
    cases cached with
    | some keyspace =>
        trivial
    | none =>
        refine ⟨id, fun found => ?_⟩
        change Option Bytes at found
        cases found with
        | none =>
            trivial
        | some bytes =>
            apply (never_ofExcept _).bind_all
            exact fun keyspace => ⟨id, fun _ => trivial⟩
  have seeds :
      ∀ name (fill : StorageProgram shards Fault Unit),
        fill.Never StorageAction.ChangesCache →
        (seedKeyspace json name fill).Never StorageAction.ChangesCache := by
    intro name fill fills
    refine Never.bind_all (looksUp name) fun found => ?_
    cases found with
    | some keyspace =>
        trivial
    | none =>
        refine Never.bind_all ?_ fun _ => fills
        exact ⟨id, fun _ => ⟨id, fun _ => trivial⟩⟩
  have puts :
      ∀ tables,
        (putTables json tables : StorageProgram shards Fault _).Never
          StorageAction.ChangesCache := by
    intro tables
    induction tables with
    | nil =>
        trivial
    | cons table rest inductionHypothesis =>
        exact Never.bind_all (defines table) fun _ => inductionHypothesis
  have fills :
      (fillSystem json ids : StorageProgram shards Fault _).Never
        StorageAction.ChangesCache := by
    refine Never.bind_all (defines _) fun _ => ?_
    refine Never.bind_all ?_ fun _ => defines _
    exact ⟨id, fun _ => trivial⟩
  refine Never.bind_all (seeds _ _ fills) fun _ => ?_
  refine Never.bind_all (seeds _ _ (puts _)) fun _ => ?_
  exact seeds _ _ (defines _)

/-- A store is opened with an empty row cache, or with none. -/
theorem rowCache_openedWith
    (json : CatalogJson)
    (writeSync : Bool)
    (entries : Nat)
    (ids : NodeIds) :
    (openedWith json shards writeSync entries ids).rowCache =
      if entries = 0 then none else some ∅ := by
  have configured : rowCacheEntries (some entries) ≠ 0 ↔ entries ≠ 0 := by
    simp only [rowCacheEntries, envNum, Option.getD_some]
    omega
  rw [openedWith, opened, rowCache_run (never_seedSystem_changesCache json ids)]
  by_cases absent : entries = 0
  · subst absent
    rfl
  · simp [fresh, configured, absent]

/--
From a store opened with a number of row cache entries on, a run keeps to this
number exactly when it caches new keys only while there are fewer: nothing but
the run's own choice of keys bounds the cache.
-/
theorem row_cache_bounded_iff
    (json : CatalogJson)
    (writeSync : Bool)
    (ids : NodeIds)
    (capacity : Nat)
    (labels : List (CacheLabel shards)) :
    CacheBounded capacity (openedWith json shards writeSync capacity ids) labels ↔
      RoomForNewKeys capacity (openedWith json shards writeSync capacity ids)
        labels := by
  apply cacheBounded_iff_roomForNewKeys
  simp only [cacheSize, rowCache_openedWith]
  split <;> rename_i held <;> split at held <;> cases held <;> simp

end Programs

/-- Two rows of one table, written one after the other. -/
def twoPuts : List (CacheLabel 1) :=
  [.perform (.putRow "app" "kv" [[1]] []), .perform (.putRow "app" "kv" [[2]] [])]

/-- A store opened for one cached row is within its bound after one write. -/
theorem row_cache_bounded_one_put :
    CacheBounded 1 (openedWith serdeJson 1 false 1 zeroIds)
      [.perform (.putRow "app" "kv" [[1]] [])] := by
  have opened : (openedWith serdeJson 1 false 1 zeroIds).rowCache = some ∅ :=
    rowCache_openedWith serdeJson false 1 zeroIds
  refine (row_cache_bounded_iff serdeJson false zeroIds 1 _).mpr ⟨?_, ?_⟩
  · intro _
    simp [cacheSize, opened]
  · exact fun _ _ => trivial

/-- A store opened for one cached row holds two of them after two writes. -/
theorem two_puts_exceed_capacity_one :
    ¬ CacheBounded 1 (openedWith serdeJson 1 false 1 zeroIds) twoPuts := by
  rintro ⟨_, later⟩
  obtain ⟨bounded, _⟩ := later _ rfl
  have opened : (openedWith serdeJson 1 false 1 zeroIds).rowCache = some ∅ :=
    rowCache_openedWith serdeJson false 1 zeroIds
  have first :=
    RowOperation.putRow_rowCache (openedWith serdeJson 1 false 1 zeroIds) "app" "kv"
      [[1]] []
  rw [opened] at first
  have second :=
    RowOperation.putRow_rowCache
      (RowOperation.perform (openedWith serdeJson 1 false 1 zeroIds)
        (.putRow "app" "kv" [[1]] [])) "app" "kv" [[2]] []
  rw [RowOperation.perform, first] at second
  have small := bounded _ rfl
  have different : rowKey "app" "kv" [[1]] ≠ rowKey "app" "kv" [[2]] := by
    decide
  rw [RowOperation.perform, RowOperation.perform,
    cacheSize_insert first second, cacheSize_insert opened first] at small
  simp [cacheSize, opened, different] at small

end RhydaDB
