import RhydaDB.PipelineProgress
import RhydaDB.Storage

namespace RhydaDB

open ByteStrings AtomicPrograms FiniteRuns

/-!
# What the store's programs do when run without interruption

One lemma per program: its outcome and the store it leaves, on an open store
whose channels accept operations.  Everything sequential about the store is
derived from these.
-/

variable {shards : Nat} [NeZero shards]

/-- The engine that holds an addressed row. -/
def RowAddress.engine (address : RowAddress) : Fin shards :=
  dataEngine address.keyspace address.table (firstPart address.keyParts)

namespace Storage

/-- All channels of an open store accept operations. -/
def Open (store : Storage shards) : Prop :=
  ∀ engine, (store.engines engine).Live

omit [NeZero shards] in
@[simp] theorem setEngine_engines
    (store : Storage shards)
    (engine other : Fin shards)
    (pipeline : Pipeline) :
    (store.setEngine engine pipeline).engines other =
      if other = engine then pipeline else store.engines other := by
  simp [setEngine, Function.update_apply]

omit [NeZero shards] in
@[simp] theorem setEngine_rowCache
    (store : Storage shards)
    (engine : Fin shards)
    (pipeline : Pipeline) :
    (store.setEngine engine pipeline).rowCache = store.rowCache :=
  rfl

/-- Hand one operation to each listed engine. -/
def acceptEach
    (store : Storage shards)
    (op : WriteOp)
    (engines : List (Fin shards)) :
    Storage shards :=
  { store with
    engines := fun engine =>
      if engine ∈ engines then
        (store.engines engine).accept op
      else
        store.engines engine }

omit [NeZero shards] in
/-- A send to an open store succeeds with the engine's next ticket. -/
theorem Open.send
    {store : Storage shards}
    (isOpen : store.Open)
    (engine : Fin shards)
    (op : WriteOp) :
    store.send engine op =
      (store.setEngine engine ((store.engines engine).accept op),
        some ⟨engine, (store.engines engine).nextTicket⟩) := by
  simp [Storage.send, (isOpen engine).step?_send op]

omit [NeZero shards] in
/-- Replacing an engine by an open one keeps the store open. -/
theorem Open.setEngine
    {store : Storage shards}
    (isOpen : store.Open)
    {engine : Fin shards}
    {pipeline : Pipeline}
    (live : pipeline.Live) :
    (store.setEngine engine pipeline).Open := by
  intro other
  by_cases same : other = engine
  · simpa [same] using live
  · simpa [same] using isOpen other

omit [NeZero shards] in
/-- Handing operations to engines keeps the store open. -/
theorem Open.acceptEach
    {store : Storage shards}
    (isOpen : store.Open)
    (op : WriteOp)
    (engines : List (Fin shards)) :
    (store.acceptEach op engines).Open := by
  intro engine
  by_cases member : engine ∈ engines
  · simpa [Storage.acceptEach, member] using (isOpen engine).accept op
  · simpa [Storage.acceptEach, member] using isOpen engine

end Storage

open Storage

omit [NeZero shards] in
/-- Sending through an open pipeline returns a ticket. -/
theorem sendOp_run
    {store : Storage shards}
    (isOpen : store.Open)
    (engine : Fin shards)
    (op : WriteOp) :
    (sendOp engine op).run answer store =
      (.ok ⟨engine, (store.engines engine).nextTicket⟩,
        store.setEngine engine ((store.engines engine).accept op)) := by
  simp [sendOp, atomically, answer, isOpen.send engine op]

omit [NeZero shards] in
/-- Sending to distinct engines hands each of them the operation. -/
theorem sendToEach_run
    {store : Storage shards}
    (isOpen : store.Open)
    (op : WriteOp)
    {engines : List (Fin shards)}
    (distinct : engines.Nodup) :
    (sendToEach op engines).run answer store =
      (.ok (engines.map fun engine =>
          ⟨engine, (store.engines engine).nextTicket⟩),
        store.acceptEach op engines) := by
  induction engines generalizing store with
  | nil =>
      simp [sendToEach, Storage.acceptEach]
  | cons engine rest inductionHypothesis =>
      obtain ⟨fresh, restDistinct⟩ := List.nodup_cons.mp distinct
      have nextOpen :
          (store.setEngine engine
            ((store.engines engine).accept op)).Open :=
        isOpen.setEngine ((isOpen engine).accept op)
      have later := inductionHypothesis nextOpen restDistinct
      have sameTickets :
          (rest.map fun other =>
              (⟨other, ((store.setEngine engine
                ((store.engines engine).accept op)).engines
                  other).nextTicket⟩ : WriteTicket shards)) =
            rest.map fun other =>
              ⟨other, (store.engines other).nextTicket⟩ := by
        apply List.map_congr_left
        intro other member
        have different : other ≠ engine := by
          rintro rfl
          exact fresh member
        simp [different]
      have sameStore :
          (store.setEngine engine ((store.engines engine).accept op)).acceptEach
              op rest =
            store.acceptEach op (engine :: rest) := by
        simp only [Storage.acceptEach, List.mem_cons, Storage.setEngine]
        congr 1
        funext other
        by_cases same : other = engine
        · subst same
          simp [fresh]
        · simp [same]
      rw [sameTickets, sameStore] at later
      simp [sendToEach, Program.run_bind_of_ok answer (sendOp_run isOpen engine op),
        Program.run_bind_of_ok answer later]

omit [NeZero shards] in
/-- A `!`-terminated data prefix is range-deleted on every engine. -/
theorem deleteDataPrefix_run
    {store : Storage shards}
    (isOpen : store.Open)
    {stem : Bytes}
    (isData : dtPrefix <+: stem ++ [bang]) :
    (deleteDataPrefix (stem ++ [bang])).run answer store =
      (.ok ((List.finRange shards).map fun engine =>
          ⟨engine, (store.engines engine).nextTicket⟩),
        (store.acceptEach
          (.deleteRange (stem ++ [bang]) (stem ++ [bang + 1]))
          (List.finRange shards)).mapCache fun _ => ∅) := by
  have bound := prefixUpperBound_append stem (by decide : bang < 0xFF)
  have isUnder : dtPrefix.isPrefixOf (stem ++ [bang]) = true :=
    List.isPrefixOf_iff_prefix.mpr isData
  simp [deleteDataPrefix, bound, isUnder, atomically,
    Program.run_bind_of_ok answer
      (sendToEach_run isOpen _ (List.nodup_finRange shards)), answer]

omit [NeZero shards] in
/-- Streaming one engine visits its entries under the prefix. -/
theorem forEachOnEngine_run
    {σ : Type}
    (store : Storage shards)
    (engine : Fin shards)
    (leading : Bytes)
    (visit : σ → Bytes → Bytes → σ × Bool)
    (state : σ) :
    (forEachOnEngine engine leading visit state).run answer store =
      (.ok (visitEntries visit state
          ((store.engines engine).db.scanStem leading)),
        store) :=
  rfl

/-- Visiting a concatenation visits its parts until the callback stops. -/
theorem visitEntries_append
    {σ : Type}
    (visit : σ → Bytes → Bytes → σ × Bool)
    (state : σ)
    (first second : List (Bytes × Bytes)) :
    visitEntries visit state (first ++ second) =
      if (visitEntries visit state first).2 then
        visitEntries visit (visitEntries visit state first).1 second
      else
        visitEntries visit state first := by
  induction first generalizing state with
  | nil =>
      rfl
  | cons entry rest inductionHypothesis =>
      obtain ⟨key, value⟩ := entry
      by_cases goOn : (visit state key value).2 = true
      · simp [visitEntries, goOn, inductionHypothesis]
      · simp [visitEntries, goOn]

omit [NeZero shards] in
/-- Streaming several engines visits the concatenation of their entries. -/
theorem forEachOnEngines_run
    {σ : Type}
    (store : Storage shards)
    (leading : Bytes)
    (visit : σ → Bytes → Bytes → σ × Bool)
    (engines : List (Fin shards))
    (state : σ) :
    (forEachOnEngines leading visit engines state).run answer store =
      (.ok (visitEntries visit state
          (engines.flatMap fun engine =>
            (store.engines engine).db.scanStem leading)).1,
        store) := by
  induction engines generalizing state with
  | nil =>
      rfl
  | cons engine rest inductionHypothesis =>
      rw [forEachOnEngines,
        Program.run_bind_of_ok answer
          (forEachOnEngine_run store engine leading visit state),
        List.flatMap_cons, visitEntries_append]
      cases goOn :
          (visitEntries visit state
            ((store.engines engine).db.scanStem leading)).2 with
      | false =>
          simp [goOn]
      | true =>
          simp [goOn, inductionHypothesis]

/-- All entries of a table, engine by engine. -/
def tableEntries
    (store : Storage shards)
    (leading : Bytes) :
    List (Bytes × Bytes) :=
  (List.finRange shards).flatMap fun engine =>
    (store.engines engine).db.scanStem leading

omit [NeZero shards] in
/-- A table scan visits the table's entries. -/
theorem forEachInTable_run
    {σ : Type}
    (store : Storage shards)
    (keyspace table : String)
    (visit : σ → Bytes → Bytes → σ × Bool)
    (state : σ) :
    (forEachInTable keyspace table visit state).run answer store =
      (.ok (visitEntries visit state
          (tableEntries store (dataPrefix keyspace table))).1,
        store) :=
  forEachOnEngines_run store _ visit _ state

/-- A partition scan visits the entries under its prefix on its engine. -/
theorem forEachInPartition_run
    {σ : Type}
    (store : Storage shards)
    (keyspace table : String)
    (partition : List Bytes)
    (visit : σ → Bytes → Bytes → σ × Bool)
    (state : σ) :
    (forEachInPartition keyspace table partition visit state).run
        answer store =
      (.ok (visitEntries visit state
          ((store.engines
            (dataEngine keyspace table (firstPart partition))).db.scanStem
              (dataPrefix keyspace table ++ encodeKey partition))).1,
        store) :=
  rfl

/-- Where a cached row is found, the engine is not read. -/
theorem getRow_run_hit
    {store : Storage shards}
    {keyspace table : String}
    {keyParts : List Bytes}
    {value : Bytes}
    (cached :
      shouldCache keyspace = true ∧
        (store.rowCache.bind fun cache =>
          cache[rowKey keyspace table keyParts]?) = some value) :
    (getRow keyspace table keyParts).run answer store =
      (.ok (some value), store) := by
  simp [getRow, cachedRow, atomically, cached.1, cached.2, answer]

/-- Otherwise the engine is read and its value is remembered. -/
theorem getRow_run_miss
    {store : Storage shards}
    {keyspace table : String}
    {keyParts : List Bytes}
    (missed :
      shouldCache keyspace = true →
        (store.rowCache.bind fun cache =>
          cache[rowKey keyspace table keyParts]?) = none) :
    (getRow keyspace table keyParts).run answer store =
      (.ok (store.engines
          (dataEngine keyspace table (firstPart keyParts))).db[
            rowKey keyspace table keyParts]?,
        match
          shouldCache keyspace,
          (store.engines
            (dataEngine keyspace table (firstPart keyParts))).db[
              rowKey keyspace table keyParts]? with
        | true, some value =>
            store.mapCache fun cache =>
              cache.insert (rowKey keyspace table keyParts) value
        | _, _ =>
            store) := by
  cases caches : shouldCache keyspace with
  | false =>
      cases found :
          (store.engines
            (dataEngine keyspace table (firstPart keyParts))).db[
              rowKey keyspace table keyParts]? <;>
        simp [getRow, cachedRow, refillCache, atomically, answer, caches,
          found]
  | true =>
      cases found :
          (store.engines
            (dataEngine keyspace table (firstPart keyParts))).db[
              rowKey keyspace table keyParts]? <;>
        simp [getRow, cachedRow, refillCache, atomically, answer, caches,
          found, missed caches]

/-- What a read that misses the cache returns and leaves, by row address. -/
theorem RowAddress.getRow_run_miss
    {store : Storage shards}
    (address : RowAddress)
    (missed :
      shouldCache address.keyspace = true →
        (store.rowCache.bind fun cache => cache[address.key]?) = none) :
    (getRow address.keyspace address.table address.keyParts).run
        answer store =
      (.ok (store.engines address.engine).db[address.key]?,
        match
          shouldCache address.keyspace,
          (store.engines address.engine).db[address.key]? with
        | true, some value =>
            store.mapCache fun cache => cache.insert address.key value
        | _, _ =>
            store) :=
  RhydaDB.getRow_run_miss missed

namespace Storage

/-- Change the cache on behalf of a keyspace, if it is cached at all. -/
def changeCache
    (store : Storage shards)
    (keyspace : String)
    (change : ByteMap Bytes → ByteMap Bytes) :
    Storage shards :=
  if shouldCache keyspace then
    store.mapCache change
  else
    store

omit [NeZero shards] in
@[simp] theorem changeCache_engines
    (store : Storage shards)
    (keyspace : String)
    (change : ByteMap Bytes → ByteMap Bytes) :
    (store.changeCache keyspace change).engines = store.engines := by
  unfold changeCache
  split <;> rfl

end Storage

/-- A queued row write updates the cache and then queues the operation. -/
theorem putRow_run
    {store : Storage shards}
    (isOpen : store.Open)
    (address : RowAddress)
    (value : Bytes) :
    (putRow address.keyspace address.table address.keyParts value).run
        answer store =
      (.ok ⟨address.engine, (store.engines address.engine).nextTicket⟩,
        (store.changeCache address.keyspace fun cache =>
            cache.insert address.key value).setEngine address.engine
          ((store.engines address.engine).accept
            (.put address.key value))) := by
  have nextOpen :
      (store.mapCache fun cache =>
        cache.insert address.key value).Open :=
    isOpen
  cases caches : shouldCache address.keyspace with
  | false =>
      simp [putRow, writeDataOp, caches, changeCache]
      exact sendOp_run isOpen address.engine _
  | true =>
      simp [putRow, writeDataOp, caches, changeCache, atomically, answer]
      exact sendOp_run nextOpen address.engine _

/-- A queued row deletion updates the cache and then queues the operation. -/
theorem deleteRow_run
    {store : Storage shards}
    (isOpen : store.Open)
    (address : RowAddress) :
    (deleteRow address.keyspace address.table address.keyParts).run
        answer store =
      (.ok ⟨address.engine, (store.engines address.engine).nextTicket⟩,
        (store.changeCache address.keyspace fun cache =>
            cache.erase address.key).setEngine address.engine
          ((store.engines address.engine).accept
            (.delete address.key))) := by
  have nextOpen :
      (store.mapCache fun cache => cache.erase address.key).Open :=
    isOpen
  cases caches : shouldCache address.keyspace with
  | false =>
      simp [deleteRow, writeDataOp, caches, changeCache]
      exact sendOp_run isOpen address.engine _
  | true =>
      simp [deleteRow, writeDataOp, caches, changeCache, atomically, answer]
      exact sendOp_run nextOpen address.engine _

end RhydaDB
