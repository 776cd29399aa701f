import RhydaDB.StorageRefinement

namespace RhydaDB

open ByteStrings AtomicPrograms FiniteRuns Storage

/-!
# Sequential use of the store

A client issues one call at a time and awaits its tickets before the next.
Between two calls the pipeline threads take arbitrary steps; a call counts as
settled once all of its tickets have completed.
-/

variable {shards : Nat} [NeZero shards]

/-- One call of the storage interface. -/
inductive StorageCall where
  | putRow (address : RowAddress) (value : Bytes)
  | deleteRow (address : RowAddress)
  | putRowSync (address : RowAddress) (value : Bytes)
  | deleteRowSync (address : RowAddress)
  | getRow (address : RowAddress)
  | truncateTable (name : TableName)
  | deleteTable (name : TableName)
  | deleteKeyspace (keyspace : String) (free : BangFree keyspace)
  | putKeyspace (keyspace : KeyspaceDef)
  | putTable (table : TableDef)

namespace StorageCall

/-- The program a call runs, returning the tickets to await. -/
def program
    (json : CatalogJson) :
    StorageCall →
    StorageProgram shards Fault (List (WriteTicket shards))
  | .putRow address value => do
      let ticket ←
        RhydaDB.putRow address.keyspace address.table address.keyParts value
      return [ticket]
  | .deleteRow address => do
      let ticket ←
        RhydaDB.deleteRow address.keyspace address.table address.keyParts
      return [ticket]
  | .putRowSync address value => do
      RhydaDB.putRowSync address.keyspace address.table address.keyParts value
      return []
  | .deleteRowSync address => do
      RhydaDB.deleteRowSync address.keyspace address.table address.keyParts
      return []
  | .getRow address => do
      let _ ← RhydaDB.getRow address.keyspace address.table address.keyParts
      return []
  | .truncateTable name =>
      RhydaDB.truncateTable name.keyspace name.table
  | .deleteTable name =>
      RhydaDB.deleteTable name.keyspace name.table
  | .deleteKeyspace keyspace _ =>
      RhydaDB.deleteKeyspace keyspace
  | .putKeyspace keyspace => do
      RhydaDB.putKeyspace json keyspace
      return []
  | .putTable table => do
      RhydaDB.putTable json table
      return []

/-- The effect of a call on the abstract store. -/
def apply (rows : RowMap) : StorageCall → RowMap
  | .putRow address value =>
      Function.update rows address (some value)
  | .deleteRow address =>
      Function.update rows address none
  | .putRowSync address value =>
      Function.update rows address (some value)
  | .deleteRowSync address =>
      Function.update rows address none
  | .truncateTable name =>
      fun address =>
        if address.toTableName = name then none else rows address
  | .deleteTable name =>
      fun address =>
        if address.toTableName = name then none else rows address
  | .deleteKeyspace keyspace _ =>
      fun address =>
        if address.keyspace = keyspace then none else rows address
  | _ =>
      rows

/-- The tables a call is about. -/
def Concerns (name : TableName) : StorageCall → Prop
  | .putRow address _ =>
      address.toTableName = name
  | .deleteRow address =>
      address.toTableName = name
  | .putRowSync address _ =>
      address.toTableName = name
  | .deleteRowSync address =>
      address.toTableName = name
  | .truncateTable other =>
      other = name
  | .deleteTable other =>
      other = name
  | .deleteKeyspace keyspace _ =>
      keyspace = name.keyspace
  | _ =>
      False

/-- A call leaves the rows of every table it is not about alone. -/
theorem apply_of_not_concerns
    {call : StorageCall}
    {address : RowAddress}
    (unconcerned : ¬ call.Concerns address.toTableName)
    (rows : RowMap) :
    call.apply rows address = rows address := by
  cases call with
  | putRow other value =>
      have different : address ≠ other := by
        rintro rfl
        exact unconcerned rfl
      simp [apply, different]
  | deleteRow other =>
      have different : address ≠ other := by
        rintro rfl
        exact unconcerned rfl
      simp [apply, different]
  | putRowSync other value =>
      have different : address ≠ other := by
        rintro rfl
        exact unconcerned rfl
      simp [apply, different]
  | deleteRowSync other =>
      have different : address ≠ other := by
        rintro rfl
        exact unconcerned rfl
      simp [apply, different]
  | truncateTable name =>
      have different : address.toTableName ≠ name := Ne.symm unconcerned
      simp [apply, different]
  | deleteTable name =>
      have different : address.toTableName ≠ name := Ne.symm unconcerned
      simp [apply, different]
  | deleteKeyspace keyspace free =>
      have different : address.keyspace ≠ keyspace := Ne.symm unconcerned
      simp [apply, different]
  | _ =>
      rfl

end StorageCall

/-- One step of a background thread of some engine. -/
def backgroundStep?
    (store : Storage shards)
    (step : Fin shards × PipelineLabel) :
    Option (Storage shards) :=
  if step.2.background then
    store.engineStep? step.1 step.2
  else
    none

/-- A call together with the thread steps taken until it is settled. -/
structure SettledCall (shards : Nat) where
  call : StorageCall
  schedule : List (Fin shards × PipelineLabel)

/-- Run a call, then the threads, until all of its tickets have completed. -/
def settledStep?
    (json : CatalogJson)
    (store : Storage shards)
    (step : SettledCall shards) :
    Option (Storage shards) :=
  match (step.call.program json).run answer store with
  | (.ok tickets, sent) =>
      (run? backgroundStep? sent step.schedule).bind fun settled =>
        if tickets.all settled.isComplete then some settled else none
  | (.error _, _) =>
      none

/-- The abstract store after a sequence of calls. -/
def rowsAfter (steps : List (SettledCall shards)) : RowMap :=
  steps.foldl (fun rows step => step.call.apply rows) fun _ => none

/-! ## Settling -/

/-- Background work leaves everything but the queues alone. -/
structure Storage.Settles (before after : Storage shards) : Prop where
  engines :
    ∀ engine, (before.engines engine).Settles (after.engines engine)
  rowCache : after.rowCache = before.rowCache

omit [NeZero shards] in
/-- Any schedule of background steps settles an open store further. -/
theorem Storage.Open.settles
    {store final : Storage shards}
    {schedule : List (Fin shards × PipelineLabel)}
    (isOpen : store.Open)
    (ran : run? backgroundStep? store schedule = some final) :
    store.Settles final := by
  induction schedule generalizing store with
  | nil =>
      cases ran
      exact ⟨fun engine => ⟨isOpen engine, rfl, rfl, le_rfl⟩, rfl⟩
  | cons step rest inductionHypothesis =>
      simp only [run?, Option.bind_eq_some_iff] at ran
      obtain ⟨middle, first, later⟩ := ran
      obtain ⟨engine, label⟩ := step
      by_cases background : label.background = true
      · simp only [backgroundStep?, background, ↓reduceIte, engineStep?,
          Option.map_eq_some_iff] at first
        obtain ⟨pipeline, taken, rfl⟩ := first
        have settled := (isOpen engine).settles_step background taken
        have rested := inductionHypothesis (isOpen.setEngine settled.live) later
        refine ⟨fun other => ?_, rested.rowCache⟩
        have later := rested.engines other
        by_cases here : other = engine
        · subst here
          simp only [setEngine_engines, ↓reduceIte] at later
          exact settled.trans later
        · simpa [here] using later
      · simp [backgroundStep?, background] at first

/-- The tickets to await cover everything queued. -/
structure Awaits
    (tickets : List (WriteTicket shards))
    (store : Storage shards) :
    Prop where
  covered :
    ∀ engine,
      (store.engines engine).inFlight = [] ∨
        ∃ ticket,
          ⟨engine, ticket⟩ ∈ tickets ∧
            (store.engines engine).nextTicket = ticket + 1
  accepted :
    ∀ ticket ∈ tickets,
      ticket.ticket < (store.engines ticket.engine).nextTicket

/-- Once the awaited tickets have completed the store is quiet. -/
theorem Refines.settle
    {sent final : Storage shards}
    {rows : RowMap}
    {tickets : List (WriteTicket shards)}
    (refines : Refines sent rows)
    (awaits : Awaits tickets sent)
    (settles : sent.Settles final)
    (complete : tickets.all final.isComplete = true) :
    Represents final rows := by
  refine ⟨⟨fun engine => (settles.engines engine).live, ?_, ?_⟩, ?_⟩
  · apply refines.stores.congr
    intro engine key _
    rw [(settles.engines engine).settled]
  · rw [settles.rowCache]
    exact refines.cached
  · intro engine
    have settled := settles.engines engine
    rcases awaits.covered engine with quiet | ⟨ticket, member, newest⟩
    · have shrunk := settled.inFlight_le (refines.isOpen engine)
      rw [quiet] at shrunk
      exact List.eq_nil_of_length_eq_zero (Nat.le_zero.mp shrunk)
    · have completed := List.all_eq_true.mp complete _ member
      apply settled.live.ordered.inFlight_of_last_completed
        (settled.nextTicket.trans newest)
      simpa [isComplete] using completed

omit [NeZero shards] in
/-- A run of one engine's threads is a run of the store. -/
theorem run?_background_engine
    {store : Storage shards}
    {engine : Fin shards}
    {labels : List PipelineLabel}
    {pipeline : Pipeline}
    (background : ∀ label ∈ labels, label.background = true)
    (ran :
      run? Pipeline.step? (store.engines engine) labels = some pipeline) :
    run? backgroundStep? store (labels.map fun label => (engine, label)) =
      some (store.setEngine engine pipeline) := by
  induction labels generalizing store with
  | nil =>
      cases ran
      simp [run?, setEngine]
  | cons label rest inductionHypothesis =>
      simp only [run?, Option.bind_eq_some_iff] at ran
      obtain ⟨next, taken, later⟩ := ran
      have first :
          backgroundStep? store (engine, label) =
            some (store.setEngine engine next) := by
        simp [backgroundStep?, background label (by simp), engineStep?, taken]
      have rested :=
        inductionHypothesis
          (fun label member => background label (by simp [member]))
          (show
            run? Pipeline.step?
                ((store.setEngine engine next).engines engine) rest =
              some pipeline by
            simpa using later)
      simp only [List.map_cons, run?, first, Option.bind_some, rested]
      simp [setEngine]

omit [NeZero shards] in
/-- Background threads can always finish the work of the listed engines. -/
theorem Storage.Open.exists_schedule
    {store : Storage shards}
    (isOpen : store.Open)
    (engines : List (Fin shards)) :
    ∃ schedule final,
      run? backgroundStep? store schedule = some final ∧
        ∀ engine ∈ engines, (final.engines engine).remaining = 0 := by
  induction engines with
  | nil =>
      exact ⟨[], store, rfl, by simp⟩
  | cons engine rest inductionHypothesis =>
      obtain ⟨schedule, middle, ran, restDone⟩ := inductionHypothesis
      have live := ((isOpen.settles ran).engines engine).live
      obtain ⟨labels, pipeline, background, drained, done⟩ :=
        live.exists_drain
      refine ⟨schedule ++ labels.map fun label => (engine, label),
        middle.setEngine engine pipeline, ?_, ?_⟩
      · rw [run?_append, ran, Option.bind_some]
        exact run?_background_engine background drained
      · intro other member
        by_cases here : other = engine
        · simpa [here] using done
        · rcases List.mem_cons.mp member with same | later
          · exact (here same).elim
          · simpa [here] using restDone other later

omit [NeZero shards] in
/-- Accepted tickets of an open store can be made to complete. -/
theorem Storage.Open.exists_completion
    {store : Storage shards}
    (isOpen : store.Open)
    {tickets : List (WriteTicket shards)}
    (accepted :
      ∀ ticket ∈ tickets,
        ticket.ticket < (store.engines ticket.engine).nextTicket) :
    ∃ schedule final,
      run? backgroundStep? store schedule = some final ∧
        tickets.all final.isComplete = true := by
  obtain ⟨schedule, final, ran, done⟩ :=
    isOpen.exists_schedule (List.finRange shards)
  have settles := isOpen.settles ran
  refine ⟨schedule, final, ran, ?_⟩
  rw [List.all_eq_true]
  intro ticket member
  have settled := settles.engines ticket.engine
  have completed :=
    settled.live.ordered.completed_of_drained
      (done ticket.engine (List.mem_finRange _))
      (settled.nextTicket ▸ accepted ticket member)
  simpa [isComplete] using completed

/-! ## Calls -/

/-- A key with another leading byte is not a data key. -/
theorem not_dtPrefix_prefix_of_head
    {byte : UInt8}
    {rest : Bytes}
    (other : byte ≠ 0x64) :
    ¬ dtPrefix <+: byte :: rest := by
  intro isData
  rw [dtPrefix, List.cons_prefix_cons] at isData
  exact other isData.1.symm

/-- Writing a catalog key changes no data key. -/
theorem metadata_put
    {key : Bytes}
    (catalog : ¬ dtPrefix <+: key)
    (value : Bytes) :
    Metadata (.put key value) := by
  intro db other isData
  have different : key ≠ other := by
    rintro rfl
    exact catalog isData
  simp [applyOp, different]

/-- Deleting a catalog key changes no data key. -/
theorem metadata_delete
    {key : Bytes}
    (catalog : ¬ dtPrefix <+: key) :
    Metadata (.delete key) := by
  intro db other isData
  have different : key ≠ other := by
    rintro rfl
    exact catalog isData
  simp [applyOp, different]

/-- Range-deleting a table catalog prefix changes no data key. -/
theorem metadata_deleteRange
    (stem : Bytes) :
    Metadata
      (.deleteRange (tbPrefix ++ stem ++ [bang])
        (tbPrefix ++ stem ++ [bang + 1])) := by
  intro db key isData
  have outside : ¬ tbPrefix ++ stem ++ [bang] <+: key := by
    intro under
    obtain ⟨rest, rfl⟩ := under
    exact not_dtPrefix_prefix_of_head (by decide) isData
  simp only [applyOp, ByteMap.getElem?_eraseRange, bang_range_iff, outside,
    if_false]

/-- What a call run in a quiet store has done before its tickets settle. -/
def Performs
    (program : StorageProgram shards Fault (List (WriteTicket shards)))
    (store : Storage shards)
    (rows : RowMap) :
    Prop :=
  ∃ tickets sent,
    program.run answer store = (.ok tickets, sent) ∧
      Refines sent rows ∧
      Awaits tickets sent

/-- Steps after a program that concern neither rows nor the cache. -/
theorem Performs.bind
    {store : Storage shards}
    {rows : RowMap}
    {program : StorageProgram shards Fault (List (WriteTicket shards))}
    (performs : Performs program store rows)
    {finish :
      List (WriteTicket shards) →
      StorageProgram shards Fault (List (WriteTicket shards))}
    (finishes :
      ∀ tickets sent,
        ∃ next,
          (finish tickets).run answer sent = (.ok tickets, next) ∧
            next.engines = sent.engines ∧
            next.rowCache = sent.rowCache) :
    Performs (program >>= finish) store rows := by
  obtain ⟨tickets, sent, ran, refines, awaits⟩ := performs
  obtain ⟨next, finished, sameEngines, sameCache⟩ := finishes tickets sent
  refine ⟨tickets, next, ?_, ⟨?_, ?_, ?_⟩, ⟨?_, ?_⟩⟩
  · rw [Program.run_bind_of_ok answer ran, finished]
  · intro engine
    rw [sameEngines]
    exact refines.isOpen engine
  · rw [sameEngines]
    exact refines.stores
  · rw [sameCache]
    exact refines.cached
  · rw [sameEngines]
    exact awaits.covered
  · rw [sameEngines]
    exact awaits.accepted

namespace Represents

variable
  {store : Storage shards}
  {rows : RowMap}

/-- A program that ends in a quiet store has nothing to await. -/
theorem performs_of_quiet
    {program : StorageProgram shards Fault (List (WriteTicket shards))}
    {next : Storage shards}
    (represents : Represents next rows)
    (ran : program.run answer store = (.ok [], next)) :
    Performs program store rows :=
  ⟨[], next, ran, represents.toRefines,
    ⟨fun engine => .inl (represents.quiet engine), nofun⟩⟩

/-- Queueing one operation on a row's engine. -/
theorem performs_queueRow
    (represents : Represents store rows)
    {address : RowAddress}
    {value : Option Bytes}
    {op : WriteOp}
    (sets : SetsRow op address value)
    {change : ByteMap Bytes → ByteMap Bytes}
    (caches :
      ∀ (entries : ByteMap Bytes) key,
        (change entries)[key]? =
          if address.key = key then value else entries[key]?)
    {program : StorageProgram shards Fault (List (WriteTicket shards))}
    (ran :
      program.run answer store =
        (.ok [⟨address.engine, (store.engines address.engine).nextTicket⟩],
          (store.changeCache address.keyspace change).setEngine
            address.engine
            ((store.engines address.engine).accept op))) :
    Performs program store (Function.update rows address value) := by
  refine ⟨_, _, ran, represents.toRefines.queueRow sets caches, ?_, ?_⟩
  · intro engine
    by_cases here : engine = address.engine
    · subst here
      refine .inr ⟨_, List.mem_singleton.mpr rfl, ?_⟩
      simp [Pipeline.accept]
    · exact .inl (by simpa [here] using represents.quiet engine)
  · intro ticket member
    rw [List.mem_singleton] at member
    subst member
    simp [Pipeline.accept]

/-- Range-deleting a data prefix on every engine. -/
theorem performs_removeUnder
    (represents : Represents store rows)
    {stem : Bytes}
    (isData : dtPrefix <+: stem ++ [bang]) :
    Performs (deleteDataPrefix (stem ++ [bang])) store
      (fun address =>
        if stem ++ [bang] <+: address.key then none else rows address) := by
  refine ⟨_, _, deleteDataPrefix_run represents.isOpen isData,
    represents.toRefines.removeUnder stem, ?_, ?_⟩
  · intro engine
    refine .inr ⟨_, List.mem_map.mpr ⟨engine, List.mem_finRange _, rfl⟩, ?_⟩
    simp [mapCache, acceptEach, Pipeline.accept]
  · intro ticket member
    obtain ⟨engine, _, rfl⟩ := List.mem_map.mp member
    simp [mapCache, acceptEach, Pipeline.accept]

/-- A read returns the row's value and leaves the rows as they are. -/
theorem getRow
    (represents : Represents store rows)
    (address : RowAddress) :
    ∃ next,
      (RhydaDB.getRow address.keyspace address.table address.keyParts).run
          answer store =
        (.ok (rows address), next) ∧
      Represents next rows := by
  have stored := represents.db_row address
  by_cases caches : shouldCache address.keyspace = true
  · cases lookup : store.rowCache.bind fun cache => cache[address.key]? with
    | some value =>
        obtain ⟨cache, present, isCached⟩ :=
          Option.bind_eq_some_iff.mp lookup
        have current := (represents.cached cache present address value
          isCached).2
        refine ⟨store, ?_, represents⟩
        rw [current]
        exact getRow_run_hit ⟨caches, lookup⟩
    | none =>
        have ran := address.getRow_run_miss fun _ => lookup
        rw [stored, caches] at ran
        cases value : rows address with
        | none =>
            rw [value] at ran
            exact ⟨store, ran, represents⟩
        | some bytes =>
            rw [value] at ran
            refine ⟨_, ran, ⟨represents.isOpen, represents.stores, ?_⟩,
              represents.quiet⟩
            have refilled :=
              represents.cached.setRow address (some bytes)
                (fun (entries : ByteMap Bytes) key =>
                  (ByteMap.getElem?_insert_bytes :
                    (entries.insert address.key bytes)[key]? = _))
            have sameRows : Function.update rows address (some bytes) = rows := by
              rw [← value, Function.update_eq_self]
            rw [sameRows] at refilled
            simpa [changeCache, caches] using refilled
  · have missed :
        shouldCache address.keyspace = true →
          (store.rowCache.bind fun cache => cache[address.key]?) = none :=
      fun isCached => (caches isCached).elim
    have ran := address.getRow_run_miss missed
    rw [stored] at ran
    simp only [Bool.not_eq_true] at caches
    rw [caches] at ran
    exact ⟨store, ran, represents⟩

end Represents

end RhydaDB
