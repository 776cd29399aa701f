import RhydaDB.ConcurrentStore
import RhydaDB.StorageContract

namespace RhydaDB

open ByteStrings AtomicPrograms FiniteRuns Storage ConcurrentStore

/-!
# Row-cache coherence under concurrency

The cache is written before the operation is queued and refilled after an
unrelated engine read.  Two races break it: two writers of one key may queue
in the opposite order of their cache updates, and a reader may refill a value
that has been overwritten or deleted since it read it.  Outside these races
every cached value is justified: it is what its engine will hold, or a writer
is still about to queue it, or a truncation in flight is still to clear it.
-/

variable {shards : Nat} [NeZero shards]

/-- The calls that use the row cache. -/
inductive RowCall where
  | getRow (address : RowAddress)
  | putRow (address : RowAddress) (value : Bytes)
  | deleteRow (address : RowAddress)
  | truncateTable (name : TableName)
  | deleteTable (name : TableName)

/-- The program a call runs. -/
def RowCall.program : RowCall → StorageProgram shards Fault Unit
  | .getRow address => do
      let _ ← RhydaDB.getRow address.keyspace address.table address.keyParts
      return ()
  | .putRow address value => do
      let _ ←
        RhydaDB.putRow address.keyspace address.table address.keyParts value
      return ()
  | .deleteRow address => do
      let _ ←
        RhydaDB.deleteRow address.keyspace address.table address.keyParts
      return ()
  | .truncateTable name => do
      let _ ← RhydaDB.truncateTable name.keyspace name.table
      return ()
  | .deleteTable name => do
      let _ ← RhydaDB.deleteTable name.keyspace name.table
      return ()

/-- Every cached value is the one its engine holds. -/
def CacheCoherent (store : Storage shards) : Prop :=
  ∀ cache,
    store.rowCache = some cache →
    ∀ key value,
      cache[key]? = some value →
      ∃ address : RowAddress,
        address.key = key ∧
          (store.engines address.engine).db[key]? = some value

/-! ## What running programs are about to do -/

/-- The response is not the refusal of a channel send. -/
def Accepted :
    (action : StorageAction shards) →
    StorageResponse action →
    Prop
  | .send _ _, response =>
      response.isSome = true
  | _, _ =>
      True

/-- Whenever its sends are accepted, the program goes on to clear the cache. -/
def ClearsCache {Failure α : Type} : StorageProgram shards Failure α → Prop
  | .pure _ =>
      False
  | .fail _ =>
      False
  | .act action rest =>
      action = .cacheClear ∨
        ∀ response,
          Accepted action response →
          ClearsCache (rest response)

/-- The program's next action queues this value for this key. -/
def QueuesNext
    {Failure α : Type}
    (program : StorageProgram shards Failure α)
    (key value : Bytes) :
    Prop :=
  ∃ engine rest, program = .act (.send engine (.put key value)) rest

/-- What an action of the cached calls may be. -/
def ActionDisciplined
    {Failure α : Type} :
    (action : StorageAction shards) →
    (StorageResponse action → StorageProgram shards Failure α) →
    Prop
  | .cacheInsert key _, _ =>
      ∃ address : RowAddress, address.key = key
  | .dbWrite _ op, _ =>
      Metadata op
  | .send engine (.put key _), _ =>
      ∃ address : RowAddress, address.key = key ∧ address.engine = engine
  | .send engine (.delete key), _ =>
      ∃ address : RowAddress, address.key = key ∧ address.engine = engine
  | .send _ (.deleteRange _ _), rest =>
      ∀ ticket, ClearsCache (rest (some ticket))
  | _, _ =>
      True

/-- All actions of the program are of this kind. -/
def Disciplined {Failure α : Type} : StorageProgram shards Failure α → Prop
  | .pure _ =>
      True
  | .fail _ =>
      True
  | .act action rest =>
      ActionDisciplined action rest ∧ ∀ response, Disciplined (rest response)

section Discipline

variable {Failure α β : Type}

omit [NeZero shards] in
/-- What clears the cache still does so before a continuation. -/
theorem ClearsCache.bind
    {program : StorageProgram shards Failure α}
    (clears : ClearsCache program)
    (continuation : α → StorageProgram shards Failure β) :
    ClearsCache (program >>= continuation) := by
  induction program with
  | pure value =>
      exact clears.elim
  | fail failure =>
      exact clears.elim
  | act action rest inductionHypothesis =>
      rcases clears with isClear | later
      · exact .inl isClear
      · exact .inr fun response accepted =>
          inductionHypothesis response (later response accepted)

/-- Discipline composes. -/
theorem Disciplined.bind
    {program : StorageProgram shards Failure α}
    {continuation : α → StorageProgram shards Failure β}
    (disciplined : Disciplined program)
    (later : ∀ value, Disciplined (continuation value)) :
    Disciplined (program >>= continuation) := by
  induction program with
  | pure value =>
      exact later value
  | fail failure =>
      trivial
  | act action rest inductionHypothesis =>
      refine ⟨?_, fun response =>
        inductionHypothesis response (disciplined.2 response)⟩
      have first := disciplined.1
      cases action with
      | send engine op =>
          cases op with
          | deleteRange start stop =>
              exact fun ticket => (first ticket).bind continuation
          | _ =>
              exact first
      | _ =>
          exact first

/-- Queueing one row operation is disciplined. -/
theorem disciplined_sendOp
    {engine : Fin shards}
    {op : WriteOp}
    (addressed :
      ActionDisciplined (.send engine op)
        (fun _ => (.pure () : StorageProgram shards Fault Unit)))
    (rowOp : ∀ start stop, op ≠ .deleteRange start stop) :
    Disciplined
      (sendOp engine op :
        StorageProgram shards Fault (WriteTicket shards)) := by
  refine ⟨?_, fun response => ?_⟩
  · cases op with
    | deleteRange start stop =>
        exact (rowOp start stop rfl).elim
    | _ =>
        exact addressed
  · cases response <;> trivial

end Discipline

/-- Sending a range deletion to engines before something that clears. -/
theorem disciplined_sendToEach
    {α : Type}
    {start stop : Bytes}
    {engines : List (Fin shards)}
    {finish : List (WriteTicket shards) → StorageProgram shards Fault α}
    (clears : ∀ tickets, ClearsCache (finish tickets))
    (disciplined : ∀ tickets, Disciplined (finish tickets)) :
    Disciplined (sendToEach (.deleteRange start stop) engines >>= finish) ∧
      ClearsCache
        (sendToEach (.deleteRange start stop) engines >>= finish) := by
  induction engines generalizing finish with
  | nil =>
      exact ⟨disciplined [], clears []⟩
  | cons engine rest inductionHypothesis =>
      have later :
          ∀ ticket : WriteTicket shards,
            Disciplined
                (sendToEach (.deleteRange start stop) rest >>=
                  fun tickets => finish (ticket :: tickets)) ∧
              ClearsCache
                (sendToEach (.deleteRange start stop) rest >>=
                  fun tickets => finish (ticket :: tickets)) :=
        fun ticket =>
          inductionHypothesis
            (fun tickets => clears (ticket :: tickets))
            (fun tickets => disciplined (ticket :: tickets))
      have shape :
          (sendToEach (.deleteRange start stop) (engine :: rest) >>= finish :
            StorageProgram shards Fault α) =
            .act (.send engine (.deleteRange start stop)) fun response =>
              match response with
              | some ticket =>
                  sendToEach (.deleteRange start stop) rest >>=
                    fun tickets => finish (ticket :: tickets)
              | none =>
                  .fail (.error "storage writer is gone") := by
        simp only [sendToEach, sendOp, atomically, Program.perform_bind,
          Program.act_bind]
        congr 1
        funext response
        cases response with
        | none =>
            rfl
        | some ticket =>
            simp only [Program.pure_bind, Program.bind_assoc]
      rw [shape]
      refine ⟨⟨fun ticket => (later ticket).2, fun response => ?_⟩,
        .inr fun response accepted => ?_⟩
      · cases response with
        | none =>
            trivial
        | some ticket =>
            exact (later ticket).1
      · cases response with
        | none =>
            cases accepted
        | some ticket =>
            exact (later ticket).2

/-- Removing a table's data range is disciplined. -/
theorem disciplined_truncateTable
    (name : TableName) :
    Disciplined
      (truncateTable name.keyspace name.table :
        StorageProgram shards Fault (List (WriteTicket shards))) := by
  have bound :
      prefixUpperBound (dataPrefix name.keyspace name.table) =
        some (dtPrefix ++ utf8 name.keyspace ++ [bang] ++ utf8 name.table ++
          [bang + 1]) :=
    prefixUpperBound_append _ (by decide)
  have isUnder :
      dtPrefix.isPrefixOf (dataPrefix name.keyspace name.table) = true := by
    simp [dataPrefix, dtPrefix]
  simp only [truncateTable, deleteDataPrefix, bound, isUnder, ↓reduceIte,
    atomically, Program.perform_bind]
  refine (disciplined_sendToEach ?_ ?_).1
  · intro tickets
    exact .inl rfl
  · intro tickets
    exact ⟨trivial, fun _ => trivial⟩

/-- Reading a row is disciplined. -/
theorem disciplined_getRow
    (address : RowAddress) :
    Disciplined
      (getRow address.keyspace address.table address.keyParts :
        StorageProgram shards Fault (Option Bytes)) := by
  have refills :
      ∀ found : Option Bytes,
        Disciplined
          (refillCache address.keyspace address.key found :
            StorageProgram shards Fault Unit) := by
    intro found
    unfold refillCache
    split
    · split
      · exact ⟨⟨address, rfl⟩, fun _ => trivial⟩
      · trivial
    · trivial
  have looksUp :
      Disciplined
        (cachedRow address.keyspace address.key :
          StorageProgram shards Fault (Option Bytes)) := by
    unfold cachedRow
    split
    · exact ⟨trivial, fun _ => trivial⟩
    · trivial
  apply looksUp.bind
  intro cached
  cases cached with
  | some value =>
      trivial
  | none =>
      exact ⟨trivial, fun found => (refills found).bind fun _ => trivial⟩

/-- Writing a row is disciplined. -/
theorem disciplined_putRow
    (address : RowAddress)
    (value : Bytes) :
    Disciplined
      (putRow address.keyspace address.table address.keyParts value :
        StorageProgram shards Fault (WriteTicket shards)) := by
  have sends :
      Disciplined
        (writeDataOp address.keyspace address.table address.keyParts
          (.put address.key value) :
          StorageProgram shards Fault (WriteTicket shards)) :=
    disciplined_sendOp ⟨address, rfl, rfl⟩ (by simp)
  unfold putRow
  split
  · exact ⟨⟨address, rfl⟩, fun _ => sends⟩
  · exact sends

/-- Deleting a row is disciplined. -/
theorem disciplined_deleteRow
    (address : RowAddress) :
    Disciplined
      (deleteRow address.keyspace address.table address.keyParts :
        StorageProgram shards Fault (WriteTicket shards)) := by
  have sends :
      Disciplined
        (writeDataOp address.keyspace address.table address.keyParts
          (.delete address.key) :
          StorageProgram shards Fault (WriteTicket shards)) :=
    disciplined_sendOp ⟨address, rfl, rfl⟩ (by simp)
  unfold deleteRow
  split
  · exact ⟨trivial, fun _ => sends⟩
  · exact sends

/-- The cached calls are disciplined. -/
theorem RowCall.disciplined
    (call : RowCall) :
    Disciplined (call.program : StorageProgram shards Fault Unit) := by
  cases call with
  | getRow address =>
      exact (disciplined_getRow address).bind fun _ => trivial
  | putRow address value =>
      exact (disciplined_putRow address value).bind fun _ => trivial
  | deleteRow address =>
      exact (disciplined_deleteRow address).bind fun _ => trivial
  | truncateTable name =>
      exact (disciplined_truncateTable name).bind fun _ => trivial
  | deleteTable name =>
      have catalog :
          Metadata (.delete (tableKey name.keyspace name.table)) :=
        metadata_delete (not_dtPrefix_prefix_of_head (by decide))
      refine ⟨catalog, fun _ => ?_⟩
      apply Disciplined.bind
      · apply (disciplined_truncateTable name).bind
        intro tickets
        exact ⟨trivial, fun _ => trivial⟩
      · intro tickets
        trivial

/-! ## The condition on interleavings -/

/-- A program other than the indexed one will still settle a cached value. -/
def OtherKeeps
    (world : ConcurrentStore shards Fault Unit)
    (index : Nat)
    (key value : Bytes) :
    Prop :=
  ∃ other program,
    other ≠ index ∧
      world.running[other]? = some program ∧
      (QueuesNext program key value ∨ ClearsCache program)

/-- The value a row has once everything accepted is written. -/
def SettledRow (store : Storage shards) (key value : Bytes) : Prop :=
  ∃ address : RowAddress,
    address.key = key ∧
      (store.engines address.engine).settled[key]? = some value

/--
The step is none of the racing ones.  A writer queues its operation only when
the cache holds its own value, nothing, or a value that another call is still
going to queue or clear; a reader refills the cache only with the value the
row has once everything accepted is written, or with one that another call is
still going to queue or clear.  Batch writes succeed.
-/
def KeepsCache
    (world : ConcurrentStore shards Fault Unit) :
    ConcurrentLabel shards RowCall →
    Prop
  | .start _ =>
      True
  | .engine _ label =>
      label ≠ .write false
  | .advance index =>
      match world.running[index]? with
      | some (.act (.send _ (.put key value)) _) =>
          ∀ cache stale,
            world.store.rowCache = some cache →
            cache[key]? = some stale →
            stale = value ∨ OtherKeeps world index key stale
      | some (.act (.send _ (.delete key)) _) =>
          ∀ cache stale,
            world.store.rowCache = some cache →
            cache[key]? = some stale →
            OtherKeeps world index key stale
      | some (.act (.cacheInsert key value) rest) =>
          QueuesNext (rest ()) key value ∨
            SettledRow world.store key value ∨
            OtherKeeps world index key value
      | _ =>
          True

/-- Why a cached value may stay. -/
def Justified
    (world : ConcurrentStore shards Fault Unit)
    (key value : Bytes) :
    Prop :=
  SettledRow world.store key value ∨
    ∃ (index : Nat) (program : StorageProgram shards Fault Unit),
      world.running[index]? = some program ∧
        (QueuesNext program key value ∨ ClearsCache program)

/-- Reachable worlds: every cached value is justified. -/
structure Coherent (world : ConcurrentStore shards Fault Unit) : Prop where
  isOpen : world.store.Open
  disciplined : ∀ program ∈ world.running, Disciplined program
  justified :
    ∀ cache,
      world.store.rowCache = some cache →
      ∀ key value,
        cache[key]? = some value →
        Justified world key value

/-! ## Effects of single actions -/

omit [NeZero shards] in
/-- Every action keeps the store open. -/
theorem Storage.Open.answer
    {store : Storage shards}
    (isOpen : store.Open)
    (action : StorageAction shards) :
    (store.answer action).1.Open := by
  cases action with
  | dbWrite engine op =>
      exact isOpen.setEngine ((isOpen engine).directWrite op)
  | send engine op =>
      simp only [Storage.answer, isOpen.send engine op]
      exact isOpen.setEngine ((isOpen engine).accept op)
  | _ =>
      exact isOpen

/-- Actions other than sends leave the settled rows alone. -/
theorem settledRow_answer
    {store : Storage shards}
    {Failure α : Type}
    {action : StorageAction shards}
    {rest : StorageResponse action → StorageProgram shards Failure α}
    (disciplined : ActionDisciplined action rest)
    (notSend : ∀ engine op, action ≠ .send engine op)
    {key value : Bytes}
    (settled : SettledRow store key value) :
    SettledRow (store.answer action).1 key value := by
  cases action with
  | send engine op =>
      exact (notSend engine op rfl).elim
  | dbWrite engine op =>
      obtain ⟨address, rfl, present⟩ := settled
      refine ⟨address, rfl, ?_⟩
      by_cases here : address.engine = engine
      · have sameDb :
            (applyOp (store.engines address.engine).db op)[address.key]? =
              (store.engines address.engine).db[address.key]? :=
          disciplined _ _ (dtPrefix_prefix_key address)
        rw [← present]
        simp only [answer, setEngine_engines, here, ↓reduceIte]
        rw [← here]
        exact applyOps_congr sameDb _
      · simpa [answer, here] using present
  | _ =>
      exact settled

/-- A send that leaves a key alone leaves its settled row alone. -/
theorem settledRow_send
    {store : Storage shards}
    (isOpen : store.Open)
    {engine : Fin shards}
    {op : WriteOp}
    {key value : Bytes}
    (untouched :
      ∀ db : ByteMap Bytes, (applyOp db op)[key]? = db[key]?)
    (settled : SettledRow store key value) :
    SettledRow (store.answer (.send engine op)).1 key value := by
  obtain ⟨address, rfl, present⟩ := settled
  refine ⟨address, rfl, ?_⟩
  simp only [answer, isOpen.send engine op, setEngine_engines]
  by_cases here : address.engine = engine
  · rw [if_pos here, (isOpen engine).settled_accept, untouched, ← here]
    exact present
  · rw [if_neg here]
    exact present

/-- An accepted row write settles its value. -/
theorem settledRow_send_put
    {store : Storage shards}
    (isOpen : store.Open)
    (address : RowAddress)
    (value : Bytes) :
    SettledRow
      (store.answer (.send address.engine (.put address.key value))).1
      address.key value := by
  refine ⟨address, rfl, ?_⟩
  simp [answer, isOpen.send address.engine,
    (isOpen address.engine).settled_accept, applyOp]

/-! ## Every permitted step keeps the cache justified -/

namespace Justified

variable
  {world : ConcurrentStore shards Fault Unit}
  {key value : Bytes}

/-- Another program's promise survives a step of the indexed program. -/
theorem of_otherKeeps
    {index : Nat}
    (keeps : OtherKeeps world index key value)
    (store : Storage shards)
    (rest : StorageProgram shards Fault Unit) :
    Justified
      { store := store, running := world.running.set index rest }
      key value := by
  obtain ⟨other, program, different, found, promise⟩ := keeps
  refine .inr ⟨other, program, ?_, promise⟩
  simpa [List.getElem?_set, Ne.symm different] using found

/-- The stepping program's own promise justifies a value. -/
theorem of_rest
    {index : Nat}
    {program : StorageProgram shards Fault Unit}
    (found : world.running[index]? = some program)
    (store : Storage shards)
    {rest : StorageProgram shards Fault Unit}
    (promise : QueuesNext rest key value ∨ ClearsCache rest) :
    Justified
      { store := store, running := world.running.set index rest }
      key value := by
  refine .inr ⟨index, rest, ?_, promise⟩
  have inside : index < world.running.length :=
    (List.getElem?_eq_some_iff.mp found).1
  simp [inside]

/--
A justification survives a step of any program, unless the step queues this
very value or clears the cache.
-/
theorem advance
    {index : Nat}
    {action : StorageAction shards}
    {rest : StorageResponse action → StorageProgram shards Fault Unit}
    (found : world.running[index]? = some (.act action rest))
    (isOpen : world.store.Open)
    (stays :
      SettledRow world.store key value →
      SettledRow (world.store.answer action).1 key value)
    (notQueued : ∀ engine, action ≠ .send engine (.put key value))
    (notClear : action ≠ .cacheClear)
    (justified : Justified world key value) :
    Justified
      { store := (world.store.answer action).1
        running :=
          world.running.set index (rest (world.store.answer action).2) }
      key value := by
  rcases justified with settled | ⟨other, program, running, promise⟩
  · exact .inl (stays settled)
  · by_cases same : other = index
    · subst same
      rw [found] at running
      cases running
      rcases promise with ⟨engine, _, shape⟩ | isClear | later
      · cases shape
        exact (notQueued engine rfl).elim
      · exact (notClear isClear).elim
      · refine of_rest found _ (.inr (later _ ?_))
        cases action with
        | send engine op =>
            simp [Accepted, answer, isOpen.send engine op]
        | _ =>
            trivial
    · exact of_otherKeeps ⟨other, program, same, running, promise⟩ _ _

end Justified

namespace Coherent

variable {world next : ConcurrentStore shards Fault Unit}

/-- Discipline of the remaining program after one action. -/
theorem disciplined_set
    (coherent : Coherent world)
    {index : Nat}
    {action : StorageAction shards}
    {rest : StorageResponse action → StorageProgram shards Fault Unit}
    (found : world.running[index]? = some (.act action rest))
    (response : StorageResponse action) :
    ∀ program ∈ world.running.set index (rest response),
      Disciplined program := by
  intro program member
  rcases List.mem_or_eq_of_mem_set member with earlier | rfl
  · exact coherent.disciplined program earlier
  · have whole := coherent.disciplined _ (List.mem_of_getElem? found)
    exact whole.2 response

/-- One atomic action of a running call. -/
theorem advance
    (coherent : Coherent world)
    {index : Nat}
    (permitted : KeepsCache world (.advance index))
    {action : StorageAction shards}
    {rest : StorageResponse action → StorageProgram shards Fault Unit}
    (found : world.running[index]? = some (.act action rest)) :
    Coherent
      { store := (world.store.answer action).1
        running :=
          world.running.set index (rest (world.store.answer action).2) } := by
  have disciplined : ActionDisciplined action rest :=
    (coherent.disciplined _ (List.mem_of_getElem? found)).1
  simp only [KeepsCache, found] at permitted
  refine ⟨coherent.isOpen.answer action, coherent.disciplined_set found _, ?_⟩
  intro cache present key value cached
  cases action with
  | cacheInsert target inserted =>
      simp only [answer, mapCache, Option.map_eq_some_iff] at present
      obtain ⟨before, wasPresent, rfl⟩ := present
      rw [ByteMap.getElem?_insert_bytes] at cached
      by_cases same : target = key
      · subst same
        simp only [↓reduceIte, Option.some.injEq] at cached
        subst cached
        rcases permitted with queues | settled | keeps
        · exact Justified.of_rest found _ (.inl queues)
        · exact .inl settled
        · exact Justified.of_otherKeeps keeps _ _
      · rw [if_neg same] at cached
        exact (coherent.justified before wasPresent key value cached).advance
          found coherent.isOpen id (by simp) (by simp)
  | cacheRemove target =>
      simp only [answer, mapCache, Option.map_eq_some_iff] at present
      obtain ⟨before, wasPresent, rfl⟩ := present
      rw [ByteMap.getElem?_erase_bytes] at cached
      by_cases same : target = key
      · simp [same] at cached
      · rw [if_neg same] at cached
        exact (coherent.justified before wasPresent key value cached).advance
          found coherent.isOpen id (by simp) (by simp)
  | cacheClear =>
      simp only [answer, mapCache, Option.map_eq_some_iff] at present
      obtain ⟨before, _, rfl⟩ := present
      simp at cached
  | send engine op =>
      have wasPresent : world.store.rowCache = some cache := by
        simpa [answer, coherent.isOpen.send engine op] using present
      have justified := coherent.justified cache wasPresent key value cached
      cases op with
      | put target queued =>
          obtain ⟨address, rfl, rfl⟩ := disciplined
          by_cases same : address.key = key
          · subst same
            rcases permitted cache value wasPresent cached with rfl | keeps
            · exact .inl
                (settledRow_send_put coherent.isOpen address value)
            · exact Justified.of_otherKeeps keeps _ _
          · apply justified.advance found coherent.isOpen
            · exact settledRow_send coherent.isOpen
                (by simp [applyOp, same])
            · intro engine sends
              cases sends
              exact same rfl
            · simp
      | delete target =>
          obtain ⟨address, rfl, rfl⟩ := disciplined
          by_cases same : address.key = key
          · subst same
            exact Justified.of_otherKeeps
              (permitted cache value wasPresent cached) _ _
          · apply justified.advance found coherent.isOpen
            · exact settledRow_send coherent.isOpen
                (by simp [applyOp, same])
            · simp
            · simp
      | deleteRange start stop =>
          apply Justified.of_rest found
          right
          simp only [answer, coherent.isOpen.send engine]
          exact disciplined _
  | _ =>
      exact (coherent.justified cache present key value cached).advance
        found coherent.isOpen
        (settledRow_answer disciplined (by simp))
        (by simp) (by simp)

/-- Every permitted step keeps the cache justified. -/
theorem step
    {label : ConcurrentLabel shards RowCall}
    (coherent : Coherent world)
    (permitted : KeepsCache world label)
    (step : Step RowCall.program world label next) :
    Coherent next := by
  cases step with
  | start call =>
      refine ⟨coherent.isOpen, ?_, ?_⟩
      · intro program member
        rcases List.mem_append.mp member with earlier | started
        · exact coherent.disciplined program earlier
        · rw [List.mem_singleton] at started
          subst started
          exact call.disciplined
      · intro cache present key value cached
        rcases coherent.justified cache present key value cached with
            settled | ⟨index, program, found, promise⟩
        · exact .inl settled
        · have inside : index < world.running.length :=
            (List.getElem?_eq_some_iff.mp found).1
          refine .inr ⟨index, program, ?_, promise⟩
          rw [List.getElem?_append_left inside]
          exact found
  | advance found =>
      exact coherent.advance permitted found
  | @engine engine label pipeline thread taken =>
      have background : label.background = true := by
        have succeeds : label ≠ .write false := permitted
        simp [PipelineLabel.background, thread, succeeds]
      have settles := (coherent.isOpen engine).settles_step background taken
      refine ⟨coherent.isOpen.setEngine settles.live, coherent.disciplined,
        ?_⟩
      intro cache present key value cached
      rcases coherent.justified cache present key value cached with
          ⟨address, sameKey, settled⟩ | promised
      · refine .inl ⟨address, sameKey, ?_⟩
        by_cases here : address.engine = engine
        · simp only [setEngine_engines, here, ↓reduceIte, settles.settled]
          rw [← here]
          exact settled
        · simpa [here] using settled
      · exact .inr promised

/-- When every call has returned and the queues are empty, cached is stored. -/
theorem cacheCoherent
    (coherent : Coherent world)
    (finished : world.finished = true) :
    CacheCoherent world.store := by
  obtain ⟨returned, quiet⟩ := finished_iff.mp finished
  intro cache present key value cached
  rcases coherent.justified cache present key value cached with
      ⟨address, sameKey, settled⟩ | ⟨index, program, found, promise⟩
  · refine ⟨address, sameKey, ?_⟩
    simpa [Pipeline.settled, quiet address.engine, applyOps] using settled
  · have done := returned program (List.mem_of_getElem? found)
    rcases promise with ⟨engine, rest, rfl⟩ | clears
    · cases done
    · cases program with
      | pure value =>
          exact clears.elim
      | fail failure =>
          exact clears.elim
      | act action rest =>
          cases done

end Coherent

/-- A store just opened, with nothing running, is coherent. -/
theorem coherent_idle
    (writeSync caching : Bool) :
    Coherent (idle (Storage.fresh shards writeSync caching)) where
  isOpen := fun engine => ⟨Pipeline.ordered_start writeSync ∅, rfl⟩
  disciplined := nofun
  justified := by
    intro cache present key value cached
    cases caching with
    | false =>
        cases present
    | true =>
        cases present
        simp at cached

/--
In every interleaving whose steps avoid the two races, once all calls have
returned and all queued operations are written, every cached value is the one
its engine holds.
-/
theorem cache_coherent_of_keepsCache
    (writeSync caching : Bool)
    (labels : List (ConcurrentLabel shards RowCall))
    (final : ConcurrentStore shards Fault Unit)
    (run :
      Run (ConcurrentStore.step? RowCall.program) KeepsCache
        (idle (Storage.fresh shards writeSync caching)) labels final)
    (finished : final.finished = true) :
    CacheCoherent final.store := by
  have coherent : Coherent final :=
    run.invariant
      (fun permitted taken before => before.step permitted (step?_sound taken))
      (coherent_idle writeSync caching)
  exact coherent.cacheCoherent finished

/-- Two writers of one row: the second to update the cache queues first. -/
def racingPuts : List (ConcurrentLabel 1 RowCall) :=
  [.start (.putRow sampleAddress [1]), .start (.putRow sampleAddress [2]),
    .advance 0, .advance 1, .advance 1, .advance 0] ++
    (List.finRange 1).flatMap fun engine =>
      [.receive, .receiveMore, .closeBatch, .hand, .take, .write true,
        .release].map (.engine engine)

/-- The race leaves a cached value that its engine does not hold. -/
theorem racing_puts_leave_stale_cache :
    ∃ final,
      Run (ConcurrentStore.step? RowCall.program) (fun _ _ => True)
          (idle (Storage.fresh 1 false true)) racingPuts final ∧
        final.finished = true ∧
        ¬ CacheCoherent final.store := by
  have observed :
      (run? (ConcurrentStore.step? RowCall.program)
          (idle (Storage.fresh 1 false true)) racingPuts).map
          (fun final =>
            (final.finished,
              final.store.rowCache.bind fun cache =>
                cache[sampleAddress.key]?,
              (final.store.engines 0).db[sampleAddress.key]?)) =
        some (true, some [2], some [1]) := by
    decide +kernel
  obtain ⟨final, ran, seen⟩ := Option.map_eq_some_iff.mp observed
  simp only [Prod.mk.injEq] at seen
  obtain ⟨finished, inCache, inEngine⟩ := seen
  have run := Run.of_run? (permitted_of_forall (fun _ _ _ => trivial) _) ran
  refine ⟨final, run, finished, ?_⟩
  intro coherent
  obtain ⟨cache, present, cached⟩ := Option.bind_eq_some_iff.mp inCache
  obtain ⟨address, sameKey, stored⟩ := coherent cache present _ _ cached
  have onlyEngine : (address.engine : Fin 1) = 0 := Subsingleton.elim _ _
  rw [onlyEngine, inEngine] at stored
  cases stored

/-- Two writers of one row that update the cache and queue in the same order. -/
def orderedPuts : List (ConcurrentLabel 1 RowCall) :=
  [.start (.putRow sampleAddress [1]), .start (.putRow sampleAddress [2]),
    .advance 0, .advance 1, .advance 0, .advance 1] ++
    (List.finRange 1).flatMap fun engine =>
      [.receive, .receiveMore, .closeBatch, .hand, .take, .write true,
        .release].map (.engine engine)

/-- Two writers that overlap leave the second value cached and stored. -/
theorem cache_coherent_of_keepsCache_two_puts :
    ∃ final,
      Run (ConcurrentStore.step? RowCall.program) KeepsCache
          (idle (Storage.fresh 1 false true)) orderedPuts final ∧
        final.finished = true ∧
        CacheCoherent final.store := by
  have permitted :
      Permitted (ConcurrentStore.step? RowCall.program) KeepsCache
        (idle (Storage.fresh 1 false true)) orderedPuts := by
    refine ⟨trivial, fun _ taken => ?_⟩
    cases taken
    refine ⟨trivial, fun _ taken => ?_⟩
    cases taken
    refine ⟨.inl ⟨_, _, rfl⟩, fun _ taken => ?_⟩
    cases taken
    refine ⟨.inl ⟨_, _, rfl⟩, fun _ taken => ?_⟩
    cases taken
    refine ⟨fun cache stale present cached => .inr ?_, fun _ taken => ?_⟩
    · -- the second writer is going to queue what it has cached
      cases present
      obtain rfl : [2] = stale := by
        simpa using cached
      exact ⟨1, _, by decide, rfl, .inl ⟨_, _, rfl⟩⟩
    cases taken
    refine ⟨fun cache stale present cached => .inl ?_,
      fun queued _ => permitted_of_forall ?_ queued⟩
    · cases present
      simpa using cached.symm
    · intro state label member
      fin_cases member <;> simp [KeepsCache]
  have observed :
      (run? (ConcurrentStore.step? RowCall.program)
          (idle (Storage.fresh 1 false true)) orderedPuts).map
          (fun final => final.finished) =
        some true := by
    decide +kernel
  obtain ⟨final, ran, finished⟩ := Option.map_eq_some_iff.mp observed
  have run := Run.of_run? permitted ran
  exact ⟨final, run, finished,
    cache_coherent_of_keepsCache false true orderedPuts final run finished⟩

end RhydaDB
