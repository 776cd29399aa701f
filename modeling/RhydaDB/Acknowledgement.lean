import RhydaDB.StatementSpec
import RhydaDB.StorageSpec
import RhydaDB.TicketAccounting

namespace RhydaDB

open ByteStrings AtomicPrograms FiniteRuns Storage

/-!
# What an acknowledgement promises

A waiter is woken when its operation's completion sender is dropped, which the
committer does after every batch, written or not.  An acknowledged statement
has therefore had its operations attempted; they were applied as long as no
batch with an operation of a live statement fails, and DROP TABLE happens to
be answered after its unawaited mirror deletion was written.
-/

variable {shards : Nat}

namespace Pipeline

/-- What no step of a pipeline takes back. -/
structure Grows (before after : Pipeline) : Prop where
  ordered : Ordered after
  history : before.history <+: after.history
  completed : ∀ ticket ∈ before.completed, ticket ∈ after.completed
  written : before.written <+: after.written

/-- An ordered pipeline grows into itself. -/
theorem Ordered.grows
    {pipeline : Pipeline}
    (ordered : Ordered pipeline) :
    Grows pipeline pipeline where
  ordered := ordered
  history := List.prefix_rfl
  completed := fun _ member => member
  written := List.prefix_rfl

/-- Every step of a pipeline grows it. -/
theorem Ordered.grows_step
    {pipeline next : Pipeline}
    {label : PipelineLabel}
    (ordered : Ordered pipeline)
    (step : Step pipeline label next) :
    Grows pipeline next where
  ordered := ordered.step step
  history := by
    rw [history_step ordered.exitOrder step]
    exact List.prefix_append _ _
  completed := by
    intro ticket member
    cases step with
    | handFails handing gone =>
        exact List.mem_append_left _ member
    | release releasing =>
        exact List.mem_append_left _ member
    | _ =>
        exact member
  written := by
    cases step with
    | write succeeds writing =>
        exact List.prefix_append _ _
    | _ =>
        exact List.prefix_rfl

/-- A failed attempt in the log was there before or is being made. -/
theorem Step.failed_of_mem_written
    {pipeline next : Pipeline}
    {label : PipelineLabel}
    (step : Step pipeline label next)
    {queued : QueuedOp}
    (member : (queued, false) ∈ next.written) :
    (queued, false) ∈ pipeline.written ∨
      label = .write false ∧ queued ∈ pipeline.committerBatch := by
  cases step with
  | write succeeds writing =>
      rcases List.mem_append.mp member with before | now
      · exact .inl before
      · obtain ⟨attempted, inBatch, same⟩ := List.mem_map.mp now
        cases same
        exact .inr ⟨rfl, by simpa [committerBatch, writing] using inBatch⟩
  | _ =>
      exact .inl member

end Pipeline

namespace Storage

/-- What no step of any engine takes back. -/
def Grows (before after : Storage shards) : Prop :=
  ∀ engine, (before.engines engine).Grows (after.engines engine)

/-- Replacing one pipeline by a grown one grows the store. -/
theorem grows_setEngine
    {store : Storage shards}
    (ordered : ∀ engine, (store.engines engine).Ordered)
    {engine : Fin shards}
    {pipeline : Pipeline}
    (grows : (store.engines engine).Grows pipeline) :
    store.Grows (store.setEngine engine pipeline) := by
  intro other
  by_cases same : other = engine
  · subst same
    simpa using grows
  · simpa [same] using (ordered other).grows

/-- Every action grows the store. -/
theorem grows_answer
    {store : Storage shards}
    (ordered : ∀ engine, (store.engines engine).Ordered)
    (action : StorageAction shards) :
    store.Grows (store.answer action).1 := by
  cases action with
  | send engine op =>
      simp only [answer, Storage.send]
      split
      · rename_i pipeline taken
        exact grows_setEngine ordered
          ((ordered engine).grows_step (Pipeline.step?_sound taken))
      · exact fun other => (ordered other).grows
  | dbWrite engine op =>
      refine grows_setEngine ordered ⟨(ordered engine).directWrite op, ?_, ?_, ?_⟩
      · exact List.prefix_rfl
      · exact fun _ member => member
      · exact List.prefix_rfl
  | _ =>
      exact fun other => (ordered other).grows

/-- No action logs a failed attempt. -/
theorem mem_written_of_answer
    {store : Storage shards}
    {action : StorageAction shards}
    {engine : Fin shards}
    {queued : QueuedOp}
    (member :
      (queued, false) ∈ ((store.answer action).1.engines engine).written) :
    (queued, false) ∈ (store.engines engine).written := by
  cases action with
  | send target op =>
      simp only [answer, Storage.send] at member
      split at member
      · rename_i pipeline taken
        by_cases same : engine = target
        · subst same
          simp only [setEngine_engines, ↓reduceIte] at member
          rcases (Pipeline.step?_sound taken).failed_of_mem_written member with
              before | ⟨isWrite, _⟩
          · exact before
          · cases isWrite
        · simpa [same] using member
      · exact member
  | dbWrite target op =>
      by_cases same : engine = target
      · subst same
        simpa [answer, Pipeline.directWrite] using member
      · simpa [answer, same] using member
  | _ =>
      exact member

/-- The operation behind a ticket was applied to its engine. -/
def Applied
    (store : Storage shards)
    (ticket : WriteTicket shards)
    (op : WriteOp) :
    Prop :=
  (⟨op, ticket.ticket⟩, true) ∈ (store.engines ticket.engine).written

/-- The operation behind a ticket was attempted. -/
def Attempted (store : Storage shards) (ticket : WriteTicket shards) : Prop :=
  ticket.ticket < (store.engines ticket.engine).written.length

/-- A send is recorded under a ticket that was not attempted before. -/
theorem recordSend_cases
    {store : Storage shards}
    {sent : SentOps shards}
    (action : StorageAction shards) :
    recordSend sent action (store.answer action).2 = sent ∨
      ∃ engine op pipeline,
        action = .send engine op ∧
          (store.engines engine).step? (.send op) = some pipeline ∧
          (store.answer action).1 = store.setEngine engine pipeline ∧
          recordSend sent action (store.answer action).2 =
            sent ++ [(⟨engine, (store.engines engine).nextTicket⟩, op)] := by
  cases action with
  | send engine op =>
      cases taken : (store.engines engine).step? (.send op) with
      | none =>
          left
          simp [answer, Storage.send, taken, recordSend]
      | some pipeline =>
          right
          refine ⟨engine, op, pipeline, rfl, taken, ?_, ?_⟩
          · simp [answer, Storage.send, taken]
          · simp [answer, Storage.send, taken, recordSend]
  | _ =>
      exact .inl rfl

end Storage

/-! ## What holds of every task -/

namespace Task

/-- The request was answered with an error. -/
def isFailed (task : Task shards) : Bool :=
  match task.phase with
  | .failed _ =>
      true
  | _ =>
      false

/-- All tickets the request awaited have completed. -/
def isSettled (task : Task shards) : Bool :=
  match task.phase with
  | .settling _ [] =>
      true
  | _ =>
      false

/-- The request was answered with success. -/
def isAcknowledged (task : Task shards) : Bool :=
  match task.phase with
  | .acknowledged _ =>
      true
  | _ =>
      false

/-- What a task's phase says about the operations it has sent. -/
def Accounted (store : Storage shards) (task : Task shards) : Prop :=
  match task.phase with
  | .running program =>
      task.request.statement.isDropTable = false →
        Program.Always recordSend
          (fun later executed => later.map Prod.fst = executed.gates)
          task.sent program
  | .settling _ gates =>
      task.request.statement.isDropTable = false →
        ∀ entry ∈ task.sent,
          entry.1 ∈ gates ∨ store.isComplete entry.1 = true
  | .acknowledged _ =>
      ∀ entry ∈ task.sent, store.Attempted entry.1
  | .failed _ =>
      True

/-- The operations of a task are accepted, and none fails while it lives. -/
structure Sound (store : Storage shards) (task : Task shards) : Prop where
  accepted :
    ∀ entry ∈ task.sent,
      ⟨entry.2, entry.1.ticket⟩ ∈ (store.engines entry.1.engine).history
  failures :
    ∀ engine queued,
      (queued, false) ∈ (store.engines engine).written →
      ∀ entry ∈ task.sent,
        entry.1 = ⟨engine, queued.ticket⟩ →
        task.isFailed = true
  accounted : task.Accounted store

/-- Attempts and completions stay as the store grows. -/
theorem Accounted.grows
    {store next : Storage shards}
    {task : Task shards}
    (accounted : task.Accounted store)
    (grows : store.Grows next) :
    task.Accounted next := by
  unfold Accounted at accounted ⊢
  split at accounted
  · exact accounted
  · intro awaited entry member
    rcases accounted awaited entry member with owed | complete
    · exact .inl owed
    · right
      simp only [isComplete, List.contains_iff_mem] at complete ⊢
      exact (grows entry.1.engine).completed _ complete
  · intro entry member
    exact (accounted entry member).trans_le
      (grows entry.1.engine).written.length_le
  · trivial

/-- A task stays sound as the store grows without failing its operations. -/
theorem Sound.grows
    {store next : Storage shards}
    {task : Task shards}
    (sound : task.Sound store)
    (grows : store.Grows next)
    (failures :
      ∀ engine queued,
        (queued, false) ∈ (next.engines engine).written →
        (queued, false) ∈ (store.engines engine).written ∨
          ∀ entry ∈ task.sent,
            entry.1 = ⟨engine, queued.ticket⟩ →
            task.isFailed = true) :
    task.Sound next where
  accepted := by
    intro entry member
    exact (grows entry.1.engine).history.subset
      (sound.accepted entry member)
  failures := by
    intro engine queued failed
    rcases failures engine queued failed with before | now
    · exact sound.failures engine queued before
    · exact now
  accounted := sound.accounted.grows grows

/-- A task moves on without sending; what matters is its new phase. -/
theorem Sound.moves
    {store : Storage shards}
    {task : Task shards}
    (sound : task.Sound store)
    (alive : task.isFailed = false)
    {phase : Phase shards}
    (accounted : ({ task with phase := phase } : Task shards).Accounted store) :
    ({ task with phase := phase } : Task shards).Sound store where
  accepted := sound.accepted
  failures := by
    intro engine queued failed entry member same
    have isFailed := sound.failures engine queued failed entry member same
    rw [alive] at isFailed
    cases isFailed
  accounted := accounted

/-- A running task stays sound over its next action. -/
theorem Sound.act
    {store : Storage shards}
    {task : Task shards}
    {action : StorageAction shards}
    {next :
      StorageResponse action →
      StorageProgram shards QueryFault (Executed shards)}
    (ordered : ∀ engine, (store.engines engine).Ordered)
    (sound : task.Sound store)
    (phase : task.phase = .running (.act action next)) :
    ({ task with
        phase := .running (next (store.answer action).2)
        sent := recordSend task.sent action (store.answer action).2 } :
      Task shards).Sound (store.answer action).1 := by
  have alive : task.isFailed = false := by
    simp [isFailed, phase]
  have grows := grows_answer ordered action
  have accounted :
      task.request.statement.isDropTable = false →
        Program.Always recordSend
          (fun later executed => later.map Prod.fst = executed.gates)
          (recordSend task.sent action (store.answer action).2)
          (next (store.answer action).2) := by
    intro awaited
    have before := sound.accounted
    rw [Accounted, phase] at before
    exact before awaited _
  rcases recordSend_cases action with silent |
      ⟨engine, op, pipeline, rfl, taken, moved, recorded⟩
  · rw [silent] at accounted ⊢
    refine ⟨?_, ?_, accounted⟩
    · intro entry member
      exact (grows entry.1.engine).history.subset
        (sound.accepted entry member)
    · intro engine queued failed entry member same
      have isFailed :=
        sound.failures engine queued (mem_written_of_answer failed) entry
          member same
      rw [alive] at isFailed
      cases isFailed
  · refine ⟨?_, ?_, accounted⟩
    · intro entry member
      rw [recorded] at member
      rcases List.mem_append.mp member with before | fresh
      · exact (grows entry.1.engine).history.subset
          (sound.accepted entry before)
      · obtain rfl := List.mem_singleton.mp fresh
        rw [moved]
        simp only [setEngine_engines, ↓reduceIte]
        rw [Pipeline.history_step (ordered engine).exitOrder
          (Pipeline.step?_sound taken)]
        simp [Pipeline.sent?]
    · intro other queued failed entry member same
      rw [recorded] at member
      have logged := mem_written_of_answer failed
      rcases List.mem_append.mp member with before | fresh
      · have isFailed :=
          sound.failures other queued logged entry before same
        rw [alive] at isFailed
        cases isFailed
      · -- a new ticket is numbered past everything attempted so far
        obtain rfl := List.mem_singleton.mp fresh
        obtain rfl : engine = other := congrArg WriteTicket.engine same
        have number :
            (store.engines engine).nextTicket = queued.ticket :=
          congrArg WriteTicket.ticket same
        have attempted : queued.ticket < (store.engines engine).written.length :=
          Pipeline.ticket_lt_of_written (ordered engine).numbered
            (List.mem_map_of_mem logged)
        have counted := (ordered engine).written_add_inFlight
        omega

end Task

/-! ## Runs of the server -/

namespace Server

/-- Every engine is ordered and every task is sound. -/
structure Sound (server : Server shards) : Prop where
  ordered : ∀ engine, (server.store.engines engine).Ordered
  tasks : ∀ task ∈ server.tasks, task.Sound server.store

/--
When a step keeps acknowledgements honest: a batch fails only if every
statement with an operation in it was already answered with an error, and
DROP TABLE is acknowledged only once all it has sent was attempted.
-/
def KeepsPromises (server : Server shards) : ServerLabel shards → Prop
  | .start _ =>
      True
  | .advance index =>
      ∀ task ∈ server.tasks[index]?,
        task.request.statement.isDropTable = true →
        task.isSettled = true →
        ∀ entry ∈ task.sent, server.store.Attempted entry.1
  | .engine engine label =>
      label = .write false →
        ∀ queued ∈ (server.store.engines engine).committerBatch,
          ∀ task ∈ server.tasks,
            ∀ entry ∈ task.sent,
              entry.1 = ⟨engine, queued.ticket⟩ →
              task.isFailed = true

instance (store : Storage shards) (ticket : WriteTicket shards) :
    Decidable (store.Attempted ticket) :=
  inferInstanceAs (Decidable (_ < _))

instance (server : Server shards) (label : ServerLabel shards) :
    Decidable (server.KeepsPromises label) :=
  match label with
  | .start _ =>
      isTrue trivial
  | .advance index =>
      inferInstanceAs (Decidable (∀ task ∈ server.tasks[index]?, _))
  | .engine _ _ =>
      inferInstanceAs (Decidable (_ → _))

/-- Every operation of every acknowledged statement was applied. -/
def PromisesKept (server : Server shards) : Prop :=
  ∀ task ∈ server.tasks,
    task.isAcknowledged = true →
    ∀ entry ∈ task.sent, server.store.Applied entry.1 entry.2

instance (store : Storage shards) (ticket : WriteTicket shards) (op : WriteOp) :
    Decidable (store.Applied ticket op) :=
  inferInstanceAs (Decidable (_ ∈ _))

instance (server : Server shards) : Decidable server.PromisesKept :=
  inferInstanceAs (Decidable (∀ task ∈ server.tasks, _))

/-- In a sound state all promises are kept. -/
theorem Sound.promisesKept
    {server : Server shards}
    (sound : server.Sound) :
    server.PromisesKept := by
  intro task member acknowledged entry sent
  have taskSound := sound.tasks task member
  cases phase : task.phase with
  | acknowledged response =>
      have attempted := taskSound.accounted
      rw [Task.Accounted, phase] at attempted
      obtain ⟨outcome, written⟩ :=
        (sound.ordered entry.1.engine).exists_mem_written
          (taskSound.accepted entry sent) (attempted entry sent)
      cases outcome with
      | true =>
          exact written
      | false =>
          have failed := taskSound.failures _ _ written entry sent rfl
          simp [Task.isFailed, phase] at failed
  | _ =>
      simp [Task.isAcknowledged, phase] at acknowledged

variable
  [NeZero shards]
  {json : CatalogJson}
  {hexDecode : HexDecode}

omit [NeZero shards] in
/-- Replacing a task by a sound one over a grown store. -/
theorem Sound.set
    {server : Server shards}
    {store : Storage shards}
    {index : Nat}
    {moved : Task shards}
    (sound : server.Sound)
    (grows : server.store.Grows store)
    (silent :
      ∀ engine queued,
        (queued, false) ∈ (store.engines engine).written →
        (queued, false) ∈ (server.store.engines engine).written)
    (movedSound : moved.Sound store) :
    Sound { store := store, tasks := server.tasks.set index moved } where
  ordered := fun engine => (grows engine).ordered
  tasks := by
    intro task member
    rcases List.mem_or_eq_of_mem_set member with other | rfl
    · exact (sound.tasks task other).grows grows
        fun engine queued failed => .inl (silent engine queued failed)
    · exact movedSound

/-- Every step that keeps promises keeps the server sound. -/
theorem Sound.step
    {server next : Server shards}
    {label : ServerLabel shards}
    (keeps : server.KeepsPromises label)
    (taken : server.step? json hexDecode label = some next)
    (sound : server.Sound) :
    next.Sound := by
  have still : server.store.Grows server.store :=
    fun engine => (sound.ordered engine).grows
  cases step?_sound taken with
  | start request =>
      refine ⟨sound.ordered, ?_⟩
      intro task member
      rcases List.mem_append.mp member with old | fresh
      · exact sound.tasks task old
      · obtain rfl := List.mem_singleton.mp fresh
        refine ⟨nofun, fun _ _ _ => nofun, ?_⟩
        intro awaited
        exact returns_program json hexDecode request awaited [] rfl
  | act found phase =>
      have taskSound := sound.tasks _ (List.mem_of_getElem? found)
      exact sound.set (grows_answer sound.ordered _)
        (fun _ _ failed => mem_written_of_answer failed)
        (taskSound.act sound.ordered phase)
  | @returned index task executed found phase =>
      have taskSound := sound.tasks _ (List.mem_of_getElem? found)
      have alive : task.isFailed = false := by
        simp [Task.isFailed, phase]
      refine sound.set still (fun _ _ failed => failed)
        (taskSound.moves alive ?_)
      intro awaited entry member
      have accounted := taskSound.accounted
      rw [Task.Accounted, phase] at accounted
      have gates : task.sent.map Prod.fst = executed.gates :=
        accounted awaited
      left
      rw [← gates]
      exact List.mem_map_of_mem member
  | @failed index task fault found phase =>
      have taskSound := sound.tasks _ (List.mem_of_getElem? found)
      refine sound.set still (fun _ _ failed => failed)
        ⟨taskSound.accepted, ?_, trivial⟩
      intro _ _ _ _ _ _
      rfl
  | @settled index task response gate gates found phase complete =>
      have taskSound := sound.tasks _ (List.mem_of_getElem? found)
      have alive : task.isFailed = false := by
        simp [Task.isFailed, phase]
      refine sound.set still (fun _ _ failed => failed)
        (taskSound.moves alive ?_)
      intro awaited entry member
      have accounted := taskSound.accounted
      rw [Task.Accounted, phase] at accounted
      rcases accounted awaited entry member with owed | done
      · rcases List.mem_cons.mp owed with isGate | later
        · right
          rw [isGate]
          exact complete
        · exact .inl later
      · exact .inr done
  | @acknowledged index task response found phase =>
      have taskSound := sound.tasks _ (List.mem_of_getElem? found)
      have alive : task.isFailed = false := by
        simp [Task.isFailed, phase]
      refine sound.set still (fun _ _ failed => failed)
        (taskSound.moves alive ?_)
      intro entry member
      cases drops : task.request.statement.isDropTable with
      | true =>
          have isSettled : task.isSettled = true := by
            simp [Task.isSettled, phase]
          exact keeps task found drops isSettled entry member
      | false =>
          have accounted := taskSound.accounted
          rw [Task.Accounted, phase] at accounted
          rcases accounted drops entry member with owed | complete
          · cases owed
          · simp only [isComplete, List.contains_iff_mem] at complete
            exact (sound.ordered entry.1.engine).completedWritten _ complete
  | @engine engine label pipeline thread moved =>
      have grows :=
        grows_setEngine sound.ordered
          ((sound.ordered engine).grows_step (Pipeline.step?_sound moved))
      refine ⟨fun other => (grows other).ordered, ?_⟩
      intro task member
      apply (sound.tasks task member).grows grows
      intro other queued failed
      by_cases same : other = engine
      · subst same
        simp only [setEngine_engines, ↓reduceIte] at failed
        rcases (Pipeline.step?_sound moved).failed_of_mem_written failed with
            before | ⟨isFailure, inBatch⟩
        · exact .inl before
        · exact .inr (keeps isFailure queued inBatch task member)
      · left
        simpa [same] using failed

/--
In every run whose steps keep promises, every operation of every statement
that was answered with success has been applied to its engine.
-/
theorem acknowledged_applied
    {store : Storage shards}
    (ordered : ∀ engine, (store.engines engine).Ordered)
    {labels : List (ServerLabel shards)}
    {final : Server shards}
    (run :
      Run (step? json hexDecode) KeepsPromises (idle store) labels final) :
    final.PromisesKept := by
  have initially : (idle store).Sound := ⟨ordered, by simp [idle]⟩
  exact (run.invariant Sound.step initially).promisesKept

end Server

/-- Insert a row, write its batch with the given outcome, acknowledge. -/
def kvInsertLabels (succeeds : Bool) : List (ServerLabel 1) :=
  [.start ⟨none, kvInsert [.const "1", .const "'a'"], [], none, none⟩,
    .advance 0, .advance 0, .advance 0] ++
    ((List.finRange 1).flatMap fun engine =>
      [.receive, .closeBatch, .hand, .take, .write succeeds, .release].map
        (.engine engine)) ++
    [.advance 0, .advance 0, .advance 0]

/-- Drop the table behind the insertion, write both operations, acknowledge. -/
def kvInsertDropLabels : List (ServerLabel 1) :=
  kvInsertLabels true ++
    [.start ⟨none, .dropTable ⟨kvName, false⟩, [], none, none⟩] ++
    List.replicate 8 (.advance 1) ++
    ((List.finRange 1).flatMap fun engine =>
      [.receive, .receiveMore, .closeBatch, .hand, .take, .write true,
        .release].map (.engine engine)) ++
    [.advance 1, .advance 1]

/--
An insertion whose batch is written keeps its promise, and so does a DROP TABLE
that is acknowledged once the deletion of its mirror row was written too.
-/
theorem acknowledged_applied_insert_drop :
    ∃ final,
      Run (Server.step? cachedJson fun _ => none) Server.KeepsPromises
          (.idle (storeWith false kvTable)) kvInsertDropLabels final ∧
        final.PromisesKept ∧
        final.tasks.map
            (fun task => (task.isAcknowledged, task.sent.length)) =
          [(true, 1), (true, 2)] := by
  have ordered :
      ∀ engine, ((storeWith false kvTable).engines engine).Ordered :=
    fun engine => Pipeline.ordered_start _ _
  have permitted :
      Permitted (Server.step? cachedJson fun _ => none) Server.KeepsPromises
        (.idle (storeWith false kvTable)) kvInsertDropLabels := by
    decide +kernel
  have answered :
      (run? (Server.step? cachedJson fun _ => none)
          (.idle (storeWith false kvTable)) kvInsertDropLabels).map
            (fun final =>
              final.tasks.map
                (fun task => (task.isAcknowledged, task.sent.length))) =
        some [(true, 1), (true, 2)] := by
    decide +kernel
  obtain ⟨final, ran, acknowledged⟩ := Option.map_eq_some_iff.mp answered
  have run := Run.of_run? permitted ran
  exact ⟨final, run, Server.acknowledged_applied ordered run, acknowledged⟩

/-- A failed batch is reported to its waiter as a success. -/
theorem failed_batch_is_acknowledged :
    ∃ final,
      Run (Server.step? cachedJson fun _ => none) (fun _ _ => True)
          (.idle (storeWith false kvTable)) (kvInsertLabels false) final ∧
        ¬ final.PromisesKept := by
  have broken :
      (run? (Server.step? cachedJson fun _ => none)
          (.idle (storeWith false kvTable)) (kvInsertLabels false)).map
            (fun final => decide final.PromisesKept) =
        some false := by
    decide +kernel
  obtain ⟨final, ran, notKept⟩ := Option.map_eq_some_iff.mp broken
  exact ⟨final,
    Run.of_run? (permitted_of_forall (fun _ _ _ => trivial) _) ran,
    of_decide_eq_false notKept⟩

end RhydaDB
