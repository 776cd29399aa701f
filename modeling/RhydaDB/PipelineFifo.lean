import RhydaDB.WritePipeline

namespace RhydaDB

open ByteStrings FiniteRuns

/-!
# The write pipeline is an exactly-once FIFO

`Ordered` describes every reachable state, also when batch writes fail and
when the engine is written past its pipeline: nothing accepted is lost,
repeated or reordered, and only attempted operations complete.  Without
failures the engine always holds a prefix of the accepted sequence, completed
tickets lie inside the prefix, and the committer leaves only when nothing
remains.
-/

namespace Pipeline

/-- The accepted operations of a label sequence, oldest first. -/
def acceptedOps (labels : List PipelineLabel) : List WriteOp :=
  labels.filterMap fun
    | .send op =>
        some op
    | _ =>
        none

/-- The operation a label puts on the channel. -/
def sentOps (label : PipelineLabel) : List WriteOp :=
  acceptedOps [label]

theorem acceptedOps_cons
    (label : PipelineLabel)
    (rest : List PipelineLabel) :
    acceptedOps (label :: rest) = sentOps label ++ acceptedOps rest := by
  cases label <;> rfl

/-- Steps other than the committer's write leave the engine and its log alone. -/
theorem frame_of_not_write
    {pipeline next : Pipeline}
    {label : PipelineLabel}
    (step : Step pipeline label next)
    (notWrite : ∀ succeeds, label ≠ .write succeeds) :
    next.db = pipeline.db ∧ next.written = pipeline.written := by
  cases step with
  | write succeeds writing =>
      exact (notWrite succeeds rfl).elim
  | _ =>
      exact ⟨rfl, rfl⟩

/-- Reachable states: tickets number the history and complete in its order. -/
structure Ordered (pipeline : Pipeline) : Prop where
  exitOrder : ExitOrder pipeline
  numbered :
    pipeline.history.map QueuedOp.ticket = List.range pipeline.nextTicket
  completedWritten :
    ∀ ticket ∈ pipeline.completed,
      ticket < pipeline.written.length
  releasingWritten :
    ∀ batch,
      pipeline.committer = .releasing batch →
      ∀ queued ∈ batch,
        queued.ticket < pipeline.written.length
  writtenCompletes :
    ∀ queued ∈ pipeline.written.map Prod.fst,
      queued.ticket ∈ pipeline.completed ∨
        ∃ batch, pipeline.committer = .releasing batch ∧ queued ∈ batch

/-- A fresh pipeline has accepted nothing. -/
theorem ordered_start
    (writeSync : Bool)
    (initial : ByteMap Bytes) :
    Ordered (start writeSync initial) where
  exitOrder := ⟨nofun, nofun⟩
  numbered := rfl
  completedWritten := nofun
  releasingWritten := nofun
  writtenCompletes := nofun

/-- A written operation's ticket is below the number of written operations. -/
theorem ticket_lt_of_written
    {pipeline : Pipeline}
    (numbered :
      pipeline.history.map QueuedOp.ticket = List.range pipeline.nextTicket)
    {queued : QueuedOp}
    (member : queued ∈ pipeline.written.map Prod.fst) :
    queued.ticket < pipeline.written.length := by
  obtain ⟨position, bound, found⟩ := List.mem_iff_getElem.mp member
  have inWritten : position < pipeline.written.length := by
    simpa using bound
  have inHistory :
      pipeline.history[position]? = some queued := by
    rw [history, List.getElem?_append_left bound, ← found,
      List.getElem?_eq_getElem bound]
  have ticketThere :
      (List.range pipeline.nextTicket)[position]? = some queued.ticket := by
    rw [← numbered, List.getElem?_map, inHistory]
    rfl
  obtain ⟨_, same⟩ := List.getElem?_eq_some_iff.mp ticketThere
  rw [← same, List.getElem_range]
  exact inWritten

namespace Ordered

variable
  {pipeline next : Pipeline}
  {label : PipelineLabel}

/-- Written operations keep completing: a release drops all their senders. -/
theorem writtenCompletes_step
    (ordered : Ordered pipeline)
    (step : Step pipeline label next) :
    ∀ queued ∈ next.written.map Prod.fst,
      queued.ticket ∈ next.completed ∨
        ∃ batch, next.committer = .releasing batch ∧ queued ∈ batch := by
  intro queued member
  cases step with
  | write succeeds writing =>
      simp only [List.map_append, List.map_map, List.mem_append] at member
      rcases member with earlier | inBatch
      · rcases ordered.writtenCompletes queued earlier with
            completed | ⟨batch, releasing, _⟩
        · exact .inl completed
        · rw [writing] at releasing
          cases releasing
      · obtain ⟨same, present, rfl⟩ := List.mem_map.mp inBatch
        exact .inr ⟨_, rfl, present⟩
  | release releasing =>
      rcases ordered.writtenCompletes queued member with
          completed | ⟨batch, stillReleasing, present⟩
      · exact .inl (List.mem_append_left _ completed)
      · rw [releasing] at stillReleasing
        cases stillReleasing
        exact .inl
          (List.mem_append_right _ (List.mem_map.mpr ⟨queued, present, rfl⟩))
  | take idle queuedBatch =>
      rcases ordered.writtenCompletes queued member with
          completed | ⟨batch, releasing, _⟩
      · exact .inl completed
      · rw [idle] at releasing
        cases releasing
  | committerExit idle drained collectorGone =>
      rcases ordered.writtenCompletes queued member with
          completed | ⟨batch, releasing, _⟩
      · exact .inl completed
      · rw [idle] at releasing
        cases releasing
  | handFails handing gone =>
      rcases ordered.writtenCompletes queued member with
          completed | ⟨batch, releasing, _⟩
      · exact .inl (List.mem_append_left _ completed)
      · rw [gone] at releasing
        cases releasing
  | _ =>
      exact ordered.writtenCompletes queued member

/-- Every step keeps the order. -/
theorem step
    (ordered : Ordered pipeline)
    (step : Step pipeline label next) :
    Ordered next := by
  have nextNumbered :
      next.history.map QueuedOp.ticket = List.range next.nextTicket := by
    rw [history_step ordered.exitOrder step, List.map_append,
      ordered.numbered]
    cases step with
    | send op connected alive =>
        simp [accept, sent?, List.range_succ]
    | _ =>
        simp [sent?]
  refine ⟨ordered.exitOrder.step step, nextNumbered, ?_, ?_, ?_⟩
  · cases step with
    | write succeeds writing =>
        intro ticket member
        have bound := ordered.completedWritten ticket member
        exact bound.trans_le (by simp)
    | release releasing =>
        intro ticket member
        rcases List.mem_append.mp member with earlier | released
        · exact ordered.completedWritten ticket earlier
        · obtain ⟨queued, inBatch, rfl⟩ := List.mem_map.mp released
          exact ordered.releasingWritten _ releasing queued inBatch
    | handFails handing gone =>
        have collectorGone := (ordered.exitOrder.committerLast gone).1
        rw [handing] at collectorGone
        cases collectorGone
    | _ =>
        exact ordered.completedWritten
  · cases step with
    | write succeeds writing =>
        intro released same queued inBatch
        cases same
        apply ticket_lt_of_written nextNumbered
        simp only [List.map_append, List.map_map, List.mem_append]
        exact .inr (List.mem_map.mpr ⟨queued, inBatch, rfl⟩)
    | release releasing =>
        intro batch same
        cases same
    | take idle queued =>
        intro batch same
        cases same
    | committerExit idle drained collectorGone =>
        intro batch same
        cases same
    | _ =>
        exact ordered.releasingWritten
  · exact ordered.writtenCompletes_step step

/-- Runs keep the order, and the history grows by exactly what they accept. -/
theorem run
    {allowed : Pipeline → PipelineLabel → Prop}
    {final : Pipeline}
    {labels : List PipelineLabel}
    (ordered : Ordered pipeline)
    (run : Run step? allowed pipeline labels final) :
    Ordered final ∧
      final.history.map QueuedOp.op =
        pipeline.history.map QueuedOp.op ++ acceptedOps labels := by
  induction run with
  | nil state =>
      exact ⟨ordered, by simp [acceptedOps]⟩
  | @cons initial middle final label rest permitted first later
      inductionHypothesis =>
      have taken := step?_sound first
      obtain ⟨finalOrdered, grown⟩ := inductionHypothesis (ordered.step taken)
      refine ⟨finalOrdered, ?_⟩
      rw [grown, history_step ordered.exitOrder taken, acceptedOps_cons]
      cases label <;> simp [sent?, sentOps, acceptedOps]

/-- Written and in-flight operations together are everything accepted. -/
theorem written_add_inFlight
    (ordered : Ordered pipeline) :
    pipeline.written.length + pipeline.inFlight.length =
      pipeline.nextTicket := by
  simpa [history] using congrArg List.length ordered.numbered

/-- Writing past the pipeline does not touch the order. -/
theorem directWrite
    (ordered : Ordered pipeline)
    (op : WriteOp) :
    Ordered (pipeline.directWrite op) where
  exitOrder :=
    ⟨ordered.exitOrder.collectorDrained, ordered.exitOrder.committerLast⟩
  numbered := ordered.numbered
  completedWritten := ordered.completedWritten
  releasingWritten := ordered.releasingWritten
  writtenCompletes := ordered.writtenCompletes

/-- An accepted operation is attempted once its ticket number is reached. -/
theorem exists_mem_written
    (ordered : Ordered pipeline)
    {queued : QueuedOp}
    (accepted : queued ∈ pipeline.history)
    (reached : queued.ticket < pipeline.written.length) :
    ∃ outcome, (queued, outcome) ∈ pipeline.written := by
  obtain ⟨position, bound, found⟩ := List.mem_iff_getElem.mp accepted
  have number : position = queued.ticket := by
    have atPosition :
        (pipeline.history.map QueuedOp.ticket)[position]? =
          some queued.ticket := by
      rw [List.getElem?_map, List.getElem?_eq_getElem bound, found]
      rfl
    rw [ordered.numbered] at atPosition
    obtain ⟨_, same⟩ := List.getElem?_eq_some_iff.mp atPosition
    simpa using same
  subst position
  have inHistory : pipeline.history[queued.ticket]? = some queued := by
    rw [List.getElem?_eq_getElem bound, found]
  have inWritten :
      (pipeline.written.map Prod.fst)[queued.ticket]? = some queued := by
    rw [← inHistory, history,
      List.getElem?_append_left (by simpa using reached)]
  rw [List.getElem?_map, Option.map_eq_some_iff] at inWritten
  obtain ⟨⟨attempted, outcome⟩, there, rfl⟩ := inWritten
  exact ⟨outcome, List.mem_of_getElem? there⟩

/-- When the newest ticket has completed nothing is in flight. -/
theorem inFlight_of_last_completed
    (ordered : Ordered pipeline)
    {ticket : Nat}
    (newest : pipeline.nextTicket = ticket + 1)
    (completed : ticket ∈ pipeline.completed) :
    pipeline.inFlight = [] := by
  have written := ordered.completedWritten ticket completed
  have lengths := ordered.written_add_inFlight
  apply List.eq_nil_of_length_eq_zero
  omega

/-- An exited committer leaves no accepted operation behind. -/
theorem inFlight_of_exited
    (ordered : Ordered pipeline)
    (exited : pipeline.committer = .exited) :
    pipeline.inFlight = [] := by
  obtain ⟨collectorGone, drained⟩ := ordered.exitOrder.committerLast exited
  obtain ⟨noOps, -⟩ := ordered.exitOrder.collectorDrained collectorGone
  simp [inFlight, committerBatch, collectorBatch, exited, collectorGone,
    drained, noOps]

end Ordered

/-- The step is not a failing batch write. -/
def WritesSucceed (_ : Pipeline) (label : PipelineLabel) : Prop :=
  label ≠ .write false

instance (pipeline : Pipeline) (label : PipelineLabel) :
    Decidable (WritesSucceed pipeline label) :=
  inferInstanceAs (Decidable (label ≠ .write false))

/-- The engine holds everything the committer has attempted, and no more. -/
def AllApplied (initial : ByteMap Bytes) (pipeline : Pipeline) : Prop :=
  pipeline.db =
    applyOps initial ((pipeline.written.map Prod.fst).map QueuedOp.op)

/-- A step that is not a failing write keeps every attempt applied. -/
theorem AllApplied.step
    {initial : ByteMap Bytes}
    {pipeline next : Pipeline}
    {label : PipelineLabel}
    (allApplied : AllApplied initial pipeline)
    (succeeds : WritesSucceed pipeline label)
    (step : Step pipeline label next) :
    AllApplied initial next := by
  by_cases isWrite : ∃ outcome, label = .write outcome
  · obtain ⟨outcome, rfl⟩ := isWrite
    cases outcome with
    | false =>
        exact (succeeds rfl).elim
    | true =>
        cases step with
        | write _ writing =>
            rw [AllApplied] at allApplied
            simp only [AllApplied, ↓reduceIte, allApplied, List.map_append,
              applyOps_append, List.map_map, Function.comp_def]
  · obtain ⟨sameDb, sameLog⟩ :=
      frame_of_not_write step fun outcome same => isWrite ⟨outcome, same⟩
    rw [AllApplied, sameDb, sameLog]
    exact allApplied

/-- Runs without failures keep every attempt applied. -/
theorem AllApplied.run
    {initial : ByteMap Bytes}
    {pipeline final : Pipeline}
    {labels : List PipelineLabel}
    (allApplied : AllApplied initial pipeline)
    (run : Run step? WritesSucceed pipeline labels final) :
    AllApplied initial final :=
  run.invariant
    (fun succeeds taken before => before.step succeeds (step?_sound taken))
    allApplied

/--
No thread step changes what the engine will hold once everything in flight is
written; an accepted operation is applied to it.
-/
theorem settled_step
    {pipeline next : Pipeline}
    {label : PipelineLabel}
    (order : ExitOrder pipeline)
    (succeeds : WritesSucceed pipeline label)
    (step : Step pipeline label next) :
    next.settled = applyOps pipeline.settled (sentOps label) := by
  cases step with
  | write outcome writing =>
      cases outcome with
      | false =>
          exact (succeeds rfl).elim
      | true =>
          simp [settled, inFlight, committerBatch, collectorBatch, writing,
            sentOps, acceptedOps, applyOps]
  | handFails handing gone =>
      have collectorGone := (order.committerLast gone).1
      rw [handing] at collectorGone
      cases collectorGone
  | send op connected alive =>
      simp [settled, inFlight, accept, committerBatch, collectorBatch,
        sentOps, acceptedOps, applyOps]
  | disconnect connected =>
      rfl
  | receive idle queued =>
      simp [settled, inFlight, committerBatch, collectorBatch, idle, queued,
        sentOps, acceptedOps, applyOps]
  | receiveMore collecting queued =>
      simp [settled, inFlight, committerBatch, collectorBatch, collecting,
        queued, sentOps, acceptedOps, applyOps]
  | closeBatch collecting =>
      simp [settled, inFlight, committerBatch, collectorBatch, collecting,
        sentOps, acceptedOps, applyOps]
  | hand handing alive =>
      simp [settled, inFlight, committerBatch, collectorBatch, handing,
        sentOps, acceptedOps, applyOps]
  | collectorExit idle drained disconnected =>
      simp [settled, inFlight, committerBatch, collectorBatch, idle,
        sentOps, acceptedOps, applyOps]
  | take idle queued =>
      simp [settled, inFlight, committerBatch, collectorBatch, idle, queued,
        sentOps, acceptedOps, applyOps]
  | release releasing =>
      simp [settled, inFlight, committerBatch, collectorBatch, releasing,
        sentOps, acceptedOps, applyOps]
  | committerExit idle drained collectorGone =>
      simp [settled, inFlight, committerBatch, collectorBatch, idle,
        sentOps, acceptedOps, applyOps]

/--
In every run in which batch writes succeed, the engine holds the result of the
first `count` accepted operations, every completed ticket is below `count`,
and once both threads are gone `count` covers everything accepted.
-/
theorem fifo_exactly_once
    (writeSync : Bool)
    (initial : ByteMap Bytes)
    (labels : List PipelineLabel)
    (final : Pipeline)
    (run :
      Run step? WritesSucceed (start writeSync initial) labels final) :
    ∃ count ≤ (acceptedOps labels).length,
      final.db = applyOps initial ((acceptedOps labels).take count) ∧
        (∀ ticket ∈ final.completed, ticket < count) ∧
        (final.collector = .exited →
          final.committer = .exited →
          count = (acceptedOps labels).length) := by
  obtain ⟨ordered, grown⟩ := (ordered_start writeSync initial).run run
  have accepted : final.history.map QueuedOp.op = acceptedOps labels := by
    rw [grown]
    rfl
  have allApplied : AllApplied initial final :=
    (show AllApplied initial (start writeSync initial) from rfl).run run
  have lengths :
      final.written.length + final.inFlight.length =
        (acceptedOps labels).length := by
    rw [← accepted]
    simp [history]
  refine ⟨final.written.length, by omega, ?_, ordered.completedWritten, ?_⟩
  · rw [allApplied, ← accepted, history]
    simp [List.map_append]
  · intro _ exited
    simpa [ordered.inFlight_of_exited exited] using lengths

/-- A shutdown that finds a row write and a range tombstone queued. -/
def shutdownLabels : List PipelineLabel :=
  [.send (.put [1] [7]), .receive, .send (.put [2] [8]), .closeBatch, .hand,
    .send (.deleteRange [1] [2]), .receive, .disconnect, .receiveMore,
    .closeBatch, .take, .hand, .write true, .release, .collectorExit, .take,
    .write true, .release, .committerExit]

/-- The shutdown is a run, and it ends with all three operations applied. -/
theorem fifo_exactly_once_shutdown :
    ∃ final,
      Run step? WritesSucceed (start true ∅) shutdownLabels final ∧
        final.db =
          applyOps ∅ [.put [1] [7], .put [2] [8], .deleteRange [1] [2]] := by
  have permitted :
      Permitted step? WritesSucceed (start true ∅) shutdownLabels := by
    apply permitted_of_forall
    intro state label member failing
    subst label
    revert member
    decide
  have exits :
      (run? step? (start true ∅) shutdownLabels).map
          (fun final => (final.collector, final.committer)) =
        some (.exited, .exited) := by
    decide +kernel
  obtain ⟨final, ran, exited⟩ := Option.map_eq_some_iff.mp exits
  have run := Run.of_run? permitted ran
  obtain ⟨count, -, contents, -, whole⟩ :=
    fifo_exactly_once true ∅ shutdownLabels final run
  refine ⟨final, run, ?_⟩
  rw [contents, whole (congrArg Prod.fst exited) (congrArg Prod.snd exited)]
  rfl

end Pipeline

end RhydaDB
