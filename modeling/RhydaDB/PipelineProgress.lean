import RhydaDB.PipelineFifo

namespace RhydaDB

open ByteStrings FiniteRuns

/-!
# The pipeline threads finish what they accepted

While the store keeps its sender, the collector and the committer always have
a next step until everything accepted is written and completed, and every one
of their steps brings that state closer.  Along the way they change nothing a
client relies on: what the engine will hold once settled stays the same.
-/

/-- The steps of the two threads in which batch writes succeed. -/
def PipelineLabel.background (label : PipelineLabel) : Bool :=
  label.isThread && label != .write false

namespace Pipeline

/-- How far the collector's own batch is from the commit channel. -/
def collectorRank (pipeline : Pipeline) : Nat :=
  match pipeline.collector with
  | .collecting _ =>
      6
  | .handing _ =>
      5
  | _ =>
      0

/-- How far the committer's own batch is from completion. -/
def committerRank (pipeline : Pipeline) : Nat :=
  match pipeline.committer with
  | .writing _ =>
      3
  | .releasing _ =>
      2
  | _ =>
      0

/-- An upper bound on the number of thread steps still to take. -/
def remaining (pipeline : Pipeline) : Nat :=
  7 * pipeline.ops.length + pipeline.collectorRank +
    4 * pipeline.commits.length + pipeline.committerRank

/-- A store that is open: ordered, with its sender still in place. -/
structure Live (pipeline : Pipeline) : Prop where
  ordered : Ordered pipeline
  connected : pipeline.connected = true

namespace Live

variable {pipeline next : Pipeline}

/-- A connected collector has not left. -/
theorem collector_ne_exited
    (live : Live pipeline) :
    pipeline.collector ≠ .exited := by
  intro gone
  have disconnected := (live.ordered.exitOrder.collectorDrained gone).2
  rw [live.connected] at disconnected
  cases disconnected

/-- Nor has the committer. -/
theorem committer_ne_exited
    (live : Live pipeline) :
    pipeline.committer ≠ .exited := by
  intro gone
  exact live.collector_ne_exited (live.ordered.exitOrder.committerLast gone).1

/-- The channel of an open store accepts every operation. -/
theorem step?_send
    (live : Live pipeline)
    (op : WriteOp) :
    pipeline.step? (.send op) = some (pipeline.accept op) := by
  simp [step?, live.connected, live.collector_ne_exited]

/-- Accepting an operation keeps the store open. -/
theorem accept
    (live : Live pipeline)
    (op : WriteOp) :
    Live (pipeline.accept op) :=
  ⟨live.ordered.step (step?_sound (live.step?_send op)), live.connected⟩

/-- An accepted operation is applied once the engine settles. -/
theorem settled_accept
    (live : Live pipeline)
    (op : WriteOp) :
    (pipeline.accept op).settled = applyOp pipeline.settled op := by
  have succeeds : WritesSucceed pipeline (.send op) := by
    simp [WritesSucceed]
  exact settled_step live.ordered.exitOrder succeeds
    (step?_sound (live.step?_send op))

/-- Writing past the pipeline keeps the store open. -/
theorem directWrite
    (live : Live pipeline)
    (op : WriteOp) :
    Live (pipeline.directWrite op) where
  ordered := live.ordered.directWrite op
  connected := live.connected

end Live

@[simp] theorem directWrite_inFlight
    (pipeline : Pipeline)
    (op : WriteOp) :
    (pipeline.directWrite op).inFlight = pipeline.inFlight :=
  rfl

/-- Past an empty pipeline an operation takes effect at once. -/
theorem settled_directWrite
    {pipeline : Pipeline}
    (quiet : pipeline.inFlight = [])
    (op : WriteOp) :
    (pipeline.directWrite op).settled = applyOp pipeline.settled op := by
  rw [settled, settled, directWrite_inFlight, quiet]
  rfl

/-- What a step of the background threads leaves alone. -/
structure Settles (before after : Pipeline) : Prop where
  live : Live after
  settled : after.settled = before.settled
  nextTicket : after.nextTicket = before.nextTicket
  written : before.written.length ≤ after.written.length

/-- Settling composes. -/
theorem Settles.trans
    {before middle after : Pipeline}
    (first : Settles before middle)
    (second : Settles middle after) :
    Settles before after where
  live := second.live
  settled := second.settled.trans first.settled
  nextTicket := second.nextTicket.trans first.nextTicket
  written := first.written.trans second.written

/-- A step of a background thread does not change the settled contents. -/
theorem Live.settled_background
    {pipeline next : Pipeline}
    {label : PipelineLabel}
    (live : Live pipeline)
    (background : label.background = true)
    (step : Step pipeline label next) :
    next.settled = pipeline.settled := by
  have succeeds : WritesSucceed pipeline label := by
    rintro rfl
    cases background
  have same := settled_step live.ordered.exitOrder succeeds step
  cases step with
  | send op connected alive =>
      cases background
  | _ =>
      exact same

/-- One step of a background thread. -/
theorem Live.settles_step
    {pipeline next : Pipeline}
    {label : PipelineLabel}
    (live : Live pipeline)
    (background : label.background = true)
    (taken : pipeline.step? label = some next) :
    Settles pipeline next := by
  have step := step?_sound taken
  have sameSettled := live.settled_background background step
  have ordered := live.ordered.step step
  cases step with
  | send op connected alive =>
      cases background
  | disconnect connected =>
      cases background
  | write outcome writing =>
      exact ⟨⟨ordered, live.connected⟩, sameSettled, rfl, by simp⟩
  | _ =>
      exact ⟨⟨ordered, live.connected⟩, sameSettled, rfl, le_rfl⟩

/-- Background threads only ever shrink what is in flight. -/
theorem Settles.inFlight_le
    {before after : Pipeline}
    (settles : Settles before after)
    (live : Live before) :
    after.inFlight.length ≤ before.inFlight.length := by
  have beforeTotal := live.ordered.written_add_inFlight
  have afterTotal := settles.live.ordered.written_add_inFlight
  have sameTotal := settles.nextTicket
  have grown := settles.written
  omega

/-- As long as work remains, a thread can take a step towards completion. -/
theorem Live.progress
    {pipeline : Pipeline}
    (live : Live pipeline)
    (work : 0 < pipeline.remaining) :
    ∃ label next,
      label.background = true ∧
        pipeline.step? label = some next ∧
        next.remaining < pipeline.remaining := by
  cases committing : pipeline.committer with
  | exited =>
      exact (live.committer_ne_exited committing).elim
  | writing batch =>
      refine ⟨.write true, _, rfl, by simp only [step?, committing]; rfl, ?_⟩
      simp [remaining, committerRank, collectorRank, committing]
  | releasing batch =>
      refine ⟨.release, _, rfl, by simp only [step?, committing]; rfl, ?_⟩
      simp [remaining, committerRank, collectorRank, committing]
  | idle =>
      cases queued : pipeline.commits with
      | cons batch rest =>
          refine ⟨.take, _, rfl, by
            simp only [step?, committing, queued]; rfl, ?_⟩
          simp only [remaining, committerRank, committing, queued,
            List.length_cons, collectorRank]
          omega
      | nil =>
          cases collecting : pipeline.collector with
          | exited =>
              exact (live.collector_ne_exited collecting).elim
          | handing batch =>
              refine ⟨.hand, _, rfl, by
                simp only [step?, collecting, committing, reduceCtorEq,
                  ↓reduceIte]; rfl, ?_⟩
              simp [remaining, committerRank, collectorRank, committing,
                collecting, queued]
          | idle =>
              cases waiting : pipeline.ops with
              | nil =>
                  simp [remaining, committerRank, collectorRank, committing,
                    collecting, queued, waiting] at work
              | cons op rest =>
                  refine ⟨.receive, _, rfl, by
                    simp only [step?, collecting, waiting]; rfl, ?_⟩
                  simp only [remaining, committerRank, collectorRank,
                    committing, collecting, queued, waiting,
                    List.length_cons]
                  omega
          | collecting batch =>
              by_cases closes :
                  pipeline.ops = [] ∨ maxBatchOps ≤ batch.length
              · refine ⟨.closeBatch, _, rfl, by
                  simp only [step?, collecting, closes, or_true,
                    ↓reduceIte]; rfl, ?_⟩
                simp [remaining, committerRank, collectorRank, committing,
                  collecting, queued]
              · rw [not_or] at closes
                obtain ⟨op, rest, waiting⟩ :=
                  List.exists_cons_of_ne_nil closes.1
                have room : batch.length < maxBatchOps :=
                  lt_of_not_ge closes.2
                refine ⟨.receiveMore, _, rfl, by
                  simp only [step?, collecting, waiting, room,
                    ↓reduceIte]; rfl, ?_⟩
                simp [remaining, committerRank, collectorRank, committing,
                  collecting, queued, waiting]

/-- An open store can always be driven to the point where no work remains. -/
theorem Live.exists_drain
    {pipeline : Pipeline}
    (live : Live pipeline) :
    ∃ labels final,
      (∀ label ∈ labels, label.background = true) ∧
        run? step? pipeline labels = some final ∧
        final.remaining = 0 := by
  induction work : pipeline.remaining using Nat.strong_induction_on
    generalizing pipeline with
  | _ amount inductionHypothesis =>
      rcases Nat.eq_zero_or_pos pipeline.remaining with done | busy
      · exact ⟨[], pipeline, by simp, rfl, done⟩
      · obtain ⟨label, next, background, taken, less⟩ := live.progress busy
        have nextLive := (live.settles_step background taken).live
        obtain ⟨labels, final, allBackground, ran, done⟩ :=
          inductionHypothesis next.remaining (work ▸ less) nextLive rfl
        refine ⟨label :: labels, final, ?_, ?_, done⟩
        · intro other member
          rcases List.mem_cons.mp member with rfl | later
          · exact background
          · exact allBackground other later
        · simp only [run?, taken, Option.bind_some, ran]

/-- When no work remains every accepted operation has completed. -/
theorem Ordered.completed_of_drained
    {pipeline : Pipeline}
    (ordered : Ordered pipeline)
    (drained : pipeline.remaining = 0)
    {ticket : Nat}
    (accepted : ticket < pipeline.nextTicket) :
    ticket ∈ pipeline.completed := by
  have noOps : pipeline.ops = [] := by
    apply List.eq_nil_of_length_eq_zero
    simp only [remaining] at drained
    omega
  have noCommits : pipeline.commits = [] := by
    apply List.eq_nil_of_length_eq_zero
    simp only [remaining] at drained
    omega
  have noCollector : pipeline.collectorBatch = [] := by
    cases collecting : pipeline.collector <;>
      simp_all [remaining, collectorRank, collectorBatch]
  have noCommitter :
      pipeline.committerBatch = [] ∧
        ∀ batch, pipeline.committer ≠ .releasing batch := by
    cases committing : pipeline.committer <;>
      simp_all [remaining, committerRank, committerBatch]
  have whole : pipeline.written.map Prod.fst = pipeline.history := by
    simp [history, inFlight, noOps, noCommits, noCollector, noCommitter.1]
  have listed :
      ticket ∈ pipeline.history.map QueuedOp.ticket := by
    rw [ordered.numbered]
    exact List.mem_range.mpr accepted
  obtain ⟨queued, member, rfl⟩ := List.mem_map.mp listed
  rw [← whole] at member
  rcases ordered.writtenCompletes queued member with
      completed | ⟨batch, releasing, _⟩
  · exact completed
  · exact (noCommitter.2 batch releasing).elim

end Pipeline

end RhydaDB
