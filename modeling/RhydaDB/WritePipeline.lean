import RhydaDB.ByteMap
import RhydaDB.FiniteRuns

namespace RhydaDB

open ByteStrings FiniteRuns

/-!
# The per-engine write pipeline

Every engine owns a collector thread that drains its operation channel into
batches and a committer thread that writes the batches and then drops their
completion senders.  A state records both threads' positions, both channels
and the engine contents; a label is one atomic step of a client or a thread.

Two history components make the guarantees statable: `written` lists every
operation the committer has attempted with the outcome of its batch, and
tickets number the operations in the order their channel accepted them.
-/

/-- A write routed through the pipeline. -/
inductive WriteOp where
  | put (key value : Bytes)
  | delete (key : Bytes)
  | deleteRange (start stop : Bytes)
  deriving Repr, DecidableEq

/-- An accepted operation with its completion sender, known by its ticket. -/
structure QueuedOp where
  op : WriteOp
  /-- The acceptance number of the operation. -/
  ticket : Nat
  deriving Repr, DecidableEq

/-- The effect of one operation on the engine contents. -/
def applyOp (db : ByteMap Bytes) : WriteOp → ByteMap Bytes
  | .put key value =>
      db.insert key value
  | .delete key =>
      db.erase key
  | .deleteRange start stop =>
      db.eraseRange start stop

/-- Apply operations in order. -/
def applyOps (db : ByteMap Bytes) (ops : List WriteOp) : ByteMap Bytes :=
  ops.foldl applyOp db

/-- Operations act key by key. -/
theorem applyOps_congr
    {first second : ByteMap Bytes}
    {key : Bytes}
    (same : first[key]? = second[key]?)
    (ops : List WriteOp) :
    (applyOps first ops)[key]? = (applyOps second ops)[key]? := by
  induction ops generalizing first second with
  | nil =>
      exact same
  | cons op rest inductionHypothesis =>
      apply inductionHypothesis
      cases op with
      | put target value =>
          simp [applyOp, same]
      | delete target =>
          simp [applyOp, same]
      | deleteRange start stop =>
          simp [applyOp, same]

/-- Operations that leave a key alone do so one after the other. -/
theorem getElem?_applyOps
    {ops : List WriteOp}
    {key : Bytes}
    (leaves :
      ∀ op ∈ ops,
      ∀ db : ByteMap Bytes,
        (applyOp db op)[key]? = db[key]?)
    (db : ByteMap Bytes) :
    (applyOps db ops)[key]? = db[key]? := by
  induction ops generalizing db with
  | nil =>
      rfl
  | cons op rest inductionHypothesis =>
      have later :=
        inductionHypothesis (fun op member => leaves op (by simp [member]))
          (applyOp db op)
      exact later.trans (leaves op (by simp) db)

/-- Operations that at most remove a key leave there what was there before. -/
theorem applyOps_eq_some_of_removes
    {ops : List WriteOp}
    {key value : Bytes}
    (removes :
      ∀ op ∈ ops,
      ∀ db : ByteMap Bytes,
        (applyOp db op)[key]? = db[key]? ∨ (applyOp db op)[key]? = none)
    {db : ByteMap Bytes}
    (found : (applyOps db ops)[key]? = some value) :
    db[key]? = some value := by
  induction ops generalizing db with
  | nil =>
      exact found
  | cons op rest inductionHypothesis =>
      have earlier :=
        inductionHypothesis (fun op member => removes op (by simp [member]))
          found
      rcases removes op (by simp) db with same | gone
      · rw [← same]
        exact earlier
      · rw [gone] at earlier
        cases earlier

/-- Most operations a batch may hold. -/
def maxBatchOps : Nat :=
  2048

/-- Where the collector thread is. -/
inductive CollectorState where
  /-- Blocked in `ops_rx.recv()`. -/
  | idle
  /-- Inside the drain loop with a batch under construction. -/
  | collecting (batch : List QueuedOp)
  /-- Past the drain loop, about to send the batch to the committer. -/
  | handing (batch : List QueuedOp)
  | exited
  deriving Repr, DecidableEq

/-- Where the committer thread is. -/
inductive CommitterState where
  /-- Blocked in `commit_rx.recv()`. -/
  | idle
  /-- Holding a received batch that is not written yet. -/
  | writing (batch : List QueuedOp)
  /-- Past the write, about to drop the completion senders. -/
  | releasing (batch : List QueuedOp)
  | exited
  deriving Repr, DecidableEq

/-- One engine with its write pipeline. -/
structure Pipeline where
  /-- Durable mode, in which the collector waits out a batch window. -/
  writeSync : Bool
  db : ByteMap Bytes
  /-- Accepted operations the collector has not received yet. -/
  ops : List QueuedOp
  /-- Whether the storage still holds the channel's sender. -/
  connected : Bool
  collector : CollectorState
  /-- Batches sent to the committer and not received yet. -/
  commits : List (List QueuedOp)
  committer : CommitterState
  nextTicket : Nat
  /-- Tickets whose sender has been dropped. -/
  completed : List Nat
  /-- History: attempted operations with the outcome of their batch. -/
  written : List (QueuedOp × Bool)

/-- One atomic step of a client or of one of the two threads. -/
inductive PipelineLabel where
  | send (op : WriteOp)
  | disconnect
  | receive
  | receiveMore
  | closeBatch
  | hand
  | collectorExit
  | take
  | write (succeeds : Bool)
  | release
  | committerExit
  deriving Repr, DecidableEq

/-- The steps of the two threads, as opposed to those of the store. -/
def PipelineLabel.isThread : PipelineLabel → Bool
  | .send _ =>
      false
  | .disconnect =>
      false
  | _ =>
      true

namespace Pipeline

/-- A freshly spawned pipeline over the given engine contents. -/
def start (writeSync : Bool) (db : ByteMap Bytes) : Pipeline where
  writeSync := writeSync
  db := db
  ops := []
  connected := true
  collector := .idle
  commits := []
  committer := .idle
  nextTicket := 0
  completed := []
  written := []

/-- Put an operation on the channel under the next ticket. -/
def accept (pipeline : Pipeline) (op : WriteOp) : Pipeline :=
  { pipeline with
    ops := pipeline.ops ++ [⟨op, pipeline.nextTicket⟩]
    nextTicket := pipeline.nextTicket + 1 }

/-- Write to the engine past its pipeline. -/
def directWrite (pipeline : Pipeline) (op : WriteOp) : Pipeline :=
  { pipeline with db := applyOp pipeline.db op }

/-- Take one step, if it is enabled. -/
def step? (pipeline : Pipeline) : PipelineLabel → Option Pipeline
  | .send op =>
      if pipeline.connected ∧ pipeline.collector ≠ .exited then
        some (pipeline.accept op)
      else
        none
  | .disconnect =>
      if pipeline.connected then
        some { pipeline with connected := false }
      else
        none
  | .receive =>
      match pipeline.collector, pipeline.ops with
      | .idle, op :: rest =>
          some { pipeline with collector := .collecting [op], ops := rest }
      | _, _ =>
          none
  | .receiveMore =>
      match pipeline.collector, pipeline.ops with
      | .collecting batch, op :: rest =>
          if batch.length < maxBatchOps then
            some { pipeline with
              collector := .collecting (batch ++ [op]), ops := rest }
          else
            none
      | _, _ =>
          none
  | .closeBatch =>
      match pipeline.collector with
      | .collecting batch =>
          -- durable mode may run out of its window at any moment
          if pipeline.writeSync ∨ pipeline.ops = [] ∨
              maxBatchOps ≤ batch.length then
            some { pipeline with collector := .handing batch }
          else
            none
      | _ =>
          none
  | .hand =>
      match pipeline.collector with
      | .handing batch =>
          if pipeline.committer = .exited then
            -- the send fails, the thread returns and drops the batch
            some { pipeline with
              collector := .exited
              completed := pipeline.completed ++ batch.map QueuedOp.ticket }
          else
            some { pipeline with
              collector := .idle, commits := pipeline.commits ++ [batch] }
      | _ =>
          none
  | .collectorExit =>
      match pipeline.collector, pipeline.ops with
      | .idle, [] =>
          if pipeline.connected then
            none
          else
            some { pipeline with collector := .exited }
      | _, _ =>
          none
  | .take =>
      match pipeline.committer, pipeline.commits with
      | .idle, batch :: rest =>
          some { pipeline with committer := .writing batch, commits := rest }
      | _, _ =>
          none
  | .write succeeds =>
      match pipeline.committer with
      | .writing batch =>
          some { pipeline with
            db :=
              if succeeds then
                applyOps pipeline.db (batch.map QueuedOp.op)
              else
                pipeline.db
            written := pipeline.written ++ batch.map fun op => (op, succeeds)
            committer := .releasing batch }
      | _ =>
          none
  | .release =>
      match pipeline.committer with
      | .releasing batch =>
          some { pipeline with
            committer := .idle
            completed := pipeline.completed ++ batch.map QueuedOp.ticket }
      | _ =>
          none
  | .committerExit =>
      match pipeline.committer, pipeline.commits with
      | .idle, [] =>
          if pipeline.collector = .exited then
            some { pipeline with committer := .exited }
          else
            none
      | _, _ =>
          none

/-- The batch the collector is holding. -/
def collectorBatch (pipeline : Pipeline) : List QueuedOp :=
  match pipeline.collector with
  | .collecting batch =>
      batch
  | .handing batch =>
      batch
  | _ =>
      []

/-- The received batch that the committer has not written yet. -/
def committerBatch (pipeline : Pipeline) : List QueuedOp :=
  match pipeline.committer with
  | .writing batch =>
      batch
  | _ =>
      []

/-- Accepted operations that no write has attempted yet, oldest first. -/
def inFlight (pipeline : Pipeline) : List QueuedOp :=
  pipeline.committerBatch ++ pipeline.commits.flatten ++
    pipeline.collectorBatch ++ pipeline.ops

/-- Every accepted operation, oldest first. -/
def history (pipeline : Pipeline) : List QueuedOp :=
  pipeline.written.map Prod.fst ++ pipeline.inFlight

/-- The engine contents once everything in flight is written. -/
def settled (pipeline : Pipeline) : ByteMap Bytes :=
  applyOps pipeline.db (pipeline.inFlight.map QueuedOp.op)

/--
What each enabled step does, one constructor per transition.

Every invariant of the pipeline is proved by cases on this relation, so the
step function is taken apart only in `step?_sound`.
-/
inductive Step : Pipeline → PipelineLabel → Pipeline → Prop where
  | send
      {pipeline : Pipeline}
      (op : WriteOp)
      (connected : pipeline.connected = true)
      (alive : pipeline.collector ≠ .exited) :
      Step pipeline (.send op) (pipeline.accept op)
  | disconnect
      {pipeline : Pipeline}
      (connected : pipeline.connected = true) :
      Step pipeline .disconnect { pipeline with connected := false }
  | receive
      {pipeline : Pipeline}
      {op : QueuedOp}
      {rest : List QueuedOp}
      (idle : pipeline.collector = .idle)
      (queued : pipeline.ops = op :: rest) :
      Step pipeline .receive
        { pipeline with collector := .collecting [op], ops := rest }
  | receiveMore
      {pipeline : Pipeline}
      {batch : List QueuedOp}
      {op : QueuedOp}
      {rest : List QueuedOp}
      (collecting : pipeline.collector = .collecting batch)
      (queued : pipeline.ops = op :: rest) :
      Step pipeline .receiveMore
        { pipeline with collector := .collecting (batch ++ [op]), ops := rest }
  | closeBatch
      {pipeline : Pipeline}
      {batch : List QueuedOp}
      (collecting : pipeline.collector = .collecting batch) :
      Step pipeline .closeBatch { pipeline with collector := .handing batch }
  | hand
      {pipeline : Pipeline}
      {batch : List QueuedOp}
      (handing : pipeline.collector = .handing batch)
      (alive : pipeline.committer ≠ .exited) :
      Step pipeline .hand
        { pipeline with
          collector := .idle, commits := pipeline.commits ++ [batch] }
  | handFails
      {pipeline : Pipeline}
      {batch : List QueuedOp}
      (handing : pipeline.collector = .handing batch)
      (gone : pipeline.committer = .exited) :
      Step pipeline .hand
        { pipeline with
          collector := .exited
          completed := pipeline.completed ++ batch.map QueuedOp.ticket }
  | collectorExit
      {pipeline : Pipeline}
      (idle : pipeline.collector = .idle)
      (drained : pipeline.ops = [])
      (disconnected : pipeline.connected = false) :
      Step pipeline .collectorExit { pipeline with collector := .exited }
  | take
      {pipeline : Pipeline}
      {batch : List QueuedOp}
      {rest : List (List QueuedOp)}
      (idle : pipeline.committer = .idle)
      (queued : pipeline.commits = batch :: rest) :
      Step pipeline .take
        { pipeline with committer := .writing batch, commits := rest }
  | write
      {pipeline : Pipeline}
      {batch : List QueuedOp}
      (succeeds : Bool)
      (writing : pipeline.committer = .writing batch) :
      Step pipeline (.write succeeds)
        { pipeline with
          db :=
            if succeeds then
              applyOps pipeline.db (batch.map QueuedOp.op)
            else
              pipeline.db
          written := pipeline.written ++ batch.map fun op => (op, succeeds)
          committer := .releasing batch }
  | release
      {pipeline : Pipeline}
      {batch : List QueuedOp}
      (releasing : pipeline.committer = .releasing batch) :
      Step pipeline .release
        { pipeline with
          committer := .idle
          completed := pipeline.completed ++ batch.map QueuedOp.ticket }
  | committerExit
      {pipeline : Pipeline}
      (idle : pipeline.committer = .idle)
      (drained : pipeline.commits = [])
      (collectorGone : pipeline.collector = .exited) :
      Step pipeline .committerExit { pipeline with committer := .exited }

/-- The step function takes only the transitions of `Step`. -/
theorem step?_sound
    {pipeline next : Pipeline}
    {label : PipelineLabel}
    (taken : pipeline.step? label = some next) :
    Step pipeline label next := by
  cases label with
  | send op =>
      simp only [step?] at taken
      split at taken
      · rename_i enabled
        cases taken
        exact .send op enabled.1 enabled.2
      · cases taken
  | disconnect =>
      simp only [step?] at taken
      split at taken
      · rename_i connected
        cases taken
        exact .disconnect connected
      · cases taken
  | receive =>
      simp only [step?] at taken
      split at taken
      · rename_i idle queued
        cases taken
        exact .receive idle queued
      · cases taken
  | receiveMore =>
      simp only [step?] at taken
      split at taken
      · rename_i collecting queued
        split at taken
        · cases taken
          exact .receiveMore collecting queued
        · cases taken
      · cases taken
  | closeBatch =>
      simp only [step?] at taken
      split at taken
      · rename_i collecting
        split at taken
        · cases taken
          exact .closeBatch collecting
        · cases taken
      · cases taken
  | hand =>
      simp only [step?] at taken
      split at taken
      · rename_i handing
        split at taken
        · rename_i gone
          cases taken
          exact .handFails handing gone
        · rename_i alive
          cases taken
          exact .hand handing alive
      · cases taken
  | collectorExit =>
      simp only [step?] at taken
      split at taken
      · rename_i idle drained
        split at taken
        · cases taken
        · rename_i disconnected
          cases taken
          exact .collectorExit idle drained (by simpa using disconnected)
      · cases taken
  | take =>
      simp only [step?] at taken
      split at taken
      · rename_i idle queued
        cases taken
        exact .take idle queued
      · cases taken
  | write succeeds =>
      simp only [step?] at taken
      split at taken
      · rename_i writing
        cases taken
        exact .write succeeds writing
      · cases taken
  | release =>
      simp only [step?] at taken
      split at taken
      · rename_i releasing
        cases taken
        exact .release releasing
      · cases taken
  | committerExit =>
      simp only [step?] at taken
      split at taken
      · rename_i idle drained
        split at taken
        · rename_i collectorGone
          cases taken
          exact .committerExit idle drained collectorGone
        · cases taken
      · cases taken

/-- Applying a concatenation applies its parts in order. -/
theorem applyOps_append
    (db : ByteMap Bytes)
    (first second : List WriteOp) :
    applyOps db (first ++ second) = applyOps (applyOps db first) second := by
  simp [applyOps]

/-- Threads leave in order: the collector only when drained, then the committer. -/
structure ExitOrder (pipeline : Pipeline) : Prop where
  collectorDrained :
    pipeline.collector = .exited →
      pipeline.ops = [] ∧ pipeline.connected = false
  committerLast :
    pipeline.committer = .exited →
      pipeline.collector = .exited ∧ pipeline.commits = []

/-- Every step keeps the exit order; in particular no hand-over ever fails. -/
theorem ExitOrder.step
    {pipeline next : Pipeline}
    {label : PipelineLabel}
    (order : ExitOrder pipeline)
    (step : Step pipeline label next) :
    ExitOrder next := by
  cases step with
  | send op connected alive =>
      refine ⟨fun gone => (alive gone).elim, fun gone => ?_⟩
      exact (alive (order.committerLast gone).1).elim
  | disconnect connected =>
      exact ⟨fun gone => ⟨(order.collectorDrained gone).1, rfl⟩,
        order.committerLast⟩
  | receive idle queued =>
      refine ⟨(fun gone => by cases gone), fun gone => ?_⟩
      have collectorGone := (order.committerLast gone).1
      rw [idle] at collectorGone
      cases collectorGone
  | receiveMore collecting queued =>
      refine ⟨(fun gone => by cases gone), fun gone => ?_⟩
      have collectorGone := (order.committerLast gone).1
      rw [collecting] at collectorGone
      cases collectorGone
  | closeBatch collecting =>
      refine ⟨(fun gone => by cases gone), fun gone => ?_⟩
      have collectorGone := (order.committerLast gone).1
      rw [collecting] at collectorGone
      cases collectorGone
  | hand handing alive =>
      exact ⟨(fun gone => by cases gone), fun gone => (alive gone).elim⟩
  | handFails handing gone =>
      have collectorGone := (order.committerLast gone).1
      rw [handing] at collectorGone
      cases collectorGone
  | collectorExit idle drained disconnected =>
      refine ⟨fun _ => ⟨drained, disconnected⟩, fun gone => ⟨rfl, ?_⟩⟩
      exact (order.committerLast gone).2
  | take idle queued =>
      exact ⟨order.collectorDrained, fun gone => by cases gone⟩
  | write succeeds writing =>
      exact ⟨order.collectorDrained, fun gone => by cases gone⟩
  | release releasing =>
      exact ⟨order.collectorDrained, fun gone => by cases gone⟩
  | committerExit idle drained collectorGone =>
      exact ⟨order.collectorDrained, fun _ => ⟨collectorGone, drained⟩⟩

/-- The operation a label puts on the channel, with its ticket. -/
def sent? (pipeline : Pipeline) : PipelineLabel → Option QueuedOp
  | .send op =>
      some ⟨op, pipeline.nextTicket⟩
  | _ =>
      none

/--
No step loses, repeats or reorders an accepted operation: the history grows
exactly by what the step accepts.
-/
theorem history_step
    {pipeline next : Pipeline}
    {label : PipelineLabel}
    (order : ExitOrder pipeline)
    (step : Step pipeline label next) :
    next.history =
      pipeline.history ++ (pipeline.sent? label).toList := by
  cases step with
  | send op connected alive =>
      simp [history, inFlight, accept, sent?, committerBatch, collectorBatch]
  | disconnect connected =>
      simp [history, inFlight, sent?, committerBatch, collectorBatch]
  | receive idle queued =>
      simp [history, inFlight, sent?, committerBatch, collectorBatch, idle,
        queued]
  | receiveMore collecting queued =>
      simp [history, inFlight, sent?, committerBatch, collectorBatch,
        collecting, queued]
  | closeBatch collecting =>
      simp [history, inFlight, sent?, committerBatch, collectorBatch,
        collecting]
  | hand handing alive =>
      simp [history, inFlight, sent?, committerBatch, collectorBatch, handing]
  | handFails handing gone =>
      have collectorGone := (order.committerLast gone).1
      rw [handing] at collectorGone
      cases collectorGone
  | collectorExit idle drained disconnected =>
      simp [history, inFlight, sent?, committerBatch, collectorBatch, idle]
  | take idle queued =>
      simp [history, inFlight, sent?, committerBatch, collectorBatch, idle,
        queued]
  | write succeeds writing =>
      simp [history, inFlight, sent?, committerBatch, collectorBatch, writing,
        Function.comp_def]
  | release releasing =>
      simp [history, inFlight, sent?, committerBatch, collectorBatch,
        releasing]
  | committerExit idle drained collectorGone =>
      simp [history, inFlight, sent?, committerBatch, collectorBatch, idle]

end Pipeline

end RhydaDB
