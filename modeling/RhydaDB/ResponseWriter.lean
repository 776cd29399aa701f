import RhydaDB.ByteStrings
import RhydaDB.FiniteRuns

namespace RhydaDB

open ByteStrings FiniteRuns

/-!
# The response writer of a connection

Responses reach the socket through a channel and one writer task.  The task
receives a response, keeps draining what is ready until its flush threshold,
and flushes the lot.  The two servers share this loop and differ in the flush:
one issues a single vectored write, the other writes each response out to its
end.

A write either fails or accepts a non-empty prefix of the bytes it is offered.
The history component `frames` lists every response put on the channel.
-/

/-- How the writer task flushes. -/
inductive FlushMode where
  /-- `write_vectored` once over all pending responses. -/
  | vectored
  /-- `write_all` on each pending response in turn. -/
  | writeAll
  deriving Repr, DecidableEq

/-- Most responses the channel holds. -/
def responseCapacity : Nat :=
  512 * 2

/-- Pending bytes from which on the writer stops draining. -/
def writeFlushThreshold : Nat :=
  256 * 1024

/-- Where the writer task is. -/
inductive WriterPhase where
  /-- Blocked in `resp_rx.recv()`. -/
  | receiving
  /-- Inside the loop that drains what is ready. -/
  | draining
  /-- Awaiting a write. -/
  | writing
  | returned
  deriving Repr, DecidableEq

/-- The channel, the writer task and the socket of a connection. -/
structure ResponseWriter where
  mode : FlushMode
  /-- Responses sent and not received yet. -/
  channel : List Bytes
  /-- Whether a sender is left. -/
  connected : Bool
  /-- Received responses still to be handed to the socket. -/
  pending : List Bytes
  queuedBytes : Nat
  phase : WriterPhase
  /-- The bytes that have reached the socket. -/
  socket : Bytes
  /-- Whether a write has failed. -/
  failed : Bool
  /-- History: all responses put on the channel. -/
  frames : List Bytes
  deriving Repr, DecidableEq

/-- What a write reports. -/
inductive WriteOutcome where
  | accepts (count : Nat)
  | fails
  deriving Repr, DecidableEq

/-- One step of a sender or of the writer task. -/
inductive WriterLabel where
  | send (frame : Bytes)
  | disconnect
  | recv
  | tryRecv
  | stopDraining
  | write (outcome : WriteOutcome)
  | channelClosed
  deriving Repr, DecidableEq

namespace ResponseWriter

/-- A freshly spawned writer. -/
def start (mode : FlushMode) : ResponseWriter where
  mode := mode
  channel := []
  connected := true
  pending := []
  queuedBytes := 0
  phase := .receiving
  socket := []
  failed := false
  frames := []

/-- The bytes offered to the next write. -/
def offered (writer : ResponseWriter) : Bytes :=
  match writer.mode with
  | .vectored =>
      writer.pending.flatten
  | .writeAll =>
      writer.pending.headD []

/-- What is left to flush once a write has accepted some bytes. -/
def unflushed (writer : ResponseWriter) (count : Nat) : List Bytes :=
  match writer.mode, writer.pending with
  | .vectored, _ =>
      -- the accepted count is dropped and all responses count as written
      []
  | .writeAll, [] =>
      []
  | .writeAll, frame :: rest =>
      if count < frame.length then frame.drop count :: rest else rest

/-- A write accepts a prefix of its bytes, not the empty one unless offered nothing. -/
def mayAccept (writer : ResponseWriter) (count : Nat) : Bool :=
  decide (count ≤ writer.offered.length) &&
    (decide (0 < count) || writer.offered.isEmpty)

/-- Move on after a write that accepted some bytes. -/
def flushed (writer : ResponseWriter) (count : Nat) : ResponseWriter :=
  let rest := writer.unflushed count
  { writer with
    socket := writer.socket ++ writer.offered.take count
    pending := rest
    queuedBytes := if rest = [] then 0 else writer.queuedBytes
    phase := if rest = [] then .receiving else .writing }

/-- Take one step, if it is enabled. -/
def step? (writer : ResponseWriter) : WriterLabel → Option ResponseWriter
  | .send frame =>
      if writer.connected ∧ writer.phase ≠ .returned ∧
          writer.channel.length < responseCapacity then
        some { writer with
          channel := writer.channel ++ [frame]
          frames := writer.frames ++ [frame] }
      else
        none
  | .disconnect =>
      if writer.connected then
        some { writer with connected := false }
      else
        none
  | .recv =>
      match writer.phase, writer.channel with
      | .receiving, frame :: rest =>
          some { writer with
            channel := rest
            pending := writer.pending ++ [frame]
            queuedBytes := writer.queuedBytes + frame.length
            phase := .draining }
      | _, _ =>
          none
  | .tryRecv =>
      match writer.phase, writer.channel with
      | .draining, frame :: rest =>
          if writer.queuedBytes < writeFlushThreshold then
            some { writer with
              channel := rest
              pending := writer.pending ++ [frame]
              queuedBytes := writer.queuedBytes + frame.length }
          else
            none
      | _, _ =>
          none
  | .stopDraining =>
      if writer.phase = .draining ∧
          (writeFlushThreshold ≤ writer.queuedBytes ∨ writer.channel = []) then
        some { writer with phase := .writing }
      else
        none
  | .write .fails =>
      if writer.phase = .writing then
        some { writer with phase := .returned, failed := true }
      else
        none
  | .write (.accepts count) =>
      if writer.phase = .writing ∧ writer.mayAccept count then
        some (writer.flushed count)
      else
        none
  | .channelClosed =>
      if writer.phase = .receiving ∧ writer.channel = [] ∧
          writer.connected = false then
        some { writer with phase := .returned }
      else
        none

/-- Every received response has been flushed and no write has failed. -/
def Drained (writer : ResponseWriter) : Prop :=
  writer.channel = [] ∧ writer.pending = [] ∧ writer.failed = false

instance (writer : ResponseWriter) : Decidable writer.Drained :=
  inferInstanceAs (Decidable (_ ∧ _ ∧ _))

/--
The socket holds a prefix of the responses in channel order, and all of them
once the channel is drained without a write error.
-/
def Delivers (writer : ResponseWriter) : Prop :=
  writer.socket <+: writer.frames.flatten ∧
    (writer.Drained → writer.socket = writer.frames.flatten)

instance (writer : ResponseWriter) : Decidable writer.Delivers :=
  inferInstanceAs (Decidable (_ ∧ (_ → _)))

/-- A write takes all it is offered, or fails. -/
def WritesInFull (writer : ResponseWriter) : WriterLabel → Prop
  | .write (.accepts count) =>
      count = writer.offered.length
  | _ =>
      True

instance (writer : ResponseWriter) (label : WriterLabel) :
    Decidable (writer.WritesInFull label) := by
  unfold WritesInFull
  split <;> infer_instance

/-- The bytes on their way: flushed, pending and still in the channel. -/
def accounted (writer : ResponseWriter) : Bytes :=
  writer.socket ++ writer.pending.flatten ++ writer.channel.flatten

/-- The bytes a step drops: those a vectored write was offered and did not take. -/
def lost (writer : ResponseWriter) : WriterLabel → Nat
  | .write (.accepts count) =>
      match writer.mode with
      | .vectored =>
          writer.offered.length - count
      | .writeAll =>
          0
  | _ =>
      0

/-- What each enabled step does. -/
inductive Step : ResponseWriter → WriterLabel → ResponseWriter → Prop where
  | send
      {writer : ResponseWriter}
      (frame : Bytes) :
      Step writer (.send frame)
        { writer with
          channel := writer.channel ++ [frame]
          frames := writer.frames ++ [frame] }
  | disconnect
      {writer : ResponseWriter} :
      Step writer .disconnect { writer with connected := false }
  | recv
      {writer : ResponseWriter}
      {frame : Bytes}
      {rest : List Bytes}
      (queued : writer.channel = frame :: rest) :
      Step writer .recv
        { writer with
          channel := rest
          pending := writer.pending ++ [frame]
          queuedBytes := writer.queuedBytes + frame.length
          phase := .draining }
  | tryRecv
      {writer : ResponseWriter}
      {frame : Bytes}
      {rest : List Bytes}
      (queued : writer.channel = frame :: rest) :
      Step writer .tryRecv
        { writer with
          channel := rest
          pending := writer.pending ++ [frame]
          queuedBytes := writer.queuedBytes + frame.length }
  | stopDraining
      {writer : ResponseWriter} :
      Step writer .stopDraining { writer with phase := .writing }
  | fails
      {writer : ResponseWriter} :
      Step writer (.write .fails)
        { writer with phase := .returned, failed := true }
  | accepts
      {writer : ResponseWriter}
      {count : Nat}
      (atMost : count ≤ writer.offered.length) :
      Step writer (.write (.accepts count)) (writer.flushed count)
  | channelClosed
      {writer : ResponseWriter} :
      Step writer .channelClosed { writer with phase := .returned }

/-- The step function takes only the transitions of `Step`. -/
theorem step?_sound
    {writer next : ResponseWriter}
    {label : WriterLabel}
    (taken : writer.step? label = some next) :
    Step writer label next := by
  unfold step? at taken
  split at taken
  · split at taken
    · cases taken
      exact .send _
    · cases taken
  · split at taken
    · cases taken
      exact .disconnect
    · cases taken
  · split at taken
    · rename_i queued
      cases taken
      exact .recv queued
    · cases taken
  · split at taken
    · rename_i queued
      split at taken
      · cases taken
        exact .tryRecv queued
      · cases taken
    · cases taken
  · split at taken
    · cases taken
      exact .stopDraining
    · cases taken
  · split at taken
    · cases taken
      exact .fails
    · cases taken
  · split at taken
    · rename_i enabled
      cases taken
      simp only [mayAccept, Bool.and_eq_true, decide_eq_true_eq] at enabled
      exact .accepts enabled.2.1
    · cases taken
  · split at taken
    · cases taken
      exact .channelClosed
    · cases taken

/-- Writing a response out to its end moves bytes from pending to the socket. -/
theorem flushed_writeAll
    {writer : ResponseWriter}
    (mode : writer.mode = .writeAll)
    (count : Nat) :
    (writer.flushed count).socket ++ (writer.flushed count).pending.flatten =
      writer.socket ++ writer.pending.flatten := by
  cases pending : writer.pending with
  | nil =>
      simp [flushed, offered, unflushed, mode, pending]
  | cons frame rest =>
      by_cases short : count < frame.length
      · have split : frame.take count ++ (frame.drop count ++ rest.flatten) =
            frame ++ rest.flatten := by
          rw [← List.append_assoc, List.take_append_drop]
        simp [flushed, offered, unflushed, mode, pending, short, split]
      · have whole : frame.take count = frame :=
          List.take_of_length_le (by omega)
        simp [flushed, offered, unflushed, mode, pending, short, whole]

/-- A vectored write forgets whatever it did not hand over. -/
theorem flushed_vectored
    {writer : ResponseWriter}
    (mode : writer.mode = .vectored)
    (count : Nat) :
    (writer.flushed count).socket ++ (writer.flushed count).pending.flatten =
      writer.socket ++ writer.pending.flatten.take count := by
  simp [flushed, offered, unflushed, mode]

/-- Nothing put on the channel is missing. -/
def Exact (writer : ResponseWriter) : Prop :=
  writer.accounted = writer.frames.flatten

/-- A step that loses nothing keeps the writer exact. -/
theorem Exact.step
    {writer next : ResponseWriter}
    {label : WriterLabel}
    (exactly : writer.Exact)
    (step : Step writer label next)
    (lossless : writer.lost label = 0) :
    next.Exact := by
  unfold Exact accounted at exactly ⊢
  cases step with
  | send frame =>
      simp [← exactly]
  | disconnect =>
      exact exactly
  | recv queued =>
      simpa [queued] using exactly
  | tryRecv queued =>
      simpa [queued] using exactly
  | stopDraining =>
      exact exactly
  | fails =>
      exact exactly
  | @accepts count atMost =>
      rw [show (writer.flushed count).frames = writer.frames from rfl,
        show (writer.flushed count).channel = writer.channel from rfl,
        ← exactly]
      congr 1
      cases mode : writer.mode with
      | vectored =>
          simp only [lost, mode, offered] at lossless
          rw [flushed_vectored mode,
            List.take_of_length_le (Nat.sub_eq_zero_iff_le.mp lossless)]
      | writeAll =>
          exact flushed_writeAll mode count
  | channelClosed =>
      exact exactly

/-- An exact writer delivers. -/
theorem Exact.delivers
    {writer : ResponseWriter}
    (exactly : writer.Exact) :
    writer.Delivers := by
  unfold Exact accounted at exactly
  refine ⟨?_, ?_⟩
  · rw [← exactly, List.append_assoc]
    exact List.prefix_append _ _
  · rintro ⟨received, flushed, _⟩
    rw [← exactly, received, flushed]
    simp

/-- A step accounts for every byte but those it loses. -/
theorem Step.length_accounted
    {writer next : ResponseWriter}
    {label : WriterLabel}
    (step : Step writer label next) :
    next.accounted.length + writer.lost label + writer.frames.flatten.length =
      writer.accounted.length + next.frames.flatten.length := by
  unfold accounted
  cases step with
  | send frame =>
      simp [lost]
      omega
  | disconnect =>
      rfl
  | recv queued =>
      simp [queued, lost]
  | tryRecv queued =>
      simp [queued, lost]
  | stopDraining =>
      rfl
  | fails =>
      rfl
  | @accepts count atMost =>
      rw [show (writer.flushed count).frames = writer.frames from rfl,
        show (writer.flushed count).channel = writer.channel from rfl]
      cases mode : writer.mode with
      | vectored =>
          rw [flushed_vectored mode]
          simp only [offered, mode] at atMost
          simp only [lost, mode, offered, List.length_append,
            List.length_take]
          omega
      | writeAll =>
          rw [flushed_writeAll mode]
          simp [lost, mode]
  | channelClosed =>
      rfl

/-- The flush mode is fixed. -/
theorem Step.mode_eq
    {writer next : ResponseWriter}
    {label : WriterLabel}
    (step : Step writer label next) :
    next.mode = writer.mode := by
  cases step <;> rfl

/-- A vectored write loses nothing exactly when it takes all it is offered. -/
theorem lost_eq_zero_iff
    {writer next : ResponseWriter}
    {label : WriterLabel}
    (mode : writer.mode = .vectored)
    (step : Step writer label next) :
    writer.lost label = 0 ↔ writer.WritesInFull label := by
  cases step with
  | accepts atMost =>
      simp only [lost, mode, WritesInFull]
      omega
  | _ =>
      simp [lost, WritesInFull]

/-- Lost bytes never come back. -/
theorem length_accounted_le
    {writer final : ResponseWriter}
    {labels : List WriterLabel}
    (run : Run step? (fun _ _ => True) writer labels final) :
    final.accounted.length + writer.frames.flatten.length ≤
      writer.accounted.length + final.frames.flatten.length := by
  induction run with
  | nil writer =>
      exact le_rfl
  | cons permitted first later inductionHypothesis =>
      have moved := (step?_sound first).length_accounted
      omega

/-- A vectored writer that ends exact has written in full all along. -/
theorem permitted_of_exact
    {writer final : ResponseWriter}
    {labels : List WriterLabel}
    (mode : writer.mode = .vectored)
    (atMost : writer.accounted.length ≤ writer.frames.flatten.length)
    (run : Run step? (fun _ _ => True) writer labels final)
    (exactly : final.Exact) :
    Permitted step? WritesInFull writer labels := by
  induction run with
  | nil writer =>
      trivial
  | @cons initial middle final label rest permitted first later
      inductionHypothesis =>
      have step := step?_sound first
      have moved := step.length_accounted
      have monotone := length_accounted_le later
      have whole : final.accounted.length = final.frames.flatten.length := by
        rw [exactly]
      refine ⟨(lost_eq_zero_iff mode step).mp (by omega), ?_⟩
      intro next again
      obtain rfl : middle = next := by
        simpa [first] using again
      exact inductionHypothesis (step.mode_eq.trans mode) (by omega) exactly

/-- A freshly spawned writer is exact. -/
theorem exact_start (mode : FlushMode) : (start mode).Exact :=
  rfl

/-- A vectored writer that only writes in full stays exact. -/
theorem exact_of_writesInFull
    {labels : List WriterLabel}
    {final : ResponseWriter}
    (run : Run step? WritesInFull (start .vectored) labels final) :
    final.Exact := by
  have kept :
      ∀ {writer next : ResponseWriter} {label : WriterLabel},
        writer.WritesInFull label →
        writer.step? label = some next →
        writer.mode = .vectored ∧ writer.Exact →
        next.mode = .vectored ∧ next.Exact := by
    intro writer next label inFull taken ⟨mode, exactly⟩
    have step := step?_sound taken
    exact ⟨step.mode_eq.trans mode,
      exactly.step step ((lost_eq_zero_iff mode step).mpr inFull)⟩
  have initially :
      (start .vectored).mode = .vectored ∧ (start .vectored).Exact :=
    ⟨rfl, exact_start .vectored⟩
  exact (run.invariant kept initially).2

/-- Writing each response out to its end delivers in every run. -/
theorem writeAll_writer_delivers
    {labels : List WriterLabel}
    {final : ResponseWriter}
    (run : Run step? (fun _ _ => True) (start .writeAll) labels final) :
    final.Delivers := by
  have kept :
      ∀ {writer next : ResponseWriter} {label : WriterLabel},
        True →
        writer.step? label = some next →
        writer.mode = .writeAll ∧ writer.Exact →
        next.mode = .writeAll ∧ next.Exact := by
    intro writer next label _ taken ⟨mode, exactly⟩
    have step := step?_sound taken
    have lossless : writer.lost label = 0 := by
      cases step <;> simp [lost, mode]
    exact ⟨step.mode_eq.trans mode, exactly.step step lossless⟩
  have initially :
      (start .writeAll).mode = .writeAll ∧ (start .writeAll).Exact :=
    ⟨rfl, exact_start .writeAll⟩
  exact (run.invariant kept initially).2.delivers

/--
The vectored writer delivers in every state of every run whose writes take all
they are offered or fail.  In a drained state it delivers only then: a run with
one short write leaves the socket without the bytes that write did not take.
-/
theorem vectored_writer_delivers
    {labels : List WriterLabel}
    {final : ResponseWriter}
    (run : Run step? (fun _ _ => True) (start .vectored) labels final) :
    (Permitted step? WritesInFull (start .vectored) labels →
      final.Delivers) ∧
    (final.Drained →
      final.Delivers →
      Permitted step? WritesInFull (start .vectored) labels) := by
  refine ⟨fun inFull => ?_, fun drained delivers => ?_⟩
  · exact (exact_of_writesInFull (Run.of_run? inFull run.run?_eq)).delivers
  · have exactly : final.Exact := by
      unfold Exact accounted
      rw [drained.1, drained.2.1, ← delivers.2 drained]
      simp
    exact permitted_of_exact rfl le_rfl run exactly

/-- Flush one response with a write that accepts the given number of bytes. -/
def flushLabels (frame : Bytes) (count : Nat) : List WriterLabel :=
  [.send frame, .recv, .stopDraining, .write (.accepts count)]

/-- Two responses that are each written in full arrive in order. -/
theorem vectored_writer_delivers_two :
    ∃ final,
      Run step? (fun _ _ => True) (start .vectored)
          (flushLabels [1, 2, 3] 3 ++ flushLabels [4] 1) final ∧
        final.socket = [1, 2, 3, 4] ∧
        final.Delivers := by
  have permitted :
      Permitted step? WritesInFull (start .vectored)
        (flushLabels [1, 2, 3] 3 ++ flushLabels [4] 1) := by
    decide
  have answered :
      (run? step? (start .vectored)
          (flushLabels [1, 2, 3] 3 ++ flushLabels [4] 1)).map socket =
        some [1, 2, 3, 4] := by
    decide
  obtain ⟨final, ran, arrived⟩ := Option.map_eq_some_iff.mp answered
  have run := Run.of_run? (permitted_of_forall (fun _ _ _ => trivial) _) ran
  exact ⟨final, run, arrived, (vectored_writer_delivers run).1 permitted⟩

/--
A vectored write that takes one byte of three: the other two are dropped, and
the next response follows the first byte on the socket.
-/
theorem short_write_loses_bytes :
    ∃ final,
      Run step? (fun _ _ => True) (start .vectored)
          (flushLabels [1, 2, 3] 1 ++ flushLabels [4] 1) final ∧
        final.socket = [1, 4] ∧
        final.frames = [[1, 2, 3], [4]] ∧
        final.Drained ∧
        ¬ final.Delivers := by
  have answered :
      (run? step? (start .vectored)
          (flushLabels [1, 2, 3] 1 ++ flushLabels [4] 1)).map
            (fun final =>
              (final.socket, final.frames, decide final.Drained,
                decide final.Delivers)) =
        some ([1, 4], [[1, 2, 3], [4]], true, false) := by
    decide
  obtain ⟨final, ran, observed⟩ := Option.map_eq_some_iff.mp answered
  simp only [Prod.mk.injEq, decide_eq_true_eq, decide_eq_false_iff_not]
    at observed
  obtain ⟨socket, frames, drained, lost⟩ := observed
  exact ⟨final,
    Run.of_run? (permitted_of_forall (fun _ _ _ => trivial) _) ran,
    socket, frames, drained, lost⟩

end ResponseWriter

end RhydaDB
