import RhydaDB.Catalog
import RhydaDB.Server

namespace RhydaDB

open AtomicPrograms FiniteRuns Program Storage

/-!
# Requests served one after the other

A client that sends its next request only when the last one has been answered
keeps at most one task running.  What every request's program ensures from a
good store, while pipeline threads move, then holds whenever the server is
quiet.
-/

section Sequential

variable
  {shards : Nat}
  (replies : QueryFault → Prop)
  (permitted : PipelineLabel → Prop)

/-- The client has got its answer; `replies` are the faults that yield one. -/
def Phase.Answered : Phase shards → Prop
  | .acknowledged _ =>
      True
  | .failed fault =>
      replies fault
  | _ =>
      False

instance [DecidablePred replies] :
    (phase : Phase shards) → Decidable (phase.Answered replies)
  | .running _ =>
      isFalse id
  | .settling _ _ =>
      isFalse id
  | .acknowledged _ =>
      isTrue trivial
  | .failed fault =>
      inferInstanceAs (Decidable (replies fault))

/-- Every request has been answered. -/
def Server.Quiet (server : Server shards) : Prop :=
  ∀ task ∈ server.tasks, task.phase.Answered replies

instance [DecidablePred replies] (server : Server shards) :
    Decidable (server.Quiet replies) :=
  inferInstanceAs (Decidable (∀ task ∈ server.tasks, _))

/-- Requests start when the server is quiet, and threads take permitted steps. -/
def Server.InSequence (server : Server shards) : ServerLabel shards → Prop
  | .start _ =>
      server.Quiet replies
  | .advance _ =>
      True
  | .engine _ label =>
      permitted label

instance
    [DecidablePred replies]
    [DecidablePred permitted]
    (server : Server shards) :
    (label : ServerLabel shards) →
    Decidable (server.InSequence replies permitted label)
  | .start _ =>
      inferInstanceAs (Decidable (server.Quiet replies))
  | .advance _ =>
      isTrue trivial
  | .engine _ label =>
      inferInstanceAs (Decidable (permitted label))

/-- What a task is doing will leave a good store. -/
def Phase.LeadsTo
    (good : Storage shards → Prop)
    (store : Storage shards) :
    Phase shards → Prop
  | .running program =>
      program.Ensures answer (engineRely permitted) (fun _ => good)
        (fun fault later => replies fault → good later) store
  | .settling _ _ =>
      good store
  | .acknowledged _ =>
      good store
  | .failed fault =>
      replies fault → good store

/-- All tasks but the last have been answered, and that one is on its way. -/
inductive Server.LeadsTo (good : Storage shards → Prop) : Server shards → Prop where
  | idle
      {store : Storage shards}
      (holds : good store) :
      LeadsTo good ⟨store, []⟩
  | busy
      {store : Storage shards}
      {earlier : List (Task shards)}
      {task : Task shards}
      (answered : ∀ other ∈ earlier, other.phase.Answered replies)
      (leads : task.phase.LeadsTo replies permitted good store) :
      LeadsTo good ⟨store, earlier ++ [task]⟩

end Sequential

variable
  {shards : Nat}
  {replies : QueryFault → Prop}
  {permitted : PipelineLabel → Prop}
  {good : Storage shards → Prop}

/-- An answered request leaves a good store. -/
theorem Phase.LeadsTo.good_of_answered
    {phase : Phase shards}
    {store : Storage shards}
    (leads : phase.LeadsTo replies permitted good store)
    (answered : phase.Answered replies) :
    good store := by
  cases phase with
  | acknowledged response =>
      exact leads
  | failed fault =>
      exact leads answered
  | running program =>
      exact answered.elim
  | settling response gates =>
      exact answered.elim

/-- A quiet server has a good store. -/
theorem Server.LeadsTo.good_of_quiet
    {server : Server shards}
    (leads : server.LeadsTo replies permitted good)
    (quiet : server.Quiet replies) :
    good server.store := by
  cases leads with
  | idle holds =>
      exact holds
  | busy answered taskLeads =>
      exact taskLeads.good_of_answered (quiet _ (by simp))

/-- Thread steps keep a task on its way. -/
theorem Phase.LeadsTo.later
    {phase : Phase shards}
    {store next : Storage shards}
    (kept : (engineRely permitted).Keeps good)
    (moved : (engineRely permitted).moves store next)
    (leads : phase.LeadsTo replies permitted good store) :
    phase.LeadsTo replies permitted good next := by
  cases phase with
  | running program =>
      exact Ensures.later leads moved
  | settling response gates =>
      exact kept moved leads
  | acknowledged response =>
      exact kept moved leads
  | failed fault =>
      exact fun replied => kept moved (leads replied)

/-- A task's own step keeps it on its way. -/
theorem Task.step_leadsTo
    {task next : Task shards}
    {store after : Storage shards}
    (taken : task.step? store = some (after, next))
    (leads : task.phase.LeadsTo replies permitted good store) :
    next.phase.LeadsTo replies permitted good after := by
  unfold Task.step? at taken
  cases phase : task.phase with
  | running program =>
      rw [phase] at leads taken
      cases program with
      | pure executed =>
          cases taken
          simp only [Phase.LeadsTo] at leads ⊢
          exact leads.pure
      | fail fault =>
          cases taken
          simp only [Phase.LeadsTo] at leads ⊢
          exact leads.fail
      | act action continuation =>
          cases taken
          simp only [Phase.LeadsTo] at leads ⊢
          exact leads.act
  | settling response gates =>
      rw [phase] at leads taken
      cases gates with
      | nil =>
          cases taken
          exact leads
      | cons gate rest =>
          simp only at taken
          split at taken
          · cases taken
            exact leads
          · cases taken
  | acknowledged response =>
      simp [phase] at taken
  | failed fault =>
      simp [phase] at taken

/-- An answered task takes no more steps. -/
theorem Task.step?_of_answered
    {task : Task shards}
    (answered : task.phase.Answered replies)
    (store : Storage shards) :
    task.step? store = none := by
  unfold Task.step?
  cases phase : task.phase with
  | running program =>
      rw [phase] at answered
      exact answered.elim
  | settling response gates =>
      rw [phase] at answered
      exact answered.elim
  | acknowledged response =>
      rfl
  | failed fault =>
      rfl

section Runs

variable
  [NeZero shards]
  {json : CatalogJson}
  {hexDecode : HexDecode}
  {allowed : Server shards → ServerLabel shards → Prop}

/--
If every request that may start ensures a good store, each step keeps the
server on its way to one.
-/
theorem Server.LeadsTo.step
    (kept : (engineRely permitted).Keeps good)
    (inSequence :
      ∀ {server label},
        allowed server label →
        server.InSequence replies permitted label)
    (starts :
      ∀ {server request},
        allowed server (.start request) →
        good server.store →
        (request.program json hexDecode).Ensures answer (engineRely permitted)
          (fun _ => good) (fun fault later => replies fault → good later)
          server.store)
    {server next : Server shards}
    {label : ServerLabel shards}
    (permits : allowed server label)
    (taken : server.step? json hexDecode label = some next)
    (leads : server.LeadsTo replies permitted good) :
    next.LeadsTo replies permitted good := by
  cases label with
  | start request =>
      have quiet : server.Quiet replies := inSequence permits
      cases taken
      exact .busy quiet (starts permits (leads.good_of_quiet quiet))
  | advance index =>
      cases leads with
      | idle holds =>
          simp [Server.step?] at taken
      | @busy store earlier task answered taskLeads =>
          simp only [Server.step?] at taken
          by_cases before : index < earlier.length
          · -- an answered task does not move
            have isAnswered := answered (earlier.get ⟨index, before⟩) (by simp)
            rw [List.getElem?_append_left before,
              List.getElem?_eq_getElem before] at taken
            simp only [List.get_eq_getElem] at isAnswered
            simp [Task.step?_of_answered isAnswered] at taken
          · by_cases last : index = earlier.length
            · subst last
              simp only [List.getElem?_concat_length] at taken
              obtain ⟨⟨after, moved⟩, stepped, rfl⟩ :=
                Option.map_eq_some_iff.mp taken
              have shape :
                  (earlier ++ [task]).set earlier.length moved =
                    earlier ++ [moved] := by
                simp
              simp only [shape]
              exact .busy answered (Task.step_leadsTo stepped taskLeads)
            · have beyond : (earlier ++ [task])[index]? = none := by
                rw [List.getElem?_eq_none_iff, List.length_append]
                simp only [List.length_cons, List.length_nil]
                omega
              simp [beyond] at taken
  | engine engine label =>
      have allowedLabel : permitted label := inSequence permits
      simp only [Server.step?] at taken
      split at taken
      · rename_i thread
        obtain ⟨after, moved, rfl⟩ := Option.map_eq_some_iff.mp taken
        have move : (engineRely permitted).moves server.store after :=
          .single ⟨engine, label, thread, allowedLabel, moved⟩
        cases leads with
        | idle holds =>
            exact .idle (kept move holds)
        | busy answered taskLeads =>
            exact .busy answered (taskLeads.later kept move)
      · cases taken

/-- In a run of requests served in sequence, a quiet server has a good store. -/
theorem Server.good_of_run
    (kept : (engineRely permitted).Keeps good)
    (inSequence :
      ∀ {server label},
        allowed server label →
        server.InSequence replies permitted label)
    (starts :
      ∀ {server request},
        allowed server (.start request) →
        good server.store →
        (request.program json hexDecode).Ensures answer (engineRely permitted)
          (fun _ => good) (fun fault later => replies fault → good later)
          server.store)
    {store : Storage shards}
    (initial : good store)
    {labels : List (ServerLabel shards)}
    {server : Server shards}
    (run :
      Run (Server.step? json hexDecode) allowed (.idle store) labels server)
    (quiet : server.Quiet replies) :
    good server.store := by
  have leads : server.LeadsTo replies permitted good :=
    run.invariant
      (fun permits taken holds =>
        Server.LeadsTo.step kept inSequence starts permits taken holds)
      (.idle initial)
  exact leads.good_of_quiet quiet

end Runs

end RhydaDB
