import RhydaDB.AtomicPrograms

/-!
# Runs that are interrupted

A program runs against an environment that may answer an action in several
ways, or break it off, which ends the program with a failure of its own.  The
steps that were performed are recorded with their responses.
-/

namespace AtomicPrograms

open Fallible

variable
  {Action State Failure : Type}
  {Response : Action → Type}
  {α β : Type}

namespace Program

/-- A run, the steps it performed, how it ended and the state it left. -/
inductive FaultyRun
    (answers : State → (action : Action) → Response action → State → Prop)
    (breaks : Action → Failure → Prop) :
    Program Response Failure α →
    State →
    List ((action : Action) × Response action) →
    Except Failure α →
    State →
    Prop where
  | pure (value : α) (state : State) :
      FaultyRun answers breaks (.pure value) state [] (.ok value) state
  | fail (failure : Failure) (state : State) :
      FaultyRun answers breaks (.fail failure : Program Response Failure α)
        state [] (.error failure) state
  | act
      {action : Action}
      {next : Response action → Program Response Failure α}
      {state middle final : State}
      {response : Response action}
      {steps : List ((action : Action) × Response action)}
      {outcome : Except Failure α}
      (answered : answers state action response middle)
      (rest :
        FaultyRun answers breaks (next response) middle steps outcome final) :
      FaultyRun answers breaks (.act action next) state
        (⟨action, response⟩ :: steps) outcome final
  | interrupt
      {action : Action}
      {failure : Failure}
      (broken : breaks action failure)
      (next : Response action → Program Response Failure α)
      (state : State) :
      FaultyRun answers breaks (.act action next) state [] (.error failure)
        state

namespace FaultyRun

variable
  {answers : State → (action : Action) → Response action → State → Prop}
  {breaks : Action → Failure → Prop}
  {state final : State}
  {steps : List ((action : Action) × Response action)}

/-- A bound program ends in its first part, or after it in its second. -/
theorem of_bind
    {program : Program Response Failure α}
    {continuation : α → Program Response Failure β}
    {outcome : Except Failure β}
    (ran :
      FaultyRun answers breaks (program >>= continuation) state steps outcome
        final) :
    (∃ failure,
        FaultyRun answers breaks program state steps (.error failure) final ∧
          outcome = .error failure) ∨
      ∃ value middle before after,
        FaultyRun answers breaks program state before (.ok value) middle ∧
          FaultyRun answers breaks (continuation value) middle after outcome
            final ∧
          steps = before ++ after := by
  induction program generalizing state steps with
  | pure value =>
      exact .inr ⟨value, state, [], steps, .pure value state, ran, rfl⟩
  | fail failure =>
      cases ran
      exact .inl ⟨failure, .fail failure _, rfl⟩
  | act action next inductionHypothesis =>
      cases ran with
      | act answered rest =>
          rcases inductionHypothesis _ rest with
            ⟨failure, failed, same⟩ | ⟨value, middle, before, after, done, later, rfl⟩
          · exact .inl ⟨failure, .act answered failed, same⟩
          · exact .inr ⟨value, middle, _ :: before, after, .act answered done,
              later, rfl⟩
      | interrupt broken =>
          exact .inl ⟨_, .interrupt broken next _, rfl⟩

/-- A finished computation performs nothing. -/
theorem of_ofExcept
    {outcome result : Except Failure α}
    (ran :
      FaultyRun answers breaks (Program.ofExcept outcome) state steps result
        final) :
    steps = [] ∧ result = outcome ∧ final = state := by
  cases outcome with
  | ok value =>
      cases ran
      exact ⟨rfl, rfl, rfl⟩
  | error failure =>
      cases ran
      exact ⟨rfl, rfl, rfl⟩

/-- A run fails as its program does on some path, or as a broken action. -/
theorem fails
    {program : Program Response Failure α}
    {returns : α → Prop}
    {failsWith : Failure → Prop}
    {failure : Failure}
    (ends : program.Ends returns failsWith)
    (broken : ∀ action failure, breaks action failure → failsWith failure)
    (ran : FaultyRun answers breaks program state steps (.error failure) final) :
    failsWith failure := by
  induction program generalizing state steps with
  | pure value =>
      cases ran
  | fail inner =>
      cases ran
      exact ends
  | act action next inductionHypothesis =>
      cases ran with
      | act answered rest =>
          exact inductionHypothesis _ (ends _) rest
      | interrupt isBroken =>
          exact broken _ _ isBroken

/-- Steps that leave the state alone make a run that does. -/
theorem unchanged
    {program : Program Response Failure α}
    {marked : Action → Prop}
    {quiet : (action : Action) × Response action → Prop}
    {outcome : Except Failure α}
    (still :
      ∀ action response next,
        answers state action response next →
        ¬ marked action →
        quiet ⟨action, response⟩ →
        next = state)
    (never : program.Never marked)
    (allQuiet : ∀ step ∈ steps, quiet step)
    (ran : FaultyRun answers breaks program state steps outcome final) :
    final = state := by
  induction program generalizing steps with
  | pure value =>
      cases ran
      rfl
  | fail failure =>
      cases ran
      rfl
  | act action next inductionHypothesis =>
      cases ran with
      | act answered rest =>
          have same :=
            still _ _ _ answered never.1 (allQuiet _ List.mem_cons_self)
          subst same
          exact inductionHypothesis _ (never.2 _)
            (fun step member => allQuiet step (List.mem_cons_of_mem _ member)) rest
      | interrupt broken =>
          rfl

/-- A completed first part followed by a run of the second. -/
theorem bind
    {program : Program Response Failure α}
    {continuation : α → Program Response Failure β}
    {value : α}
    {middle : State}
    {before after : List ((action : Action) × Response action)}
    {outcome : Except Failure β}
    (first : FaultyRun answers breaks program state before (.ok value) middle)
    (later :
      FaultyRun answers breaks (continuation value) middle after outcome final) :
    FaultyRun answers breaks (program >>= continuation) state (before ++ after)
      outcome final := by
  induction program generalizing state before with
  | pure value =>
      cases first
      exact later
  | fail failure =>
      cases first
  | act action next inductionHypothesis =>
      cases first with
      | act answered rest =>
          exact .act answered (inductionHypothesis _ rest)

/-- An undisturbed run is one of the runs that may be disturbed. -/
theorem of_run
    {answer : State → (action : Action) → State × Response action}
    (mayAnswer :
      ∀ state action,
        answers state action (answer state action).2 (answer state action).1)
    (program : Program Response Failure α)
    (state : State) :
    ∃ steps,
      FaultyRun answers breaks program state steps
        (program.run answer state).1 (program.run answer state).2 := by
  induction program generalizing state with
  | pure value =>
      exact ⟨[], .pure value state⟩
  | fail failure =>
      exact ⟨[], .fail failure state⟩
  | act action next inductionHypothesis =>
      obtain ⟨steps, rest⟩ :=
        inductionHypothesis (answer state action).2 (answer state action).1
      exact ⟨_, .act (mayAnswer state action) rest⟩

end FaultyRun

end Program

end AtomicPrograms
