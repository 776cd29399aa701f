import RhydaDB.AtomicPrograms

/-!
# What a program guarantees to those beside it

A program that runs beside others learns about the shared state from the
responses to its own actions alone.  `Guarantees` says that each of its actions
keeps an invariant of that state, whichever state of the invariant the action
meets, and that the value or the failure the program ends with satisfies a
condition that does not mention the state.  Every step of the program keeps the
guarantee, so programs with a common invariant may be interleaved at will.
-/

namespace AtomicPrograms

namespace Program

variable
  {Action State Failure OtherFailure : Type}
  {Response : Action → Type}
  {α β : Type}

/--
Every action of the program keeps the invariant, and the program returns with
the postcondition or fails with the failure condition.
-/
def Guarantees
    (answer : State → (action : Action) → State × Response action)
    (invariant : State → Prop)
    (post : α → Prop)
    (abort : Failure → Prop) :
    Program Response Failure α →
    Prop
  | .pure value =>
      post value
  | .fail failure =>
      abort failure
  | .act action next =>
      ∀ state,
        invariant state →
        invariant (answer state action).1 ∧
          Guarantees answer invariant post abort (next (answer state action).2)

variable
  {answer : State → (action : Action) → State × Response action}
  {invariant : State → Prop}
  {post weaker : α → Prop}
  {abort weakerAbort : Failure → Prop}

namespace Guarantees

variable {program : Program Response Failure α}

/-- The response that an action has in some state of the invariant. -/
def Possible
    (answer : State → (action : Action) → State × Response action)
    (invariant : State → Prop)
    (action : Action)
    (response : Response action) :
    Prop :=
  ∃ state, invariant state ∧ (answer state action).2 = response

/-- An action that keeps the invariant, with each of its possible responses. -/
theorem act
    {action : Action}
    {next : Response action → Program Response Failure α}
    (keeps : ∀ state, invariant state → invariant (answer state action).1)
    (later :
      ∀ response,
        Possible answer invariant action response →
        (next response).Guarantees answer invariant post abort) :
    (Program.act action next).Guarantees answer invariant post abort :=
  fun state holds => ⟨keeps state holds, later _ ⟨state, holds, rfl⟩⟩

/-- Conditions may be weakened. -/
theorem mono
    (guarantees : program.Guarantees answer invariant post abort)
    (implies : ∀ value, post value → weaker value)
    (impliesAbort : ∀ failure, abort failure → weakerAbort failure) :
    program.Guarantees answer invariant weaker weakerAbort := by
  induction program with
  | pure value =>
      exact implies value guarantees
  | fail failure =>
      exact impliesAbort failure guarantees
  | act action next inductionHypothesis =>
      intro state holds
      obtain ⟨kept, later⟩ := guarantees state holds
      exact ⟨kept, inductionHypothesis _ later⟩

/-- A program is followed by what holds after its own postcondition. -/
theorem bind
    {continuation : α → Program Response Failure β}
    {finally_ : β → Prop}
    (guarantees : program.Guarantees answer invariant post abort)
    (later :
      ∀ value,
        post value →
        (continuation value).Guarantees answer invariant finally_ abort) :
    (program >>= continuation).Guarantees answer invariant finally_ abort := by
  induction program with
  | pure value =>
      exact later value guarantees
  | fail failure =>
      exact guarantees
  | act action next inductionHypothesis =>
      intro state holds
      obtain ⟨kept, rest⟩ := guarantees state holds
      exact ⟨kept, inductionHypothesis _ rest⟩

/-- Translating failures translates the failure condition. -/
theorem mapFailure
    {translate : Failure → OtherFailure}
    {translated : OtherFailure → Prop}
    (guarantees :
      program.Guarantees answer invariant post
        fun failure => translated (translate failure)) :
    (program.mapFailure translate).Guarantees answer invariant post
      translated := by
  induction program with
  | pure value =>
      exact guarantees
  | fail failure =>
      exact guarantees
  | act action next inductionHypothesis =>
      intro state holds
      obtain ⟨kept, rest⟩ := guarantees state holds
      exact ⟨kept, inductionHypothesis _ rest⟩

/-- A run from a state of the invariant ends in one, as the conditions say. -/
theorem run
    (guarantees : program.Guarantees answer invariant post abort)
    {state : State}
    (holds : invariant state) :
    invariant (program.run answer state).2 ∧
      (∀ value, (program.run answer state).1 = .ok value → post value) ∧
      ∀ failure,
        (program.run answer state).1 = .error failure → abort failure := by
  induction program generalizing state with
  | pure value =>
      refine ⟨holds, ?_, ?_⟩
      · rintro _ ⟨⟩
        exact guarantees
      · rintro _ ⟨⟩
  | fail failure =>
      refine ⟨holds, ?_, ?_⟩
      · rintro _ ⟨⟩
      · rintro _ ⟨⟩
        exact guarantees
  | act action next inductionHypothesis =>
      obtain ⟨kept, later⟩ := guarantees state holds
      exact inductionHypothesis _ later kept

/-- A finished computation performs no action. -/
theorem ofExcept
    {outcome : Except Failure α}
    (returns : ∀ value, outcome = .ok value → post value)
    (fails : ∀ failure, outcome = .error failure → abort failure) :
    (Program.ofExcept outcome : Program Response Failure α).Guarantees answer
      invariant post abort := by
  cases outcome with
  | error failure =>
      exact fails failure rfl
  | ok value =>
      exact returns value rfl

end Guarantees

/-- What a run returns is among what the program can return. -/
theorem Yields.run
    {program : Program Response Failure α}
    (yields : program.Yields post)
    {state : State}
    {value : α}
    (returned : (program.run answer state).1 = .ok value) :
    post value := by
  induction program generalizing state with
  | pure result =>
      cases returned
      exact yields
  | fail failure =>
      cases returned
  | act action next inductionHypothesis =>
      exact inductionHypothesis _ (yields _) returned

end Program

end AtomicPrograms
