import RhydaDB.AtomicPrograms

/-!
# Programs under interference

Between two actions of a program its environment may move.  `Ensures` says of
a program and a state that, whatever the environment does in between, the
program ends in a state that satisfies its postcondition; it is itself kept by
every step of either side, so it serves as an invariant of an interleaving.
`Triple` states it for all states of a precondition, with the usual rules.
-/

namespace AtomicPrograms

/-- What the environment may do between two actions. -/
structure Rely (State : Type) where
  moves : State → State → Prop
  refl : ∀ state, moves state state
  trans :
    ∀ {first second third},
      moves first second →
      moves second third →
      moves first third

/-- The environment keeps a property. -/
def Rely.Keeps {State : Type} (rely : Rely State) (property : State → Prop) : Prop :=
  ∀ ⦃before after⦄,
    rely.moves before after →
    property before →
    property after

/-- A fact that does not depend on the state is kept along with a property. -/
theorem Rely.Keeps.withFact
    {State : Type}
    {rely : Rely State}
    {property : State → Prop}
    (kept : rely.Keeps property)
    (fact : Prop) :
    rely.Keeps fun state => fact ∧ property state :=
  fun _ _ moved ⟨known, holds⟩ => ⟨known, kept moved holds⟩

namespace Program

variable
  {Action State Failure OtherFailure : Type}
  {Response : Action → Type}
  {α β : Type}

/--
However the environment moves, the program returns with the postcondition or
fails with the failure condition.
-/
def Ensures
    (answer : State → (action : Action) → State × Response action)
    (rely : Rely State)
    (post : α → State → Prop)
    (abort : Failure → State → Prop) :
    Program Response Failure α →
    State →
    Prop
  | .pure value, state =>
      ∀ later, rely.moves state later → post value later
  | .fail failure, state =>
      ∀ later, rely.moves state later → abort failure later
  | .act action next, state =>
      ∀ later,
        rely.moves state later →
        Ensures answer rely post abort (next (answer later action).2)
          (answer later action).1

variable
  {answer : State → (action : Action) → State × Response action}
  {rely : Rely State}
  {post weaker : α → State → Prop}
  {abort weakerAbort : Failure → State → Prop}

namespace Ensures

variable {program : Program Response Failure α}

/-- A move of the environment keeps what a program ensures. -/
theorem later
    {state next : State}
    (ensures : program.Ensures answer rely post abort state)
    (moved : rely.moves state next) :
    program.Ensures answer rely post abort next := by
  cases program with
  | pure value =>
      exact fun last moves => ensures last (rely.trans moved moves)
  | fail failure =>
      exact fun last moves => ensures last (rely.trans moved moves)
  | act action continuation =>
      exact fun last moves => ensures last (rely.trans moved moves)

/-- Its own action keeps it too. -/
theorem act
    {action : Action}
    {next : Response action → Program Response Failure α}
    {state : State}
    (ensures : (Program.act action next).Ensures answer rely post abort state) :
    (next (answer state action).2).Ensures answer rely post abort
      (answer state action).1 :=
  ensures state (rely.refl state)

/-- A returned value satisfies the postcondition. -/
theorem pure
    {value : α}
    {state : State}
    (ensures :
      (Program.pure value : Program Response Failure α).Ensures answer rely
        post abort state) :
    post value state :=
  ensures state (rely.refl state)

/-- A failure satisfies the failure condition. -/
theorem fail
    {failure : Failure}
    {state : State}
    (ensures :
      (Program.fail failure : Program Response Failure α).Ensures answer rely
        post abort state) :
    abort failure state :=
  ensures state (rely.refl state)

/-- Conditions may be weakened. -/
theorem mono
    {state : State}
    (ensures : program.Ensures answer rely post abort state)
    (implies : ∀ value state, post value state → weaker value state)
    (impliesAbort :
      ∀ failure state, abort failure state → weakerAbort failure state) :
    program.Ensures answer rely weaker weakerAbort state := by
  induction program generalizing state with
  | pure value =>
      exact fun later moved => implies value later (ensures later moved)
  | fail failure =>
      exact fun later moved => impliesAbort failure later (ensures later moved)
  | act action next inductionHypothesis =>
      exact fun later moved => inductionHypothesis _ (ensures later moved)

/-- What a program ensures by two arguments it ensures at once. -/
theorem and
    {otherPost : α → State → Prop}
    {otherAbort : Failure → State → Prop}
    {state : State}
    (first : program.Ensures answer rely post abort state)
    (second : program.Ensures answer rely otherPost otherAbort state) :
    program.Ensures answer rely
      (fun value state => post value state ∧ otherPost value state)
      (fun failure state => abort failure state ∧ otherAbort failure state)
      state := by
  induction program generalizing state with
  | pure value =>
      exact fun later moved => ⟨first later moved, second later moved⟩
  | fail failure =>
      exact fun later moved => ⟨first later moved, second later moved⟩
  | act action next inductionHypothesis =>
      exact fun later moved =>
        inductionHypothesis _ (first later moved) (second later moved)

/-- A program is followed by what its value goes on with. -/
theorem bind
    {continuation : α → Program Response Failure β}
    {finally_ : β → State → Prop}
    {state : State}
    (ensures :
      program.Ensures answer rely
        (fun value state =>
          (continuation value).Ensures answer rely finally_ abort state)
        abort state) :
    (program >>= continuation).Ensures answer rely finally_ abort state := by
  induction program generalizing state with
  | pure value =>
      exact ensures state (rely.refl state)
  | fail failure =>
      exact ensures
  | act action next inductionHypothesis =>
      exact fun later moved => inductionHypothesis _ (ensures later moved)

/-- Translating failures translates the failure condition. -/
theorem mapFailure
    {translate : Failure → OtherFailure}
    {translated : OtherFailure → State → Prop}
    {state : State}
    (ensures :
      program.Ensures answer rely post
        (fun failure => translated (translate failure)) state) :
    (program.mapFailure translate).Ensures answer rely post translated
      state := by
  induction program generalizing state with
  | pure value =>
      exact ensures
  | fail failure =>
      exact ensures
  | act action next inductionHypothesis =>
      exact fun later moved => inductionHypothesis _ (ensures later moved)

/-- Run without interruption, a program that succeeds meets its postcondition. -/
theorem post_of_run
    {value : α}
    {state final : State}
    (ensures : program.Ensures answer rely post abort state)
    (ran : program.run answer state = (.ok value, final)) :
    post value final := by
  induction program generalizing state with
  | pure first =>
      cases ran
      exact ensures.pure
  | fail failure =>
      cases ran
  | act action next inductionHypothesis =>
      exact inductionHypothesis _ ensures.act ran

/-- Run without interruption, a program that fails meets its failure condition. -/
theorem abort_of_run
    {failure : Failure}
    {state final : State}
    (ensures : program.Ensures answer rely post abort state)
    (ran : program.run answer state = (.error failure, final)) :
    abort failure final := by
  induction program generalizing state with
  | pure value =>
      cases ran
  | fail first =>
      cases ran
      exact ensures.fail
  | act action next inductionHypothesis =>
      exact inductionHypothesis _ ensures.act ran

end Ensures

/-- From every state of the precondition, the program ensures the conditions. -/
def Triple
    (answer : State → (action : Action) → State × Response action)
    (rely : Rely State)
    (pre : State → Prop)
    (program : Program Response Failure α)
    (post : α → State → Prop)
    (abort : Failure → State → Prop) :
    Prop :=
  ∀ state, pre state → program.Ensures answer rely post abort state

namespace Triple

variable {pre : State → Prop}

/-- Returning a value, where the environment keeps the precondition. -/
theorem pure
    (kept : rely.Keeps pre)
    {value : α}
    (returns : ∀ state, pre state → post value state) :
    Triple answer rely pre
      (Program.pure value : Program Response Failure α) post abort :=
  fun _ holds _ moved => returns _ (kept moved holds)

/-- Failing, where the environment keeps the precondition. -/
theorem fail
    (kept : rely.Keeps pre)
    {failure : Failure}
    (fails : ∀ state, pre state → abort failure state) :
    Triple answer rely pre
      (Program.fail failure : Program Response Failure α) post abort :=
  fun _ holds _ moved => fails _ (kept moved holds)

/-- An action, where the environment keeps the precondition. -/
theorem act
    (kept : rely.Keeps pre)
    {action : Action}
    {next : Response action → Program Response Failure α}
    (middle : Response action → State → Prop)
    (performs :
      ∀ state,
        pre state →
        middle (answer state action).2 (answer state action).1)
    (later :
      ∀ response,
        Triple answer rely (middle response) (next response) post abort) :
    Triple answer rely pre (.act action next) post abort :=
  fun _ holds _ moved => later _ _ (performs _ (kept moved holds))

/-- A finished computation. -/
theorem ofExcept
    (kept : rely.Keeps pre)
    {outcome : Except Failure α}
    (returns :
      ∀ value state, outcome = .ok value → pre state → post value state)
    (fails :
      ∀ failure state,
        outcome = .error failure →
        pre state →
        abort failure state) :
    Triple answer rely pre
      (Program.ofExcept outcome : Program Response Failure α) post abort := by
  cases outcome with
  | error failure =>
      exact .fail kept fun state => fails failure state rfl
  | ok value =>
      exact .pure kept fun state => returns value state rfl

/-- One program after another. -/
theorem bind
    {program : Program Response Failure α}
    {continuation : α → Program Response Failure β}
    {middle : α → State → Prop}
    {finally_ : β → State → Prop}
    (first : Triple answer rely pre program middle abort)
    (second :
      ∀ value,
        Triple answer rely (middle value) (continuation value) finally_
          abort) :
    Triple answer rely pre (program >>= continuation) finally_ abort :=
  fun state holds =>
    Ensures.bind ((first state holds).mono (fun value => second value)
      fun _ _ aborted => aborted)

/-- Translating failures. -/
theorem mapFailure
    {program : Program Response Failure α}
    {translate : Failure → OtherFailure}
    {translated : OtherFailure → State → Prop}
    (triple :
      Triple answer rely pre program post
        fun failure => translated (translate failure)) :
    Triple answer rely pre (program.mapFailure translate) post translated :=
  fun state holds => (triple state holds).mapFailure

/-- Strengthen the precondition, weaken the other conditions. -/
theorem conseq
    {stronger : State → Prop}
    {program : Program Response Failure α}
    (triple : Triple answer rely pre program post abort)
    (narrows : ∀ state, stronger state → pre state)
    (implies : ∀ value state, post value state → weaker value state)
    (impliesAbort :
      ∀ failure state, abort failure state → weakerAbort failure state) :
    Triple answer rely stronger program weaker weakerAbort :=
  fun state holds =>
    (triple state (narrows state holds)).mono implies impliesAbort

/-- Two conditions at once. -/
theorem and
    {otherPre : State → Prop}
    {otherPost : α → State → Prop}
    {otherAbort : Failure → State → Prop}
    {program : Program Response Failure α}
    (first : Triple answer rely pre program post abort)
    (second : Triple answer rely otherPre program otherPost otherAbort) :
    Triple answer rely
      (fun state => pre state ∧ otherPre state)
      program
      (fun value state => post value state ∧ otherPost value state)
      (fun failure state => abort failure state ∧ otherAbort failure state) :=
  fun state ⟨holds, otherHolds⟩ =>
    (first state holds).and (second state otherHolds)

/-- What a precondition says about no state may be assumed. -/
theorem of_fact
    {fact : Prop}
    {program : Program Response Failure α}
    (triple : fact → Triple answer rely pre program post abort) :
    Triple answer rely (fun state => fact ∧ pre state) program post abort :=
  fun state ⟨known, holds⟩ => triple known state holds

/-- A program that performs no marked action keeps what those alone change. -/
theorem of_never
    {marked : Action → Prop}
    {program : Program Response Failure α}
    (never : program.Never marked)
    (kept : rely.Keeps pre)
    (performs :
      ∀ state action,
        ¬ marked action →
        pre state →
        pre (answer state action).1) :
    Triple answer rely pre program (fun _ => pre) (fun _ => pre) := by
  induction program with
  | pure value =>
      exact .pure kept fun _ holds => holds
  | fail failure =>
      exact .fail kept fun _ holds => holds
  | act action next inductionHypothesis =>
      exact .act kept (fun _ => pre)
        (fun state holds => performs state action never.1 holds)
        fun response => inductionHypothesis response (never.2 response)

end Triple

end Program

end AtomicPrograms
