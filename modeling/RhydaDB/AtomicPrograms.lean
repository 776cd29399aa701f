import RhydaDB.Fallible

/-!
# Programs over atomic actions

A program is a tree of atomic actions: it either has returned, has failed, or
names the next action and how it goes on from each possible response.  The
same program is executed in one go by `run` and one action at a time by
`advance?`, so a sequential reading and an interleaved one share a single
definition of the code.
-/

namespace AtomicPrograms

open Fallible

variable
  {Action State Failure OtherFailure : Type}
  {Response : Action → Type}
  {α β γ : Type}

/-- A program whose actions are answered by `Response`. -/
inductive Program
    (Response : Action → Type)
    (Failure α : Type) where
  | pure (value : α)
  | fail (failure : Failure)
  | act
      (action : Action)
      (next : Response action → Program Response Failure α)

namespace Program

/-- Continue a program with another one. -/
def bind :
    Program Response Failure α →
    (α → Program Response Failure β) →
    Program Response Failure β
  | .pure value, continuation =>
      continuation value
  | .fail failure, _ =>
      .fail failure
  | .act action next, continuation =>
      .act action fun response => (next response).bind continuation

instance : Monad (Program Response Failure) where
  pure := Program.pure
  bind := Program.bind

/-- Perform one action and return its response. -/
def perform (action : Action) : Program Response Failure (Response action) :=
  .act action .pure

/-- Translate failures. -/
def mapFailure (translate : Failure → OtherFailure) :
    Program Response Failure α →
    Program Response OtherFailure α
  | .pure value =>
      .pure value
  | .fail failure =>
      .fail (translate failure)
  | .act action next =>
      .act action fun response => (next response).mapFailure translate

/-- Read the actions of a program as actions of a larger system. -/
def embed
    {OuterAction : Type}
    {OuterResponse : OuterAction → Type}
    (outer : Action → OuterAction)
    (inner : (action : Action) → OuterResponse (outer action) → Response action) :
    Program Response Failure α →
    Program OuterResponse Failure α
  | .pure value =>
      .pure value
  | .fail failure =>
      .fail failure
  | .act action next =>
      .act (outer action) fun response =>
        (next (inner action response)).embed outer inner

/-- A finished computation as a program without actions. -/
def ofExcept : Except Failure α → Program Response Failure α
  | .ok value =>
      .pure value
  | .error failure =>
      .fail failure

@[simp] theorem pure_bind
    (value : α)
    (continuation : α → Program Response Failure β) :
    (Pure.pure value >>= continuation : Program Response Failure β) =
      continuation value :=
  rfl

@[simp] theorem return_bind
    (value : α)
    (continuation : α → Program Response Failure β) :
    (Program.pure value >>= continuation : Program Response Failure β) =
      continuation value :=
  rfl

@[simp] theorem fail_bind
    (failure : Failure)
    (continuation : α → Program Response Failure β) :
    (Program.fail failure >>= continuation : Program Response Failure β) =
      .fail failure :=
  rfl

@[simp] theorem act_bind
    (action : Action)
    (next : Response action → Program Response Failure α)
    (continuation : α → Program Response Failure β) :
    (Program.act action next >>= continuation : Program Response Failure β) =
      .act action fun response => next response >>= continuation :=
  rfl

@[simp] theorem perform_bind
    (action : Action)
    (continuation : Response action → Program Response Failure β) :
    (perform action >>= continuation : Program Response Failure β) =
      .act action continuation :=
  rfl

/-- Binding is associative. -/
theorem bind_assoc
    (program : Program Response Failure α)
    (first : α → Program Response Failure β)
    (second : β → Program Response Failure γ) :
    (program >>= first) >>= second =
      program >>= fun value => first value >>= second := by
  induction program with
  | pure value =>
      rfl
  | fail failure =>
      rfl
  | act action next inductionHypothesis =>
      exact congrArg (Program.act action)
        (funext fun response => inductionHypothesis response)

/-- Execute all actions of a program in a row. -/
def run
    (answer : State → (action : Action) → State × Response action) :
    Program Response Failure α →
    State →
    Except Failure α × State
  | .pure value, state =>
      (.ok value, state)
  | .fail failure, state =>
      (.error failure, state)
  | .act action next, state =>
      (next (answer state action).2).run answer (answer state action).1

/-- Execute the first action of a program. -/
def advance?
    (answer : State → (action : Action) → State × Response action)
    (state : State) :
    Program Response Failure α →
    Option (State × Program Response Failure α)
  | .pure _ =>
      none
  | .fail _ =>
      none
  | .act action next =>
      some ((answer state action).1, next (answer state action).2)

/-- Whether a program has returned or failed. -/
def isDone : Program Response Failure α → Bool
  | .act _ _ =>
      false
  | _ =>
      true

section Run

variable (answer : State → (action : Action) → State × Response action)

@[simp] theorem run_pure
    (value : α)
    (state : State) :
    (Program.pure value : Program Response Failure α).run answer state =
      (.ok value, state) :=
  rfl

@[simp] theorem run_return
    (value : α)
    (state : State) :
    (Pure.pure value : Program Response Failure α).run answer state =
      (.ok value, state) :=
  rfl

@[simp] theorem run_fail
    (failure : Failure)
    (state : State) :
    (Program.fail failure : Program Response Failure α).run answer state =
      (.error failure, state) :=
  rfl

@[simp] theorem run_act
    (action : Action)
    (next : Response action → Program Response Failure α)
    (state : State) :
    (Program.act action next).run answer state =
      (next (answer state action).2).run answer (answer state action).1 :=
  rfl

@[simp] theorem run_perform
    (action : Action)
    (state : State) :
    (perform action : Program Response Failure (Response action)).run
        answer state =
      (.ok (answer state action).2, (answer state action).1) :=
  rfl

/-- A bound program runs its first part and continues from its outcome. -/
theorem run_bind
    (program : Program Response Failure α)
    (continuation : α → Program Response Failure β)
    (state : State) :
    (program >>= continuation).run answer state =
      match program.run answer state with
      | (.ok value, next) =>
          (continuation value).run answer next
      | (.error failure, next) =>
          (.error failure, next) := by
  induction program generalizing state with
  | pure value =>
      rfl
  | fail failure =>
      rfl
  | act action next inductionHypothesis =>
      exact inductionHypothesis _ _

/-- A bound program whose first part succeeds continues after it. -/
theorem run_bind_of_ok
    {program : Program Response Failure α}
    {continuation : α → Program Response Failure β}
    {state next : State}
    {value : α}
    (succeeds : program.run answer state = (.ok value, next)) :
    (program >>= continuation).run answer state =
      (continuation value).run answer next := by
  rw [run_bind, succeeds]

/-- Translating failures translates the outcome and nothing else. -/
theorem run_mapFailure
    (translate : Failure → OtherFailure)
    (program : Program Response Failure α)
    (state : State) :
    (program.mapFailure translate).run answer state =
      ((program.run answer state).1.mapError translate,
        (program.run answer state).2) := by
  induction program generalizing state with
  | pure value =>
      rfl
  | fail failure =>
      rfl
  | act action next inductionHypothesis =>
      exact inductionHypothesis _ _

/-- A finished computation leaves the state alone. -/
@[simp] theorem run_ofExcept
    (outcome : Except Failure α)
    (state : State) :
    (ofExcept outcome : Program Response Failure α).run answer state =
      (outcome, state) := by
  cases outcome <;> rfl

/-- A bound program succeeds when both of its parts do. -/
theorem run_bind_eq_ok
    {program : Program Response Failure α}
    {continuation : α → Program Response Failure β}
    {state final : State}
    {value : β} :
    (program >>= continuation).run answer state = (.ok value, final) ↔
      ∃ first middle,
        program.run answer state = (.ok first, middle) ∧
          (continuation first).run answer middle = (.ok value, final) := by
  rw [run_bind]
  rcases program.run answer state with ⟨failure | first, middle⟩
  · simp
  · constructor
    · intro succeeds
      exact ⟨first, middle, rfl, succeeds⟩
    · rintro ⟨_, _, same, succeeds⟩
      cases same
      exact succeeds

/-- Translating failures keeps successes. -/
theorem run_mapFailure_eq_ok
    {translate : Failure → OtherFailure}
    {program : Program Response Failure α}
    {state final : State}
    {value : α} :
    (program.mapFailure translate).run answer state = (.ok value, final) ↔
      program.run answer state = (.ok value, final) := by
  rw [run_mapFailure]
  rcases program.run answer state with ⟨failure | first, middle⟩
  · constructor <;> intro same <;> cases same
  · constructor <;> intro same <;> cases same <;> rfl

/-- An observed success comes from a successful run. -/
theorem exists_run_eq_ok
    {program : Program Response Failure α}
    {state : State}
    {observe : α → β}
    {observation : β}
    (observed :
      (program.run answer state).1.toOption.map observe = some observation) :
    ∃ value final,
      program.run answer state = (.ok value, final) ∧
        observe value = observation := by
  rcases outcome : program.run answer state with ⟨failure | value, final⟩
  · rw [outcome] at observed
    cases observed
  · rw [outcome] at observed
    exact ⟨value, final, rfl, Option.some.inj observed⟩

end Run

section Always

variable
  {History : Type}
  (record : History → (action : Action) → Response action → History)

/--
On every path of the program, whatever its actions are answered, the history
and the value it returns with satisfy the postcondition.
-/
def Always
    (post : History → α → Prop) :
    History →
    Program Response Failure α →
    Prop
  | history, .pure value =>
      post history value
  | _, .fail _ =>
      True
  | history, .act action next =>
      ∀ response, Always post (record history action response) (next response)

namespace Always

variable
  {record}
  {post weaker : History → α → Prop}
  {history : History}

/-- A postcondition may be weakened. -/
theorem mono
    {program : Program Response Failure α}
    (always : Always record post history program)
    (implies : ∀ history value, post history value → weaker history value) :
    Always record weaker history program := by
  induction program generalizing history with
  | pure value =>
      exact implies history value always
  | fail failure =>
      trivial
  | act action next inductionHypothesis =>
      exact fun response => inductionHypothesis response (always response)

/-- A program is followed by what holds after its own postcondition. -/
theorem bind
    {program : Program Response Failure α}
    {continuation : α → Program Response Failure β}
    {finally_ : History → β → Prop}
    (always : Always record post history program)
    (later :
      ∀ history value,
        post history value →
        Always record finally_ history (continuation value)) :
    Always record finally_ history (program >>= continuation) := by
  induction program generalizing history with
  | pure value =>
      exact later history value always
  | fail failure =>
      trivial
  | act action next inductionHypothesis =>
      exact fun response => inductionHypothesis response (always response)

/-- Translating failures does not change what a program returns with. -/
theorem mapFailure
    {program : Program Response Failure α}
    (always : Always record post history program)
    (translate : Failure → OtherFailure) :
    Always record post history (program.mapFailure translate) := by
  induction program generalizing history with
  | pure value =>
      exact always
  | fail failure =>
      trivial
  | act action next inductionHypothesis =>
      exact fun response => inductionHypothesis response (always response)

/-- A finished computation leaves the history alone. -/
theorem ofExcept
    {outcome : Except Failure α}
    (holds : ∀ value, outcome = .ok value → post history value) :
    Always record post history
      (Program.ofExcept outcome : Program Response Failure α) := by
  cases outcome with
  | error failure =>
      trivial
  | ok value =>
      exact holds value rfl

end Always

end Always

section Never

/-- No path of the program performs a marked action. -/
def Never (marked : Action → Prop) : Program Response Failure α → Prop
  | .pure _ =>
      True
  | .fail _ =>
      True
  | .act action next =>
      ¬ marked action ∧ ∀ response, (next response).Never marked

/-- Every value the program can return satisfies the postcondition. -/
def Yields (post : α → Prop) : Program Response Failure α → Prop
  | .pure value =>
      post value
  | .fail _ =>
      True
  | .act _ next =>
      ∀ response, (next response).Yields post

variable {marked : Action → Prop}

/-- What a program returns is what its last part returns. -/
theorem Yields.bind
    {post : β → Prop}
    (program : Program Response Failure α)
    {continuation : α → Program Response Failure β}
    (later : ∀ value, (continuation value).Yields post) :
    (program >>= continuation).Yields post := by
  induction program with
  | pure value =>
      exact later value
  | fail failure =>
      trivial
  | act action next inductionHypothesis =>
      exact inductionHypothesis

/-- Parts without marked actions make a whole without them. -/
theorem Never.bind
    {program : Program Response Failure α}
    {continuation : α → Program Response Failure β}
    {post : α → Prop}
    (never : program.Never marked)
    (yields : program.Yields post)
    (later : ∀ value, post value → (continuation value).Never marked) :
    (program >>= continuation).Never marked := by
  induction program with
  | pure value =>
      exact later value yields
  | fail failure =>
      trivial
  | act action next inductionHypothesis =>
      exact ⟨never.1, fun response =>
        inductionHypothesis response (never.2 response) (yields response)⟩

/-- Every value satisfies the trivial postcondition. -/
theorem yields_true (program : Program Response Failure α) :
    program.Yields fun _ => True := by
  induction program with
  | pure value =>
      trivial
  | fail failure =>
      trivial
  | act action next inductionHypothesis =>
      exact inductionHypothesis

/-- Parts without marked actions make a whole, whatever the first one returns. -/
theorem Never.bind_all
    {program : Program Response Failure α}
    {continuation : α → Program Response Failure β}
    (never : program.Never marked)
    (later : ∀ value, (continuation value).Never marked) :
    (program >>= continuation).Never marked :=
  never.bind (yields_true program) fun value _ => later value

section Embed

variable
  {OuterAction : Type}
  {OuterResponse : OuterAction → Type}
  {outer : Action → OuterAction}
  {inner : (action : Action) → OuterResponse (outer action) → Response action}

/-- An embedded program performs embedded actions only. -/
theorem never_embed
    {outerMarked : OuterAction → Prop}
    (unmarked : ∀ action, ¬ outerMarked (outer action))
    (program : Program Response Failure α) :
    (program.embed outer inner).Never outerMarked := by
  induction program with
  | pure value =>
      trivial
  | fail failure =>
      trivial
  | act action next inductionHypothesis =>
      exact ⟨unmarked action, fun response => inductionHypothesis _⟩

/-- An embedded program returns what the program does. -/
theorem Yields.embed
    {post : α → Prop}
    {program : Program Response Failure α}
    (yields : program.Yields post) :
    (program.embed outer inner).Yields post := by
  induction program with
  | pure value =>
      exact yields
  | fail failure =>
      trivial
  | act action next inductionHypothesis =>
      exact fun response => inductionHypothesis _ (yields _)

end Embed

/-- Translating failures does not change what a program performs. -/
theorem Never.mapFailure
    {program : Program Response Failure α}
    (never : program.Never marked)
    (translate : Failure → OtherFailure) :
    (program.mapFailure translate).Never marked := by
  induction program with
  | pure value =>
      trivial
  | fail failure =>
      trivial
  | act action next inductionHypothesis =>
      exact ⟨never.1, fun response =>
        inductionHypothesis response (never.2 response)⟩

/-- A finished computation performs nothing. -/
theorem never_ofExcept (outcome : Except Failure α) :
    (Program.ofExcept outcome : Program Response Failure α).Never marked := by
  cases outcome <;> trivial

/-- A finished program performs nothing. -/
theorem never_of_isDone
    {program : Program Response Failure α}
    (done : program.isDone = true) :
    program.Never marked := by
  cases program with
  | pure value =>
      trivial
  | fail failure =>
      trivial
  | act action next =>
      cases done

/-- States that answer unmarked actions alike are not told apart without marked ones. -/
theorem Never.run_eq
    {answer : State → (action : Action) → State × Response action}
    {alike : State → State → Prop}
    (same :
      ∀ state other action,
        alike state other →
        ¬ marked action →
        (answer other action).2 = (answer state action).2 ∧
          alike (answer state action).1 (answer other action).1)
    {program : Program Response Failure α}
    (never : program.Never marked)
    {state other : State}
    (areAlike : alike state other) :
    (program.run answer other).1 = (program.run answer state).1 := by
  induction program generalizing state other with
  | pure value =>
      rfl
  | fail failure =>
      rfl
  | act action next inductionHypothesis =>
      obtain ⟨response, after⟩ := same state other action areAlike never.1
      rw [run_act, run_act, response]
      exact inductionHypothesis _ (never.2 _) after

end Never

section Ends

/--
On every path of the program, what it returns and what it fails with satisfy
their postconditions.
-/
def Ends (returns : α → Prop) (fails : Failure → Prop) :
    Program Response Failure α → Prop
  | .pure value =>
      returns value
  | .fail failure =>
      fails failure
  | .act _ next =>
      ∀ response, (next response).Ends returns fails

namespace Ends

variable
  {returns : α → Prop}
  {fails : Failure → Prop}

/-- A program is followed by what ends well after it. -/
theorem bind
    {program : Program Response Failure α}
    {continuation : α → Program Response Failure β}
    {finally_ : β → Prop}
    (ends : program.Ends returns fails)
    (later : ∀ value, returns value → (continuation value).Ends finally_ fails) :
    (program >>= continuation).Ends finally_ fails := by
  induction program with
  | pure value =>
      exact later value ends
  | fail failure =>
      exact ends
  | act action next inductionHypothesis =>
      exact fun response => inductionHypothesis response (ends response)

/-- Translated failures are translations of failures. -/
theorem mapFailure
    {program : Program Response Failure α}
    {translate : Failure → OtherFailure}
    {failsLater : OtherFailure → Prop}
    (ends : program.Ends returns fails)
    (onFailure : ∀ failure, fails failure → failsLater (translate failure)) :
    (program.mapFailure translate).Ends returns failsLater := by
  induction program with
  | pure value =>
      exact ends
  | fail failure =>
      exact onFailure failure ends
  | act action next inductionHypothesis =>
      exact fun response => inductionHypothesis response (ends response)

/-- A finished computation ends as it does. -/
theorem ofExcept
    {outcome : Except Failure α}
    (failsWith : FailsWith fails outcome) :
    (Program.ofExcept outcome : Program Response Failure α).Ends
      (fun _ => True) fails := by
  cases outcome with
  | ok value =>
      trivial
  | error failure =>
      exact failsWith failure rfl

/-- A run fails as a path of its program. -/
theorem run
    {program : Program Response Failure α}
    (ends : program.Ends returns fails)
    (answer : State → (action : Action) → State × Response action)
    (state : State) :
    FailsWith fails (program.run answer state).1 := by
  induction program generalizing state with
  | pure value =>
      exact .ok value
  | fail failure =>
      exact .error ends
  | act action next inductionHypothesis =>
      exact inductionHypothesis _ (ends _) _

end Ends

/-- A run of a bound program fails as its parts do, the second one if reached. -/
theorem failsWith_run_bind
    {fails : Failure → Prop}
    {answer : State → (action : Action) → State × Response action}
    {program : Program Response Failure α}
    {continuation : α → Program Response Failure β}
    {state : State} :
    FailsWith fails ((program >>= continuation).run answer state).1 ↔
      FailsWith fails (program.run answer state).1 ∧
        ∀ value next,
          program.run answer state = (.ok value, next) →
          FailsWith fails ((continuation value).run answer next).1 := by
  rw [run_bind]
  rcases program.run answer state with ⟨failure | value, next⟩
  · simp [FailsWith.error_iff]
  · simp [FailsWith.ok]

end Ends

section Trace

/-- The actions a program performs, in order. -/
def trace
    (answer : State → (action : Action) → State × Response action) :
    Program Response Failure α →
    State →
    List Action
  | .pure _, _ =>
      []
  | .fail _, _ =>
      []
  | .act action next, state =>
      action :: (next (answer state action).2).trace answer
        (answer state action).1

variable (answer : State → (action : Action) → State × Response action)

/-- A bound program whose first part succeeds performs both parts' actions. -/
theorem trace_bind_of_ok
    {program : Program Response Failure α}
    {continuation : α → Program Response Failure β}
    {state next : State}
    {value : α}
    (succeeds : program.run answer state = (.ok value, next)) :
    (program >>= continuation).trace answer state =
      program.trace answer state ++
        (continuation value).trace answer next := by
  induction program generalizing state with
  | pure first =>
      cases succeeds
      rfl
  | fail failure =>
      cases succeeds
  | act action continue_ inductionHypothesis =>
      exact congrArg (action :: ·) (inductionHypothesis _ succeeds)

/-- What no path performs is not performed. -/
theorem Never.not_mem_trace
    {marked : Action → Prop}
    {program : Program Response Failure α}
    (never : program.Never marked)
    (state : State) :
    ∀ action ∈ program.trace answer state, ¬ marked action := by
  induction program generalizing state with
  | pure value =>
      simp [trace]
  | fail failure =>
      simp [trace]
  | act action next inductionHypothesis =>
      intro other member
      rcases List.mem_cons.mp member with rfl | later
      · exact never.1
      · exact inductionHypothesis _ (never.2 _) _ other later

end Trace

section Embedded

/-- A part of a state that can be read and replaced. -/
structure StatePart (Whole Part : Type) where
  get : Whole → Part
  set : Whole → Part → Whole
  get_set : ∀ whole part, get (set whole part) = part
  set_get : ∀ whole, set whole (get whole) = whole
  set_set :
    ∀ whole part last, set (set whole part) last = set whole last

variable
  {Whole OuterAction : Type}
  {OuterResponse : OuterAction → Type}
  {outer : Action → OuterAction}
  {inner : (action : Action) → OuterResponse (outer action) → Response action}

/-- Embedded actions are answered from the part as the actions are. -/
def StatePart.Answers
    (part : StatePart Whole State)
    (answer : State → (action : Action) → State × Response action)
    (outerAnswer :
      Whole → (action : OuterAction) → Whole × OuterResponse action)
    (inner :
      (action : Action) → OuterResponse (outer action) → Response action) :
    Prop :=
  ∀ whole action,
    (outerAnswer whole (outer action)).1 =
        part.set whole (answer (part.get whole) action).1 ∧
      inner action (outerAnswer whole (outer action)).2 =
        (answer (part.get whole) action).2

variable
  {answer : State → (action : Action) → State × Response action}
  {outerAnswer : Whole → (action : OuterAction) → Whole × OuterResponse action}
  {part : StatePart Whole State}

/-- An embedded program runs on the part its actions are answered from. -/
theorem run_embed
    (answers : part.Answers answer outerAnswer inner)
    (program : Program Response Failure α)
    (whole : Whole) :
    (program.embed outer inner).run outerAnswer whole =
      ((program.run answer (part.get whole)).1,
        part.set whole (program.run answer (part.get whole)).2) := by
  induction program generalizing whole with
  | pure value =>
      simp [embed, part.set_get]
  | fail failure =>
      simp [embed, part.set_get]
  | act action next inductionHypothesis =>
      obtain ⟨moved, answered⟩ := answers whole action
      simp only [embed, run_act, inductionHypothesis, moved, answered,
        part.get_set, part.set_set]

/-- An embedded program performs the embedded actions. -/
theorem trace_embed
    (answers : part.Answers answer outerAnswer inner)
    (program : Program Response Failure α)
    (whole : Whole) :
    (program.embed outer inner).trace outerAnswer whole =
      (program.trace answer (part.get whole)).map outer := by
  induction program generalizing whole with
  | pure value =>
      rfl
  | fail failure =>
      rfl
  | act action next inductionHypothesis =>
      obtain ⟨moved, answered⟩ := answers whole action
      simp only [embed, trace, inductionHypothesis, moved, answered,
        part.get_set, List.map_cons]

end Embedded

end Program

end AtomicPrograms
