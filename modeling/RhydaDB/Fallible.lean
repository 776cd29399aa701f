import Mathlib.Data.List.Forall2

/-!
# Successful computations

How a successful composite computation decomposes into its successful parts.
-/

namespace Fallible

variable {Failure OtherFailure α β : Type}

/-- A bound computation succeeds when both of its parts do. -/
theorem bind_eq_ok
    {first : Except Failure α}
    {next : α → Except Failure β}
    {value : β} :
    (first >>= next) = .ok value ↔
      ∃ middle, first = .ok middle ∧ next middle = .ok value := by
  cases first with
  | error failure =>
      simp [Bind.bind, Except.bind]
  | ok middle =>
      simp [Bind.bind, Except.bind]

/-- A bound computation fails when its first part does, or its second after it. -/
theorem bind_eq_error
    {first : Except Failure α}
    {next : α → Except Failure β}
    {failure : Failure} :
    (first >>= next) = .error failure ↔
      first = .error failure ∨
        ∃ middle, first = .ok middle ∧ next middle = .error failure := by
  cases first with
  | error other =>
      simp [Bind.bind, Except.bind]
  | ok middle =>
      simp [Bind.bind, Except.bind]

/-- A mapped computation fails when the computation does. -/
theorem map_eq_error
    {change : α → β}
    {first : Except Failure α}
    {failure : Failure} :
    first.map change = .error failure ↔ first = .error failure := by
  cases first with
  | error other =>
      simp [Except.map]
  | ok middle =>
      simp [Except.map]

/-- A mapped computation succeeds with the image of its result. -/
theorem map_eq_ok
    {change : α → β}
    {first : Except Failure α}
    {value : β} :
    first.map change = .ok value ↔
      ∃ middle, first = .ok middle ∧ change middle = value := by
  cases first with
  | error failure =>
      simp [Except.map]
  | ok middle =>
      simp [Except.map]

/-- Translating failures keeps successes. -/
theorem mapError_eq_ok
    {translate : Failure → OtherFailure}
    {first : Except Failure α}
    {value : α} :
    first.mapError translate = .ok value ↔ first = .ok value := by
  cases first with
  | error failure =>
      constructor <;> intro same <;> cases same
  | ok middle =>
      constructor <;> intro same <;> cases same <;> rfl

/-- A list of computations succeeds when each of them does. -/
theorem mapM_eq_ok
    {step : α → Except Failure β}
    {items : List α}
    {values : List β} :
    items.mapM step = .ok values ↔
      List.Forall₂ (fun item value => step item = .ok value) items values := by
  induction items generalizing values with
  | nil =>
      simp [Pure.pure, Except.pure, eq_comm]
  | cons item rest inductionHypothesis =>
      rw [List.mapM_cons, bind_eq_ok]
      constructor
      · rintro ⟨first, stepped, later⟩
        obtain ⟨others, mapped, same⟩ := bind_eq_ok.mp later
        cases same
        exact .cons stepped (inductionHypothesis.mp mapped)
      · intro all
        cases all with
        | cons stepped others =>
            exact ⟨_, stepped,
              bind_eq_ok.mpr ⟨_, inductionHypothesis.mpr others, rfl⟩⟩

/-- Equivalent relations hold of the same lists. -/
theorem forall₂_congr
    {first second : α → β → Prop}
    (same : ∀ item value, first item value ↔ second item value)
    {items : List α}
    {values : List β} :
    List.Forall₂ first items values ↔ List.Forall₂ second items values :=
  ⟨.imp fun item value => (same item value).mp,
    .imp fun item value => (same item value).mpr⟩

/-- A list of partial lookups succeeds when each of them does. -/
theorem mapM_eq_some
    {lookup : α → Option β}
    {items : List α}
    {values : List β} :
    items.mapM lookup = some values ↔
      List.Forall₂ (fun item value => lookup item = some value) items values := by
  induction items generalizing values with
  | nil =>
      simp [eq_comm]
  | cons item rest inductionHypothesis =>
      rw [List.mapM_cons, Option.bind_eq_bind, Option.bind_eq_some_iff]
      constructor
      · rintro ⟨first, found, later⟩
        obtain ⟨others, mapped, same⟩ := Option.bind_eq_some_iff.mp later
        cases same
        exact .cons found (inductionHypothesis.mp mapped)
      · intro all
        cases all with
        | cons found others =>
            exact ⟨_, found,
              Option.bind_eq_some_iff.mpr
                ⟨_, inductionHypothesis.mpr others, rfl⟩⟩

/-- Lookups that all succeed give a list of results. -/
theorem exists_mapM_eq_some
    {lookup : α → Option β}
    {items : List α}
    (found : ∀ item ∈ items, (lookup item).isSome = true) :
    ∃ values, items.mapM lookup = some values := by
  induction items with
  | nil =>
      exact ⟨[], rfl⟩
  | cons item rest inductionHypothesis =>
      obtain ⟨value, here⟩ := Option.isSome_iff_exists.mp (found item (by simp))
      obtain ⟨values, later⟩ :=
        inductionHypothesis fun other member => found other (by simp [member])
      exact ⟨value :: values, by simp [here, later]⟩

/-! ## Failures -/

/-- Whatever the computation fails with satisfies the postcondition. -/
def FailsWith (post : Failure → Prop) (outcome : Except Failure α) : Prop :=
  ∀ failure, outcome = .error failure → post failure

namespace FailsWith

variable {post : Failure → Prop}

/-- A success fails with nothing. -/
theorem ok (value : α) : FailsWith post (.ok value : Except Failure α) := by
  intro failure same
  cases same

/-- A failure is what it fails with. -/
theorem error
    {failure : Failure}
    (holds : post failure) :
    FailsWith post (.error failure : Except Failure α) := by
  intro other same
  cases same
  exact holds

/-- A bound computation fails as its parts do. -/
theorem bind
    {first : Except Failure α}
    {next : α → Except Failure β}
    (before : FailsWith post first)
    (after : ∀ value, first = .ok value → FailsWith post (next value)) :
    FailsWith post (first >>= next) := by
  intro failure failed
  rcases bind_eq_error.mp failed with here | ⟨value, found, later⟩
  · exact before failure here
  · exact after value found failure later

/-- A mapped computation fails as the computation does. -/
theorem map
    {first : Except Failure α}
    (before : FailsWith post first)
    (change : α → β) :
    FailsWith post (first.map change) :=
  fun failure failed => before failure (map_eq_error.mp failed)

/-- Translated failures are translations of failures. -/
theorem mapError
    {translate : Failure → OtherFailure}
    {first : Except Failure α}
    {later : OtherFailure → Prop}
    (before : FailsWith (fun failure => later (translate failure)) first) :
    FailsWith later (first.mapError translate) := by
  intro failure failed
  cases first with
  | ok value =>
      cases failed
  | error inner =>
      cases failed
      exact before inner rfl

/-- A list of computations fails as one of them does. -/
theorem mapM
    {step : α → Except Failure β}
    {items : List α}
    (each : ∀ item ∈ items, FailsWith post (step item)) :
    FailsWith post (items.mapM step) := by
  induction items with
  | nil =>
      exact .ok []
  | cons item rest inductionHypothesis =>
      rw [List.mapM_cons]
      refine (each item (by simp)).bind fun value _ => ?_
      refine (inductionHypothesis fun other member =>
        each other (by simp [member])).bind fun values _ => ?_
      exact .ok (value :: values)

/-- A failure is all a failed computation fails with. -/
theorem error_iff {failure : Failure} :
    FailsWith post (.error failure : Except Failure α) ↔ post failure :=
  ⟨fun fails => fails failure rfl, .error⟩

/-- A bound computation fails as its parts do, the second one if it is reached. -/
theorem bind_iff
    {first : Except Failure α}
    {next : α → Except Failure β} :
    FailsWith post (first >>= next) ↔
      FailsWith post first ∧
        ∀ value, first = .ok value → FailsWith post (next value) := by
  constructor
  · intro fails
    constructor
    · intro failure failed
      exact fails failure (bind_eq_error.mpr (.inl failed))
    · intro value found failure failed
      exact fails failure (bind_eq_error.mpr (.inr ⟨value, found, failed⟩))
  · rintro ⟨before, after⟩
    exact before.bind after

/-- Translated failures are exactly translations of failures. -/
theorem mapError_iff
    {translate : Failure → OtherFailure}
    {first : Except Failure α}
    {later : OtherFailure → Prop} :
    FailsWith later (first.mapError translate) ↔
      FailsWith (fun failure => later (translate failure)) first := by
  cases first with
  | ok value =>
      exact iff_of_true (.ok value) (.ok value)
  | error failure =>
      exact error_iff.trans
        ⟨fun holds => .error holds, fun fails => fails failure rfl⟩

/-- A mapped computation fails exactly as the computation does. -/
theorem map_iff
    {first : Except Failure α}
    {change : α → β} :
    FailsWith post (first.map change) ↔ FailsWith post first :=
  ⟨fun fails failure failed => fails failure (map_eq_error.mpr failed),
    fun before => before.map change⟩

end FailsWith

section InTurn

variable {State : Type}

/--
Items are checked in turn: each fits that is reached, and those behind it are
reached if it is accepted.
-/
def InTurn
    (accepts : State → α → State → Prop)
    (fits : State → α → Prop) :
    List α → State → Prop
  | [], _ =>
      True
  | item :: rest, state =>
      fits state item ∧
        ∀ later, accepts state item later → InTurn accepts fits rest later

/-- A list of computations fails as the first that fails does. -/
theorem FailsWith.mapM_iff
    {post : Failure → Prop}
    {step : α → Except Failure β}
    {fits : α → Prop}
    {items : List α}
    (each : ∀ item, FailsWith post (step item) ↔ fits item) :
    FailsWith post (items.mapM step) ↔
      InTurn (fun _ item _ => ∃ value, step item = .ok value)
        (fun _ item => fits item) items () := by
  induction items with
  | nil =>
      exact iff_of_true (.ok []) trivial
  | cons item rest inductionHypothesis =>
      rw [List.mapM_cons, FailsWith.bind_iff, each, InTurn]
      refine and_congr_right fun _ => ?_
      constructor
      · rintro later ⟨⟩ ⟨value, accepted⟩
        exact inductionHypothesis.mp
          (FailsWith.bind_iff.mp (later value accepted)).1
      · intro later value accepted
        refine (inductionHypothesis.mpr (later () ⟨value, accepted⟩)).bind
          fun values _ => ?_
        exact .ok (value :: values)

end InTurn

end Fallible
