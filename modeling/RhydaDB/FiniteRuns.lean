import Mathlib.Data.List.Basic

/-!
# Finite runs of executable step functions

A system is a partial step function on states: a label that is not enabled has
no successor.  `Run allowed` collects the label sequences the system accepts
in which every step also satisfies a side condition on the state it leaves.
Invariants are proved once per step and lifted here to whole runs.
-/

namespace FiniteRuns

variable {State Label : Type}

/-- A finite run whose every step is enabled and allowed. -/
inductive Run
    (step? : State → Label → Option State)
    (allowed : State → Label → Prop) :
    State → List Label → State → Prop where
  | nil (state : State) :
      Run step? allowed state [] state
  | cons
      {initial middle final : State}
      {label : Label}
      {rest : List Label}
      (permitted : allowed initial label)
      (first : step? initial label = some middle)
      (later : Run step? allowed middle rest final) :
      Run step? allowed initial (label :: rest) final

/-- Execute a label sequence, stopping at the first disabled label. -/
def run?
    (step? : State → Label → Option State) :
    State → List Label → Option State
  | state, [] =>
      some state
  | state, label :: rest =>
      (step? state label).bind fun next => run? step? next rest

/-- Executing a concatenation executes its parts in order. -/
theorem run?_append
    (step? : State → Label → Option State)
    (state : State)
    (first second : List Label) :
    run? step? state (first ++ second) =
      (run? step? state first).bind fun middle =>
        run? step? middle second := by
  induction first generalizing state with
  | nil =>
      rfl
  | cons label rest inductionHypothesis =>
      simp [run?, Option.bind_assoc, inductionHypothesis]

/-- Every step met while executing a label sequence is allowed. -/
def Permitted
    (step? : State → Label → Option State)
    (allowed : State → Label → Prop) :
    State → List Label → Prop
  | _, [] =>
      True
  | state, label :: rest =>
      allowed state label ∧
        ∀ next,
          step? state label = some next →
          Permitted step? allowed next rest

/-- Along an execution, permission can be decided step by step. -/
instance decidablePermitted
    (step? : State → Label → Option State)
    (allowed : State → Label → Prop)
    [∀ state label, Decidable (allowed state label)] :
    (state : State) →
    (labels : List Label) →
    Decidable (Permitted step? allowed state labels)
  | _, [] =>
      isTrue trivial
  | state, label :: rest =>
      match taken : step? state label with
      | none =>
          decidable_of_iff (allowed state label)
            ⟨fun holds => ⟨holds, fun next now => by simp [taken] at now⟩,
              And.left⟩
      | some next =>
          have := decidablePermitted step? allowed next rest
          decidable_of_iff
            (allowed state label ∧ Permitted step? allowed next rest)
            ⟨fun ⟨holds, later⟩ =>
              ⟨holds, fun other now => by
                obtain rfl : next = other := by simpa [taken] using now
                exact later⟩,
              fun ⟨holds, later⟩ => ⟨holds, later next taken⟩⟩

/-- Labels that are allowed in every state are permitted from every state. -/
theorem permitted_of_forall
    {step? : State → Label → Option State}
    {allowed : State → Label → Prop}
    {labels : List Label}
    (always : ∀ state, ∀ label ∈ labels, allowed state label)
    (state : State) :
    Permitted step? allowed state labels := by
  induction labels generalizing state with
  | nil =>
      trivial
  | cons label rest inductionHypothesis =>
      have restAlways : ∀ state, ∀ label ∈ rest, allowed state label :=
        fun state later member => always state later (by simp [member])
      exact ⟨always state label (by simp),
        fun next _ => inductionHypothesis restAlways next⟩

namespace Run

variable
  {step? : State → Label → Option State}
  {allowed : State → Label → Prop}

/-- A property of the start that every allowed step preserves holds at the end. -/
theorem invariant
    {property : State → Prop}
    (preserved :
      ∀ {state next label},
        allowed state label →
        step? state label = some next →
        property state →
        property next)
    {initial final : State}
    {labels : List Label}
    (run : Run step? allowed initial labels final)
    (holds : property initial) :
    property final := by
  induction run with
  | nil state =>
      exact holds
  | cons permitted first later inductionHypothesis =>
      exact inductionHypothesis (preserved permitted first holds)

/--
A property of what has happened and of the state it led to: it holds at the end
if it holds at the start and every step that a run can take keeps it.
-/
theorem history
    {initial final : State}
    {labels : List Label}
    {property : List Label → State → Prop}
    (run : Run step? allowed initial labels final)
    (preserved :
      ∀ {earlier state label next},
        run? step? initial earlier = some state →
        allowed state label →
        step? state label = some next →
        property earlier state →
        property (earlier ++ [label]) next)
    (holds : property [] initial) :
    property labels final := by
  have onwards :
      ∀ {state last later},
        Run step? allowed state later last →
        ∀ earlier,
          run? step? initial earlier = some state →
          property earlier state →
          property (earlier ++ later) last := by
    intro state last later onward
    induction onward with
    | nil state =>
        intro earlier _ held
        rwa [List.append_nil]
    | @cons state middle last label rest permitted first _ inductionHypothesis =>
        intro earlier reached held
        have reachedNext :
            run? step? initial (earlier ++ [label]) = some middle := by
          rw [run?_append, reached]
          simp [run?, first]
        have after :=
          inductionHypothesis (earlier ++ [label]) reachedNext
            (preserved reached permitted first held)
        rwa [List.append_assoc] at after
  exact onwards run [] rfl holds

/-- What every allowed step satisfies, every step of a run satisfies. -/
theorem permitted
    {weaker : State → Label → Prop}
    {initial final : State}
    {labels : List Label}
    (run : Run step? allowed initial labels final)
    (implies :
      ∀ state label,
        allowed state label →
        weaker state label) :
    Permitted step? weaker initial labels := by
  induction run with
  | nil state =>
      trivial
  | cons permitted first later inductionHypothesis =>
      refine ⟨implies _ _ permitted, fun next taken => ?_⟩
      rw [first, Option.some.injEq] at taken
      rw [← taken]
      exact inductionHypothesis

/-- Runs follow one another. -/
theorem append
    {initial middle final : State}
    {labels more : List Label}
    (first : Run step? allowed initial labels middle)
    (second : Run step? allowed middle more final) :
    Run step? allowed initial (labels ++ more) final := by
  induction first with
  | nil state =>
      exact second
  | cons permitted taken later inductionHypothesis =>
      exact .cons permitted taken (inductionHypothesis second)

/-- An accepted execution whose steps are all allowed is a run. -/
theorem of_run?
    {initial final : State}
    {labels : List Label}
    (permitted : Permitted step? allowed initial labels)
    (accepted : run? step? initial labels = some final) :
    Run step? allowed initial labels final := by
  induction labels generalizing initial with
  | nil =>
      simp only [run?, Option.some.injEq] at accepted
      subst final
      exact .nil initial
  | cons label rest inductionHypothesis =>
      simp only [run?, Option.bind_eq_some_iff] at accepted
      obtain ⟨next, first, later⟩ := accepted
      exact .cons permitted.1 first
        (inductionHypothesis (permitted.2 next first) later)

/-- A run is an accepted execution. -/
theorem run?_eq
    {initial final : State}
    {labels : List Label}
    (run : Run step? allowed initial labels final) :
    run? step? initial labels = some final := by
  induction run with
  | nil state =>
      rfl
  | cons permitted first later inductionHypothesis =>
      simp [run?, first, inductionHypothesis]

end Run

/-- An execution passes through a state with the property. -/
def Passes
    (step? : State → Label → Option State)
    (initial : State)
    (labels : List Label)
    (property : State → Prop) :
    Prop :=
  ∃ earlier middle,
    earlier <+: labels ∧
      run? step? initial earlier = some middle ∧
      property middle

namespace Passes

variable
  {step? : State → Label → Option State}
  {initial : State}
  {labels : List Label}
  {property : State → Prop}

/-- The state it has come to counts. -/
theorem here
    {final : State}
    (reached : run? step? initial labels = some final)
    (holds : property final) :
    Passes step? initial labels property :=
  ⟨labels, final, List.prefix_rfl, reached, holds⟩

/-- What an execution has passed, it has passed once it has gone on. -/
theorem append
    (passes : Passes step? initial labels property)
    (more : List Label) :
    Passes step? initial (labels ++ more) property := by
  obtain ⟨earlier, middle, isPrefix, reached, holds⟩ := passes
  exact ⟨earlier, middle, isPrefix.trans (List.prefix_append _ _), reached, holds⟩

end Passes

end FiniteRuns
