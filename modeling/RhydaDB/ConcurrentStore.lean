import RhydaDB.StorageSpec

namespace RhydaDB

open ByteStrings AtomicPrograms FiniteRuns Storage

/-!
# Interleaved use of the store

Any number of programs run side by side on one store.  A step starts a
program, performs the next atomic action of a running one, or moves a pipeline
thread of some engine.
-/

/-- A store and the programs running on it. -/
structure ConcurrentStore (shards : Nat) (Failure α : Type) where
  store : Storage shards
  running : List (StorageProgram shards Failure α)

/-- One step of the interleaving. -/
inductive ConcurrentLabel (shards : Nat) (Call : Type) where
  | start (call : Call)
  | advance (index : Nat)
  | engine (engine : Fin shards) (label : PipelineLabel)
  deriving Repr, DecidableEq

namespace ConcurrentStore

variable
  {shards : Nat}
  {Failure α Call : Type}

/-- Take one step of the interleaving, if it is enabled. -/
def step?
    (program : Call → StorageProgram shards Failure α)
    (world : ConcurrentStore shards Failure α) :
    ConcurrentLabel shards Call →
    Option (ConcurrentStore shards Failure α)
  | .start call =>
      some { world with running := world.running ++ [program call] }
  | .advance index =>
      match world.running[index]? with
      | some running =>
          (running.advance? answer world.store).map fun (store, rest) =>
            { store := store, running := world.running.set index rest }
      | none =>
          none
  | .engine engine label =>
      if label.isThread then
        (world.store.engineStep? engine label).map fun store =>
          { world with store := store }
      else
        none

/-- All programs have returned and nothing is queued. -/
def finished (world : ConcurrentStore shards Failure α) : Bool :=
  world.running.all Program.isDone &&
    (List.finRange shards).all fun engine =>
      (world.store.engines engine).inFlight.isEmpty

/-- Nothing has run yet. -/
def idle (store : Storage shards) : ConcurrentStore shards Failure α where
  store := store
  running := []

/-- What each enabled step does. -/
inductive Step
    (program : Call → StorageProgram shards Failure α) :
    ConcurrentStore shards Failure α →
    ConcurrentLabel shards Call →
    ConcurrentStore shards Failure α →
    Prop where
  | start
      {world : ConcurrentStore shards Failure α}
      (call : Call) :
      Step program world (.start call)
        { world with running := world.running ++ [program call] }
  | advance
      {world : ConcurrentStore shards Failure α}
      {index : Nat}
      {action : StorageAction shards}
      {rest : StorageResponse action → StorageProgram shards Failure α}
      (next : world.running[index]? = some (.act action rest)) :
      Step program world (.advance index)
        { store := (world.store.answer action).1
          running :=
            world.running.set index (rest (world.store.answer action).2) }
  | engine
      {world : ConcurrentStore shards Failure α}
      {engine : Fin shards}
      {label : PipelineLabel}
      {pipeline : Pipeline}
      (thread : label.isThread = true)
      (taken :
        (world.store.engines engine).step? label = some pipeline) :
      Step program world (.engine engine label)
        { world with store := world.store.setEngine engine pipeline }

/-- The step function takes only the transitions of `Step`. -/
theorem step?_sound
    {program : Call → StorageProgram shards Failure α}
    {world next : ConcurrentStore shards Failure α}
    {label : ConcurrentLabel shards Call}
    (taken : world.step? program label = some next) :
    Step program world label next := by
  cases label with
  | start call =>
      cases taken
      exact .start call
  | advance index =>
      simp only [step?] at taken
      split at taken
      · rename_i running found
        obtain ⟨⟨store, rest⟩, advanced, rfl⟩ :=
          Option.map_eq_some_iff.mp taken
        cases running with
        | pure value =>
            cases advanced
        | fail failure =>
            cases advanced
        | act action continuation =>
            cases advanced
            exact .advance found
      · cases taken
  | engine engine label =>
      simp only [step?] at taken
      split at taken
      · rename_i thread
        simp only [engineStep?, Option.map_map,
          Option.map_eq_some_iff] at taken
        obtain ⟨pipeline, moved, rfl⟩ := taken
        exact .engine thread moved
      · cases taken

/-- A finished world has only returned programs and empty queues. -/
theorem finished_iff
    {world : ConcurrentStore shards Failure α} :
    world.finished = true ↔
      (∀ running ∈ world.running, running.isDone = true) ∧
        ∀ engine, (world.store.engines engine).inFlight = [] := by
  simp [finished]

end ConcurrentStore

end RhydaDB
