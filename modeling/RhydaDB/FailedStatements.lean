import RhydaDB.FaultyRuns
import RhydaDB.StorageTexts
import RhydaDB.StatementSpec
import RhydaDB.SeedSystem

namespace RhydaDB

open ByteStrings AtomicPrograms Storage

/-!
# What a failed statement leaves behind

An engine may fail to read or write, and a channel may refuse an operation, at
any access of a statement.  A statement does not undo what it has done before
it fails; this module says which failures come before its first effect.
-/

namespace Storage

variable {shards : Nat}

/-- The store answers an access, or a channel refuses an operation. -/
inductive MayAnswer (store : Storage shards) :
    (action : StorageAction shards) →
    StorageResponse action →
    Storage shards →
    Prop where
  | answered (action : StorageAction shards) :
      MayAnswer store action (store.answer action).2 (store.answer action).1
  | refused (engine : Fin shards) (op : WriteOp) :
      MayAnswer store (.send engine op) none store

end Storage

/-- An access to an engine that fails is an internal error of the statement. -/
def EngineFails {shards : Nat} : StorageAction shards → QueryFault → Prop
  | .dbGet _ _, failure =>
      ∃ message, failure = internalErr (.error message)
  | .dbWrite _ _, failure =>
      ∃ message, failure = internalErr (.error message)
  | .dbScan _ _, failure =>
      ∃ message, failure = internalErr (.error message)
  | _, _ =>
      False

/-- One performed access with its response. -/
abbrev StorageStep (shards : Nat) :=
  (action : StorageAction shards) × StorageResponse action

/-- A run of a statement in which engines may fail and channels may refuse. -/
abbrev StatementRun
    {shards : Nat}
    {α : Type}
    (program : StorageProgram shards QueryFault α)
    (store : Storage shards)
    (steps : List (StorageStep shards))
    (outcome : QueryOutcome α)
    (final : Storage shards) :
    Prop :=
  program.FaultyRun MayAnswer EngineFails store steps outcome final

/--
Two stores that answer alike: every row, scan, table and keyspace is read as
before, now and after any operations still queued.
-/
structure SameAnswers
    {shards : Nat}
    [NeZero shards]
    (json : CatalogJson)
    (store next : Storage shards) :
    Prop where
  engines :
    next.engines = store.engines
  rowCache :
    next.rowCache = store.rowCache
  row :
    ∀ keyspace table keyParts,
      ((getRow keyspace table keyParts :
          StorageProgram shards Fault _).run answer next).1 =
        ((getRow keyspace table keyParts :
          StorageProgram shards Fault _).run answer store).1
  rows :
    ∀ keyspace table,
      ((scanRows keyspace table :
          StorageProgram shards Fault _).run answer next).1 =
        ((scanRows keyspace table :
          StorageProgram shards Fault _).run answer store).1
  partition :
    ∀ keyspace table partitionKey,
      ((scanPartition keyspace table partitionKey :
          StorageProgram shards Fault _).run answer next).1 =
        ((scanPartition keyspace table partitionKey :
          StorageProgram shards Fault _).run answer store).1
  table :
    ∀ keyspace table,
      ((getTable json keyspace table).run answer next).1 =
        ((getTable json keyspace table).run answer store).1
  keyspace :
    ∀ name,
      ((getKeyspace json name).run answer next).1 =
        ((getKeyspace json name).run answer store).1

namespace SameAnswers

variable
  {shards : Nat} [NeZero shards]
  {json : CatalogJson}
  {store middle next : Storage shards}

theorem refl (store : Storage shards) : SameAnswers json store store where
  engines := rfl
  rowCache := rfl
  row := fun _ _ _ => rfl
  rows := fun _ _ => rfl
  partition := fun _ _ _ => rfl
  table := fun _ _ => rfl
  keyspace := fun _ => rfl

theorem trans
    (before : SameAnswers json store middle)
    (after : SameAnswers json middle next) :
    SameAnswers json store next where
  engines := after.engines.trans before.engines
  rowCache := after.rowCache.trans before.rowCache
  row := fun keyspace table keyParts =>
    (after.row keyspace table keyParts).trans
      (before.row keyspace table keyParts)
  rows := fun keyspace table =>
    (after.rows keyspace table).trans (before.rows keyspace table)
  partition := fun keyspace table partitionKey =>
    (after.partition keyspace table partitionKey).trans
      (before.partition keyspace table partitionKey)
  table := fun keyspace table =>
    (after.table keyspace table).trans (before.table keyspace table)
  keyspace := fun name =>
    (after.keyspace name).trans (before.keyspace name)

end SameAnswers

/-! ## What is not of the catalog -/

/-- An access to the catalog caches. -/
def StorageAction.OfCatalog {shards : Nat} : StorageAction shards → Prop
  | .keyspacesGet _ =>
      True
  | .keyspacesInsert _ _ =>
      True
  | .keyspacesRemove _ =>
      True
  | .tablesGet _ =>
      True
  | .tablesInsert _ _ =>
      True
  | .tablesRemove _ =>
      True
  | .tablesRetainOther _ =>
      True
  | _ =>
      False

section Rows

variable {shards : Nat}

/-- A program that leaves the catalog caches aside. -/
abbrev OnRows
    {Failure α : Type}
    (program : StorageProgram shards Failure α) :
    Prop :=
  program.Never StorageAction.OfCatalog

/-- Queueing an operation leaves the catalog caches aside. -/
theorem sendOp_onRows (engine : Fin shards) (op : WriteOp) :
    OnRows (sendOp engine op) := by
  refine ⟨id, ?_⟩
  rintro (_ | ticket) <;> trivial

/-- Queueing an operation on several engines leaves the catalog caches aside. -/
theorem sendToEach_onRows (op : WriteOp) (engines : List (Fin shards)) :
    OnRows (sendToEach op engines) := by
  induction engines with
  | nil =>
      trivial
  | cons engine rest inductionHypothesis =>
      refine (sendOp_onRows engine op).bind_all fun ticket => ?_
      exact inductionHypothesis.bind_all fun tickets => trivial

/-- Queueing deletes leaves the catalog caches aside. -/
theorem sendDeletes_onRows
    (engine : Fin shards)
    (entries : List (Bytes × Bytes)) :
    OnRows (sendDeletes engine entries) := by
  induction entries with
  | nil =>
      trivial
  | cons entry rest inductionHypothesis =>
      exact ⟨id, fun _ => inductionHypothesis.bind_all fun tickets => trivial⟩

/-- Queueing deletes under a prefix leaves the catalog caches aside. -/
theorem sendDeletesUnder_onRows
    (leading : Bytes)
    (engines : List (Fin shards)) :
    OnRows (sendDeletesUnder leading engines) := by
  induction engines with
  | nil =>
      trivial
  | cons engine rest inductionHypothesis =>
      refine ⟨id, fun entries => ?_⟩
      refine (sendDeletes_onRows engine entries).bind_all fun tickets => ?_
      exact inductionHypothesis.bind_all fun later => trivial

/-- Removing a range of rows leaves the catalog caches aside. -/
theorem deleteDataPrefix_onRows (leading : Bytes) :
    OnRows (deleteDataPrefix leading :
      StorageProgram shards Fault (List (WriteTicket shards))) := by
  have cleared :
      ∀ tickets : List (WriteTicket shards),
        OnRows (do
          if dtPrefix.isPrefixOf leading then
            atomically .cacheClear
          return tickets : StorageProgram shards Fault _) := by
    intro tickets
    split
    · exact ⟨id, fun _ => trivial⟩
    · trivial
  unfold deleteDataPrefix
  cases prefixUpperBound leading with
  | some stop =>
      exact (sendToEach_onRows _ _).bind_all cleared
  | none =>
      exact (sendDeletesUnder_onRows _ _).bind_all cleared

variable [NeZero shards]

/-- Reading a row looks into the row cache and an engine and fills the cache. -/
theorem never_getRow
    {marked : StorageAction shards → Prop}
    (looks : ∀ key, ¬ marked (.cacheGet key))
    (loads : ∀ engine key, ¬ marked (.dbGet engine key))
    (fills : ∀ key value, ¬ marked (.cacheInsert key value))
    (keyspace table : String)
    (keyParts : List Bytes) :
    (getRow keyspace table keyParts :
      StorageProgram shards Fault (Option Bytes)).Never marked := by
  have refilled :
      ∀ found,
        (refillCache keyspace (rowKey keyspace table keyParts) found :
          StorageProgram shards Fault Unit).Never marked := by
    rintro (_ | value)
    · trivial
    · rw [refillCache]
      split
      · exact ⟨fills _ _, fun _ => trivial⟩
      · trivial
  have missed :
      (do
        let found ←
          atomically (.dbGet (dataEngine keyspace table (firstPart keyParts))
            (rowKey keyspace table keyParts))
        refillCache keyspace (rowKey keyspace table keyParts) found
        return found :
          StorageProgram shards Fault (Option Bytes)).Never marked :=
    ⟨loads _ _, fun found => (refilled found).bind_all fun _ => trivial⟩
  unfold getRow cachedRow
  split
  · refine ⟨looks _, ?_⟩
    rintro (_ | value)
    · exact missed
    · trivial
  · exact missed

/-- Reading a row leaves the catalog caches aside. -/
theorem getRow_onRows
    (keyspace table : String)
    (keyParts : List Bytes) :
    OnRows (getRow keyspace table keyParts :
      StorageProgram shards Fault (Option Bytes)) :=
  never_getRow (fun _ => id) (fun _ _ => id) (fun _ _ => id) keyspace table
    keyParts

/-- Writing a row leaves the catalog caches aside. -/
theorem putRow_onRows
    (keyspace table : String)
    (keyParts : List Bytes)
    (value : Bytes) :
    OnRows (putRow keyspace table keyParts value :
      StorageProgram shards Fault (WriteTicket shards)) := by
  unfold putRow
  split
  · exact ⟨id, fun _ => sendOp_onRows _ _⟩
  · exact sendOp_onRows _ _

/-- Deleting a row leaves the catalog caches aside. -/
theorem deleteRow_onRows
    (keyspace table : String)
    (keyParts : List Bytes) :
    OnRows (deleteRow keyspace table keyParts :
      StorageProgram shards Fault (WriteTicket shards)) := by
  unfold deleteRow
  split
  · exact ⟨id, fun _ => sendOp_onRows _ _⟩
  · exact sendOp_onRows _ _

section Scans

variable {σ : Type} (visit : σ → Bytes → Bytes → σ × Bool)

omit [NeZero shards] in
/-- Scanning engines leaves the catalog caches aside. -/
theorem forEachOnEngines_onRows
    (leading : Bytes)
    (engines : List (Fin shards))
    (state : σ) :
    OnRows (forEachOnEngines leading visit engines state) := by
  induction engines generalizing state with
  | nil =>
      trivial
  | cons engine rest inductionHypothesis =>
      refine ⟨id, fun entries => ?_⟩
      show OnRows (ite _ _ _)
      split
      · exact inductionHypothesis _
      · trivial

/-- Scanning a partition leaves the catalog caches aside. -/
theorem forEachInPartition_onRows
    (keyspace table : String)
    (partition : List Bytes)
    (state : σ) :
    OnRows (forEachInPartition keyspace table partition visit state :
      StorageProgram shards Fault σ) :=
  ⟨id, fun _ => trivial⟩

/-- Scanning partitions leaves the catalog caches aside. -/
theorem scanPartitions_onRows
    (keyspace table : String)
    (limit : Nat)
    (visit : ScanState → Bytes → Bytes → ScanState × Bool)
    (partitions : List (List Bytes))
    (state : ScanState) :
    OnRows (scanPartitions keyspace table limit visit partitions state :
      StorageProgram shards Fault ScanState) := by
  induction partitions generalizing state with
  | nil =>
      trivial
  | cons partition rest inductionHypothesis =>
      refine ⟨id, fun entries => ?_⟩
      show OnRows (ite _ _ _)
      split
      · trivial
      · exact inductionHypothesis _

end Scans

/-- Reading the rows of a SELECT leaves the catalog caches aside. -/
theorem selectRows_onRows
    (projection : Projection)
    (keyspace : String)
    (filters : List Filter)
    (pageSize limit : Option Int32)
    (pagingState : Option Bytes) :
    OnRows (selectRows projection keyspace filters pageSize limit pagingState :
      StorageProgram shards Fault
        (List (List Value) × List Bytes × Option Bytes)) := by
  unfold selectRows
  split
  · rename_i keyParts _
    have found :
        OnRows (selectPoint projection keyspace keyParts :
          StorageProgram shards Fault (List (List Value) × List Bytes)) := by
      refine (getRow_onRows keyspace _ keyParts).bind_all fun stored => ?_
      cases stored with
      | none =>
          trivial
      | some bytes =>
          refine (Program.never_ofExcept _).bind_all fun row => ?_
          cases row <;> trivial
    exact found.bind_all fun rows => trivial
  · have scanned :
        OnRows (scanRowsMatching projection keyspace filters pagingState
          (pageLimit pageSize limit) : StorageProgram shards Fault ScanState) := by
      unfold scanRowsMatching
      simp only
      split
      · exact scanPartitions_onRows _ _ _ _ _ _
      · exact forEachOnEngines_onRows _ _ _ _
    refine scanned.bind_all fun state => ?_
    cases state.errorSlot <;> trivial

end Rows

/-! ## Looking names up -/

section Lookups

variable
  {shards : Nat} [NeZero shards]
  {json : CatalogJson}
  {store next : Storage shards}

/-- Stores that differ in their catalog caches alone. -/
def SameRows (store next : Storage shards) : Prop :=
  next.engines = store.engines ∧ next.rowCache = store.rowCache

omit [NeZero shards] in
/-- Such stores answer every other access alike. -/
theorem SameRows.answer
    (same : SameRows store next)
    {action : StorageAction shards}
    (notCatalog : ¬ action.OfCatalog) :
    (next.answer action).2 = (store.answer action).2 ∧
      SameRows (store.answer action).1 (next.answer action).1 := by
  obtain ⟨engines, rowCache⟩ := same
  cases action with
  | keyspacesGet name =>
      exact absurd trivial notCatalog
  | keyspacesInsert name keyspace =>
      exact absurd trivial notCatalog
  | keyspacesRemove name =>
      exact absurd trivial notCatalog
  | tablesGet name =>
      exact absurd trivial notCatalog
  | tablesInsert name table =>
      exact absurd trivial notCatalog
  | tablesRemove name =>
      exact absurd trivial notCatalog
  | tablesRetainOther keyspace =>
      exact absurd trivial notCatalog
  | send engine op =>
      simp only [Storage.answer, Storage.send, engines]
      cases (store.engines engine).step? (.send op) with
      | none =>
          exact ⟨rfl, engines, rowCache⟩
      | some pipeline =>
          refine ⟨rfl, ?_, rowCache⟩
          simp only [Storage.setEngine, engines]
  | dbWrite engine op =>
      refine ⟨rfl, ?_, rowCache⟩
      simp only [Storage.answer, Storage.setEngine, engines]
  | _ =>
      simp [Storage.answer, Storage.mapCache, SameRows, engines, rowCache]

/-- Stores with the same rows and the same lookups are read alike. -/
theorem sameAnswers_of_lookups
    (same : SameRows store next)
    (tables : store.SameTables json next)
    (keyspaces :
      ∀ name, next.lookupKeyspace json name = store.lookupKeyspace json name) :
    SameAnswers json store next where
  engines := same.1
  rowCache := same.2
  row := fun keyspace table keyParts =>
    Program.Never.run_eq (fun _ _ _ alike notCatalog => alike.answer notCatalog)
      (getRow_onRows keyspace table keyParts) same
  rows := fun keyspace table =>
    Program.Never.run_eq (fun _ _ _ alike notCatalog => alike.answer notCatalog)
      (forEachOnEngines_onRows collect _ _ _) same
  partition := fun keyspace table partitionKey =>
    Program.Never.run_eq (fun _ _ _ alike notCatalog => alike.answer notCatalog)
      (forEachInPartition_onRows collect keyspace table partitionKey _) same
  table := fun keyspace table => by
    rw [getTable_run, getTable_run]
    exact tables keyspace table
  keyspace := fun name => by
    rw [getKeyspace_run, getKeyspace_run]
    exact keyspaces name

variable {steps : List (StorageStep shards)}

omit [NeZero shards] in
/-- A run that starts with an access performs it or is broken off. -/
theorem StatementRun.of_act
    {α : Type}
    {action : StorageAction shards}
    {continuation :
      StorageResponse action → StorageProgram shards QueryFault α}
    {outcome : QueryOutcome α}
    {steps : List (StorageStep shards)}
    (ran : StatementRun (.act action continuation) store steps outcome next)
    (notSend : ∀ engine op, action ≠ .send engine op) :
    (next = store ∧ steps = []) ∨
      ∃ later,
        steps = ⟨action, (store.answer action).2⟩ :: later ∧
          StatementRun (continuation (store.answer action).2)
            (store.answer action).1 later outcome next := by
  cases ran with
  | interrupt broken =>
      exact .inl ⟨rfl, rfl⟩
  | act answered rest =>
      cases answered with
      | answered action =>
          exact .inr ⟨_, rfl, rest⟩
      | refused engine op =>
          exact absurd rfl (notSend engine op)

variable {steps : List (StorageStep shards)}

/-- Looking a table up, as far as it gets, changes no read. -/
theorem sameAnswers_of_getTable
    {keyspace table : String}
    {outcome : QueryOutcome (Option TableDef)}
    (ran :
      StatementRun (internally (getTable json keyspace table)) store steps outcome
        next) :
    SameAnswers json store next := by
  have looked : store.SameTables json _ :=
    getTable_sameTables store keyspace table
  rcases ran.of_act (by simp) with ⟨rfl, _⟩ | ⟨_, _, rest⟩
  · exact .refl _
  simp only [Storage.answer] at rest
  unfold getTable at looked
  simp only [atomically, Program.perform_bind, Program.run_act,
    Storage.answer] at looked
  cases cached : store.tables (keyspace, table) with
  | some definition =>
      rw [cached] at rest
      cases rest
      exact .refl _
  | none =>
      rw [cached] at rest looked
      rcases rest.of_act (by simp) with ⟨rfl, _⟩ | ⟨_, _, rest⟩
      · exact .refl _
      simp only [RhydaDB.get, atomically, Storage.answer, Program.perform_bind,
        Program.run_act] at rest looked
      cases found : (store.engines 0).db[tableKey keyspace table]? with
      | none =>
          rw [found] at rest
          cases rest
          exact .refl _
      | some bytes =>
          rw [found] at rest looked
          change
            StatementRun
              (internally (Program.ofExcept (json.tableFromSlice bytes) >>=
                fun definition =>
                  .act (.tablesInsert (keyspace, table) definition) fun _ =>
                    return some definition)) _ _ _ _ at rest
          cases decoded : json.tableFromSlice bytes with
          | error fault =>
              rw [decoded] at rest
              cases rest
              exact .refl _
          | ok definition =>
              rw [decoded] at rest
              simp only [decoded] at looked
              rcases rest.of_act (by simp) with ⟨rfl, _⟩ | ⟨_, _, rest⟩
              · exact .refl _
              cases rest
              exact sameAnswers_of_lookups ⟨rfl, rfl⟩ looked fun name => rfl

/-- Looking a keyspace up, as far as it gets, changes no read. -/
theorem sameAnswers_of_getKeyspace
    {name : String}
    {outcome : QueryOutcome (Option KeyspaceDef)}
    (ran :
      StatementRun (internally (getKeyspace json name)) store steps outcome
        next) :
    SameAnswers json store next := by
  rcases ran.of_act (by simp) with ⟨rfl, _⟩ | ⟨_, _, rest⟩
  · exact .refl _
  simp only [Storage.answer] at rest
  cases cached : store.keyspaces name with
  | some definition =>
      rw [cached] at rest
      cases rest
      exact .refl _
  | none =>
      rw [cached] at rest
      rcases rest.of_act (by simp) with ⟨rfl, _⟩ | ⟨_, _, rest⟩
      · exact .refl _
      simp only [Storage.answer] at rest
      cases found : (store.engines 0).db[keyspaceKey name]? with
      | none =>
          rw [found] at rest
          cases rest
          exact .refl _
      | some bytes =>
          rw [found] at rest
          change
            StatementRun
              (internally (Program.ofExcept (json.keyspaceFromSlice bytes) >>=
                fun definition =>
                  .act (.keyspacesInsert name definition) fun _ =>
                    return some definition)) _ _ _ _ at rest
          cases decoded : json.keyspaceFromSlice bytes with
          | error fault =>
              rw [decoded] at rest
              cases rest
              exact .refl _
          | ok definition =>
              rw [decoded] at rest
              rcases rest.of_act (by simp) with ⟨rfl, _⟩ | ⟨_, _, rest⟩
              · exact .refl _
              cases rest
              refine sameAnswers_of_lookups ⟨rfl, rfl⟩ (fun _ _ => rfl) fun other => ?_
              by_cases same : other = name
              · subst same
                simp [lookupKeyspace, Storage.answer, cached, found, decoded,
                  Except.map]
              · simp [lookupKeyspace, Storage.answer, same]

end Lookups

/-! ## Effects -/

/-- An access that changes an engine, a channel or the row cache. -/
def Effect {shards : Nat} : StorageStep shards → Prop
  | ⟨.dbWrite _ _, _⟩ =>
      True
  | ⟨.send _ _, ticket⟩ =>
      ticket.isSome = true
  | ⟨.cacheInsert _ _, _⟩ =>
      True
  | ⟨.cacheRemove _, _⟩ =>
      True
  | ⟨.cacheClear, _⟩ =>
      True
  | _ =>
      False

/-- No step of a run has an effect. -/
def NoEffect {shards : Nat} (steps : List (StorageStep shards)) : Prop :=
  ∀ step ∈ steps, ¬ Effect step

/-- An error with the code of internal errors, or no error. -/
def QueryFault.IsInternal : QueryFault → Prop
  | .error code _ =>
      code = 0x0000
  | _ =>
      True

section Effects

variable
  {shards : Nat}
  {store next : Storage shards}
  {steps : List (StorageStep shards)}

/-- An access without an effect, catalog caches aside, leaves the store alone. -/
theorem unchanged_of_noEffect
    {action : StorageAction shards}
    {response : StorageResponse action}
    (answered : MayAnswer store action response next)
    (notCatalog : ¬ action.OfCatalog)
    (noEffect : ¬ Effect ⟨action, response⟩) :
    next = store := by
  cases answered with
  | refused engine op =>
      rfl
  | answered action =>
      cases action with
      | send engine op =>
          simp only [Storage.answer, Storage.send] at noEffect ⊢
          split
          · rename_i accepted
            rw [accepted] at noEffect
            exact absurd rfl noEffect
          · rfl
      | cacheGet key =>
          rfl
      | dbGet engine key =>
          rfl
      | dbScan engine leading =>
          rfl
      | _ =>
          first
          | exact absurd trivial notCatalog
          | exact absurd trivial noEffect

/-- Accesses without an effect, catalog caches aside, leave the store alone. -/
theorem StatementRun.unchanged
    {α : Type}
    {program : StorageProgram shards QueryFault α}
    {outcome : QueryOutcome α}
    (ran : StatementRun program store steps outcome next)
    (onRows : OnRows program)
    (noEffect : NoEffect steps) :
    next = store :=
  Program.FaultyRun.unchanged
    (fun _ _ _ answered notCatalog quiet =>
      unchanged_of_noEffect answered notCatalog quiet) onRows noEffect ran

/-- Every fault of the store is reported as an internal error. -/
theorem isInternal_internalErr (fault : Fault) : (internalErr fault).IsInternal := by
  cases fault with
  | error message =>
      rfl
  | panic =>
      trivial
  | hang =>
      trivial

/-- A program that fails with internal errors only. -/
abbrev EndsInternal
    {α : Type}
    (program : StorageProgram shards QueryFault α) :
    Prop :=
  program.Ends (fun _ => True) QueryFault.IsInternal

/-- A storage program fails with internal errors. -/
theorem endsInternal_internally
    {α : Type}
    (program : StorageProgram shards Fault α) :
    EndsInternal (internally program) := by
  induction program with
  | pure value =>
      trivial
  | fail fault =>
      exact isInternal_internalErr fault
  | act action next inductionHypothesis =>
      exact inductionHypothesis

/-- A run of a program with internal errors fails with one. -/
theorem StatementRun.isInternal
    {α : Type}
    {program : StorageProgram shards QueryFault α}
    {failure : QueryFault}
    (ran : StatementRun program store steps (.error failure) next)
    (ends : EndsInternal program) :
    failure.IsInternal := by
  refine Program.FaultyRun.fails ends ?_ ran
  intro action failure fails
  have reported :
      (∃ message, failure = internalErr (.error message)) →
        failure.IsInternal := by
    rintro ⟨message, rfl⟩
    rfl
  cases action with
  | dbGet engine key =>
      exact reported fails
  | dbWrite engine op =>
      exact reported fails
  | dbScan engine leading =>
      exact reported fails
  | _ =>
      exact fails.elim

end Effects

/-! ## Failures before the first effect -/

section Early

variable
  {shards : Nat} [NeZero shards]
  {json : CatalogJson}
  {α β : Type}

/-- A program that changes no read, however it ends. -/
def Reading
    (json : CatalogJson)
    (program : StorageProgram shards QueryFault α) :
    Prop :=
  ∀ ⦃store final steps outcome⦄,
    StatementRun program store steps outcome final →
    SameAnswers json store final

/--
A program that changes no read if it fails with another error than an internal
one, or before its first effect.
-/
def Early
    (json : CatalogJson)
    (program : StorageProgram shards QueryFault α) :
    Prop :=
  ∀ ⦃store final steps code message⦄,
    StatementRun program store steps (.error (.error code message)) final →
    code ≠ 0x0000 ∨ NoEffect steps →
    SameAnswers json store final

/-- A program that changes no read if it fails without a row cache. -/
def Uncached
    (json : CatalogJson)
    (program : StorageProgram shards QueryFault α) :
    Prop :=
  ∀ ⦃store final steps failure⦄,
    store.rowCache = none →
    StatementRun program store steps (.error failure) final →
    SameAnswers json store final

namespace Reading

theorem returning (value : α) :
    Reading json (return value : StorageProgram shards QueryFault α) := by
  intro store final steps outcome ran
  cases ran
  exact .refl store

theorem fail (failure : QueryFault) :
    Reading json (.fail failure : StorageProgram shards QueryFault α) := by
  intro store final steps outcome ran
  cases ran
  exact .refl store

theorem ofExcept (outcome : QueryOutcome α) :
    Reading json
      (Program.ofExcept outcome : StorageProgram shards QueryFault α) := by
  intro store final steps result ran
  obtain ⟨_, _, rfl⟩ := Program.FaultyRun.of_ofExcept ran
  exact .refl final

theorem bind
    {program : StorageProgram shards QueryFault α}
    {continuation : α → StorageProgram shards QueryFault β}
    (first : Reading json program)
    (later : ∀ value, Reading json (continuation value)) :
    Reading json (program >>= continuation) := by
  intro store final steps outcome ran
  rcases Program.FaultyRun.of_bind ran with
    ⟨_, failed, _⟩ | ⟨value, _, _, _, done, after, _⟩
  · exact first failed
  · exact (first done).trans (later value after)

/-- What follows a reading decides whether the whole fails early. -/
theorem bind_early
    {program : StorageProgram shards QueryFault α}
    {continuation : α → StorageProgram shards QueryFault β}
    (first : Reading json program)
    (later : ∀ value, Early json (continuation value)) :
    Early json (program >>= continuation) := by
  intro store final steps code message ran early
  rcases Program.FaultyRun.of_bind ran with
    ⟨_, failed, _⟩ | ⟨value, _, _, _, done, after, rfl⟩
  · exact first failed
  · refine (first done).trans (later value after (early.imp_right ?_))
    exact fun quiet step member => quiet step (List.mem_append_right _ member)

/-- What follows a reading decides what happens without a row cache. -/
theorem bind_uncached
    {program : StorageProgram shards QueryFault α}
    {continuation : α → StorageProgram shards QueryFault β}
    (first : Reading json program)
    (later : ∀ value, Uncached json (continuation value)) :
    Uncached json (program >>= continuation) := by
  intro store final steps failure uncached ran
  rcases Program.FaultyRun.of_bind ran with
    ⟨_, failed, _⟩ | ⟨value, middle, _, _, done, after, _⟩
  · exact first failed
  · have same := first done
    exact same.trans (later value (same.rowCache.trans uncached) after)

theorem early
    {program : StorageProgram shards QueryFault α}
    (reading : Reading json program) :
    Early json program :=
  fun _ _ _ _ _ ran _ => reading ran

end Reading

/-- Accesses to rows with internal errors fail early. -/
theorem early_of_onRows
    {program : StorageProgram shards QueryFault α}
    (onRows : OnRows program)
    (ends : EndsInternal program) :
    Early json program := by
  intro store final steps code message ran early
  rcases early with other | quiet
  · exact absurd (ran.isInternal ends) other
  · rw [ran.unchanged onRows quiet]
    exact .refl store

/-- Internal errors after a write to an engine are not early. -/
theorem early_of_dbWrite
    {engine : Fin shards}
    {op : WriteOp}
    {continuation : Unit → StorageProgram shards QueryFault α}
    (ends : EndsInternal (.act (.dbWrite engine op) continuation)) :
    Early json (.act (.dbWrite engine op) continuation) := by
  intro store final steps code message ran early
  rcases early with other | quiet
  · exact absurd (ran.isInternal ends) other
  · rcases ran.of_act (by simp) with ⟨rfl, _⟩ | ⟨_, rfl, _⟩
    · exact .refl _
    · exact absurd trivial (quiet _ List.mem_cons_self)

/-! ### Statements -/

variable {hexDecode : HexDecode}

omit [NeZero shards] in
/-- A program whose result is only reported fails with internal errors. -/
theorem endsInternal_report
    (program : StorageProgram shards Fault α)
    (result : α → β) :
    EndsInternal (internally program >>= fun value => return result value) :=
  (endsInternal_internally program).bind fun _ _ => trivial

/-- Looking a table up is reading. -/
theorem reading_getTable (keyspace table : String) :
    Reading json
      (internally (getTable json keyspace table) :
        StorageProgram shards QueryFault _) :=
  fun _ _ _ _ ran => sameAnswers_of_getTable ran

/-- Looking a keyspace up is reading. -/
theorem reading_getKeyspace (name : String) :
    Reading json
      (internally (getKeyspace json name) :
        StorageProgram shards QueryFault _) :=
  fun _ _ _ _ ran => sameAnswers_of_getKeyspace ran

/-- Resolving a table is reading. -/
theorem reading_resolveTable (sessionKs : Option String) (name : FQName) :
    Reading json
      (resolveTable json sessionKs name :
        StorageProgram shards QueryFault _) := by
  refine (Reading.ofExcept _).bind fun keyspace => ?_
  refine (reading_getTable keyspace _).bind fun found => ?_
  cases found with
  | none =>
      exact .fail _
  | some table =>
      exact .returning _

/-- A USE fails early. -/
theorem execUse_early (identifier : Identifier) (binds : Binds) :
    Early json
      (execUse json identifier binds :
        StorageProgram shards QueryFault _) := by
  refine (reading_getKeyspace _).bind_early fun found => ?_
  cases found with
  | none =>
      exact (Reading.fail _).early
  | some keyspace =>
      exact (Reading.returning _).early

/-- A CREATE KEYSPACE fails early. -/
theorem execCreateKeyspace_early (create : CreateKeyspace) (binds : Binds) :
    Early json
      (execCreateKeyspace json create binds :
        StorageProgram shards QueryFault _) := by
  refine (reading_getKeyspace _).bind_early fun found => ?_
  cases found with
  | some keyspace =>
      simp only
      split
      · exact (Reading.returning _).early
      · exact (Reading.fail _).early
  | none =>
      simp only
      split
      · exact (Reading.fail _).early
      · refine early_of_dbWrite ?_
        refine Program.Ends.bind (endsInternal_internally (putKeyspace json _))
          fun _ _ => ?_
        exact endsInternal_report _ _

/-- A CREATE TABLE fails early. -/
theorem execCreateTable_early
    (sessionKs : Option String)
    (create : CreateTable)
    (binds : Binds) :
    Early json
      (execCreateTable json sessionKs create binds :
        StorageProgram shards QueryFault _) := by
  refine (Reading.ofExcept _).bind_early fun keyspace => ?_
  refine (reading_getTable _ _).bind_early fun found => ?_
  cases found with
  | some table =>
      simp only
      split
      · exact (Reading.returning _).early
      · exact (Reading.fail _).early
  | none =>
      refine (Reading.ofExcept _).bind_early fun definition => ?_
      refine early_of_dbWrite ?_
      refine Program.Ends.bind (endsInternal_internally (putTable json _))
        fun _ _ => ?_
      exact endsInternal_report _ _

/-- A DROP TABLE fails early. -/
theorem execDropTable_early
    (sessionKs : Option String)
    (drop : CommonDrop)
    (binds : Binds) :
    Early json
      (execDropTable json sessionKs drop binds :
        StorageProgram shards QueryFault _) := by
  refine (Reading.ofExcept _).bind_early fun keyspace => ?_
  refine (reading_getTable _ _).bind_early fun found => ?_
  cases found with
  | none =>
      simp only
      split
      · exact (Reading.returning _).early
      · exact (Reading.fail _).early
  | some table =>
      refine (Reading.ofExcept _).bind_early fun _ => ?_
      refine early_of_dbWrite ?_
      refine Program.Ends.bind (endsInternal_internally (deleteTable _ _))
        fun tickets _ => ?_
      exact endsInternal_report _ _

/-- A DROP KEYSPACE fails early. -/
theorem execDropKeyspace_early (drop : CommonDrop) (binds : Binds) :
    Early json
      (execDropKeyspace json drop binds :
        StorageProgram shards QueryFault _) := by
  refine (reading_getKeyspace _).bind_early fun found => ?_
  cases found with
  | none =>
      simp only
      split
      · exact (Reading.returning _).early
      · exact (Reading.fail _).early
  | some keyspace =>
      refine (Reading.ofExcept _).bind_early fun _ => ?_
      refine early_of_dbWrite ?_
      refine Program.Ends.bind (endsInternal_internally (deleteKeyspace _))
        fun tickets _ => ?_
      exact endsInternal_report _ _

omit [NeZero shards] in
/-- Reporting internally leaves the catalog caches aside. -/
theorem onRows_report
    {program : StorageProgram shards Fault α}
    (onRows : OnRows program)
    (result : α → β) :
    OnRows (internally program >>= fun value => return result value) :=
  Program.Never.bind_all (onRows.mapFailure internalErr) fun _ => trivial

/-- A TRUNCATE fails early. -/
theorem execTruncate_early
    (sessionKs : Option String)
    (name : FQName)
    (binds : Binds) :
    Early json
      (execTruncate json sessionKs name binds :
        StorageProgram shards QueryFault _) := by
  refine (reading_resolveTable _ _).bind_early fun named => ?_
  refine (Reading.ofExcept _).bind_early fun _ => ?_
  exact early_of_onRows (onRows_report (deleteDataPrefix_onRows _) _)
    (endsInternal_report _ _)

/-- An INSERT fails early. -/
theorem execInsert_early
    (sessionKs : Option String)
    (ins : Insert)
    (binds : Binds) :
    Early json
      (execInsert json hexDecode sessionKs ins binds :
        StorageProgram shards QueryFault _) := by
  refine (reading_resolveTable _ _).bind_early fun named => ?_
  refine (Reading.ofExcept _).bind_early fun _ => ?_
  refine (Reading.ofExcept _).bind_early fun planned => ?_
  exact early_of_onRows (onRows_report (putRow_onRows _ _ _ _) _)
    (endsInternal_report _ _)

/-- A DELETE fails early. -/
theorem execDelete_early
    (sessionKs : Option String)
    (del : Delete)
    (binds : Binds) :
    Early json
      (execDelete json hexDecode sessionKs del binds :
        StorageProgram shards QueryFault _) := by
  refine (reading_resolveTable _ _).bind_early fun named => ?_
  refine (Reading.ofExcept _).bind_early fun _ => ?_
  refine (Reading.ofExcept _).bind_early fun planned => ?_
  exact early_of_onRows (onRows_report (deleteRow_onRows _ _ _) _)
    (endsInternal_report _ _)

/-- The cells an UPDATE stores are computed without the catalog. -/
theorem updatedCells_onRows
    (keyspace : String)
    (table : TableDef)
    (values : List (Nat × Value))
    (keyParts : List Bytes) :
    OnRows
      (updatedCells keyspace table values keyParts :
        StorageProgram shards QueryFault _) := by
  unfold updatedCells
  split
  · exact Program.never_ofExcept _
  · exact Program.Never.bind_all ((getRow_onRows _ _ _).mapFailure internalErr)
      fun existing => Program.never_ofExcept _

/-- The cells of an UPDATE fail with internal errors. -/
theorem updatedCells_endsInternal
    (keyspace : String)
    (table : TableDef)
    (values : List (Nat × Value))
    (keyParts : List Bytes) :
    EndsInternal
      (updatedCells keyspace table values keyParts :
        StorageProgram shards QueryFault _) := by
  have covered : Fallible.FailsWith QueryFault.IsInternal (coveredCells table values) := by
    refine .mapM fun index _ => ?_
    split
    · exact .ok _
    · exact .error trivial
  have merged :
      ∀ existing,
        Fallible.FailsWith QueryFault.IsInternal
          (mergedCells table values existing) := by
    intro existing
    unfold mergedCells
    cases existing with
    | some bytes =>
        exact Fallible.FailsWith.bind
          (.mapError fun fault _ => isInternal_internalErr fault)
          fun row _ => .ok _
    | none =>
        exact .ok _
  unfold updatedCells
  split
  · exact .ofExcept covered
  · exact (endsInternal_internally _).bind fun existing _ =>
      .ofExcept (merged existing)

/-- An UPDATE fails early. -/
theorem execUpdate_early
    (sessionKs : Option String)
    (upd : Update)
    (binds : Binds) :
    Early json
      (execUpdate json hexDecode sessionKs upd binds :
        StorageProgram shards QueryFault _) := by
  refine (reading_resolveTable _ _).bind_early fun named => ?_
  refine (Reading.ofExcept _).bind_early fun _ => ?_
  refine (Reading.ofExcept _).bind_early fun planned => ?_
  refine early_of_onRows ?_ ?_
  · refine (updatedCells_onRows _ _ _ _).bind_all fun cells => ?_
    exact onRows_report (putRow_onRows _ _ _ _) _
  · refine (updatedCells_endsInternal _ _ _ _).bind fun cells _ => ?_
    exact endsInternal_report _ _

/-- A SELECT fails early. -/
theorem execSelect_early
    (sessionKs : Option String)
    (sel : Select)
    (binds : Binds)
    (pageSize : Option Int32)
    (pagingState : Option Bytes) :
    Early json
      (execSelect json hexDecode sessionKs sel binds pageSize pagingState :
        StorageProgram shards QueryFault _) := by
  have looks :
      Reading json
        (missesVirtualTable json sessionKs sel.tableName :
          StorageProgram shards QueryFault Bool) := by
    unfold missesVirtualTable
    split
    · exact (reading_getTable _ _).bind fun found => .returning _
    · exact .returning _
  refine looks.bind_early fun misses => ?_
  split
  · exact (Reading.returning _).early
  · refine (reading_resolveTable _ _).bind_early fun named => ?_
    refine (Reading.ofExcept _).bind_early fun selected => ?_
    refine (Reading.ofExcept _).bind_early fun filtered => ?_
    simp only
    split
    · exact (Reading.fail _).early
    · exact early_of_onRows (onRows_report (selectRows_onRows _ _ _ _ _ _) _)
        (endsInternal_report _ _)

/-- Every statement fails early. -/
theorem executeStatement_early
    (sessionKs : Option String)
    (binds : Binds)
    (pageSize : Option Int32)
    (pagingState : Option Bytes)
    (statement : Statement) :
    Early json
      (executeStatement json hexDecode sessionKs binds pageSize pagingState
        statement : StorageProgram shards QueryFault _) := by
  cases statement with
  | use keyspace =>
      exact execUse_early keyspace binds
  | createKeyspace create =>
      exact execCreateKeyspace_early create binds
  | createTable create =>
      exact execCreateTable_early sessionKs create binds
  | insert ins =>
      exact execInsert_early sessionKs ins binds
  | select sel =>
      exact execSelect_early sessionKs sel binds pageSize pagingState
  | delete del =>
      exact execDelete_early sessionKs del binds
  | update upd =>
      exact execUpdate_early sessionKs upd binds
  | truncate name =>
      exact execTruncate_early sessionKs name binds
  | dropTable drop =>
      exact execDropTable_early sessionKs drop binds
  | dropKeyspace drop =>
      exact execDropKeyspace_early drop binds
  | other shortName =>
      exact (Reading.fail _).early

end Early

/-! ## Statements on rows without a row cache -/

section Uncached

variable
  {shards : Nat} [NeZero shards]
  {json : CatalogJson}
  {hexDecode : HexDecode}
  {α : Type}
  {store next : Storage shards}
  {steps : List (StorageStep shards)}

/-- An access that may change a store without a row cache. -/
def StorageAction.ChangesUncached {shards : Nat} : StorageAction shards → Prop
  | .cacheGet _ =>
      False
  | .cacheInsert _ _ =>
      False
  | .cacheRemove _ =>
      False
  | .dbGet _ _ =>
      False
  | _ =>
      True

omit [NeZero shards] in
/-- Without a row cache, changing an entry of it changes nothing. -/
theorem mapCache_uncached
    (uncached : store.rowCache = none)
    (change : ByteMap Bytes → ByteMap Bytes) :
    store.mapCache change = store := by
  cases store
  cases uncached
  rfl

omit [NeZero shards] in
/-- Without a row cache, looking up and refilling leave the store alone. -/
theorem answer_uncached
    (uncached : store.rowCache = none)
    {action : StorageAction shards}
    (unmarked : ¬ action.ChangesUncached) :
    (store.answer action).1 = store := by
  cases action with
  | cacheGet key =>
      rfl
  | cacheInsert key value =>
      exact mapCache_uncached uncached _
  | cacheRemove key =>
      exact mapCache_uncached uncached _
  | dbGet engine key =>
      rfl
  | _ =>
      exact absurd trivial unmarked

omit [NeZero shards] in
/-- Without a row cache, a run that looks up and refills changes nothing. -/
theorem StatementRun.uncached_unchanged
    {program : StorageProgram shards QueryFault α}
    {outcome : QueryOutcome α}
    (ran : StatementRun program store steps outcome next)
    (uncached : store.rowCache = none)
    (never : program.Never StorageAction.ChangesUncached) :
    next = store := by
  have still :
      ∀ action response later,
        MayAnswer store action response later →
        ¬ action.ChangesUncached →
        True →
        later = store := by
    intro action response later answered unmarked _
    cases answered with
    | refused engine op =>
        rfl
    | answered action =>
        exact answer_uncached uncached unmarked
  exact Program.FaultyRun.unchanged still never (fun _ _ => trivial) ran

/-- A statement that ends by queueing one operation. -/
theorem uncached_send
    (engine : Fin shards)
    (op : WriteOp)
    (result : WriteTicket shards → α) :
    Uncached json
      (internally (sendOp engine op) >>= fun ticket => return result ticket :
        StorageProgram shards QueryFault α) := by
  intro store final steps failure _ ran
  cases ran with
  | interrupt broken =>
      exact .refl store
  | @act _ _ _ _ _ response _ _ answered rest =>
      cases response with
      | some ticket =>
          cases rest
      | none =>
          -- The channel has refused the operation.
          cases rest
          have same : final = store :=
            unchanged_of_noEffect answered id Bool.false_ne_true
          rw [same]
          exact .refl store

/-- A statement that ends by queueing after a change of the row cache. -/
theorem uncached_sendAfter
    {action : StorageAction shards}
    (program : Program StorageResponse QueryFault α)
    (unmarked : ¬ action.ChangesUncached)
    (later : Uncached json program) :
    Uncached json (.act action fun _ => program) := by
  intro store final steps failure uncached ran
  rcases ran.of_act (by rintro engine op rfl; exact unmarked trivial) with
    ⟨rfl, _⟩ | ⟨_, _, rest⟩
  · exact .refl _
  · rw [answer_uncached uncached unmarked] at rest
    exact later uncached rest

/-- A statement that ends by writing a row. -/
theorem uncached_putRow
    (keyspace table : String)
    (keyParts : List Bytes)
    (value : Bytes)
    (result : WriteTicket shards → α) :
    Uncached json
      (internally (putRow keyspace table keyParts value) >>=
        fun ticket => return result ticket :
          StorageProgram shards QueryFault α) := by
  unfold putRow writeDataOp
  dsimp only
  split
  · exact uncached_sendAfter _ id (uncached_send _ _ _)
  · exact uncached_send _ _ _

/-- A statement that ends by deleting a row. -/
theorem uncached_deleteRow
    (keyspace table : String)
    (keyParts : List Bytes)
    (result : WriteTicket shards → α) :
    Uncached json
      (internally (deleteRow keyspace table keyParts) >>=
        fun ticket => return result ticket :
          StorageProgram shards QueryFault α) := by
  unfold deleteRow writeDataOp
  dsimp only
  split
  · exact uncached_sendAfter _ id (uncached_send _ _ _)
  · exact uncached_send _ _ _

/-- The cells an UPDATE stores are computed without a change. -/
theorem updatedCells_unchanging
    (keyspace : String)
    (table : TableDef)
    (values : List (Nat × Value))
    (keyParts : List Bytes) :
    (updatedCells keyspace table values keyParts :
      StorageProgram shards QueryFault _).Never
        StorageAction.ChangesUncached := by
  unfold updatedCells
  split
  · exact Program.never_ofExcept _
  · have reads :
        (getRow keyspace table.name keyParts :
          StorageProgram shards Fault (Option Bytes)).Never
            StorageAction.ChangesUncached :=
      never_getRow (fun _ => id) (fun _ _ => id) (fun _ _ => id) _ _ _
    exact Program.Never.bind_all (reads.mapFailure internalErr)
      fun existing => Program.never_ofExcept _

/-- A failed INSERT changes no read without a row cache. -/
theorem execInsert_uncached
    (sessionKs : Option String)
    (ins : Insert)
    (binds : Binds) :
    Uncached json
      (execInsert json hexDecode sessionKs ins binds :
        StorageProgram shards QueryFault _) := by
  refine (reading_resolveTable _ _).bind_uncached fun named => ?_
  refine (Reading.ofExcept _).bind_uncached fun _ => ?_
  refine (Reading.ofExcept _).bind_uncached fun planned => ?_
  exact uncached_putRow _ _ _ _ _

/-- A failed DELETE changes no read without a row cache. -/
theorem execDelete_uncached
    (sessionKs : Option String)
    (del : Delete)
    (binds : Binds) :
    Uncached json
      (execDelete json hexDecode sessionKs del binds :
        StorageProgram shards QueryFault _) := by
  refine (reading_resolveTable _ _).bind_uncached fun named => ?_
  refine (Reading.ofExcept _).bind_uncached fun _ => ?_
  refine (Reading.ofExcept _).bind_uncached fun planned => ?_
  exact uncached_deleteRow _ _ _ _

/-- A failed UPDATE changes no read without a row cache. -/
theorem execUpdate_uncached
    (sessionKs : Option String)
    (upd : Update)
    (binds : Binds) :
    Uncached json
      (execUpdate json hexDecode sessionKs upd binds :
        StorageProgram shards QueryFault _) := by
  refine (reading_resolveTable _ _).bind_uncached fun named => ?_
  refine (Reading.ofExcept _).bind_uncached fun _ => ?_
  refine (Reading.ofExcept _).bind_uncached fun planned => ?_
  intro store final steps failure uncached ran
  rcases Program.FaultyRun.of_bind ran with
    ⟨_, failed, _⟩ | ⟨cells, middle, _, _, done, after, _⟩
  · have same := StatementRun.uncached_unchanged failed uncached
      (updatedCells_unchanging _ _ _ _)
    rw [same]
    exact .refl store
  · have same := StatementRun.uncached_unchanged done uncached
      (updatedCells_unchanging _ _ _ _)
    rw [same] at after
    exact uncached_putRow _ _ _ _ _ uncached after

end Uncached

/-- A statement that reads and writes one row of a table. -/
def Statement.WritesRow : Statement → Prop
  | .insert _ =>
      True
  | .update _ =>
      True
  | .delete _ =>
      True
  | _ =>
      False

/--
A statement that fails without an effect, or with any error but an internal one,
or on one row when there is no row cache, leaves every read as it was.
-/
theorem failed_statement_changes_nothing
    {shards : Nat}
    [NeZero shards]
    (json : CatalogJson)
    (hexDecode : HexDecode)
    (sessionKs : Option String)
    (binds : Binds)
    (pageSize : Option Int32)
    (pagingState : Option Bytes)
    (statement : Statement)
    (store final : Storage shards)
    (steps : List (StorageStep shards))
    (code : Nat)
    (message : String)
    (failed :
      StatementRun
        (executeStatement json hexDecode sessionKs binds pageSize pagingState
          statement) store steps (.error (.error code message)) final)
    (early :
      code ≠ 0x0000 ∨
        NoEffect steps ∨
        statement.WritesRow ∧ store.rowCache = none) :
    SameAnswers json store final := by
  rcases early with other | quiet | ⟨writesRow, uncached⟩
  · exact executeStatement_early sessionKs binds pageSize pagingState statement
      failed (.inl other)
  · exact executeStatement_early sessionKs binds pageSize pagingState statement
      failed (.inr quiet)
  · cases statement with
    | insert ins =>
        exact execInsert_uncached sessionKs ins binds uncached failed
    | update upd =>
        exact execUpdate_uncached sessionKs upd binds uncached failed
    | delete del =>
        exact execDelete_uncached sessionKs del binds uncached failed
    | _ =>
        exact writesRow.elim

/-- An undisturbed run of a store is one of its runs. -/
theorem StatementRun.of_run
    {shards : Nat}
    {α : Type}
    {program : StorageProgram shards QueryFault α}
    {store final : Storage shards}
    {outcome : QueryOutcome α}
    (ran : program.run answer store = (outcome, final)) :
    ∃ steps, StatementRun program store steps outcome final := by
  have run :
      ∃ steps,
        StatementRun program store steps (program.run answer store).1
          (program.run answer store).2 :=
    Program.FaultyRun.of_run (fun _ action => .answered action) program store
  rw [ran] at run
  exact run

/-- A channel that refuses the row an INSERT is about to queue. -/
theorem refused_putRow
    {α : Type}
    (store : Storage 1)
    (keyParts : List Bytes)
    (value : Bytes)
    (result : WriteTicket 1 → α) :
    ∃ steps,
      StatementRun
        (internally (putRow "bench" "kv" keyParts value) >>=
          fun ticket => return result ticket)
        store steps
        (.error (.error 0x0000 "internal error: storage writer is gone"))
        (store.mapCache fun cache =>
          cache.insert (rowKey "bench" "kv" keyParts) value) := by
  have cached : shouldCache "bench" = true := by decide
  unfold putRow
  simp only [cached, if_true]
  exact ⟨_, .act (.answered (.cacheInsert _ _)) (.act (.refused _ _) (.fail _ _))⟩

/-- An INSERT into `kvTable` whose channel refuses the row. -/
theorem refused_insert_changes_nothing :
    ∃ steps final,
      StatementRun
          (executeStatement cachedJson (fun _ => none) none .none none none
            (kvInsert [.const "1", .const "'a'"]))
          (storeWith false kvTable) steps
          (.error (.error 0x0000 "internal error: storage writer is gone")) final ∧
        SameAnswers cachedJson (storeWith false kvTable) final := by
  have planned :
      planInsert (fun _ => none) kvTable
          { tableName := kvName
            columns := [.unquoted "k", .unquoted "v"]
            values := .values [.const "1", .const "'a'"] } .none =
        .ok ([(Value.int 1).rawBytes], [(1, .text "a")], .none) := by
    decide +kernel
  obtain ⟨before, resolved⟩ :=
    StatementRun.of_run (resolveTable_kvName false)
  obtain ⟨after, refused⟩ :=
    refused_putRow (storeWith false kvTable) [(Value.int 1).rawBytes]
      (encodeRowColumns [(1, .text "a")])
      fun ticket => (⟨.void, [ticket], .none⟩ : Executed 1)
  have ran :
      StatementRun
        (executeStatement cachedJson (fun _ => none) none .none none none
          (kvInsert [.const "1", .const "'a'"]))
        (storeWith false kvTable) (before ++ after)
        (.error (.error 0x0000 "internal error: storage writer is gone"))
        (storeWith false kvTable) := by
    refine resolved.bind ?_
    show StatementRun
      (Program.ofExcept (checkWritable "bench") >>= fun _ =>
        Program.ofExcept (planInsert _ _ _ _) >>= _) _ _ _ _
    rw [planned]
    exact refused
  exact ⟨_, _, ran,
    failed_statement_changes_nothing _ _ _ _ _ _ _ _ _ _ _ _ ran
      (.inr (.inr ⟨trivial, rfl⟩))⟩

/-- `CREATE KEYSPACE app`. -/
def createApp : CreateKeyspace where
  ifNotExists := false
  name := .unquoted "app"
  replication := []

/-- An engine that fails to store the mirror row of a keyspace. -/
theorem broken_mirror
    (store : Storage 1)
    (cached :
      store.tables ("system_schema", "keyspaces") = some schemaKeyspacesTable)
    (result : Executed 1) :
    ∃ steps,
      StatementRun
        (internally (putSystemSchemaRow cachedJson "keyspaces" ["app"]
          (mirroredKeyspaceCells ⟨"app", []⟩)) >>= fun _ => return result)
        store steps
        (.error (.error 0x0000 "internal error: rocksdb put failed: IO error"))
        store := by
  have cells :
      (mirroredKeyspaceCells ⟨"app", []⟩).mapM
          (systemSchemaCell schemaKeyspacesTable) =
        .ok [(1, .boolean true), (2, .map [])] := by
    decide +kernel
  have broken :
      StatementRun
        (internally (Program.ofExcept
            ((mirroredKeyspaceCells ⟨"app", []⟩).mapM
              (systemSchemaCell schemaKeyspacesTable)) >>= fun row =>
            putRowSync "system_schema" "keyspaces" (["app"].map utf8)
              (encodeRowColumns row)) >>= fun _ => return result)
        store []
        (.error (.error 0x0000 "internal error: rocksdb put failed: IO error"))
        store := by
    rw [cells]
    exact .interrupt ⟨"rocksdb put failed: IO error", rfl⟩ _ _
  have looked :
      MayAnswer store (.tablesGet ("system_schema", "keyspaces"))
        (some schemaKeyspacesTable) store := by
    rw [← cached]
    exact .answered _
  exact ⟨_, .act looked broken⟩

/-- A CREATE KEYSPACE that fails leaves the keyspace behind. -/
theorem failed_create_keyspace_leaves_keyspace :
    ∃ steps final,
      StatementRun
          (executeStatement cachedJson (fun _ => none) none .none none none
            (.createKeyspace createApp))
          (storeWith false schemaKeyspacesTable) steps
          (.error (.error 0x0000 "internal error: rocksdb put failed: IO error"))
          final ∧
        ((getKeyspace cachedJson "app").run answer
            (storeWith false schemaKeyspacesTable)).1 = .ok none ∧
        ((getKeyspace cachedJson "app").run answer final).1 =
          .ok (some ⟨"app", []⟩) := by
  have absent :
      (getKeyspace cachedJson "app").run answer
          (storeWith false schemaKeyspacesTable) =
        (.ok none, storeWith false schemaKeyspacesTable) := by
    simp [getKeyspace, RhydaDB.get, atomically, Storage.answer, storeWith,
      Storage.fresh, Pipeline.start]
  let created :=
    (putKeyspace cachedJson ⟨"app", []⟩).run answer
      (storeWith false schemaKeyspacesTable)
  have put :
      (putKeyspace cachedJson ⟨"app", []⟩).run answer
          (storeWith false schemaKeyspacesTable) =
        (.ok (), created.2) :=
    rfl
  obtain ⟨first, looked⟩ :=
    StatementRun.of_run ((Program.run_mapFailure_eq_ok answer).mpr absent)
  obtain ⟨second, stored⟩ :=
    StatementRun.of_run ((Program.run_mapFailure_eq_ok answer).mpr put)
  obtain ⟨third, broken⟩ :=
    broken_mirror created.2 rfl
      ⟨.schemaChange "CREATED" "KEYSPACE" "app" "", [], .none⟩
  refine ⟨_, _, looked.bind (stored.bind broken), ?_, ?_⟩
  · rw [absent]
  · rfl

end RhydaDB
