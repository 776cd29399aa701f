import RhydaDB.SeedSystem
import RhydaDB.SerdeJson
import RhydaDB.WriteStatements

namespace RhydaDB

open ByteStrings AtomicPrograms FiniteRuns Program Storage

/-!
# Catalog histories with reopenings

One client calls the catalog's functions one after the other while the engines'
threads run.  Between two calls the store may be closed, which lets the engines
finish what is queued, and opened again: only engine contents survive, and the
system keyspaces are seeded as when the store was first opened.

What a lookup should return is read off the history of calls alone.
-/

/-- A call of the catalog's interface. -/
inductive CatalogCall where
  | putKeyspace (keyspace : KeyspaceDef)
  | getKeyspace (name : String)
  | deleteKeyspace (name : String)
  | putTable (table : TableDef)
  | getTable (keyspace table : String)
  | deleteTable (keyspace table : String)
  deriving Repr, DecidableEq

/-- What a call returns; the tickets of deletions are left out. -/
inductive CatalogAnswer where
  | done
  | keyspace (found : Option KeyspaceDef)
  | table (found : Option TableDef)
  deriving Repr, DecidableEq

/-! ## What calls should return -/

/-- The latest definition of a keyspace put and not since deleted. -/
def latestKeyspace (name : String) : List CatalogCall → Option KeyspaceDef
  | [] =>
      none
  | .putKeyspace keyspace :: earlier =>
      if keyspace.name = name then
        some keyspace
      else
        latestKeyspace name earlier
  | .deleteKeyspace deleted :: earlier =>
      if deleted = name then
        none
      else
        latestKeyspace name earlier
  | _ :: earlier =>
      latestKeyspace name earlier

/-- The latest definition of a table put and not since deleted. -/
def latestTable (keyspace table : String) : List CatalogCall → Option TableDef
  | [] =>
      none
  | .putTable definition :: earlier =>
      if definition.keyspace = keyspace ∧ definition.name = table then
        some definition
      else
        latestTable keyspace table earlier
  | .deleteTable deletedKeyspace deleted :: earlier =>
      if deletedKeyspace = keyspace ∧ deleted = table then
        none
      else
        latestTable keyspace table earlier
  | .deleteKeyspace deleted :: earlier =>
      if deleted = keyspace then
        none
      else
        latestTable keyspace table earlier
  | _ :: earlier =>
      latestTable keyspace table earlier

namespace CatalogCall

/-- What a call should return after the calls before it, latest first. -/
def expected (earlier : List CatalogCall) : CatalogCall → CatalogAnswer
  | .getKeyspace name =>
      .keyspace (latestKeyspace name earlier)
  | .getTable keyspace table =>
      .table (latestTable keyspace table earlier)
  | _ =>
      .done

/-- A keyspace of a user, named without `!`. -/
def UserKeyspace (name : String) : Prop :=
  BangFree name ∧ name ∉ systemKeyspaces

instance (name : String) : Decidable (UserKeyspace name) :=
  inferInstanceAs (Decidable (_ ∧ _))

/-- A call about user keyspaces and tables named without `!`. -/
def OverUsers : CatalogCall → Prop
  | .putKeyspace keyspace =>
      UserKeyspace keyspace.name
  | .getKeyspace name =>
      UserKeyspace name
  | .deleteKeyspace name =>
      UserKeyspace name
  | .putTable table =>
      UserKeyspace table.keyspace ∧ BangFree table.name
  | .getTable keyspace table =>
      UserKeyspace keyspace ∧ BangFree table
  | .deleteTable keyspace table =>
      UserKeyspace keyspace ∧ BangFree table

instance : (call : CatalogCall) → Decidable call.OverUsers
  | .putKeyspace _ =>
      inferInstanceAs (Decidable (UserKeyspace _))
  | .getKeyspace _ =>
      inferInstanceAs (Decidable (UserKeyspace _))
  | .deleteKeyspace _ =>
      inferInstanceAs (Decidable (UserKeyspace _))
  | .putTable _ =>
      inferInstanceAs (Decidable (_ ∧ _))
  | .getTable _ _ =>
      inferInstanceAs (Decidable (_ ∧ _))
  | .deleteTable _ _ =>
      inferInstanceAs (Decidable (_ ∧ _))

/-- The store's program for a call. -/
def program
    {shards : Nat} [NeZero shards]
    (json : CatalogJson) :
    CatalogCall → StorageProgram shards Fault CatalogAnswer
  | .putKeyspace keyspace => do
      RhydaDB.putKeyspace json keyspace
      return .done
  | .getKeyspace name => do
      let found ← RhydaDB.getKeyspace json name
      return .keyspace found
  | .deleteKeyspace name => do
      let _ ← RhydaDB.deleteKeyspace name
      return .done
  | .putTable table => do
      RhydaDB.putTable json table
      return .done
  | .getTable keyspace table => do
      let found ← RhydaDB.getTable json keyspace table
      return .table found
  | .deleteTable keyspace table => do
      let _ ← RhydaDB.deleteTable keyspace table
      return .done

end CatalogCall

/-- Every answered call returned what it should have, latest first. -/
def AnsweredAsExpected : List (CatalogCall × Except Fault CatalogAnswer) → Prop
  | [] =>
      True
  | (call, outcome) :: earlier =>
      outcome = .ok (call.expected (earlier.map Prod.fst)) ∧
        AnsweredAsExpected earlier

/-! ## The system -/

/-- What the store is doing for its client. -/
inductive CatalogPhase (shards : Nat) where
  | idle
  | opening (program : StorageProgram shards Fault Unit)
  | serving
      (call : CatalogCall)
      (program : StorageProgram shards Fault CatalogAnswer)

/-- The store, what it is doing and what it has answered, latest first. -/
structure CatalogClient (shards : Nat) where
  store : Storage shards
  phase : CatalogPhase shards
  answers : List (CatalogCall × Except Fault CatalogAnswer)

/-- One step of the client, the store or an engine's thread. -/
inductive CatalogLabel (shards : Nat) where
  | call (call : CatalogCall)
  | advance
  | engine (engine : Fin shards) (label : PipelineLabel)
  | reopen (ids : NodeIds)

/-- The store after closing and before seeding: only engine contents survive. -/
def Storage.reopened {shards : Nat} (store : Storage shards) : Storage shards where
  engines := fun engine =>
    Pipeline.start (store.engines engine).writeSync (store.engines engine).db
  keyspaces := fun _ => none
  tables := fun _ => none
  rowCache := store.rowCache.map fun _ => ∅

/-- Nothing is queued on any engine. -/
def Storage.Drained {shards : Nat} (store : Storage shards) : Prop :=
  ∀ engine, (store.engines engine).inFlight = []

instance {shards : Nat} (store : Storage shards) : Decidable store.Drained :=
  inferInstanceAs (Decidable (∀ _, _))

namespace CatalogClient

variable
  {shards : Nat} [NeZero shards]
  (json : CatalogJson)

/-- A store being opened for the first time. -/
def opening
    (shards : Nat) [NeZero shards]
    (writeSync caching : Bool)
    (ids : NodeIds) :
    CatalogClient shards where
  store := Storage.fresh shards writeSync caching
  phase := .opening (seedSystem json ids)
  answers := []

/-- Take one step, if it is enabled. -/
def step? (client : CatalogClient shards) :
    CatalogLabel shards → Option (CatalogClient shards)
  | .call call =>
      match client.phase with
      | .idle =>
          some { client with phase := .serving call (call.program json) }
      | _ =>
          none
  | .advance =>
      match client.phase with
      | .idle =>
          none
      | .opening (.act action next) =>
          some { client with
            store := (client.store.answer action).1
            phase := .opening (next (client.store.answer action).2) }
      | .opening (.pure _) =>
          some { client with phase := .idle }
      | .opening (.fail _) =>
          -- the server does not come up
          none
      | .serving call (.act action next) =>
          some { client with
            store := (client.store.answer action).1
            phase := .serving call (next (client.store.answer action).2) }
      | .serving call (.pure answer) =>
          some { client with
            phase := .idle
            answers := (call, .ok answer) :: client.answers }
      | .serving call (.fail fault) =>
          some { client with
            phase := .idle
            answers := (call, .error fault) :: client.answers }
  | .engine engine label =>
      if label.isThread then
        (client.store.engineStep? engine label).map fun store =>
          { client with store := store }
      else
        none
  | .reopen ids =>
      match client.phase with
      | .idle =>
          if client.store.Drained then
            some { client with
              store := client.store.reopened
              phase := .opening (seedSystem json ids) }
          else
            none
      | _ =>
          none

end CatalogClient

/-- A call is about user keyspaces; everything else is unrestricted. -/
def CatalogLabel.OverUsers {shards : Nat} : CatalogLabel shards → Prop
  | .call made =>
      made.OverUsers
  | _ =>
      True

instance {shards : Nat} : (label : CatalogLabel shards) → Decidable label.OverUsers
  | .call made =>
      inferInstanceAs (Decidable made.OverUsers)
  | .advance =>
      isTrue trivial
  | .engine _ _ =>
      isTrue trivial
  | .reopen _ =>
      isTrue trivial

/-- In every state, calls are about user keyspaces. -/
def CallsOverUsers {shards : Nat} (_ : CatalogClient shards) : CatalogLabel shards → Prop :=
  CatalogLabel.OverUsers

/-! ## The abstract catalog of a history -/

/-- On user keyspaces, a catalog is what a history of calls leaves. -/
structure Catalog.Follows (catalog : Catalog) (history : List CatalogCall) : Prop where
  keyspaces :
    ∀ name,
      name ∉ systemKeyspaces →
      catalog.keyspaces name = latestKeyspace name history
  tables :
    ∀ name : TableName,
      name.keyspace ∉ systemKeyspaces →
      catalog.tables name = latestTable name.keyspace name.table history

namespace Catalog.Follows

variable
  {catalog : Catalog}
  {history : List CatalogCall}

/-- Nothing has been called and nothing exists. -/
theorem empty : Catalog.empty.Follows [] :=
  ⟨fun _ _ => rfl, fun _ _ => rfl⟩

/-- A lookup changes nothing. -/
theorem getKeyspace
    (follows : catalog.Follows history)
    (name : String) :
    catalog.Follows (.getKeyspace name :: history) :=
  ⟨follows.keyspaces, follows.tables⟩

/-- A lookup changes nothing. -/
theorem getTable
    (follows : catalog.Follows history)
    (keyspace table : String) :
    catalog.Follows (.getTable keyspace table :: history) :=
  ⟨follows.keyspaces, follows.tables⟩

theorem putKeyspace
    (follows : catalog.Follows history)
    (keyspace : KeyspaceDef) :
    (catalog.putKeyspace keyspace.name keyspace).Follows
      (.putKeyspace keyspace :: history) := by
  refine ⟨?_, follows.tables⟩
  intro name isUser
  by_cases same : name = keyspace.name
  · simp [Catalog.putKeyspace, latestKeyspace, same]
  · simp [Catalog.putKeyspace, latestKeyspace, same, Ne.symm same,
      follows.keyspaces name isUser]

theorem deleteKeyspace
    (follows : catalog.Follows history)
    (deleted : String) :
    (catalog.deleteKeyspace deleted).Follows
      (.deleteKeyspace deleted :: history) := by
  constructor
  · intro name isUser
    by_cases same : name = deleted
    · simp [Catalog.deleteKeyspace, forgetTables, forgetKeyspace,
        latestKeyspace, same]
    · simp [Catalog.deleteKeyspace, forgetTables, forgetKeyspace,
        latestKeyspace, same, Ne.symm same, follows.keyspaces name isUser]
  · intro name isUser
    by_cases same : name.keyspace = deleted
    · simp [Catalog.deleteKeyspace, forgetTables, latestTable, same]
    · simp [Catalog.deleteKeyspace, forgetTables, forgetKeyspace, latestTable,
        same, Ne.symm same, follows.tables name isUser]

theorem putTable
    (follows : catalog.Follows history)
    {table : TableDef}
    (named : table.Named) :
    (catalog.putTable (table.tableName named) table).Follows
      (.putTable table :: history) := by
  refine ⟨follows.keyspaces, ?_⟩
  intro name isUser
  by_cases same : name = table.tableName named
  · simp [Catalog.putTable, latestTable, TableDef.tableName, same]
  · have names : ¬ (table.keyspace = name.keyspace ∧ table.name = name.table) := by
      rintro ⟨keyspaces, tables⟩
      exact same (TableName.ext_names keyspaces.symm tables.symm)
    simp [Catalog.putTable, latestTable, same, names,
      follows.tables name isUser]

theorem deleteTable
    (follows : catalog.Follows history)
    (deleted : TableName) :
    (catalog.deleteTable deleted).Follows
      (.deleteTable deleted.keyspace deleted.table :: history) := by
  refine ⟨follows.keyspaces, ?_⟩
  intro name isUser
  by_cases same : name = deleted
  · simp [Catalog.deleteTable, latestTable, same]
  · have names :
        ¬ (deleted.keyspace = name.keyspace ∧ deleted.table = name.table) := by
      rintro ⟨keyspaces, tables⟩
      exact same (TableName.ext_names keyspaces.symm tables.symm)
    simp [Catalog.deleteTable, latestTable, same, names,
      follows.tables name isUser]

/-- Defining tables of a system keyspace changes no user keyspace. -/
theorem foldl_define
    (follows : catalog.Follows history)
    {tables : List TableDef}
    (system : ∀ table ∈ tables, table.keyspace ∈ systemKeyspaces) :
    (tables.foldl Catalog.define catalog).Follows history := by
  induction tables generalizing catalog with
  | nil =>
      exact follows
  | cons table rest inductionHypothesis =>
      have defined : (catalog.define table).Follows history := by
        unfold Catalog.define
        split
        · rename_i named
          refine ⟨follows.keyspaces, ?_⟩
          intro name isUser
          have different : name ≠ table.tableName named := by
            rintro rfl
            exact isUser (system table (by simp))
          simpa [Catalog.putTable, different] using follows.tables name isUser
        · exact follows
      exact inductionHypothesis defined
        fun table member => system table (by simp [member])

/-- Seeding a system keyspace changes no user keyspace. -/
theorem seedKeyspace
    (follows : catalog.Follows history)
    {name : String}
    {tables : List TableDef}
    (isSystem : name ∈ systemKeyspaces)
    (system : ∀ table ∈ tables, table.keyspace ∈ systemKeyspaces) :
    (catalog.seedKeyspace name tables).Follows history := by
  unfold Catalog.seedKeyspace
  split
  · exact follows
  · apply foldl_define _ system
    refine ⟨?_, follows.tables⟩
    intro other isUser
    have different : other ≠ name := by
      rintro rfl
      exact isUser isSystem
    simpa [Catalog.putKeyspace, different] using
      follows.keyspaces other isUser

/-- Seeding changes no user keyspace. -/
theorem seed (follows : catalog.Follows history) : catalog.seed.Follows history :=
  ((follows.seedKeyspace (by decide) (by decide)).seedKeyspace (by decide)
    (by decide)).seedKeyspace (by decide) (by decide)

end Catalog.Follows

/-! ## Runs -/

section Runs

variable
  {shards : Nat} [NeZero shards]
  {json : CatalogJson}

/-- The threads of the engines may do anything. -/
abbrev anyEngineStep : Rely (Storage shards) :=
  engineRely fun _ => True

/-- The store holds a catalog that follows the history. -/
def FollowsHistory
    (json : CatalogJson)
    (history : List CatalogCall)
    (store : Storage shards) :
    Prop :=
  ∃ catalog : Catalog,
    catalog.Follows history ∧ Catalogued json catalog catalog store

/-- A call returns what it should and extends the history. -/
theorem CatalogCall.program_triple
    (roundTrips : json.RoundTrips)
    {call : CatalogCall}
    (overUsers : call.OverUsers)
    {catalog : Catalog}
    {history : List CatalogCall}
    (follows : catalog.Follows history) :
    Triple answer anyEngineStep
      (Catalogued json catalog catalog)
      (call.program json : StorageProgram shards Fault _)
      (fun returned store =>
        returned = call.expected history ∧
          FollowsHistory json (call :: history) store)
      noFailure := by
  cases call with
  | putKeyspace keyspace =>
      refine .bind (putKeyspace_catalogued keyspace) fun _ => ?_
      exact .pure (Catalogued.kept _ _ _ _) fun _ catalogued =>
        ⟨rfl, _, follows.putKeyspace keyspace, catalogued⟩
  | getKeyspace name =>
      refine .bind (getKeyspace_catalogued roundTrips name) fun found => ?_
      apply Triple.of_fact
      rintro rfl
      refine .pure (Catalogued.kept _ _ _ _) fun _ catalogued => ⟨?_, _,
        follows.getKeyspace name, catalogued⟩
      rw [follows.keyspaces name overUsers.2]
      rfl
  | deleteKeyspace name =>
      refine .bind (deleteKeyspace_catalogued name) fun _ => ?_
      exact .pure (Catalogued.kept _ _ _ _) fun _ catalogued =>
        ⟨rfl, _, follows.deleteKeyspace name, catalogued⟩
  | putTable table =>
      have named : table.Named := ⟨overUsers.1.1, overUsers.2⟩
      refine .bind (putTable_catalogued
        (show table.keyspace = (table.tableName named).keyspace from rfl)
        rfl) fun _ => ?_
      exact .pure (Catalogued.kept _ _ _ _) fun _ catalogued =>
        ⟨rfl, _, follows.putTable named, catalogued⟩
  | getTable keyspace table =>
      let name : TableName := ⟨keyspace, table, overUsers.1.1, overUsers.2⟩
      refine .bind (getTable_catalogued roundTrips name) fun found => ?_
      apply Triple.of_fact
      rintro rfl
      refine .pure (Catalogued.kept _ _ _ _) fun _ catalogued => ⟨?_, _,
        follows.getTable keyspace table, catalogued⟩
      rw [follows.tables name overUsers.1.2]
      rfl
  | deleteTable keyspace table =>
      let name : TableName := ⟨keyspace, table, overUsers.1.1, overUsers.2⟩
      refine .bind (deleteTable_catalogued name) fun _ => ?_
      exact .pure (Catalogued.kept _ _ _ _) fun _ catalogued =>
        ⟨rfl, _, follows.deleteTable name, catalogued⟩

/-- Reopening keeps the records and empties the maps. -/
theorem Catalogued.reopened
    {catalog : Catalog}
    {store : Storage shards}
    (catalogued : Catalogued json catalog catalog store) :
    Catalogued json catalog catalog store.reopened where
  isOpen := fun _ => ⟨Pipeline.ordered_start _ _, rfl⟩
  queued := by
    simp [Storage.reopened, Pipeline.start, Pipeline.inFlight,
      Pipeline.committerBatch, Pipeline.collectorBatch]
  keyspaceRecord := catalogued.keyspaceRecord
  tableRecord := catalogued.tableRecord
  keyspaceCached := fun _ _ held => nomatch held
  tableCached := fun _ _ held => nomatch held
  unnamedRecord := catalogued.unnamedRecord
  unnamedCached := fun _ _ _ => rfl

namespace CatalogClient

/-- The calls answered so far, latest first. -/
def history (client : CatalogClient shards) : List CatalogCall :=
  client.answers.map Prod.fst

/-- Whatever the store is doing will leave a catalog that follows the calls. -/
def OnTrack (json : CatalogJson) (client : CatalogClient shards) : Prop :=
  match client.phase with
  | .idle =>
      FollowsHistory json client.history client.store
  | .opening program =>
      program.Ensures answer anyEngineStep
        (fun _ => FollowsHistory json client.history) noFailure client.store
  | .serving call program =>
      program.Ensures answer anyEngineStep
        (fun returned store =>
          returned = call.expected client.history ∧
            FollowsHistory json (call :: client.history) store)
        noFailure client.store

/-- Answers so far are right, and the next one will be. -/
structure Consistent (json : CatalogJson) (client : CatalogClient shards) : Prop where
  answered : AnsweredAsExpected client.answers
  onTrack : client.OnTrack json

/-- Opening a store that follows the calls leaves one that does. -/
theorem onTrack_opening
    (roundTrips : json.RoundTrips)
    {history : List CatalogCall}
    {store : Storage shards}
    (follows : FollowsHistory json history store)
    (ids : NodeIds) :
    (seedSystem json ids : StorageProgram shards Fault _).Ensures answer
      anyEngineStep (fun _ => FollowsHistory json history) noFailure store := by
  obtain ⟨catalog, follows, catalogued⟩ := follows
  exact (seedSystem_catalogued roundTrips ids store catalogued).mono
    (fun _ _ seeded => ⟨_, follows.seed, seeded⟩) fun _ _ => id

/-- Thread steps keep a client on track. -/
theorem OnTrack.engine
    {client : CatalogClient shards}
    {store : Storage shards}
    (onTrack : client.OnTrack json)
    (moved : anyEngineStep.moves client.store store) :
    OnTrack json { client with store := store } := by
  unfold OnTrack at onTrack ⊢
  cases phase : client.phase with
  | idle =>
      rw [phase] at onTrack
      obtain ⟨catalog, follows, catalogued⟩ := onTrack
      exact ⟨catalog, follows, Catalogued.kept _ _ _ _ moved catalogued⟩
  | opening program =>
      rw [phase] at onTrack
      exact onTrack.later moved
  | serving call program =>
      rw [phase] at onTrack
      exact onTrack.later moved

/-- Every step keeps a client consistent. -/
theorem Consistent.step
    (roundTrips : json.RoundTrips)
    {client next : CatalogClient shards}
    {label : CatalogLabel shards}
    (allowed : CallsOverUsers client label)
    (taken : client.step? json label = some next)
    (consistent : client.Consistent json) :
    next.Consistent json := by
  obtain ⟨answered, onTrack⟩ := consistent
  cases label with
  | call call =>
      cases phase : client.phase with
      | idle =>
          simp only [step?, phase, Option.some.injEq] at taken
          subst taken
          simp only [OnTrack, phase] at onTrack
          obtain ⟨catalog, follows, catalogued⟩ := onTrack
          exact ⟨answered,
            call.program_triple roundTrips allowed follows client.store
              catalogued⟩
      | opening program =>
          simp [step?, phase] at taken
      | serving call program =>
          simp [step?, phase] at taken
  | advance =>
      cases phase : client.phase with
      | idle =>
          simp [step?, phase] at taken
      | opening program =>
          simp only [OnTrack, phase] at onTrack
          cases program with
          | pure value =>
              simp only [step?, phase, Option.some.injEq] at taken
              subst taken
              exact ⟨answered, onTrack.pure⟩
          | fail fault =>
              simp [step?, phase] at taken
          | act action continuation =>
              simp only [step?, phase, Option.some.injEq] at taken
              subst taken
              exact ⟨answered, onTrack.act⟩
      | serving call program =>
          simp only [OnTrack, phase] at onTrack
          cases program with
          | pure returned =>
              simp only [step?, phase, Option.some.injEq] at taken
              subst taken
              obtain ⟨asExpected, follows⟩ := onTrack.pure
              exact ⟨⟨congrArg Except.ok asExpected, answered⟩, follows⟩
          | fail fault =>
              exact onTrack.fail.elim
          | act action continuation =>
              simp only [step?, phase, Option.some.injEq] at taken
              subst taken
              exact ⟨answered, onTrack.act⟩
  | engine engine label =>
      simp only [step?] at taken
      split at taken
      · rename_i thread
        obtain ⟨store, moved, rfl⟩ := Option.map_eq_some_iff.mp taken
        exact ⟨answered, onTrack.engine
          (.single ⟨engine, label, thread, trivial, moved⟩)⟩
      · cases taken
  | reopen ids =>
      cases phase : client.phase with
      | idle =>
          simp only [step?, phase] at taken
          split at taken
          · cases taken
            simp only [OnTrack, phase] at onTrack
            obtain ⟨catalog, follows, catalogued⟩ := onTrack
            exact ⟨answered, onTrack_opening roundTrips
              ⟨catalog, follows, catalogued.reopened⟩ ids⟩
          · cases taken
      | opening program =>
          simp [step?, phase] at taken
      | serving call program =>
          simp [step?, phase] at taken

/-- A store being opened for the first time is consistent. -/
theorem consistent_opening
    (roundTrips : json.RoundTrips)
    (writeSync caching : Bool)
    (ids : NodeIds) :
    (opening json shards writeSync caching ids).Consistent json :=
  ⟨trivial, onTrack_opening roundTrips
    ⟨_, .empty, catalogued_fresh writeSync caching⟩ ids⟩

/-- A call under way is answered by the store's own steps. -/
theorem exists_answer
    (client : CatalogClient shards)
    {call : CatalogCall}
    {program : StorageProgram shards Fault CatalogAnswer}
    (phase : client.phase = .serving call program) :
    ∃ count later,
      run? (step? json) client (List.replicate count .advance) = some later ∧
        later.phase = .idle := by
  induction program generalizing client with
  | pure returned =>
      exact ⟨1, _, by simp [run?, step?, phase]; rfl, rfl⟩
  | fail fault =>
      exact ⟨1, _, by simp [run?, step?, phase]; rfl, rfl⟩
  | act action next inductionHypothesis =>
      obtain ⟨count, later, reached, idle⟩ :=
        inductionHypothesis (client.store.answer action).2
          { client with
            store := (client.store.answer action).1
            phase := .serving call (next (client.store.answer action).2) }
          rfl
      refine ⟨count + 1, later, ?_, idle⟩
      simpa [List.replicate_succ, run?, step?, phase] using reached

/-- An opening that cannot fail completes. -/
theorem exists_opened
    (client : CatalogClient shards)
    {program : StorageProgram shards Fault Unit}
    {post : Unit → Storage shards → Prop}
    (phase : client.phase = .opening program)
    (ensures :
      program.Ensures answer anyEngineStep post noFailure client.store) :
    ∃ count later,
      run? (step? json) client (List.replicate count .advance) = some later ∧
        later.phase = .idle := by
  induction program generalizing client with
  | pure returned =>
      exact ⟨1, _, by simp [run?, step?, phase]; rfl, rfl⟩
  | fail fault =>
      exact ensures.fail.elim
  | act action next inductionHypothesis =>
      obtain ⟨count, later, reached, idle⟩ :=
        inductionHypothesis (client.store.answer action).2
          { client with
            store := (client.store.answer action).1
            phase := .opening (next (client.store.answer action).2) }
          rfl ensures.act
      refine ⟨count + 1, later, ?_, idle⟩
      simpa [List.replicate_succ, run?, step?, phase] using reached

/-- A consistent client finishes what it is doing. -/
theorem Consistent.exists_idle
    {client : CatalogClient shards}
    (consistent : client.Consistent json) :
    ∃ count later,
      run? (step? json) client (List.replicate count .advance) = some later ∧
        later.phase = .idle := by
  have onTrack := consistent.onTrack
  unfold OnTrack at onTrack
  cases phase : client.phase with
  | idle =>
      exact ⟨0, client, rfl, phase⟩
  | opening program =>
      rw [phase] at onTrack
      exact client.exists_opened phase onTrack
  | serving call program =>
      exact client.exists_answer phase

end CatalogClient

/--
However calls about user keyspaces, thread steps and reopenings follow one
another, every call is answered by the latest definition put and not since
deleted, and a call under way or an opening always comes to its end.
-/
theorem catalog_survives_reopening
    (roundTrips : json.RoundTrips)
    {writeSync caching : Bool}
    {ids : NodeIds}
    {labels : List (CatalogLabel shards)}
    {client : CatalogClient shards}
    (run :
      Run (CatalogClient.step? json) CallsOverUsers
        (CatalogClient.opening json shards writeSync caching ids) labels
        client) :
    AnsweredAsExpected client.answers ∧
      ∃ count later,
        run? (CatalogClient.step? json) client
            (List.replicate count .advance) =
          some later ∧
          later.phase = .idle := by
  have consistent : client.Consistent json :=
    run.invariant
      (fun allowed taken holds =>
        CatalogClient.Consistent.step roundTrips allowed taken holds)
      (CatalogClient.consistent_opening roundTrips writeSync caching ids)
  exact ⟨consistent.answered, consistent.exists_idle⟩

end Runs

/-! ## A history with a keyspace that extends a deleted one -/

/-- A table of the given keyspace. -/
def counterTable (keyspace : String) : TableDef where
  keyspace := keyspace
  name := "kv"
  columns := [col "k" .int true, col "v" .text false]
  partitionKeys := ["k"]
  clusteringKeys := []

/-- A call and the store's steps for it. -/
def callFor (call : CatalogCall) (count : Nat) : List (CatalogLabel 2) :=
  .call call :: List.replicate count .advance

/-- The thread steps that settle one queued operation of an engine. -/
def settleEngine (engine : Fin 2) : List (CatalogLabel 2) :=
  [.receive, .closeBatch, .hand, .take, .write true, .release].map
    (.engine engine)

/--
Define `app` and `ap` with a table each, delete `ap`, reopen the store and look
both tables up.
-/
def reopeningLabels : List (CatalogLabel 2) :=
  List.replicate 38 .advance ++
    callFor (.putKeyspace ⟨"app", []⟩) 3 ++
    callFor (.putKeyspace ⟨"ap", []⟩) 3 ++
    callFor (.putTable (counterTable "app")) 3 ++
    callFor (.putTable (counterTable "ap")) 3 ++
    callFor (.deleteKeyspace "ap") 8 ++
    (List.finRange 2).flatMap settleEngine ++
    .reopen zeroIds :: List.replicate 10 .advance ++
    callFor (.getTable "app" "kv") 4 ++
    callFor (.getTable "ap" "kv") 3

/-- After the reopening, `app` still has its table and `ap` has none. -/
theorem catalog_survives_reopening_extended :
    ∃ client,
      Run (CatalogClient.step? serdeJson) CallsOverUsers
          (CatalogClient.opening serdeJson 2 false true zeroIds)
          reopeningLabels client ∧
        AnsweredAsExpected client.answers ∧
        (client.answers.take 2).map (fun answer => answer.2.toOption) =
          [some (.table none), some (.table (some (counterTable "app")))] := by
  have answers :
      (run? (CatalogClient.step? serdeJson)
          (CatalogClient.opening serdeJson 2 false true zeroIds)
          reopeningLabels).map
        (fun client =>
          (client.answers.take 2).map fun answer => answer.2.toOption) =
        some
          [some (.table none), some (.table (some (counterTable "app")))] := by
    decide +kernel
  obtain ⟨client, ran, looked⟩ := Option.map_eq_some_iff.mp answers
  have permitted :
      Permitted (CatalogClient.step? serdeJson) CallsOverUsers
        (CatalogClient.opening serdeJson 2 false true zeroIds)
        reopeningLabels := by
    have overUsers : ∀ label ∈ reopeningLabels, label.OverUsers := by
      decide +kernel
    exact permitted_of_forall (fun _ => overUsers) _
  have run := Run.of_run? permitted ran
  exact ⟨client, run, (catalog_survives_reopening serdeJson_roundTrips run).1,
    looked⟩

end RhydaDB
