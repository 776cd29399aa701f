import RhydaDB.Acknowledgement
import RhydaDB.CatalogIntegrity
import RhydaDB.StatementVerdicts

namespace RhydaDB

open ByteStrings AtomicPrograms FiniteRuns Program Storage

/-!
# Any number of statements side by side

Requests that leave the catalog alone, started at any time and interleaved with
each other and with the pipeline threads in any way.  Every one of them ends
with its verdict: no order of their steps makes a statement fail that would
have been accepted alone, and no statement can make a row unreadable for
another one.
-/

variable
  {shards : Nat} [NeZero shards]
  {json : CatalogJson}
  {catalog : Catalog}
  {hexDecode : HexDecode}

/-- The verdict on a request, unless its statement changes the catalog. -/
def Request.verdict?
    (catalog : Catalog)
    (hexDecode : HexDecode)
    (request : Request) :
    Option (QueryOutcome Verdict) :=
  request.statement.verdict? catalog hexDecode request.sessionKs
    (.new request.values)

/-- The request leaves the catalog alone and fits its formats. -/
def Request.LeavesCatalog
    (catalog : Catalog)
    (hexDecode : HexDecode)
    (request : Request) :
    Prop :=
  (request.verdict? catalog hexDecode).isSome = true ∧
    request.statement.Fits catalog hexDecode request.sessionKs
      (.new request.values)

/-- The task is on the way to its request's verdict, or has ended with it. -/
def Task.Judged
    (json : CatalogJson)
    (catalog : Catalog)
    (hexDecode : HexDecode)
    (task : Task shards) :
    Prop :=
  ∃ verdict,
    task.request.verdict? catalog hexDecode = some verdict ∧
      match task.phase with
      | .running program =>
          ServesVerdict json catalog verdict program
      | .settling response _ =>
          ∃ said, verdict = .ok said ∧ said.Describes response
      | .acknowledged response =>
          ∃ said, verdict = .ok said ∧ said.Describes response
      | .failed fault =>
          verdict = .error fault

/-- The store serves the catalog and every task is judged. -/
structure Server.Judged
    (json : CatalogJson)
    (catalog : Catalog)
    (hexDecode : HexDecode)
    (server : Server shards) :
    Prop where
  serves : Serves json catalog server.store
  tasks : ∀ task ∈ server.tasks, task.Judged json catalog hexDecode

/-- A request that leaves the catalog alone starts as a judged task. -/
theorem Request.task_judged
    (roundTrips : json.RoundTrips)
    (halves : hexDecode.Halves)
    (sound : catalog.Sound)
    {request : Request}
    (leaves : request.LeavesCatalog catalog hexDecode) :
    (request.task json hexDecode : Task shards).Judged json catalog hexDecode := by
  obtain ⟨verdict, judged⟩ := Option.isSome_iff_exists.mp leaves.1
  exact ⟨verdict, judged,
    executeStatement_serving roundTrips halves sound judged leaves.2 _ _⟩

namespace Server.Judged

variable
  {server next : Server shards}
  {label : ServerLabel shards}

/-- Replacing a task by a judged one keeps all tasks judged. -/
theorem tasks_set
    {tasks : List (Task shards)}
    (judged : ∀ task ∈ tasks, task.Judged json catalog hexDecode)
    {index : Nat}
    {moved : Task shards}
    (movedJudged : moved.Judged json catalog hexDecode) :
    ∀ task ∈ tasks.set index moved, task.Judged json catalog hexDecode := by
  intro task member
  rcases List.mem_or_eq_of_mem_set member with other | rfl
  · exact judged task other
  · exact movedJudged

/-- Every step keeps the store serving its catalog and all tasks judged. -/
theorem step
    (roundTrips : json.RoundTrips)
    (halves : hexDecode.Halves)
    (sound : catalog.Sound)
    (judged : server.Judged json catalog hexDecode)
    (leaves :
      server.Starts (fun _ request => request.LeavesCatalog catalog hexDecode)
        label)
    (taken : server.step? json hexDecode label = some next) :
    next.Judged json catalog hexDecode := by
  cases step?_sound taken with
  | start request =>
      refine ⟨judged.serves, ?_⟩
      intro task member
      rcases List.mem_append.mp member with old | fresh
      · exact judged.tasks task old
      · obtain rfl := List.mem_singleton.mp fresh
        exact request.task_judged roundTrips halves sound leaves
  | act found phase =>
      obtain ⟨verdict, isVerdict, running⟩ :=
        judged.tasks _ (List.mem_of_getElem? found)
      rw [phase] at running
      obtain ⟨serves, later⟩ := running _ judged.serves
      exact ⟨serves, tasks_set judged.tasks ⟨verdict, isVerdict, later⟩⟩
  | returned found phase =>
      obtain ⟨verdict, isVerdict, running⟩ :=
        judged.tasks _ (List.mem_of_getElem? found)
      rw [phase] at running
      exact ⟨judged.serves,
        tasks_set judged.tasks ⟨verdict, isVerdict, running⟩⟩
  | failed found phase =>
      obtain ⟨verdict, isVerdict, running⟩ :=
        judged.tasks _ (List.mem_of_getElem? found)
      rw [phase] at running
      exact ⟨judged.serves,
        tasks_set judged.tasks ⟨verdict, isVerdict, running⟩⟩
  | settled found phase complete =>
      obtain ⟨verdict, isVerdict, settling⟩ :=
        judged.tasks _ (List.mem_of_getElem? found)
      rw [phase] at settling
      exact ⟨judged.serves,
        tasks_set judged.tasks ⟨verdict, isVerdict, settling⟩⟩
  | acknowledged found phase =>
      obtain ⟨verdict, isVerdict, settling⟩ :=
        judged.tasks _ (List.mem_of_getElem? found)
      rw [phase] at settling
      exact ⟨judged.serves,
        tasks_set judged.tasks ⟨verdict, isVerdict, settling⟩⟩
  | engine thread moved =>
      exact ⟨judged.serves.thread thread moved, judged.tasks⟩

end Server.Judged

/-- The run starts only requests that leave the catalog alone. -/
def LeaveCatalog
    (catalog : Catalog)
    (hexDecode : HexDecode)
    (server : Server shards)
    (label : ServerLabel shards) :
    Prop :=
  server.Starts (fun _ request => request.LeavesCatalog catalog hexDecode) label

/--
In every interleaving of requests that leave the catalog alone, with each other
and with the pipeline threads, the store keeps only rows that its tables can
read, a request fails only with the error its verdict says, and a request that
is acknowledged answers as its verdict says.
-/
theorem statements_end_as_judged
    (roundTrips : json.RoundTrips)
    (halves : hexDecode.Halves)
    (sound : catalog.Sound)
    {store : Storage shards}
    (serves : Serves json catalog store)
    {labels : List (ServerLabel shards)}
    {server : Server shards}
    (run :
      Run (Server.step? json hexDecode) (LeaveCatalog catalog hexDecode)
        (.idle store) labels server) :
    Serves json catalog server.store ∧
      ∀ task ∈ server.tasks,
        (∀ fault,
          task.phase = .failed fault →
          task.request.verdict? catalog hexDecode = some (.error fault)) ∧
        ∀ response,
          task.phase = .acknowledged response →
          ∃ said,
            task.request.verdict? catalog hexDecode = some (.ok said) ∧
              said.Describes response := by
  have initially :
      (Server.idle store).Judged json catalog hexDecode :=
    ⟨serves, by simp [Server.idle]⟩
  have judged : server.Judged json catalog hexDecode :=
    run.invariant
      (fun leaves taken holds =>
        Server.Judged.step roundTrips halves sound holds leaves taken)
      initially
  refine ⟨judged.serves, fun task member => ⟨?_, ?_⟩⟩
  · intro fault phase
    obtain ⟨verdict, isVerdict, failed⟩ := judged.tasks task member
    rw [phase] at failed
    rw [isVerdict, failed]
  · intro response phase
    obtain ⟨verdict, isVerdict, acknowledged⟩ := judged.tasks task member
    rw [phase] at acknowledged
    obtain ⟨said, rfl, describes⟩ := acknowledged
    exact ⟨said, isVerdict, describes⟩

/-! ## Stores that serve a catalog -/

/-- A store over empty engines serves the empty catalog. -/
theorem serves_fresh (writeSync caching : Bool) :
    Serves json Catalog.empty (Storage.fresh shards writeSync caching) where
  catalogued := catalogued_fresh writeSync caching
  stored := fun _ _ _ _ _ _ exists_ => nomatch exists_
  queued := by
    simp [Storage.fresh, Pipeline.start, Pipeline.inFlight,
      Pipeline.committerBatch, Pipeline.collectorBatch]
  cached := fun _ _ _ _ _ exists_ => nomatch exists_

/-- No engine, queue or cache of the store binds a key under the prefix. -/
structure Storage.Lacks (store : Storage shards) (leading : Bytes) : Prop where
  stored :
    ∀ engine key,
      leading <+: key →
      (store.engines engine).db[key]? = none
  queued :
    ∀ engine,
      ∀ queued ∈ (store.engines engine).inFlight,
        ∀ key bytes,
          queued.op = .put key bytes →
          ¬ leading <+: key
  cached :
    ∀ key,
      leading <+: key →
      (store.rowCache.bind fun cache => cache[key]?) = none

/-- A binding outside a table's prefix is readable with the table as without it. -/
theorem Catalog.Reads.putTable
    {name : TableName}
    {key bytes : Bytes}
    (reads : catalog.Reads key bytes)
    (outside : ¬ name.dataPrefix <+: key)
    (table : TableDef) :
    (catalog.putTable name table).Reads key bytes := by
  intro other definition exists_ under
  have different : other ≠ name := by
    rintro rfl
    exact outside under
  refine reads other definition ?_ under
  simpa [Catalog.putTable, different] using exists_

/-- Defining a table under whose prefix there is nothing keeps the store serving. -/
theorem serves_putTable
    {store : Storage shards}
    (serves : Serves json catalog store)
    {name : TableName}
    (lacks : store.Lacks name.dataPrefix)
    {table : TableDef}
    (keyspaces : table.keyspace = name.keyspace)
    (tables : table.name = name.table) :
    Serves json (catalog.putTable name table)
      ((putTable json table).run answer store).2 := by
  have recorded := serves.catalogued.putTableRecord name table
  have defined := recorded.insertTable name table
  have isRecord : tableKey table.keyspace table.name = name.recordKey := by
    rw [keyspaces, tables]
    rfl
  have ran :
      ((putTable json table).run answer store).2 =
        (((store.answer (.dbWrite 0
            (.put name.recordKey (json.tableToVec table)))).1).answer
          (.tablesInsert (name.keyspace, name.table) table)).1 := by
    rw [putTable, isRecord, keyspaces, tables]
    rfl
  rw [ran]
  refine ⟨defined, ?_, ?_, ?_⟩
  · refine Serves.setEngine_readable ?_ ?_
    · intro engine key bytes found
      refine (serves.stored engine key bytes found).putTable ?_ table
      intro under
      rw [lacks.stored engine key under] at found
      cases found
    · intro key bytes found
      by_cases isKey : name.recordKey = key
      · subst isKey
        intro other definition _ under
        have isRow : dtPrefix <+: other.dataPrefix := by
          simp [TableName.dataPrefix, dataPrefix]
        exact (not_dtPrefix_prefix_tableKey _ _ (isRow.trans under)).elim
      · have before : (store.engines 0).db[key]? = some bytes := by
          simpa [Pipeline.directWrite, applyOp, isKey] using found
        refine (serves.stored 0 key bytes before).putTable ?_ table
        intro under
        rw [lacks.stored 0 key under] at before
        cases before
  · have readable :
        ∀ engine,
          ∀ queued ∈ (store.engines engine).inFlight,
            queued.op.Readable (catalog.putTable name table) := by
      intro engine queued member
      have before := serves.queued engine queued member
      cases op : queued.op with
      | put key bytes =>
          rw [op] at before
          exact before.putTable (lacks.queued engine queued member key bytes op)
            table
      | delete key =>
          trivial
      | deleteRange start stop =>
          trivial
    exact Serves.setEngine_queued readable (readable 0)
  · intro key bytes found
    refine (serves.cached key bytes found).putTable ?_ table
    intro under
    cases (lacks.cached key under).symm.trans found

/-! ## Two requests -/

/-- `bench` has no separator. -/
theorem bangFree_bench : BangFree "bench" := by
  decide

/-- The name of `kvTable`. -/
def kvTableName : TableName where
  keyspace := "bench"
  table := "kv"
  keyspaceFree := bangFree_bench
  tableFree := bangFree_kv

/-- The catalog of `kvTable`. -/
def kvCatalog : Catalog :=
  Catalog.empty.putTable kvTableName kvTable

/-- An empty one-engine store with `kvTable` in its catalog. -/
def kvServed : Storage 1 :=
  ((putTable serdeJson kvTable).run answer (Storage.fresh 1 false true)).2

/-- The store of `kvTable` serves its catalog. -/
theorem serves_kvServed : Serves serdeJson kvCatalog kvServed := by
  refine serves_putTable (serves_fresh false true) ⟨?_, ?_, ?_⟩ rfl rfl
  · simp [Storage.fresh, Pipeline.start]
  · simp [Storage.fresh, Pipeline.start, Pipeline.inFlight,
      Pipeline.committerBatch, Pipeline.collectorBatch]
  · simp [Storage.fresh]

/-- The catalog of `kvTable` is sound. -/
theorem sound_kvCatalog : kvCatalog.Sound := by
  have only :
      ∀ name table,
        kvCatalog.tables name = some table →
        name = kvTableName ∧ table = kvTable := by
    intro name table exists_
    by_cases same : name = kvTableName
    · subst same
      have isKv : kvCatalog.tables kvTableName = some kvTable := by
        simp [kvCatalog, Catalog.putTable]
      rw [isKv] at exists_
      exact ⟨rfl, (Option.some.inj exists_).symm⟩
    · simp [kvCatalog, Catalog.putTable, Catalog.empty, same] at exists_
  refine ⟨?_, ?_, ?_⟩
  · intro name table exists_
    obtain ⟨rfl, rfl⟩ := only name table exists_
    rfl
  · intro name table exists_
    obtain ⟨_, rfl⟩ := only name table exists_
    decide
  · intro name table exists_
    obtain ⟨_, rfl⟩ := only name table exists_
    decide

/-- `SELECT * FROM bench.kv`. -/
def kvSelectAll : Statement :=
  .select
    { tableName := kvName
      columns := [.star]
      whereClause := []
      limit := none }

/-- An INSERT and a scan of the same table in steps that alternate. -/
def insertBesideScan : List (ServerLabel 1) :=
  [.start (plainRequest (kvInsert [.const "1", .const "'a'"])),
    .start (plainRequest kvSelectAll),
    .advance 0, .advance 1, .advance 0, .advance 1, .advance 0] ++
    ([.receive, .closeBatch, .hand, .take, .write true, .release].map
      (.engine 0)) ++
    [.advance 1, .advance 0, .advance 1, .advance 0, .advance 0]

/-- `bench.kv` resolves to `kvTable`. -/
theorem resolve_kvName : kvCatalog.resolve none kvName = .ok ("bench", kvTable) := by
  decide

/-- The INSERT of `(1, 'a')` leaves the catalog alone. -/
theorem kvInsert_leavesCatalog :
    (plainRequest (kvInsert [.const "1", .const "'a'"])).LeavesCatalog kvCatalog
      fun _ => none := by
  refine ⟨rfl, ⟨?_, by simp [Binds.FitFrame, plainRequest, Binds.new]⟩, ?_⟩
  · rintro operands ⟨⟩ operand operandMember
    simp only [List.mem_cons, List.not_mem_nil, or_false] at operandMember
    rcases operandMember with rfl | rfl
    · exact (by decide : "1".length ≤ maxFrameLength)
    · exact (by decide : "'a'".length ≤ maxFrameLength)
  · intro keyspace table found keyParts cells rest planned
    cases resolve_kvName.symm.trans found
    have isPlanned :
        planInsert (fun _ => none) kvTable
            { tableName := kvName
              columns := [.unquoted "k", .unquoted "v"]
              values := .values [.const "1", .const "'a'"] } (.new []) =
          .ok ([[0, 0, 0, 1]], [(1, .text "a")], .new []) := by
      decide
    cases isPlanned.symm.trans planned
    decide

/-- The scan leaves the catalog alone. -/
theorem kvSelectAll_leavesCatalog :
    (plainRequest kvSelectAll).LeavesCatalog kvCatalog fun _ => none := by
  refine ⟨rfl, ?_⟩
  intro keyspace table found filters rest keyParts parsed fixed
  cases resolve_kvName.symm.trans found
  cases parsed
  cases fixed

/-- Both requests leave the catalog alone. -/
theorem insertBesideScan_leaveCatalog :
    Permitted (Server.step? serdeJson fun _ => none)
      (LeaveCatalog kvCatalog fun _ => none) (.idle kvServed) insertBesideScan := by
  apply permitted_of_forall
  intro server label member
  simp only [insertBesideScan, List.cons_append, List.nil_append, List.map_cons,
    List.map_nil, List.mem_cons, List.not_mem_nil, or_false] at member
  rcases member with rfl | rfl | rfl | rfl | rfl | rfl | rfl | rfl | rfl | rfl |
    rfl | rfl | rfl | rfl | rfl | rfl | rfl | rfl
  · exact kvInsert_leavesCatalog
  · exact kvSelectAll_leavesCatalog
  all_goals trivial

/-- The INSERT and the scan both end with their verdicts. -/
theorem statements_end_as_judged_kv :
    ∃ server,
      Run (Server.step? serdeJson fun _ => none)
          (LeaveCatalog kvCatalog fun _ => none) (.idle kvServed)
          insertBesideScan server ∧
        server.tasks.map Task.isAcknowledged = [true, true] ∧
        Serves serdeJson kvCatalog server.store ∧
        ∀ task ∈ server.tasks,
          (∀ fault,
            task.phase = .failed fault →
            task.request.verdict? kvCatalog (fun _ => none) =
              some (.error fault)) ∧
          ∀ response,
            task.phase = .acknowledged response →
            ∃ said,
              task.request.verdict? kvCatalog (fun _ => none) =
                  some (.ok said) ∧
                said.Describes response := by
  have served :
      (run? (Server.step? serdeJson fun _ => none) (.idle kvServed)
          insertBesideScan).map
          (fun server => server.tasks.map Task.isAcknowledged) =
        some [true, true] := by
    decide +kernel
  obtain ⟨server, ran, acknowledged⟩ := Option.map_eq_some_iff.mp served
  have run := Run.of_run? insertBesideScan_leaveCatalog ran
  have halves : HexDecode.Halves fun _ => none := nofun
  exact ⟨server, run, acknowledged,
    statements_end_as_judged serdeJson_roundTrips halves sound_kvCatalog
      serves_kvServed run⟩

end RhydaDB
