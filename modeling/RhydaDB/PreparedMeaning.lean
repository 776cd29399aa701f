import RhydaDB.Accesses
import RhydaDB.PreparedIds

namespace RhydaDB

open ByteStrings AtomicPrograms FiniteRuns Fallible Storage

/-!
# What an EXECUTE does with a prepared statement

The registry keeps a statement's tree and the number of its bind variables.
Keyspace, table and types are looked up again by every EXECUTE, in the session
keyspace and the catalog of that moment.  Here requests are served one after
the other; between them the engines and other connections move on.
-/

variable {shards : Nat} [NeZero shards]

section Prepared

variable
  {json : CatalogJson}
  {hexDecode : HexDecode}
  {shortNames : Statement → String}
  {sessionKs : Option String}
  {statement : Statement}
  {store : Storage shards}

/-- What is announced names the table the statement resolves to. -/
theorem preparedInfo_eq_ok
    {info : PreparedInfo}
    {prepared : Storage shards}
    (prepares :
      (preparedInfo json shortNames sessionKs statement).run answer store =
        (.ok info, prepared)) :
    ∃ name table next,
      statement.tableName = some name ∧
        (resolveTable json sessionKs name).run answer store =
          (.ok (info.keyspace, table), next) ∧
        info.table = table.name := by
  cases statement with
  | insert ins =>
      simp only [preparedInfo, Program.run_bind_eq_ok, Program.run_ofExcept,
        Program.run_return, Prod.mk.injEq, Except.ok.injEq, Prod.exists]
        at prepares
      obtain ⟨keyspace, table, next, resolved, _, _, _, rfl, _⟩ := prepares
      exact ⟨ins.tableName, table, next, rfl, resolved, rfl⟩
  | update upd =>
      simp only [preparedInfo, Program.run_bind_eq_ok, Program.run_ofExcept,
        Program.run_return, Prod.mk.injEq, Except.ok.injEq, Prod.exists]
        at prepares
      obtain ⟨keyspace, table, next, resolved, _, _, _, _, _, _, rfl, _⟩ :=
        prepares
      exact ⟨upd.tableName, table, next, rfl, resolved, rfl⟩
  | select sel =>
      simp only [preparedInfo, Program.run_bind_eq_ok, Program.run_ofExcept,
        Program.run_return, Prod.mk.injEq, Except.ok.injEq, Prod.exists]
        at prepares
      obtain ⟨keyspace, table, next, resolved, _, _, _, _, _, _, rfl, _⟩ :=
        prepares
      exact ⟨sel.tableName, table, next, rfl, resolved, rfl⟩
  | delete del =>
      simp only [preparedInfo, Program.run_bind_eq_ok, Program.run_ofExcept,
        Program.run_return, Prod.mk.injEq, Except.ok.injEq, Prod.exists]
        at prepares
      obtain ⟨keyspace, table, next, resolved, _, _, _, rfl, _⟩ := prepares
      exact ⟨del.tableName, table, next, rfl, resolved, rfl⟩
  | _ =>
      cases prepares

/-- A response with rows names the keyspace and the table it read. -/
def Response.NamesTable (keyspace table : String) : Response → Prop
  | .rows keyspace' table' _ _ _ _ =>
      keyspace' = keyspace ∧ table' = table
  | _ =>
      True

/-- A statement answers for the table it resolved. -/
theorem executeStatement_namesTable
    {name : FQName}
    {keyspace : String}
    {table : TableDef}
    {binds : Binds}
    {pageSize : Option Int32}
    {pagingState : Option Bytes}
    {executed : Executed shards}
    {next final : Storage shards}
    (named : statement.tableName = some name)
    (resolved :
      (resolveTable json sessionKs name).run answer store =
        (.ok (keyspace, table), next))
    (executes :
      (executeStatement json hexDecode sessionKs binds pageSize pagingState
          statement).run answer store =
        (.ok executed, final)) :
    executed.response.NamesTable keyspace table.name := by
  cases statement with
  | insert ins =>
      obtain ⟨_, _, _, _, _, _, _, _, _, _, _, rfl⟩ := execInsert_eq_ok executes
      trivial
  | update upd =>
      obtain ⟨_, _, _, _, _, _, _, _, _, _, _, _, _, _, rfl⟩ :=
        execUpdate_eq_ok executes
      trivial
  | delete del =>
      obtain ⟨_, _, _, _, _, _, _, _, _, _, rfl⟩ := execDelete_eq_ok executes
      trivial
  | select sel =>
      cases named
      simp only [executeStatement] at executes
      rw [execSelect_run resolved] at executes
      obtain ⟨_, _, _, _, _, _, _, _, _, _, _, rfl⟩ := selectFrom_eq_ok executes
      exact ⟨rfl, rfl⟩
  | _ =>
      cases named

end Prepared

/-! ## Sessions -/

/-- One step of a session whose requests are served one after the other. -/
inductive SessionLabel (shards : Nat) where
  | request (frame : Frame)
  | engine (engine : Fin shards) (label : PipelineLabel)
  /-- An access to the store on behalf of another connection. -/
  | elsewhere (action : StorageAction shards)

variable (crates : Crates)

/-- Take one step of a session. -/
def ConnState.serve? (state : ConnState shards) :
    SessionLabel shards → Option (ConnState shards)
  | .request frame =>
      some ((handleRequest crates frame).run answer state).2
  | .engine engine label =>
      if label.isThread then
        (state.store.engineStep? engine label).map fun store =>
          { state with store := store }
      else
        none
  | .elsewhere action =>
      some { state with store := (state.store.answer action).1 }

omit [NeZero shards] in
/-- The access touches rows that are not under the prefix. -/
def ConnAction.Outside (leading : Bytes) : ConnAction shards → Prop
  | .storage action =>
      action.Outside leading
  | _ =>
      False

/-- The frame is an EXECUTE of the id. -/
def Frame.Executes (frame : Frame) (id : Bytes) : Prop :=
  frame.opcode = .execute ∧
    ∃ rest, readShortBytes frame.body = some (id, rest)

/--
Serving a frame did what a PREPARE response announced: it touched rows of the
announced table only, answered for that table, and decoded the i-th value for
the i-th announced variable.
-/
structure ExecutedAs
    (state : ConnState shards)
    (frame : Frame)
    (info : PreparedInfo)
    (executed : Executed shards) :
    Prop where
  rows :
    ∀ action ∈ (handleRequest crates frame).trace ConnState.answer state,
      ¬ action.Outside (dataPrefix info.keyspace info.table)
  response : executed.response.NamesTable info.keyspace info.table
  binds : executed.binds.Follows info.bindSpecs

/--
A successful EXECUTE does what every PREPARE response that issued its id
announced.
-/
def AsAnnounced (state : ConnState shards) : SessionLabel shards → Prop
  | .request frame =>
      ∀ id executed final,
        frame.Executes id →
        (handleRequest crates frame).run ConnState.answer state =
          (.ok (.executed executed), final) →
        ∀ entry ∈ state.shared.issued,
          entry.1 = id →
          ExecutedAs crates state frame entry.2.info executed
  | _ =>
      True

/--
Preparing the statement again would announce the same keyspace, table and bind
variables, and its two traversals agree on that table.
-/
def Statement.StillMeans
    (json : CatalogJson)
    (shortNames : Statement → String)
    (sessionKs : Option String)
    (store : Storage shards)
    (info : PreparedInfo)
    (statement : Statement) :
    Prop :=
  ∃ now after,
    (preparedInfo json shortNames sessionKs statement).run answer store =
        (.ok now, after) ∧
      now.keyspace = info.keyspace ∧
      now.table = info.table ∧
      now.bindSpecs = info.bindSpecs ∧
      ∀ table,
        statement.ResolvesTo json sessionKs store table →
        statement.BindsAgree table

/--
Where the step is an EXECUTE, its id is registered for a statement that still
means what every PREPARE response with that id announced.
-/
def KeepsMeaning (state : ConnState shards) : SessionLabel shards → Prop
  | .request frame =>
      ∀ id prepared,
        frame.Executes id →
        state.shared.prepared id = some prepared →
        ∀ entry ∈ state.shared.issued,
          entry.1 = id →
          prepared.statement.StillMeans crates.json crates.shortNames
            state.shared.keyspace state.store entry.2.info
  | _ =>
      True

/-- The storage program of an EXECUTE. -/
def executePrepared
    (sessionKs : Option String)
    (parameters : QueryParameters)
    (statement : Statement) :
    StorageProgram shards QueryFault (Executed shards) :=
  executeStatement crates.json crates.hexDecode sessionKs
    (.new parameters.values) parameters.pageSize parameters.pagingState
    statement

/-- What a successful EXECUTE ran. -/
theorem handleRequest_execute_eq_ok
    {state final : ConnState shards}
    {frame : Frame}
    {id : Bytes}
    {executed : Executed shards}
    (executes : frame.Executes id)
    (served :
      (handleRequest crates frame).run ConnState.answer state =
        (.ok (.executed executed), final)) :
    ∃ prepared parameters after,
      state.shared.prepared id = some prepared ∧
        (handleRequest crates frame).trace ConnState.answer state =
          .preparedGet id ::
            (handleExecute crates prepared parameters).trace ConnState.answer
              state ∧
        parameters.values.length = prepared.bindTypes.length ∧
        (executePrepared crates state.shared.keyspace parameters
            prepared.statement).run answer state.store =
          (.ok executed, after) := by
  obtain ⟨isExecute, rest, read⟩ := executes
  simp only [handleRequest, isExecute, read, access, Program.perform_bind,
    Program.run_act, Program.trace, ConnState.answer] at served ⊢
  cases found : state.shared.prepared id with
  | none =>
      simp [found] at served
  | some prepared =>
      simp only [found] at served ⊢
      cases readRest : crates.readParameters rest with
      | none =>
          simp [readRest] at served
      | some parameters =>
          simp only [readRest] at served ⊢
          simp only [handleExecute] at served
          split at served
          · cases served
          · rename_i count
            simp only [access, Program.perform_bind, Program.run_act,
              ConnState.answer, Program.run_bind_eq_ok, ConnState.run_onStore,
              Prod.mk.injEq, ConnState.run_settle, Program.run_return,
              Except.ok.injEq, Reply.executed.injEq] at served
            obtain ⟨_, _, ⟨ran, rfl⟩, _, _, _, rfl, _⟩ := served
            exact ⟨prepared, parameters, _, rfl, rfl, not_not.mp count,
              Prod.ext ran rfl⟩

/-- An EXECUTE touches what its statement does. -/
theorem handleExecute_not_outside
    {state : ConnState shards}
    {prepared : PreparedStmt}
    {parameters : QueryParameters}
    {executed : Executed shards}
    {after : Storage shards}
    {leading : Bytes}
    (count : parameters.values.length = prepared.bindTypes.length)
    (ran :
      (executePrepared crates state.shared.keyspace parameters
          prepared.statement).run answer state.store =
        (.ok executed, after))
    (within :
      ∀ action ∈
          (executePrepared crates state.shared.keyspace parameters
            prepared.statement).trace answer state.store,
        ¬ action.Outside leading) :
    ∀ action ∈
        (handleExecute crates prepared parameters).trace ConnState.answer
          state,
      ¬ action.Outside leading := by
  have ranHere :
      (onStore (executePrepared crates state.shared.keyspace parameters
          prepared.statement)).run ConnState.answer state =
        (.ok executed, { state with store := after }) := by
    rw [ConnState.run_onStore, ran]
  have settled :
      (settle executed.gates >>= fun _ =>
        (return Reply.executed executed :
          ConnProgram shards (Reply shards))).Never (·.Outside leading) := by
    apply (never_settle (fun _ => id) _).bind_all
    intro _
    trivial
  have performed :
      (handleExecute crates prepared parameters).trace ConnState.answer state =
        .keyspace ::
          (((executePrepared crates state.shared.keyspace parameters
              prepared.statement).trace answer state.store).map .storage ++
            (settle executed.gates >>= fun _ =>
              (return Reply.executed executed :
                ConnProgram shards (Reply shards))).trace ConnState.answer
                  { state with store := after }) := by
    simp only [handleExecute, count, ne_eq, not_true, if_false, access,
      Program.perform_bind, Program.trace, ConnState.answer]
    rw [← ConnState.trace_onStore]
    exact congrArg (_ :: ·) (Program.trace_bind_of_ok ConnState.answer ranHere)
  rw [performed]
  intro action member
  rcases List.mem_cons.mp member with rfl | member
  · exact fun touches => touches
  · rcases List.mem_append.mp member with inside | later
    · obtain ⟨touched, isTouched, rfl⟩ := List.mem_map.mp inside
      exact within touched isTouched
    · exact settled.not_mem_trace ConnState.answer _ action later

/-- An EXECUTE of a statement that still means the same does as announced. -/
theorem asAnnounced_of_keepsMeaning
    {state : ConnState shards}
    {label : SessionLabel shards}
    (keeps : KeepsMeaning crates state label) :
    AsAnnounced crates state label := by
  cases label with
  | engine engine label =>
      trivial
  | elsewhere action =>
      trivial
  | request frame =>
      intro id executed final executes served entry member sameId
      obtain ⟨prepared, parameters, after, found, performed, count, ran⟩ :=
        handleRequest_execute_eq_ok crates executes served
      obtain ⟨now, _, prepares, sameKeyspace, sameTable, sameSpecs, agree⟩ :=
        keeps id prepared executes found entry member sameId
      obtain ⟨name, table, next, named, resolved, tableName⟩ :=
        preparedInfo_eq_ok prepares
      have within :
          ∀ action ∈
              (executePrepared crates state.shared.keyspace parameters
                prepared.statement).trace answer state.store,
            ¬ action.Outside (dataPrefix now.keyspace now.table) := by
        rw [tableName]
        exact executeStatement_not_outside crates.json crates.hexDecode named
          resolved
      refine ⟨?_, ?_, ?_⟩
      · rw [performed, ← sameKeyspace, ← sameTable]
        intro action member
        rcases List.mem_cons.mp member with rfl | later
        · exact fun touches => touches
        · exact handleExecute_not_outside crates count ran within action later
      · rw [← sameKeyspace, ← sameTable, tableName]
        exact executeStatement_namesTable named resolved ran
      · rw [← sameSpecs]
        exact (statement_follows_iff named resolved resolved prepares ran).mpr
          (agree table ⟨name, now.keyspace, next, named, resolved⟩)

/--
In every run of a session in which each EXECUTE finds a statement that still
means what was announced under its id, every EXECUTE that succeeds does as
announced.
-/
theorem executes_as_announced
    {store : Storage shards}
    {labels : List (SessionLabel shards)}
    {final : ConnState shards}
    (run :
      Run (ConnState.serve? crates) (KeepsMeaning crates) ⟨store, .new⟩ labels
        final) :
    Permitted (ConnState.serve? crates) (AsAnnounced crates) ⟨store, .new⟩
      labels :=
  run.permitted fun _ _ => asAnnounced_of_keepsMeaning crates

/-! ### An unqualified statement and a change of keyspace -/

/-- `INSERT INTO kv (k, v) VALUES (?, ?)` with or without a keyspace. -/
def kvInsertTwo (keyspace : Option Identifier) : Statement :=
  .insert
    { tableName := ⟨keyspace, .unquoted "kv"⟩
      columns := [.unquoted "k", .unquoted "v"]
      values := .values [.param "?", .param "?"] }

/-- A parser for the texts below, and the layout of their parameters. -/
def sessionCrates : Crates where
  parse := fun text =>
    [("USE bench", Statement.use (.unquoted "bench")),
      ("USE other", .use (.unquoted "other")),
      ("USE\tother", .use (.unquoted "other")),
      ("INSERT INTO kv (k, v) VALUES (?, ?)", kvInsertTwo none),
      ("INSERT INTO bench.kv (k, v) VALUES (?, ?)",
        kvInsertTwo (some (.unquoted "bench")))].lookup text
  shortNames := fun _ => ""
  readParameters := fun body =>
    [(([0, 1, 0] : Bytes), (⟨[], none, none⟩ : QueryParameters)),
      ([0, 1, 1, 0, 2, 0, 0, 0, 4, 0, 0, 0, 5, 0, 0, 0, 1, 97],
        ⟨[some [0, 0, 0, 5], some [97]], none, none⟩)].lookup body
  json := cachedJson
  hexDecode := fun _ => none

/-- A text behind its length. -/
def longString (text : String) : Bytes :=
  toBe 4 (utf8 text).length ++ utf8 text

/-- A QUERY without values. -/
def queryFrame (text : String) : Frame :=
  ⟨.query, longString text ++ [0, 1, 0]⟩

/-- A PREPARE. -/
def prepareFrame (text : String) : Frame :=
  ⟨.prepare, longString text⟩

/-- The values 5 and `a` as parameters of a request. -/
def twoValues : Bytes :=
  [0, 1, 1, 0, 2, 0, 0, 0, 4, 0, 0, 0, 5, 0, 0, 0, 1, 97]

/-- An EXECUTE of the first id with the two values. -/
def executeFrame : Frame :=
  ⟨.execute, [0, 2, 0, 1] ++ twoValues⟩

/-- An empty store with the table `kv` in two keyspaces. -/
def twoKeyspaces : Storage 1 :=
  { Storage.fresh 1 false false with
    keyspaces := fun name =>
      if name ∈ ["bench", "other"] then some ⟨name, []⟩ else none
    tables := fun name =>
      if name ∈ [("bench", "kv"), ("other", "kv")] then
        some { kvTable with keyspace := name.1 }
      else
        none }

/-- The key an access is about. -/
def ConnAction.key? : ConnAction shards → Option Bytes
  | .storage action =>
      action.key?
  | _ =>
      none

/-- Whether a reply reports an execution. -/
def Reply.isExecuted : Reply shards → Bool
  | .executed _ =>
      true
  | .prepared _ _ =>
      false

/-- In any session the qualified name resolves to `kvTable`. -/
theorem resolveTable_twoKeyspaces (sessionKs : Option String) :
    (resolveTable cachedJson sessionKs kvName).run answer twoKeyspaces =
      (.ok ("bench", kvTable), twoKeyspaces) := by
  have known : twoKeyspaces.tables ("bench", "kv") = some kvTable := by
    simp [twoKeyspaces, kvTable]
  have named : nameKeyspace sessionKs kvName = .ok "bench" := by
    simp only [nameKeyspace, kvName]
    decide
  exact resolveTable_run_cached named known

/-- The metadata of the qualified statement in any session. -/
theorem preparedInfo_kvInsertTwo (sessionKs : Option String) :
    (preparedInfo cachedJson (fun _ => "") sessionKs
        (kvInsertTwo (some (.unquoted "bench")))).run answer twoKeyspaces =
      (.ok ⟨"bench", "kv", [("k", .int), ("v", .text)], [0], []⟩,
        twoKeyspaces) := by
  have announced :
      [Identifier.unquoted "k", .unquoted "v"].mapM (columnSpec kvTable) =
        .ok [("k", .int), ("v", .text)] := by
    decide +kernel
  have positions :
      primaryKeyPositions kvTable [.unquoted "k", .unquoted "v"] = [0] := by
    decide +kernel
  change (resolveTable cachedJson sessionKs kvName >>= _).run answer _ = _
  rw [Program.run_bind_of_ok answer (resolveTable_twoKeyspaces sessionKs)]
  simp only [announced, positions, Program.ofExcept, Program.return_bind]
  rfl

/-- The qualified statement means the same in any session. -/
theorem kvInsertTwo_stillMeans (sessionKs : Option String) :
    (kvInsertTwo (some (.unquoted "bench"))).StillMeans cachedJson (fun _ => "")
      sessionKs twoKeyspaces
      ⟨"bench", "kv", [("k", .int), ("v", .text)], [0], []⟩ := by
  refine ⟨_, _, preparedInfo_kvInsertTwo sessionKs, rfl, rfl, rfl, ?_⟩
  rintro table ⟨name, keyspace, next, named, resolved⟩
  obtain rfl : kvName = name := Option.some.inj named
  rw [resolveTable_twoKeyspaces] at resolved
  cases resolved
  refine ⟨by simp [Operand.isParam], ?_⟩
  simp only [List.mem_cons, List.not_mem_nil, or_false, forall_eq_or_imp,
    forall_eq]
  decide +kernel

/-- A qualified PREPARE, a USE of another keyspace and an EXECUTE of the id. -/
def qualifiedLabels : List (SessionLabel 1) :=
  [.request (prepareFrame "INSERT INTO bench.kv (k, v) VALUES (?, ?)"),
    .request (queryFrame "USE other"),
    .request executeFrame]

/-- The connection after the qualified PREPARE, in a session keyspace. -/
def qualifiedState (sessionKs : Option String) : ConnState 1 :=
  let entry : PreparedStmt :=
    ⟨kvInsertTwo (some (.unquoted "bench")), [.int, .text],
      "INSERT INTO bench.kv (k, v) VALUES (?, ?)",
      ⟨"bench", "kv", [("k", .int), ("v", .text)], [0], []⟩⟩
  ⟨twoKeyspaces,
    { ConnShared.new with
      keyspace := sessionKs
      nextPreparedId := 2
      prepared := Function.update (fun _ => none) [0, 1] (some entry)
      issued := [([0, 1], entry)] }⟩

/-- The qualified PREPARE registers its statement. -/
theorem qualifiedState_eq :
    ((handleRequest sessionCrates
        (prepareFrame "INSERT INTO bench.kv (k, v) VALUES (?, ?)")).run
          ConnState.answer ⟨twoKeyspaces, .new⟩).2 =
      qualifiedState none := by
  have read :
      readLongString (longString "INSERT INTO bench.kv (k, v) VALUES (?, ?)") =
        some ("INSERT INTO bench.kv (k, v) VALUES (?, ?)", []) := by
    decide +kernel
  simp only [handleRequest, prepareFrame, read]
  rw [Connection.handlePrepare_run sessionCrates rfl
    (preparedInfo_kvInsertTwo none)]
  rfl

/-- The USE changes the session keyspace and nothing else. -/
theorem qualifiedState_use :
    ((handleRequest sessionCrates (queryFrame "USE other")).run ConnState.answer
        (qualifiedState none)).2 =
      qualifiedState (some "other") := by
  have read :
      readLongString (longString "USE other" ++ [0, 1, 0]) =
        some ("USE other", [0, 1, 0]) := by
    decide +kernel
  simp only [handleRequest, queryFrame, read]
  rfl

/-- A qualified statement is executed as announced, whatever is used in between. -/
theorem executes_as_announced_qualified :
    ((handleRequest sessionCrates executeFrame).run ConnState.answer
        (qualifiedState (some "other"))).1.toOption.map Reply.isExecuted =
        some true ∧
      ∃ final,
        Run (ConnState.serve? sessionCrates) (KeepsMeaning sessionCrates)
            ⟨twoKeyspaces, .new⟩ qualifiedLabels final ∧
          Permitted (ConnState.serve? sessionCrates)
            (AsAnnounced sessionCrates) ⟨twoKeyspaces, .new⟩
            qualifiedLabels := by
  have keeps :
      KeepsMeaning sessionCrates (qualifiedState (some "other"))
        (.request executeFrame) := by
    rintro id prepared ⟨_, rest, read⟩ found entry member sameId
    have first : id = [0, 1] := by
      have readId :
          (readShortBytes executeFrame.body).map Prod.fst = some [0, 1] := by
        decide +kernel
      simpa [read] using readId
    subst first
    obtain rfl := List.mem_singleton.mp member
    obtain rfl := Option.some.inj found
    exact kvInsertTwo_stillMeans (some "other")
  have ran :
      ∃ final,
        Run (ConnState.serve? sessionCrates) (KeepsMeaning sessionCrates)
          ⟨twoKeyspaces, .new⟩ qualifiedLabels final := by
    refine ⟨_, .cons ?_ (congrArg some qualifiedState_eq)
      (.cons ?_ (congrArg some qualifiedState_use) (.cons keeps rfl (.nil _)))⟩
    · rintro id prepared ⟨isExecute, _⟩
      cases isExecute
    · rintro id prepared ⟨isExecute, _⟩
      cases isExecute
  obtain ⟨final, run⟩ := ran
  exact ⟨by decide +kernel, final, run,
    executes_as_announced sessionCrates run⟩

/-- `USE bench`, an unqualified PREPARE, `USE other`. -/
def redirectingLabels : List (SessionLabel 1) :=
  [.request (queryFrame "USE bench"),
    .request (prepareFrame "INSERT INTO kv (k, v) VALUES (?, ?)"),
    .request (queryFrame "USE other")]

/--
Prepared in `bench` and executed after `USE other`, the statement writes its
row to `other.kv`.
-/
theorem use_redirects_prepared_insert :
    ∃ state entry,
      Run (ConnState.serve? sessionCrates) (fun _ _ => True)
          ⟨twoKeyspaces, .new⟩ redirectingLabels state ∧
        state.shared.issued = [entry] ∧
        entry.1 = [0, 1] ∧
        entry.2.info.keyspace = "bench" ∧
        entry.2.info.table = "kv" ∧
        (∃ action ∈
            (handleRequest sessionCrates executeFrame).trace ConnState.answer
              state,
          action.key? = some (rowKey "other" "kv" [[0, 0, 0, 5]])) ∧
        ¬ AsAnnounced sessionCrates state (.request executeFrame) := by
  have observed :
      (run? (ConnState.serve? sessionCrates) ⟨twoKeyspaces, .new⟩
          redirectingLabels).map
            (fun state =>
              (state.shared.issued.map fun entry =>
                (entry.1, entry.2.info.keyspace, entry.2.info.table),
                ((handleRequest sessionCrates executeFrame).trace
                  ConnState.answer state).map ConnAction.key?,
                ((handleRequest sessionCrates executeFrame).run
                  ConnState.answer state).1.toOption.map Reply.isExecuted)) =
        some ([([0, 1], "bench", "kv")],
          [none, none, none, some (rowKey "other" "kv" [[0, 0, 0, 5]]),
            some (rowKey "other" "kv" [[0, 0, 0, 5]]), none],
          some true) := by
    decide +kernel
  obtain ⟨state, ran, seen⟩ := Option.map_eq_some_iff.mp observed
  simp only [Prod.mk.injEq] at seen
  obtain ⟨issued, touched, succeeds⟩ := seen
  obtain ⟨entry, isEntry, announced⟩ := List.map_eq_singleton_iff.mp issued
  simp only [Prod.mk.injEq] at announced
  obtain ⟨isId, isKeyspace, isTable⟩ := announced
  obtain ⟨action, member, about⟩ :=
    List.mem_map.mp (touched ▸ (by simp) :
      some (rowKey "other" "kv" [[0, 0, 0, 5]]) ∈
        ((handleRequest sessionCrates executeFrame).trace ConnState.answer
          state).map ConnAction.key?)
  obtain ⟨reply, final, served, isExecuted⟩ :=
    Program.exists_run_eq_ok ConnState.answer succeeds
  refine ⟨state, entry,
    Run.of_run? (permitted_of_forall (fun _ _ _ => trivial) _) ran,
    isEntry, isId, isKeyspace, isTable, ⟨action, member, about⟩, ?_⟩
  intro asAnnounced
  cases reply with
  | prepared id info =>
      cases isExecuted
  | executed executed =>
      have done :=
        asAnnounced [0, 1] executed final ⟨rfl, _, rfl⟩ served entry
          (by simp [isEntry]) isId
      refine done.rows action member ?_
      cases action with
      | storage access =>
          refine .inr ⟨_, about, ?_, ?_⟩
          · decide
          · rw [isKeyspace, isTable]
            decide
      | _ =>
          cases about

end RhydaDB
