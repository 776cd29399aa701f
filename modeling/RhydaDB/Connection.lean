import RhydaDB.ExecuteStatement

namespace RhydaDB

open ByteStrings AtomicPrograms FiniteRuns Storage

/-!
# Connections

A connection has a session keyspace and a registry of prepared statements.
Its reader takes frames one by one: it handles PREPARE, and a QUERY whose text
starts with `use `, itself before it reads on, and hands every other QUERY and
EXECUTE to a task of its own.  `handleRequest` is the program that serves one
frame; its actions are those of the store plus the accesses to the state the
requests of the connection share.

The remaining opcodes touch neither the session nor the registry.
-/

/--
A statement in the registry.  `text` and `info` are history: the text it was
prepared from and what the PREPARE response announced.
-/
structure PreparedStmt where
  statement : Statement
  bindTypes : List ColumnType
  text : String
  info : PreparedInfo

/--
The state shared by the requests of a connection.  `issued` is history: every
registration so far, oldest first.
-/
structure ConnShared where
  keyspace : Option String
  prepared : Bytes → Option PreparedStmt
  nextPreparedId : UInt16
  issued : List (Bytes × PreparedStmt)

/-- A fresh connection. -/
def ConnShared.new : ConnShared where
  keyspace := none
  prepared := fun _ => none
  nextPreparedId := 1
  issued := []

/-- The opcodes that reach the query layer. -/
inductive RequestOpcode where
  | query
  | prepare
  | execute
  deriving Repr, DecidableEq

/-- A request frame, decompressed. -/
structure Frame where
  opcode : RequestOpcode
  body : Bytes
  deriving Repr, DecidableEq

/-- The parameters that follow a query text or a prepared id. -/
structure QueryParameters where
  values : List (Option Bytes)
  pageSize : Option Int32
  pagingState : Option Bytes
  deriving Repr, DecidableEq

/--
What other crates contribute: the CQL parser and its names of statements, the
layout of query parameters, JSON and hexadecimal text.
-/
structure Crates where
  parse : String → Option Statement
  shortNames : Statement → String
  readParameters : Bytes → Option QueryParameters
  json : CatalogJson
  hexDecode : HexDecode

/-- A string behind a 32-bit length. -/
def readLongString (body : Bytes) : Option (String × Bytes) :=
  let len := readI32 body 0
  if body.length < 4 ∨ len < 0 ∨ body.length < 4 + len.toNat then
    none
  else
    (fromUtf8? (slice body 4 len.toNat)).map fun text =>
      (text, body.drop (4 + len.toNat))

/-- Bytes behind a 16-bit length. -/
def readShortBytes (body : Bytes) : Option (Bytes × Bytes) :=
  let len := ofBe (body.take 2)
  if body.length < 2 + len then
    none
  else
    some (slice body 2 len, body.drop (2 + len))

/-- ASCII lower case of a byte. -/
def asciiLowercaseByte (byte : UInt8) : UInt8 :=
  if 0x41 ≤ byte ∧ byte ≤ 0x5A then byte + 0x20 else byte

/-- Whether a QUERY body is taken for a USE: its text starts with `use `. -/
def isSessionUse (body : Bytes) : Bool :=
  if body.length < 4 then
    false
  else
    let len := ofBe (body.take 4)
    let query := slice body 4 (min len (body.length - 4))
    (utf8 "use ").isPrefixOf ((query.take 16).map asciiLowercaseByte)

/-- Whether the reader handles a frame itself. -/
def Frame.inline (frame : Frame) : Bool :=
  decide (frame.opcode = .prepare) || isSessionUse frame.body

/-- One atomic access of a request. -/
inductive ConnAction (shards : Nat) where
  | storage (action : StorageAction shards)
  | keyspace
  | setKeyspace (keyspace : String)
  | preparedGet (id : Bytes)
  | fetchAddPreparedId
  | preparedInsert (id : Bytes) (prepared : PreparedStmt)
  /-- Await one ticket. -/
  | settle (ticket : WriteTicket shards)

/-- What each access answers. -/
@[reducible]
def ConnResponse {shards : Nat} : ConnAction shards → Type
  | .storage action =>
      StorageResponse action
  | .keyspace =>
      Option String
  | .preparedGet _ =>
      Option PreparedStmt
  | .fetchAddPreparedId =>
      UInt16
  | _ =>
      Unit

/-- A program of a connection. -/
abbrev ConnProgram (shards : Nat) (α : Type) :=
  Program (@ConnResponse shards) QueryFault α

/-- Whether an access has to wait for a ticket. -/
def ConnAction.Waits {shards : Nat} : ConnAction shards → Prop
  | .settle _ =>
      True
  | _ =>
      False

/-- Perform one access. -/
def access {shards : Nat} (action : ConnAction shards) :
    ConnProgram shards (ConnResponse action) :=
  .perform action

/-- What a request answers. -/
inductive Reply (shards : Nat) where
  | executed (executed : Executed shards)
  | prepared (id : Bytes) (info : PreparedInfo)

/-- The frame does not follow the protocol. -/
def protocolErr (message : String) : QueryFault :=
  .error 0x000A message

section Programs

variable {shards : Nat}

/-- Run a program of the store. -/
def onStore
    {α : Type}
    (program : StorageProgram shards QueryFault α) :
    ConnProgram shards α :=
  program.embed ConnAction.storage fun _ response => response

/-- Await tickets one after the other. -/
def settle : List (WriteTicket shards) → ConnProgram shards Unit
  | [] =>
      return ()
  | ticket :: rest => do
      access (.settle ticket)
      settle rest

/-- Change the session keyspace when the response says so. -/
def applyUse : Response → ConnProgram shards Unit
  | .setKeyspace keyspace =>
      access (.setKeyspace keyspace)
  | _ =>
      return ()

variable [NeZero shards] (crates : Crates)

/-- Serve a QUERY. -/
def handleQuery
    (text : String)
    (parameters : QueryParameters) :
    ConnProgram shards (Reply shards) := do
  let sessionKs ← access .keyspace
  match crates.parse text with
  | none =>
      .fail (syntaxErr "line 1: syntax error in statement")
  | some statement => do
      let executed ←
        onStore (executeStatement crates.json crates.hexDecode sessionKs
          (.new parameters.values) parameters.pageSize parameters.pagingState
          statement)
      settle executed.gates
      applyUse executed.response
      return .executed executed

/-- Serve a PREPARE. -/
def handlePrepare (text : String) : ConnProgram shards (Reply shards) :=
  match crates.parse text with
  | none =>
      .fail (syntaxErr "line 1: syntax error in statement")
  | some statement => do
      let sessionKs ← access .keyspace
      let info ←
      onStore (preparedInfo crates.json crates.shortNames sessionKs statement)
      let number ← access .fetchAddPreparedId
      let id := toBe 2 number.toNat
      access (.preparedInsert id
        ⟨statement, info.bindSpecs.map Prod.snd, text, info⟩)
      return .prepared id info

/-- Serve an EXECUTE of a registered statement. -/
def handleExecute
    (prepared : PreparedStmt)
    (parameters : QueryParameters) :
    ConnProgram shards (Reply shards) :=
  if parameters.values.length ≠ prepared.bindTypes.length then
    .fail (invalidErr "Invalid amount of bind variables")
  else do
    let sessionKs ← access .keyspace
    let executed ←
      onStore (executeStatement crates.json crates.hexDecode sessionKs
        (.new parameters.values) parameters.pageSize parameters.pagingState
        prepared.statement)
    settle executed.gates
    return .executed executed

/-- Serve one frame. -/
def handleRequest (frame : Frame) : ConnProgram shards (Reply shards) :=
  match frame.opcode with
  | .query =>
      match readLongString frame.body with
      | none =>
          .fail (protocolErr "Malformed QUERY message")
      | some (text, rest) =>
          match crates.readParameters rest with
          | none =>
              .fail (protocolErr "Malformed QUERY message")
          | some parameters =>
              handleQuery crates text parameters
  | .prepare =>
      match readLongString frame.body with
      | none =>
          .fail (protocolErr "Malformed PREPARE message")
      | some (text, _) =>
          handlePrepare crates text
  | .execute =>
      match readShortBytes frame.body with
      | none =>
          .fail (protocolErr "Malformed EXECUTE message")
      | some (id, rest) => do
          match ← access (.preparedGet id) with
          | none =>
              .fail (invalidErr "Prepared statement not found (unprepared)")
          | some prepared =>
              match crates.readParameters rest with
              | none =>
                  .fail (protocolErr "Malformed EXECUTE parameters")
              | some parameters =>
                  handleExecute crates prepared parameters

end Programs

/-- The store and the state of one connection. -/
structure ConnState (shards : Nat) where
  store : Storage shards
  shared : ConnShared

namespace ConnState

variable {shards : Nat}

/-- Change the shared state of the connection. -/
def share (state : ConnState shards) (change : ConnShared → ConnShared) :
    ConnState shards :=
  { state with shared := change state.shared }

/-- Perform one access. -/
def answer (state : ConnState shards) :
    (action : ConnAction shards) → ConnState shards × ConnResponse action
  | .storage action =>
      ({ state with store := (state.store.answer action).1 },
        (state.store.answer action).2)
  | .keyspace =>
      (state, state.shared.keyspace)
  | .setKeyspace keyspace =>
      (state.share fun shared => { shared with keyspace := some keyspace }, ())
  | .preparedGet id =>
      (state, state.shared.prepared id)
  | .fetchAddPreparedId =>
      (state.share fun shared =>
        { shared with nextPreparedId := shared.nextPreparedId + 1 },
        state.shared.nextPreparedId)
  | .preparedInsert id prepared =>
      (state.share fun shared =>
        { shared with
          prepared := Function.update shared.prepared id (some prepared)
          issued := shared.issued ++ [(id, prepared)] }, ())
  | .settle _ =>
      (state, ())

/-- Whether an access can be performed; a ticket has to complete first. -/
def ready (state : ConnState shards) : ConnAction shards → Bool
  | .settle ticket =>
      state.store.isComplete ticket
  | _ =>
      true

/-- The store of a connection. -/
def storePart : Program.StatePart (ConnState shards) (Storage shards) where
  get := ConnState.store
  set := fun state store => { state with store := store }
  get_set := fun _ _ => rfl
  set_get := fun _ => rfl
  set_set := fun _ _ _ => rfl

/-- Accesses to the store are answered from the store. -/
theorem storePart_answers :
    storePart.Answers Storage.answer answer
      fun (action : StorageAction shards)
        (response : ConnResponse (.storage action)) => response :=
  fun _ _ => ⟨rfl, rfl⟩

/-- A program of the store runs on the store of the connection. -/
theorem run_onStore
    {α : Type}
    (program : StorageProgram shards QueryFault α)
    (state : ConnState shards) :
    (onStore program).run answer state =
      ((program.run Storage.answer state.store).1,
        { state with store := (program.run Storage.answer state.store).2 }) :=
  Program.run_embed storePart_answers program state

/-- A program of the store performs accesses to the store. -/
theorem trace_onStore
    {α : Type}
    (program : StorageProgram shards QueryFault α)
    (state : ConnState shards) :
    (onStore program).trace answer state =
      (program.trace Storage.answer state.store).map .storage :=
  Program.trace_embed storePart_answers program state

/-- Awaiting tickets changes nothing. -/
@[simp] theorem run_settle
    (tickets : List (WriteTicket shards))
    (state : ConnState shards) :
    (settle tickets).run answer state = (.ok (), state) := by
  induction tickets with
  | nil =>
      rfl
  | cons ticket rest inductionHypothesis =>
      exact inductionHypothesis

end ConnState

/--
A request being served.  The last three components are history: the session
keyspace it read, the registry entry it found and the keyspace it set.
-/
structure ConnTask (shards : Nat) where
  frame : Frame
  program : ConnProgram shards (Reply shards)
  sessionKs : Option (Option String)
  found : Option PreparedStmt
  used : Option String

/-- A connection and its requests so far, in frame order. -/
structure Connection (shards : Nat) where
  state : ConnState shards
  tasks : List (ConnTask shards)

/-- One step of a connection. -/
inductive ConnLabel (shards : Nat) where
  | receive (frame : Frame)
  | advance (index : Nat)
  | engine (engine : Fin shards) (label : PipelineLabel)
  /-- An access to the store on behalf of another connection. -/
  | elsewhere (action : StorageAction shards)

/-- Most requests of a connection that are served by tasks at a time. -/
def perConnInflight : Nat :=
  512

namespace ConnTask

variable {shards : Nat}

/-- Record an access. -/
def record (task : ConnTask shards) :
    (action : ConnAction shards) → ConnResponse action → ConnTask shards
  | .keyspace, keyspace =>
      { task with sessionKs := some keyspace }
  | .preparedGet _, found =>
      { task with found := found }
  | .setKeyspace keyspace, _ =>
      { task with used := some keyspace }
  | _, _ =>
      task

/-- Go on after an access. -/
def goOn
    (task : ConnTask shards)
    (action : ConnAction shards)
    (response : ConnResponse action)
    (next : ConnProgram shards (Reply shards)) :
    ConnTask shards :=
  { task.record action response with program := next }

@[simp] theorem goOn_frame
    (task : ConnTask shards)
    (action : ConnAction shards)
    (response : ConnResponse action)
    (next : ConnProgram shards (Reply shards)) :
    (task.goOn action response next).frame = task.frame := by
  cases action <;> rfl

@[simp] theorem goOn_program
    (task : ConnTask shards)
    (action : ConnAction shards)
    (response : ConnResponse action)
    (next : ConnProgram shards (Reply shards)) :
    (task.goOn action response next).program = next :=
  rfl

/-- Whether the request has been answered. -/
def isDone (task : ConnTask shards) : Bool :=
  task.program.isDone

end ConnTask

namespace Connection

variable {shards : Nat}

/-- A connection before its first frame. -/
def open_ (store : Storage shards) : Connection shards where
  state := ⟨store, .new⟩
  tasks := []

/-- Whether the reader is free to take a frame. -/
def accepts (connection : Connection shards) (frame : Frame) : Bool :=
  (connection.tasks.all fun task => !task.frame.inline || task.isDone) &&
    (frame.inline ||
      decide ((connection.tasks.countP fun task => !task.isDone) <
        perConnInflight))

variable [NeZero shards] (crates : Crates)

/-- Take one step, if it is enabled. -/
def step? (connection : Connection shards) :
    ConnLabel shards → Option (Connection shards)
  | .receive frame =>
      if connection.accepts frame then
        some { connection with
          tasks := connection.tasks ++
            [⟨frame, handleRequest crates frame, none, none, none⟩] }
      else
        none
  | .advance index =>
      match connection.tasks[index]? with
      | some task =>
          match task.program with
          | .act action next =>
              if connection.state.ready action then
                some {
                  state := (connection.state.answer action).1
                  tasks := connection.tasks.set index
                    (task.goOn action (connection.state.answer action).2
                      (next (connection.state.answer action).2)) }
              else
                none
          | _ =>
              none
      | none =>
          none
  | .engine engine label =>
      if label.isThread then
        (connection.state.store.engineStep? engine label).map fun store =>
          { connection with state := { connection.state with store := store } }
      else
        none
  | .elsewhere action =>
      some { connection with
        state := { connection.state with
          store := (connection.state.store.answer action).1 } }

/-- What each enabled step does. -/
inductive Step :
    Connection shards → ConnLabel shards → Connection shards → Prop where
  | receive
      {connection : Connection shards}
      {frame : Frame}
      (free : connection.accepts frame = true) :
      Step connection (.receive frame)
        { connection with
          tasks := connection.tasks ++
            [⟨frame, handleRequest crates frame, none, none, none⟩] }
  | act
      {connection : Connection shards}
      {index : Nat}
      {task : ConnTask shards}
      {action : ConnAction shards}
      {next : ConnResponse action → ConnProgram shards (Reply shards)}
      (found : connection.tasks[index]? = some task)
      (program : task.program = .act action next) :
      Step connection (.advance index)
        { state := (connection.state.answer action).1
          tasks := connection.tasks.set index
            (task.goOn action (connection.state.answer action).2
              (next (connection.state.answer action).2)) }
  | engine
      {connection : Connection shards}
      {engine : Fin shards}
      {label : PipelineLabel}
      {pipeline : Pipeline}
      (thread : label.isThread = true)
      (taken :
        (connection.state.store.engines engine).step? label =
          some pipeline) :
      Step connection (.engine engine label)
        { connection with
          state := { connection.state with
            store := connection.state.store.setEngine engine pipeline } }
  | elsewhere
      {connection : Connection shards}
      (action : StorageAction shards) :
      Step connection (.elsewhere action)
        { connection with
          state := { connection.state with
            store := (connection.state.store.answer action).1 } }

variable {crates}

/-- The step function takes only the transitions of `Step`. -/
theorem step?_sound
    {connection next : Connection shards}
    {label : ConnLabel shards}
    (taken : connection.step? crates label = some next) :
    Step crates connection label next := by
  cases label with
  | receive frame =>
      simp only [step?] at taken
      split at taken
      · rename_i free
        cases taken
        exact .receive free
      · cases taken
  | advance index =>
      simp only [step?] at taken
      split at taken
      · rename_i task found
        split at taken
        · rename_i action continuation program
          split at taken
          · cases taken
            exact .act found program
          · cases taken
        · cases taken
      · cases taken
  | engine engine label =>
      simp only [step?] at taken
      split at taken
      · rename_i thread
        simp only [engineStep?, Option.map_map,
          Option.map_eq_some_iff] at taken
        obtain ⟨pipeline, moved, rfl⟩ := taken
        exact .engine thread moved
      · cases taken
  | elsewhere action =>
      cases taken
      exact .elsewhere action

/-- A request at the end of the list runs to its end on its own. -/
theorem exists_serve
    (earlier : List (ConnTask shards))
    (task : ConnTask shards)
    (state : ConnState shards)
    (patient : task.program.Never ConnAction.Waits) :
    ∃ count last,
      run? (step? crates) ⟨state, earlier ++ [task]⟩
          (List.replicate count (.advance earlier.length)) =
        some ⟨(task.program.run ConnState.answer state).2,
          earlier ++ [last]⟩ ∧
      last.isDone = true := by
  obtain ⟨frame, program, sessionKs, found, used⟩ := task
  simp only at patient ⊢
  induction program generalizing state sessionKs found used with
  | pure value =>
      exact ⟨0, ⟨frame, .pure value, sessionKs, found, used⟩, rfl, rfl⟩
  | fail failure =>
      exact ⟨0, ⟨frame, .fail failure, sessionKs, found, used⟩, rfl, rfl⟩
  | act action next inductionHypothesis =>
      have ready : state.ready action = true := by
        cases action with
        | settle ticket =>
            exact (patient.1 trivial).elim
        | _ =>
            rfl
      let moved : ConnTask shards :=
        ConnTask.goOn ⟨frame, .act action next, sessionKs, found, used⟩ action
          (state.answer action).2 (next (state.answer action).2)
      obtain ⟨count, last, served, done⟩ :=
        inductionHypothesis (state.answer action).2 (state.answer action).1
          moved.sessionKs moved.found moved.used (patient.2 _)
      refine ⟨count + 1, last, ?_, done⟩
      have parts :
          (⟨frame, next (state.answer action).2, moved.sessionKs, moved.found,
            moved.used⟩ : ConnTask shards) = moved := by
        cases action <;> rfl
      rw [parts] at served
      simp only [List.replicate_succ, run?, step?, ready, Option.bind_some,
        List.getElem?_concat_length, if_true, List.set_append_right _ _ le_rfl,
        Nat.sub_self, List.set_cons_zero, Program.run_act]
      exact served

end Connection

end RhydaDB
