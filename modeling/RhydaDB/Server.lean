import RhydaDB.ExecuteStatement

namespace RhydaDB

open ByteStrings AtomicPrograms FiniteRuns Storage

/-!
# Requests served side by side

Every request of a connection runs as a task of its own.  A task executes its
statement against the shared store, then awaits the returned tickets one after
the other and finally reports success; a failed statement is reported at once,
whatever it has queued.  Steps of tasks interleave with each other and with
the pipeline threads.
-/

/-- A QUERY or EXECUTE request. -/
structure Request where
  sessionKs : Option String
  statement : Statement
  values : List (Option Bytes)
  pageSize : Option Int32
  pagingState : Option Bytes

/-- How far a request has got. -/
inductive Phase (shards : Nat) where
  | running (program : StorageProgram shards QueryFault (Executed shards))
  /-- Awaiting the listed tickets in turn. -/
  | settling (response : Response) (gates : List (WriteTicket shards))
  | acknowledged (response : Response)
  | failed (fault : QueryFault)

/-- Operations that were put on channels, with their tickets. -/
abbrev SentOps (shards : Nat) := List (WriteTicket shards × WriteOp)

/-- Record an accepted send. -/
def recordSend {shards : Nat} (sent : SentOps shards) :
    (action : StorageAction shards) →
    StorageResponse action →
    SentOps shards
  | .send _ op, some ticket =>
      sent ++ [(ticket, op)]
  | _, _ =>
      sent

/-- A request being served; `sent` is history. -/
structure Task (shards : Nat) where
  request : Request
  phase : Phase shards
  sent : SentOps shards

/-- The shared store and the tasks of all requests so far. -/
structure Server (shards : Nat) where
  store : Storage shards
  tasks : List (Task shards)

/-- One step of the server. -/
inductive ServerLabel (shards : Nat) where
  | start (request : Request)
  | advance (index : Nat)
  | engine (engine : Fin shards) (label : PipelineLabel)

section Steps

variable
  {shards : Nat} [NeZero shards]
  (json : CatalogJson)
  (hexDecode : HexDecode)

/-- The program that serves a request. -/
def Request.program (request : Request) :
    StorageProgram shards QueryFault (Executed shards) :=
  executeStatement json hexDecode request.sessionKs (.new request.values)
    request.pageSize request.pagingState request.statement

/-- A task that has not done anything yet. -/
def Request.task (request : Request) : Task shards where
  request := request
  phase := .running (request.program json hexDecode)
  sent := []

omit [NeZero shards] in
/-- One step of a task: an action, a settled ticket or a report. -/
def Task.step? (store : Storage shards) (task : Task shards) :
    Option (Storage shards × Task shards) :=
  match task.phase with
  | .running (.act action next) =>
      some ((store.answer action).1,
        { task with
          phase := .running (next (store.answer action).2)
          sent := recordSend task.sent action (store.answer action).2 })
  | .running (.pure executed) =>
      some (store,
        { task with phase := .settling executed.response executed.gates })
  | .running (.fail fault) =>
      some (store, { task with phase := .failed fault })
  | .settling response (gate :: gates) =>
      if store.isComplete gate then
        some (store, { task with phase := .settling response gates })
      else
        none
  | .settling response [] =>
      some (store, { task with phase := .acknowledged response })
  | .acknowledged _ =>
      none
  | .failed _ =>
      none

namespace Server

/-- No request yet. -/
def idle (store : Storage shards) : Server shards where
  store := store
  tasks := []

/-- Take one step, if it is enabled. -/
def step? (server : Server shards) :
    ServerLabel shards → Option (Server shards)
  | .start request =>
      some { server with
        tasks := server.tasks ++ [request.task json hexDecode] }
  | .advance index =>
      match server.tasks[index]? with
      | some task =>
          (task.step? server.store).map fun (store, next) =>
            { store := store, tasks := server.tasks.set index next }
      | none =>
          none
  | .engine engine label =>
      if label.isThread then
        (server.store.engineStep? engine label).map fun store =>
          { server with store := store }
      else
        none

/-- What each enabled step does. -/
inductive Step : Server shards → ServerLabel shards → Server shards → Prop where
  | start
      {server : Server shards}
      (request : Request) :
      Step server (.start request)
        { server with tasks := server.tasks ++ [request.task json hexDecode] }
  | act
      {server : Server shards}
      {index : Nat}
      {task : Task shards}
      {action : StorageAction shards}
      {next :
        StorageResponse action →
        StorageProgram shards QueryFault (Executed shards)}
      (found : server.tasks[index]? = some task)
      (phase : task.phase = .running (.act action next)) :
      Step server (.advance index)
        { store := (server.store.answer action).1
          tasks := server.tasks.set index
            { task with
              phase := .running (next (server.store.answer action).2)
              sent :=
                recordSend task.sent action (server.store.answer action).2 } }
  | returned
      {server : Server shards}
      {index : Nat}
      {task : Task shards}
      {executed : Executed shards}
      (found : server.tasks[index]? = some task)
      (phase : task.phase = .running (.pure executed)) :
      Step server (.advance index)
        { server with
          tasks := server.tasks.set index
            { task with
              phase := .settling executed.response executed.gates } }
  | failed
      {server : Server shards}
      {index : Nat}
      {task : Task shards}
      {fault : QueryFault}
      (found : server.tasks[index]? = some task)
      (phase : task.phase = .running (.fail fault)) :
      Step server (.advance index)
        { server with
          tasks := server.tasks.set index
            { task with phase := .failed fault } }
  | settled
      {server : Server shards}
      {index : Nat}
      {task : Task shards}
      {response : Response}
      {gate : WriteTicket shards}
      {gates : List (WriteTicket shards)}
      (found : server.tasks[index]? = some task)
      (phase : task.phase = .settling response (gate :: gates))
      (complete : server.store.isComplete gate = true) :
      Step server (.advance index)
        { server with
          tasks := server.tasks.set index
            { task with phase := .settling response gates } }
  | acknowledged
      {server : Server shards}
      {index : Nat}
      {task : Task shards}
      {response : Response}
      (found : server.tasks[index]? = some task)
      (phase : task.phase = .settling response []) :
      Step server (.advance index)
        { server with
          tasks := server.tasks.set index
            { task with phase := .acknowledged response } }
  | engine
      {server : Server shards}
      {engine : Fin shards}
      {label : PipelineLabel}
      {pipeline : Pipeline}
      (thread : label.isThread = true)
      (taken :
        (server.store.engines engine).step? label = some pipeline) :
      Step server (.engine engine label)
        { server with store := server.store.setEngine engine pipeline }

variable {json hexDecode}

/-- The step function takes only the transitions of `Step`. -/
theorem step?_sound
    {server next : Server shards}
    {label : ServerLabel shards}
    (taken : server.step? json hexDecode label = some next) :
    Step json hexDecode server label next := by
  cases label with
  | start request =>
      cases taken
      exact .start request
  | advance index =>
      simp only [step?] at taken
      split at taken
      · rename_i task found
        obtain ⟨⟨store, moved⟩, stepped, rfl⟩ :=
          Option.map_eq_some_iff.mp taken
        unfold Task.step? at stepped
        split at stepped
        · rename_i phase
          cases stepped
          exact .act found phase
        · rename_i phase
          cases stepped
          exact .returned found phase
        · rename_i phase
          cases stepped
          exact .failed found phase
        · rename_i phase
          split at stepped
          · rename_i complete
            cases stepped
            exact .settled found phase complete
          · cases stepped
        · rename_i phase
          cases stepped
          exact .acknowledged found phase
        · cases stepped
        · cases stepped
      · cases taken
  | engine engine label =>
      simp only [step?] at taken
      split at taken
      · rename_i thread
        simp only [engineStep?, Option.map_map,
          Option.map_eq_some_iff] at taken
        obtain ⟨pipeline, moved, rfl⟩ := taken
        exact .engine thread moved
      · cases taken

end Server

end Steps

end RhydaDB
