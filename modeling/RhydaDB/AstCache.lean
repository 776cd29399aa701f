import RhydaDB.PreparedMeaning

namespace RhydaDB

open ByteStrings AtomicPrograms FiniteRuns Storage

/-!
# The cache of parsed statements

Requests look their text up among the statements parsed before, and what they
parse themselves they add; a full cache is cleared first.  The lookup and the
addition are separate accesses, so requests of all connections interleave
between them.  What they then do is a run of `Connection`, where each request
parses its own text.
-/

/-- Most statements in the cache. -/
def astCacheCapacity : Nat :=
  8192

/-- Statements by the texts they were parsed from. -/
structure AstCache where
  entries : List (String × Statement)

namespace AstCache

/-- The statement of a text. -/
def get (cache : AstCache) (query : String) : Option Statement :=
  cache.entries.lookup query

/-- Add a statement, after clearing the cache if it is full. -/
def put (cache : AstCache) (query : String) (statement : Statement) : AstCache :=
  let kept :=
    if astCacheCapacity ≤ cache.entries.length then [] else cache.entries
  ⟨(query, statement) :: kept.filter fun entry => entry.1 ≠ query⟩

end AstCache

/-- One atomic access of a request, to the cache or as in `Connection`. -/
inductive CachedAction (shards : Nat) where
  | conn (action : ConnAction shards)
  | astGet (query : String)
  | astPut (query : String) (statement : Statement)

/-- What each access answers. -/
@[reducible]
def CachedResponse {shards : Nat} : CachedAction shards → Type
  | .conn action =>
      ConnResponse action
  | .astGet _ =>
      Option Statement
  | .astPut _ _ =>
      Unit

/-- A program of a connection that uses the cache. -/
abbrev CachedProgram (shards : Nat) (α : Type) :=
  Program (@CachedResponse shards) QueryFault α

section Programs

variable {shards : Nat}

/-- Perform one access. -/
def cachedAccess (action : CachedAction shards) :
    CachedProgram shards (CachedResponse action) :=
  .perform action

/-- Run a program that does not use the cache. -/
def onConn {α : Type} (program : ConnProgram shards α) : CachedProgram shards α :=
  program.embed CachedAction.conn fun _ response => response

/-- The statement of a text, parsed now or earlier. -/
def parseCached (crates : Crates) (query : String) :
    CachedProgram shards Statement := do
  match ← cachedAccess (.astGet query) with
  | some statement =>
      return statement
  | none =>
      match crates.parse query with
      | none =>
          .fail (syntaxErr "line 1: syntax error in statement")
      | some statement => do
          cachedAccess (.astPut query statement)
          return statement

variable [NeZero shards] (crates : Crates)

/-- Serve a QUERY. -/
def handleQueryCached
    (text : String)
    (parameters : QueryParameters) :
    CachedProgram shards (Reply shards) := do
  let sessionKs ← cachedAccess (.conn .keyspace)
  let statement ← parseCached crates text
  onConn do
    let executed ←
      onStore (executeStatement crates.json crates.hexDecode sessionKs
        (.new parameters.values) parameters.pageSize parameters.pagingState
        statement)
    settle executed.gates
    applyUse executed.response
    return .executed executed

/-- Serve a PREPARE. -/
def handlePrepareCached (text : String) : CachedProgram shards (Reply shards) := do
  let statement ← parseCached crates text
  onConn do
    let sessionKs ← access .keyspace
    let info ←
      onStore (preparedInfo crates.json crates.shortNames sessionKs statement)
    let number ← access .fetchAddPreparedId
    let id := toBe 2 number.toNat
    access (.preparedInsert id
      ⟨statement, info.bindSpecs.map Prod.snd, text, info⟩)
    return .prepared id info

/-- Serve one frame. -/
def handleRequestCached (frame : Frame) : CachedProgram shards (Reply shards) :=
  match frame.opcode with
  | .query =>
      match readLongString frame.body with
      | none =>
          .fail (protocolErr "Malformed QUERY message")
      | some (text, rest) =>
          match crates.readParameters rest with
          | none =>
              .fail (protocolErr "Malformed QUERY message")
          | some parameters =>
              handleQueryCached crates text parameters
  | .prepare =>
      match readLongString frame.body with
      | none =>
          .fail (protocolErr "Malformed PREPARE message")
      | some (text, _) =>
          handlePrepareCached crates text
  | .execute =>
      onConn (handleRequest crates frame)

end Programs

/-- The store, the shared state of a connection and the cache. -/
structure CachedState (shards : Nat) where
  conn : ConnState shards
  cache : AstCache

/-- Perform one access. -/
def CachedState.answer {shards : Nat} (state : CachedState shards) :
    (action : CachedAction shards) → CachedState shards × CachedResponse action
  | .conn action =>
      ({ state with conn := (state.conn.answer action).1 },
        (state.conn.answer action).2)
  | .astGet query =>
      (state, state.cache.get query)
  | .astPut query statement =>
      ({ state with cache := state.cache.put query statement }, ())

/-- Whether an access can be performed; a ticket has to complete first. -/
def CachedState.ready {shards : Nat} (state : CachedState shards) :
    CachedAction shards → Bool
  | .conn action =>
      state.conn.ready action
  | _ =>
      true

/-- A request being served. -/
structure CachedTask (shards : Nat) where
  frame : Frame
  program : CachedProgram shards (Reply shards)

/-- A connection that uses the cache, and its requests so far. -/
structure CachedConnection (shards : Nat) where
  state : CachedState shards
  tasks : List (CachedTask shards)

/-- One step of a connection that uses the cache. -/
inductive CachedLabel (shards : Nat) where
  | receive (frame : Frame)
  | advance (index : Nat)
  | engine (engine : Fin shards) (label : PipelineLabel)
  /-- An access to the store on behalf of another connection. -/
  | elsewhere (action : StorageAction shards)
  /-- Another connection adds what it has parsed. -/
  | parsedElsewhere (query : String)

namespace CachedConnection

variable {shards : Nat}

/-- A connection before its first frame, over a store that was just opened. -/
def open_ (store : Storage shards) : CachedConnection shards where
  state := ⟨⟨store, .new⟩, ⟨[]⟩⟩
  tasks := []

/-- Whether the reader is free to take a frame. -/
def accepts (connection : CachedConnection shards) (frame : Frame) : Bool :=
  (connection.tasks.all fun task =>
      !task.frame.inline || task.program.isDone) &&
    (frame.inline ||
      decide ((connection.tasks.countP fun task => !task.program.isDone) <
        perConnInflight))

variable [NeZero shards] (crates : Crates)

/-- Take one step, if it is enabled. -/
def step? (connection : CachedConnection shards) :
    CachedLabel shards → Option (CachedConnection shards)
  | .receive frame =>
      if connection.accepts frame then
        some { connection with
          tasks := connection.tasks ++
            [⟨frame, handleRequestCached crates frame⟩] }
      else
        none
  | .advance index =>
      match connection.tasks[index]? with
      | some task =>
          match task.program with
          | .act action next =>
              if connection.state.ready action then
                some {
                  state := (connection.state.answer action).1
                  tasks := connection.tasks.set index
                    { task with
                      program := next (connection.state.answer action).2 } }
              else
                none
          | _ =>
              none
      | none =>
          none
  | .engine engine label =>
      if label.isThread then
        (connection.state.conn.store.engineStep? engine label).map fun store =>
          { connection with
            state := { connection.state with
              conn := { connection.state.conn with store := store } } }
      else
        none
  | .elsewhere action =>
      some { connection with
        state := { connection.state with
          conn := { connection.state.conn with
            store := (connection.state.conn.store.answer action).1 } } }
  | .parsedElsewhere query =>
      (crates.parse query).map fun statement =>
        { connection with
          state := { connection.state with
            cache := connection.state.cache.put query statement } }

end CachedConnection

/-! ## Programs that use the cache -/

namespace AstCache

/-- The cache binds texts to what they are parsed as, and is bounded. -/
structure Sound (crates : Crates) (cache : AstCache) : Prop where
  parsed :
    ∀ query statement,
      (query, statement) ∈ cache.entries →
      crates.parse query = some statement
  bounded : cache.entries.length ≤ astCacheCapacity

variable {crates : Crates} {cache : AstCache}

/-- The empty cache is sound. -/
theorem sound_empty (crates : Crates) : Sound crates ⟨[]⟩ where
  parsed := nofun
  bounded := Nat.zero_le _

/-- What is found was parsed from its text. -/
theorem Sound.get
    (sound : cache.Sound crates)
    {query : String}
    {statement : Statement}
    (found : cache.get query = some statement) :
    crates.parse query = some statement := by
  obtain ⟨before, after, entries, _⟩ := List.lookup_eq_some_iff.mp found
  exact sound.parsed query statement (by simp [entries])

/-- Adding what a text is parsed as keeps the cache sound. -/
theorem Sound.put
    (sound : cache.Sound crates)
    {query : String}
    {statement : Statement}
    (parses : crates.parse query = some statement) :
    (cache.put query statement).Sound crates := by
  have kept :
      ∀ entry ∈ (if astCacheCapacity ≤ cache.entries.length then []
          else cache.entries),
        entry ∈ cache.entries := by
    intro entry member
    split at member
    · cases member
    · exact member
  have room :
      (if astCacheCapacity ≤ cache.entries.length then []
        else cache.entries).length < astCacheCapacity := by
    split
    · decide
    · omega
  refine ⟨?_, ?_⟩
  · intro other parsed member
    rcases List.mem_cons.mp member with same | old
    · cases same
      exact parses
    · exact sound.parsed other parsed (kept _ (List.mem_filter.mp old).1)
  · exact (Nat.succ_le_succ (List.length_filter_le _ _)).trans room

end AstCache

/--
The first program does what the second does, but for accesses to the cache: it
goes on alike from a miss and from the statement that its text is parsed as, and
adds only such statements.
-/
inductive Simulates {shards : Nat} {α : Type} (crates : Crates) :
    CachedProgram shards α →
    ConnProgram shards α →
    Prop where
  | pure (value : α) :
      Simulates crates (.pure value) (.pure value)
  | fail (fault : QueryFault) :
      Simulates crates (.fail fault) (.fail fault)
  | conn
      {action : ConnAction shards}
      {next : ConnResponse action → CachedProgram shards α}
      {plain : ConnResponse action → ConnProgram shards α}
      (later : ∀ response, Simulates crates (next response) (plain response)) :
      Simulates crates (.act (.conn action) next) (.act action plain)
  | get
      {query : String}
      {next : Option Statement → CachedProgram shards α}
      {plain : ConnProgram shards α}
      (hit :
        ∀ statement,
          crates.parse query = some statement →
          Simulates crates (next (some statement)) plain)
      (miss : Simulates crates (next none) plain) :
      Simulates crates (.act (.astGet query) next) plain
  | put
      {query : String}
      {statement : Statement}
      {next : Unit → CachedProgram shards α}
      {plain : ConnProgram shards α}
      (parses : crates.parse query = some statement)
      (later : Simulates crates (next ()) plain) :
      Simulates crates (.act (.astPut query statement) next) plain

namespace Simulates

variable
  {shards : Nat}
  {crates : Crates}
  {α : Type}
  {cached : CachedProgram shards α}
  {plain : ConnProgram shards α}

/-- A program that does not use the cache does what it does. -/
theorem onConn (program : ConnProgram shards α) :
    Simulates crates (onConn program) program := by
  induction program with
  | pure value =>
      exact .pure value
  | fail fault =>
      exact .fail fault
  | act action next inductionHypothesis =>
      exact .conn inductionHypothesis

/-- A program that has ended has ended without the cache as well. -/
theorem isDone
    (simulates : Simulates crates cached plain)
    (done : cached.isDone = true) :
    plain.isDone = true := by
  cases simulates with
  | pure value =>
      rfl
  | fail fault =>
      rfl
  | conn later =>
      cases done
  | get hit miss =>
      cases done
  | put parses later =>
      cases done

/-- Parsing with the cache goes on as parsing does. -/
theorem parseCached
    {query : String}
    {next : Statement → CachedProgram shards α}
    {continuation : Statement → ConnProgram shards α}
    (later :
      ∀ statement, Simulates crates (next statement) (continuation statement)) :
    Simulates crates (parseCached crates query >>= next)
      (match crates.parse query with
        | none =>
            .fail (syntaxErr "line 1: syntax error in statement")
        | some statement =>
            continuation statement) := by
  unfold RhydaDB.parseCached
  cases parses : crates.parse query with
  | none =>
      refine .get ?_ (.fail _)
      intro statement parsed
      cases parses.symm.trans parsed
  | some statement =>
      refine .get ?_ (.put parses (later statement))
      intro other parsed
      cases parses.symm.trans parsed
      exact later statement

variable [NeZero shards]

/-- A QUERY that uses the cache does what it does without. -/
theorem handleQuery (text : String) (parameters : QueryParameters) :
    Simulates crates
      (handleQueryCached crates text parameters : CachedProgram shards _)
      (RhydaDB.handleQuery crates text parameters) :=
  .conn fun _ => parseCached fun _ => .onConn _

/-- A PREPARE that uses the cache does what it does without. -/
theorem handlePrepare (text : String) :
    Simulates crates
      (handlePrepareCached crates text : CachedProgram shards _)
      (RhydaDB.handlePrepare crates text) :=
  parseCached fun _ => .onConn _

/-- A request that uses the cache does what it does without. -/
theorem handleRequest (frame : Frame) :
    Simulates crates (handleRequestCached crates frame : CachedProgram shards _)
      (RhydaDB.handleRequest crates frame) := by
  cases opcode : frame.opcode with
  | query =>
      simp only [handleRequestCached, RhydaDB.handleRequest, opcode]
      cases readLongString frame.body with
      | none =>
          exact .fail _
      | some read =>
          dsimp only
          cases crates.readParameters read.2 with
          | none =>
              exact .fail _
          | some parameters =>
              exact handleQuery read.1 parameters
  | prepare =>
      simp only [handleRequestCached, RhydaDB.handleRequest, opcode]
      cases readLongString frame.body with
      | none =>
          exact .fail _
      | some read =>
          exact handlePrepare read.1
  | execute =>
      rw [handleRequestCached, opcode]
      exact .onConn _

end Simulates

/-! ## Connections that use the cache -/

/-- Related lists stay related when related items replace related ones. -/
theorem forall₂_getElem?
    {α β : Type}
    {related : α → β → Prop}
    {first : List α}
    {second : List β}
    (all : List.Forall₂ related first second)
    {index : Nat}
    {item : α}
    (found : first[index]? = some item) :
    ∃ partner,
      second[index]? = some partner ∧
        related item partner ∧
        (∀ other,
          related other partner →
          List.Forall₂ related (first.set index other) second) ∧
        ∀ other otherPartner,
          related other otherPartner →
          List.Forall₂ related (first.set index other)
            (second.set index otherPartner) := by
  induction all generalizing index with
  | nil =>
      cases found
  | @cons head partner rest partners isRelated all inductionHypothesis =>
      cases index with
      | zero =>
          cases found
          exact ⟨partner, rfl, isRelated, fun other also => .cons also all,
            fun other otherPartner also => .cons also all⟩
      | succ index =>
          obtain ⟨there, foundThere, alsoRelated, once, both⟩ :=
            inductionHypothesis found
          exact ⟨there, foundThere, alsoRelated,
            fun other also => .cons isRelated (once other also),
            fun other otherPartner also =>
              .cons isRelated (both other otherPartner also)⟩

section Connections

variable {shards : Nat} (crates : Crates)

/-- A request that uses the cache beside the same request without it. -/
structure CachedTask.Simulates
    (cached : CachedTask shards)
    (plain : ConnTask shards) :
    Prop where
  frame : cached.frame = plain.frame
  program : RhydaDB.Simulates crates cached.program plain.program

/-- A connection that uses the cache beside the same one without it. -/
structure CachedConnection.Simulates
    (cached : CachedConnection shards)
    (plain : Connection shards) :
    Prop where
  state : cached.state.conn = plain.state
  cache : cached.state.cache.Sound crates
  tasks :
    List.Forall₂ (CachedTask.Simulates crates) cached.tasks plain.tasks

variable {crates}

/-- Where every inline request has ended with the cache, it has without. -/
theorem allEnded_of_simulates
    {tasks : List (CachedTask shards)}
    {partners : List (ConnTask shards)}
    (all : List.Forall₂ (CachedTask.Simulates crates) tasks partners)
    (ended :
      (tasks.all fun task => !task.frame.inline || task.program.isDone) = true) :
    (partners.all fun task => !task.frame.inline || task.isDone) = true := by
  induction all with
  | nil =>
      rfl
  | @cons task partner rest partners simulates all inductionHypothesis =>
      rw [List.all_cons, Bool.and_eq_true] at ended ⊢
      refine ⟨?_, inductionHypothesis ended.2⟩
      rw [← simulates.frame]
      rcases Bool.or_eq_true_iff.mp ended.1 with spawned | done
      · rw [spawned, Bool.true_or]
      · have partnerDone : partner.isDone = true :=
          simulates.program.isDone done
        rw [partnerDone, Bool.or_true]

/-- No more requests are unfinished without the cache than with it. -/
theorem countP_of_simulates
    {tasks : List (CachedTask shards)}
    {partners : List (ConnTask shards)}
    (all : List.Forall₂ (CachedTask.Simulates crates) tasks partners) :
    (partners.countP fun task => !task.isDone) ≤
      tasks.countP fun task => !task.program.isDone := by
  induction all with
  | nil =>
      rfl
  | @cons task partner rest partners simulates all inductionHypothesis =>
      rw [List.countP_cons, List.countP_cons]
      refine Nat.add_le_add inductionHypothesis ?_
      cases done : task.program.isDone with
      | false =>
          split
          · rfl
          · exact Nat.zero_le _
      | true =>
          have partnerDone : partner.isDone = true :=
            simulates.program.isDone done
          simp [partnerDone]

namespace CachedConnection.Simulates

variable
  {cached next : CachedConnection shards}
  {plain : Connection shards}

/-- A frame that is taken with the cache may be taken without it. -/
theorem accepts
    (simulates : cached.Simulates crates plain)
    {frame : Frame}
    (accepted : cached.accepts frame = true) :
    plain.accepts frame = true := by
  rw [CachedConnection.accepts, Bool.and_eq_true] at accepted
  rw [Connection.accepts, Bool.and_eq_true]
  refine ⟨allEnded_of_simulates simulates.tasks accepted.1, ?_⟩
  rcases Bool.or_eq_true_iff.mp accepted.2 with inline | few
  · rw [inline, Bool.true_or]
  · have fewer :=
      (countP_of_simulates simulates.tasks).trans_lt (of_decide_eq_true few)
    rw [decide_eq_true fewer, Bool.or_true]

variable [NeZero shards] {label : CachedLabel shards}

/-- One step without the cache. -/
theorem single
    (connLabel : ConnLabel shards)
    {after : Connection shards}
    (taken : plain.step? crates connLabel = some after)
    (simulates : next.Simulates crates after) :
    ∃ labels after,
      Run (Connection.step? crates) (fun _ _ => True) plain labels after ∧
        next.Simulates crates after :=
  ⟨[connLabel], after, .cons trivial taken (.nil _), simulates⟩

/-- Every step with the cache is a step without it, or none. -/
theorem step
    (simulates : cached.Simulates crates plain)
    (taken : cached.step? crates label = some next) :
    ∃ labels after,
      Run (Connection.step? crates) (fun _ _ => True) plain labels after ∧
        next.Simulates crates after := by
  cases label with
  | receive frame =>
      simp only [step?] at taken
      split at taken
      · rename_i accepted
        cases taken
        have received :
            plain.step? crates (.receive frame) =
              some { plain with
                tasks := plain.tasks ++
                  [⟨frame, RhydaDB.handleRequest crates frame, none, none,
                    none⟩] } := by
          rw [Connection.step?, if_pos (simulates.accepts accepted)]
        refine single _ received ⟨simulates.state, simulates.cache, ?_⟩
        exact List.rel_append simulates.tasks
          (.cons ⟨rfl, Simulates.handleRequest frame⟩ .nil)
      · cases taken
  | advance index =>
      simp only [step?] at taken
      split at taken
      · rename_i task found
        obtain ⟨partner, foundPartner, ⟨frame, program⟩, once, both⟩ :=
          forall₂_getElem? simulates.tasks found
        split at taken
        · rename_i action rest isAct
          rw [isAct] at program
          split at taken
          · rename_i ready
            cases taken
            generalize isPlain : partner.program = plainProgram at program
            cases program with
            | @conn connAction _ plainRest later =>
                rw [show cached.state.ready (.conn connAction) =
                    cached.state.conn.ready connAction from rfl,
                  simulates.state] at ready
                have advanced :
                    plain.step? crates (.advance index) =
                      some {
                        state := (plain.state.answer connAction).1
                        tasks := plain.tasks.set index
                          (partner.goOn connAction
                            (plain.state.answer connAction).2
                            (plainRest (plain.state.answer connAction).2)) } := by
                  simp [Connection.step?, foundPartner, isPlain, ready]
                refine single _ advanced ⟨?_, simulates.cache, both _ _ ⟨?_, ?_⟩⟩
                · exact congrArg (fun state => (state.answer connAction).1)
                    simulates.state
                · exact frame.trans (partner.goOn_frame _ _ _).symm
                · rw [ConnTask.goOn_program, ← simulates.state]
                  exact later _
            | @get query _ _ hit miss =>
                refine ⟨[], plain, .nil _, simulates.state, simulates.cache,
                  once _ ⟨frame, ?_⟩⟩
                rw [isPlain]
                cases found : cached.state.cache.get query with
                | none =>
                    simpa [CachedState.answer, found] using miss
                | some statement =>
                    simpa [CachedState.answer, found] using
                      hit statement (simulates.cache.get found)
            | @put query statement _ _ parses later =>
                refine ⟨[], plain, .nil _, simulates.state,
                  simulates.cache.put parses, once _ ⟨frame, ?_⟩⟩
                rw [isPlain]
                exact later
          · cases taken
        · cases taken
      · cases taken
  | engine engine label =>
      simp only [step?] at taken
      split at taken
      · rename_i thread
        obtain ⟨store, moved, rfl⟩ := Option.map_eq_some_iff.mp taken
        rw [simulates.state] at moved
        have also :
            plain.step? crates (.engine engine label) =
              some { plain with
                state := { plain.state with store := store } } := by
          simp [Connection.step?, thread, moved]
        refine single _ also ⟨?_, simulates.cache, simulates.tasks⟩
        simp only [simulates.state]
      · cases taken
  | elsewhere action =>
      cases taken
      refine single (.elsewhere action) rfl
        ⟨?_, simulates.cache, simulates.tasks⟩
      simp only [simulates.state]
  | parsedElsewhere query =>
      obtain ⟨statement, parses, rfl⟩ := Option.map_eq_some_iff.mp taken
      exact ⟨[], plain, .nil _, simulates.state, simulates.cache.put parses,
        simulates.tasks⟩

/-- A run with the cache is a run without it. -/
theorem run
    {allowed : CachedConnection shards → CachedLabel shards → Prop}
    {labels : List (CachedLabel shards)}
    (ran : Run (CachedConnection.step? crates) allowed cached labels next)
    (simulates : cached.Simulates crates plain) :
    ∃ labels after,
      Run (Connection.step? crates) (fun _ _ => True) plain labels after ∧
        next.Simulates crates after := by
  induction ran generalizing plain with
  | nil cached =>
      exact ⟨[], plain, .nil _, simulates⟩
  | cons permitted first later inductionHypothesis =>
      obtain ⟨earlier, middle, before, also⟩ := simulates.step first
      obtain ⟨rest, after, behind, last⟩ := inductionHypothesis also
      exact ⟨earlier ++ rest, after, before.append behind, last⟩

end CachedConnection.Simulates

/--
In every interleaving of the requests of a connection, with each other, with the
pipeline threads and with the requests of other connections, the statement cache
changes nothing: the same run of `Connection`, where every request parses its
own text, ends in the same state, and each request that has ended with the cache
has ended alike without it.  The cache holds at most 8192 statements, each as
its text is parsed.
-/
theorem ast_cache_transparent
    {crates : Crates}
    {shards : Nat}
    [NeZero shards]
    {store : Storage shards}
    {labels : List (CachedLabel shards)}
    {cached : CachedConnection shards}
    (run :
      Run (CachedConnection.step? crates) (fun _ _ => True) (.open_ store) labels
        cached) :
    (∃ connLabels plain,
      Run (Connection.step? crates) (fun _ _ => True) (.open_ store) connLabels
          plain ∧
        plain.state = cached.state.conn ∧
        List.Forall₂
          (fun (task : CachedTask shards) (partner : ConnTask shards) =>
            task.frame = partner.frame ∧
              (∀ reply,
                task.program = .pure reply → partner.program = .pure reply) ∧
              ∀ fault,
                task.program = .fail fault → partner.program = .fail fault)
          cached.tasks plain.tasks) ∧
      cached.state.cache.Sound crates := by
  have initially :
      CachedConnection.Simulates crates (.open_ store)
        (.open_ store : Connection shards) :=
    ⟨rfl, AstCache.sound_empty crates, .nil⟩
  obtain ⟨connLabels, plain, ran, simulates⟩ := initially.run run
  refine ⟨⟨connLabels, plain, ran, simulates.state.symm, ?_⟩, simulates.cache⟩
  refine simulates.tasks.imp fun task partner also => ⟨also.frame, ?_, ?_⟩
  · intro reply isReply
    have program := also.program
    rw [isReply] at program
    generalize partner.program = plainProgram at program ⊢
    cases program
    rfl
  · intro fault isFault
    have program := also.program
    rw [isFault] at program
    generalize partner.program = plainProgram at program ⊢
    cases program
    rfl

end Connections

/-- Two requests miss one text before either adds it, and a third one hits. -/
def missesThenHit : List (CachedLabel 1) :=
  [.receive (queryFrame "USE\tother"), .receive (queryFrame "USE\tother"),
    .advance 0, .advance 1, .advance 0, .advance 1, .advance 1, .advance 0,
    .receive (queryFrame "USE\tother"), .advance 2, .advance 2, .advance 2,
    .advance 0, .advance 2, .advance 1, .advance 1, .advance 0]

/-- All three requests end, and the text is in the cache once. -/
theorem ast_cache_transparent_three :
    ∃ cached : CachedConnection 1,
      cached.tasks.map (fun task => task.program.isDone) = [true, true, true] ∧
        cached.state.cache.entries.map Prod.fst = ["USE\tother"] ∧
        (∃ connLabels plain,
          Run (Connection.step? sessionCrates) (fun _ _ => True)
              (.open_ twoKeyspaces) connLabels plain ∧
            plain.state = cached.state.conn ∧
            List.Forall₂
              (fun (task : CachedTask 1) (partner : ConnTask 1) =>
                task.frame = partner.frame ∧
                  (∀ reply,
                    task.program = .pure reply →
                    partner.program = .pure reply) ∧
                  ∀ fault,
                    task.program = .fail fault →
                    partner.program = .fail fault)
              cached.tasks plain.tasks) ∧
          cached.state.cache.Sound sessionCrates := by
  have observed :
      (run? (CachedConnection.step? sessionCrates) (.open_ twoKeyspaces)
          missesThenHit).map
          (fun cached =>
            (cached.tasks.map (fun task => task.program.isDone),
              cached.state.cache.entries.map Prod.fst)) =
        some ([true, true, true], ["USE\tother"]) := by
    decide +kernel
  obtain ⟨cached, ran, seen⟩ := Option.map_eq_some_iff.mp observed
  obtain ⟨ended, texts⟩ := Prod.mk.inj seen
  have run :
      Run (CachedConnection.step? sessionCrates) (fun _ _ => True)
        (.open_ twoKeyspaces) missesThenHit cached :=
    .of_run? (permitted_of_forall (fun _ _ _ => trivial) _) ran
  exact ⟨cached, ended, texts, ast_cache_transparent run⟩

end RhydaDB
