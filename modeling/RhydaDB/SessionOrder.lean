import RhydaDB.PreparedMeaning

namespace RhydaDB

open ByteStrings AtomicPrograms FiniteRuns Storage

/-!
# The session keyspace and the order of requests

A request reads the session keyspace when its task gets to it, and a USE
changes it when its own task does.  The reader serves a text that starts with
`use ` before it takes the next frame, but it neither waits for the requests
it has already handed out nor recognises every spelling of USE.
-/

variable {shards : Nat}

/-- Whether a table name leaves the keyspace to the session. -/
def FQName.isUnqualified (name : FQName) : Bool :=
  name.keyspace.isNone

/-- Whether a statement is resolved in the session keyspace. -/
def Statement.usesSession : Statement → Bool
  | .createTable create =>
      create.name.isUnqualified
  | .insert ins =>
      ins.tableName.isUnqualified
  | .select sel =>
      sel.tableName.isUnqualified
  | .delete del =>
      del.tableName.isUnqualified
  | .update upd =>
      upd.tableName.isUnqualified
  | .truncate name =>
      name.isUnqualified
  | .dropTable drop =>
      drop.name.isUnqualified
  | _ =>
      false

/-- The statement of the text in a frame. -/
def Frame.statement? (crates : Crates) (frame : Frame) : Option Statement :=
  (readLongString frame.body).bind fun (text, _) => crates.parse text

/-- Whether an access reads the session keyspace. -/
def ConnAction.ReadsKeyspace : ConnAction shards → Prop
  | .keyspace =>
      True
  | _ =>
      False

/-- Whether an access changes the session keyspace. -/
def ConnAction.SetsKeyspace : ConnAction shards → Prop
  | .setKeyspace _ =>
      True
  | _ =>
      False

/-- Whether an access looks an id up. -/
def ConnAction.LooksUp : ConnAction shards → Prop
  | .preparedGet _ =>
      True
  | _ =>
      False

namespace ConnTask

/-- The statement a request serves, as far as it is known. -/
def statement? (crates : Crates) (task : ConnTask shards) : Option Statement :=
  match task.frame.opcode with
  | .execute =>
      task.found.map PreparedStmt.statement
  | _ =>
      task.frame.statement? crates

/-- The request serves a statement that is resolved in the session keyspace. -/
def UsesSession (crates : Crates) (task : ConnTask shards) : Prop :=
  ∃ statement,
    task.statement? crates = some statement ∧
      statement.usesSession = true

/-- The request may turn out to serve such a statement. -/
def MayUseSession (crates : Crates) (task : ConnTask shards) : Prop :=
  task.UsesSession crates ∨
    (task.frame.opcode = .execute ∧ task.found = none)

/--
The request has an effect on the order still to come: it may read the session
keyspace for its statement, or it may change it.
-/
def Awaits (crates : Crates) (task : ConnTask shards) : Prop :=
  (task.MayUseSession crates ∧
    ¬ task.program.Never ConnAction.ReadsKeyspace) ∨
  ¬ task.program.Never ConnAction.SetsKeyspace

end ConnTask

/-- The keyspace of the last successful USE among the requests. -/
def lastUsed (tasks : List (ConnTask shards)) : Option String :=
  tasks.reverse.findSome? ConnTask.used

namespace Connection

/--
Every statement without a keyspace of its own was resolved in the keyspace of
the last successful USE before it in frame order.
-/
def FollowsOrder (crates : Crates) (connection : Connection shards) : Prop :=
  ∀ index task keyspace,
    connection.tasks[index]? = some task →
    task.UsesSession crates →
    task.sessionKs = some keyspace →
    keyspace = lastUsed (connection.tasks.take index)

/--
When a USE is about to take effect, no request before it is still going to
read or change the session keyspace, and no request after it has read it.
-/
def UseInOrder (crates : Crates) (connection : Connection shards) :
    ConnLabel shards → Prop
  | .advance index =>
      ∀ task keyspace next,
        connection.tasks[index]? = some task →
        task.program = .act (.setKeyspace keyspace) next →
        (∀ earlier ∈ connection.tasks.take index, ¬ earlier.Awaits crates) ∧
          ∀ later ∈ connection.tasks.drop (index + 1),
            later.UsesSession crates →
            later.sessionKs = none
  | _ =>
      True

end Connection

/-! ## Which requests change the session -/

/-- A response other than that of a USE. -/
def Response.KeepsSession : Response → Prop
  | .setKeyspace _ =>
      False
  | _ =>
      True

/-- A result other than that of a USE. -/
def Executed.KeepsSession (executed : Executed shards) : Prop :=
  executed.response.KeepsSession

section Statements

variable
  [NeZero shards]
  (crates : Crates)
  (sessionKs : Option String)
  (binds : Binds)
  (pageSize : Option Int32)
  (pagingState : Option Bytes)

/-- Only a USE asks for a change of the session keyspace. -/
theorem yields_executeStatement
    {statement : Statement}
    (notUse : ∀ keyspace, statement ≠ .use keyspace) :
    (executeStatement crates.json crates.hexDecode sessionKs binds pageSize
      pagingState statement : StorageProgram shards QueryFault _).Yields
        Executed.KeepsSession := by
  cases statement with
  | use keyspace =>
      exact (notUse keyspace rfl).elim
  | createKeyspace create =>
      apply Program.Yields.bind
      intro found
      cases found with
      | some definition =>
          simp only
          split <;> trivial
      | none =>
          simp only
          split
          · trivial
          · apply Program.Yields.bind
            intro _
            apply Program.Yields.bind
            intro _
            trivial
  | createTable create =>
      apply Program.Yields.bind
      intro keyspace
      apply Program.Yields.bind
      intro found
      cases found with
      | some definition =>
          simp only
          split <;> trivial
      | none =>
          apply Program.Yields.bind
          intro definition
          apply Program.Yields.bind
          intro _
          apply Program.Yields.bind
          intro _
          trivial
  | insert ins =>
      apply Program.Yields.bind
      rintro ⟨keyspace, table⟩
      apply Program.Yields.bind
      intro _
      apply Program.Yields.bind
      rintro ⟨keyParts, cells, binds⟩
      apply Program.Yields.bind
      intro ticket
      trivial
  | select sel =>
      apply Program.Yields.bind
      intro missing
      cases missing with
      | true =>
          trivial
      | false =>
          apply Program.Yields.bind
          rintro ⟨keyspace, table⟩
          apply Program.Yields.bind
          intro selected
          apply Program.Yields.bind
          rintro ⟨filters, binds⟩
          simp only
          split
          · trivial
          · apply Program.Yields.bind
            rintro ⟨rows, sources, next⟩
            trivial
  | delete del =>
      apply Program.Yields.bind
      rintro ⟨keyspace, table⟩
      apply Program.Yields.bind
      intro _
      apply Program.Yields.bind
      rintro ⟨keyParts, binds⟩
      apply Program.Yields.bind
      intro ticket
      trivial
  | update upd =>
      apply Program.Yields.bind
      rintro ⟨keyspace, table⟩
      apply Program.Yields.bind
      intro _
      apply Program.Yields.bind
      rintro ⟨newValues, keyParts, binds⟩
      apply Program.Yields.bind
      intro cells
      apply Program.Yields.bind
      intro ticket
      trivial
  | truncate name =>
      apply Program.Yields.bind
      rintro ⟨keyspace, table⟩
      apply Program.Yields.bind
      intro _
      apply Program.Yields.bind
      intro tickets
      trivial
  | dropTable drop =>
      apply Program.Yields.bind
      intro keyspace
      apply Program.Yields.bind
      intro found
      cases found with
      | none =>
          simp only
          split <;> trivial
      | some definition =>
          apply Program.Yields.bind
          intro _
          apply Program.Yields.bind
          intro tickets
          apply Program.Yields.bind
          intro _
          trivial
  | dropKeyspace drop =>
      apply Program.Yields.bind
      intro found
      cases found with
      | none =>
          simp only
          split <;> trivial
      | some definition =>
          apply Program.Yields.bind
          intro _
          apply Program.Yields.bind
          intro tickets
          apply Program.Yields.bind
          intro _
          trivial
  | other shortName =>
      trivial

/-- A statement that is resolved in the session keyspace is no USE. -/
theorem Statement.ne_use_of_usesSession
    {statement : Statement}
    (uses : statement.usesSession = true)
    (keyspace : Identifier) :
    statement ≠ .use keyspace := by
  rintro rfl
  cases uses

/-- A QUERY of such a statement does not change the session keyspace. -/
theorem never_handleQuery_setsKeyspace
    {text : String}
    {statement : Statement}
    (parsed : crates.parse text = some statement)
    (uses : statement.usesSession = true)
    (parameters : QueryParameters) :
    (handleQuery crates text parameters :
      ConnProgram shards (Reply shards)).Never ConnAction.SetsKeyspace := by
  refine ⟨id, fun sessionKs => ?_⟩
  simp only [parsed]
  apply (Program.never_embed (fun _ => id) _).bind
    (yields_executeStatement crates sessionKs (.new parameters.values)
      parameters.pageSize parameters.pagingState
      (Statement.ne_use_of_usesSession uses)).embed
  intro executed keeps
  apply (never_settle (fun _ => id) _).bind_all
  intro _
  have applied :
      (applyUse executed.response : ConnProgram shards Unit).Never
        ConnAction.SetsKeyspace := by
    unfold applyUse
    split
    · rename_i keyspace isUse
      rw [Executed.KeepsSession, isUse] at keeps
      exact keeps.elim
    · trivial
  apply applied.bind_all
  intro _
  trivial

/-- A PREPARE does not change the session keyspace. -/
theorem never_handlePrepare_setsKeyspace (text : String) :
    (handlePrepare crates text : ConnProgram shards (Reply shards)).Never
      ConnAction.SetsKeyspace := by
  unfold handlePrepare
  split
  · trivial
  · refine ⟨id, fun sessionKs => ?_⟩
    apply (Program.never_embed (fun _ => id) _).bind_all
    intro info
    exact ⟨id, fun number => ⟨id, fun _ => trivial⟩⟩

/-- Nor does an EXECUTE, which looks nothing up either. -/
theorem never_handleExecute
    {marked : ConnAction shards → Prop}
    (unmarkedStorage : ∀ action, ¬ marked (.storage action))
    (unmarkedRead : ¬ marked .keyspace)
    (unmarkedWait : ∀ ticket, ¬ marked (.settle ticket))
    (prepared : PreparedStmt)
    (parameters : QueryParameters) :
    (handleExecute crates prepared parameters :
      ConnProgram shards (Reply shards)).Never marked := by
  unfold handleExecute
  split
  · trivial
  · refine ⟨unmarkedRead, fun sessionKs => ?_⟩
    apply (Program.never_embed unmarkedStorage _).bind_all
    intro executed
    apply (never_settle unmarkedWait _).bind_all
    intro _
    trivial

/-- What an EXECUTE frame does once its id is looked up. -/
def afterLookup
    (rest : Bytes) :
    Option PreparedStmt →
    ConnProgram shards (Reply shards)
  | none =>
      .fail (invalidErr "Prepared statement not found (unprepared)")
  | some prepared =>
      match crates.readParameters rest with
      | none =>
          .fail (protocolErr "Malformed EXECUTE parameters")
      | some parameters =>
          handleExecute crates prepared parameters

/-- An EXECUTE frame is malformed, or looks its id up first. -/
theorem handleRequest_execute
    {frame : Frame}
    (isExecute : frame.opcode = .execute) :
    (∃ fault, handleRequest crates frame =
        (.fail fault : ConnProgram shards (Reply shards))) ∨
      ∃ id rest,
        handleRequest crates frame =
          (.act (.preparedGet id) (afterLookup crates rest) :
            ConnProgram shards (Reply shards)) := by
  unfold handleRequest
  simp only [isExecute]
  split
  · exact .inl ⟨_, rfl⟩
  · rename_i id rest _
    refine .inr ⟨id, rest, ?_⟩
    simp only [access, Program.perform_bind]
    congr 1
    funext found
    cases found <;> rfl

/-- After the lookup, an EXECUTE neither looks up again nor sets a keyspace. -/
theorem never_afterLookup
    {marked : ConnAction shards → Prop}
    (unmarkedStorage : ∀ action, ¬ marked (.storage action))
    (unmarkedRead : ¬ marked .keyspace)
    (unmarkedWait : ∀ ticket, ¬ marked (.settle ticket))
    (rest : Bytes)
    (found : Option PreparedStmt) :
    (afterLookup crates rest found).Never marked := by
  unfold afterLookup
  split
  · trivial
  · split
    · trivial
    · exact never_handleExecute crates unmarkedStorage unmarkedRead
        unmarkedWait _ _

/-- Requests other than EXECUTE look nothing up. -/
theorem never_handleRequest_looksUp
    {frame : Frame}
    (notExecute : frame.opcode ≠ .execute) :
    (handleRequest crates frame : ConnProgram shards (Reply shards)).Never
      ConnAction.LooksUp := by
  unfold handleRequest
  split
  · split
    · trivial
    · split
      · trivial
      · refine ⟨id, fun sessionKs => ?_⟩
        simp only
        split
        · trivial
        · apply (Program.never_embed (fun _ => id) _).bind_all
          intro executed
          apply (never_settle (fun _ => id) _).bind_all
          intro _
          have applied :
              (applyUse executed.response : ConnProgram shards Unit).Never
                ConnAction.LooksUp := by
            unfold applyUse
            split
            · exact ⟨id, fun _ => trivial⟩
            · trivial
          apply applied.bind_all
          intro _
          trivial
  · split
    · trivial
    · unfold handlePrepare
      split
      · trivial
      · refine ⟨id, fun sessionKs => ?_⟩
        apply (Program.never_embed (fun _ => id) _).bind_all
        intro info
        exact ⟨id, fun number => ⟨id, fun _ => trivial⟩⟩
  · rename_i isExecute
    exact (notExecute isExecute).elim

end Statements

/-! ## Requests under way -/

namespace ConnTask

variable [NeZero shards] (crates : Crates)

/-- A request that has done nothing yet. -/
def fresh (frame : Frame) : ConnTask shards :=
  ⟨frame, handleRequest crates frame, none, none, none⟩

/--
What holds of a request at any time: its id is looked up first if at all, and
a request that may depend on the session does not change it.
-/
structure Proper (task : ConnTask shards) : Prop where
  lookup :
    task = fresh crates task.frame ∨ task.program.Never ConnAction.LooksUp
  keeps :
    task.MayUseSession crates →
    task.program.Never ConnAction.SetsKeyspace ∧ task.used = none

/-- A request starts properly. -/
theorem proper_fresh (frame : Frame) :
    (fresh crates frame : ConnTask shards).Proper crates where
  lookup := .inl rfl
  keeps := by
    intro mayUse
    refine ⟨?_, rfl⟩
    cases isOpcode : frame.opcode with
    | execute =>
        have shape :
            (∃ fault, handleRequest crates frame =
              (.fail fault : ConnProgram shards (Reply shards))) ∨ _ :=
          handleRequest_execute crates isOpcode
        rcases shape with ⟨fault, isFail⟩ | ⟨_, rest, isAct⟩
        · simp only [fresh, isFail]
          trivial
        · simp only [fresh, isAct]
          exact ⟨fun sets => sets, never_afterLookup crates (fun _ => id)
            (fun sets => sets) (fun _ => id) rest⟩
    | prepare =>
        simp only [fresh, handleRequest, isOpcode]
        split
        · trivial
        · exact never_handlePrepare_setsKeyspace crates _
    | query =>
        rcases mayUse with ⟨statement, known, uses⟩ | ⟨isExecute, _⟩
        · simp only [fresh, statement?, isOpcode, Frame.statement?,
            Option.bind_eq_some_iff, Prod.exists] at known
          obtain ⟨text, rest, read, parsed⟩ := known
          simp only [fresh, handleRequest, isOpcode, read]
          split
          · trivial
          · exact never_handleQuery_setsKeyspace crates parsed uses _
        · simp [fresh, isOpcode] at isExecute

variable
  {crates}
  {task : ConnTask shards}
  {action : ConnAction shards}
  {next : ConnResponse action → ConnProgram shards (Reply shards)}

/-- A request that looks its id up has done nothing before. -/
theorem Proper.fresh_of_looksUp
    (proper : task.Proper crates)
    (program : task.program = .act action next)
    (looksUp : action.LooksUp) :
    task = fresh crates task.frame ∧ task.frame.opcode = .execute := by
  have isFresh : task = fresh crates task.frame := by
    refine proper.lookup.resolve_right fun never => ?_
    rw [program] at never
    exact never.1 looksUp
  refine ⟨isFresh, ?_⟩
  by_contra notExecute
  have never :
      (handleRequest crates task.frame :
        ConnProgram shards (Reply shards)).Never ConnAction.LooksUp :=
    never_handleRequest_looksUp crates notExecute
  have same : handleRequest crates task.frame = .act action next := by
    rw [← program]
    exact (congrArg ConnTask.program isFresh).symm
  rw [same] at never
  exact never.1 looksUp

omit [NeZero shards] in
/-- Any access but a lookup leaves the statement as it is known. -/
theorem statement?_goOn
    (notLookup : ¬ action.LooksUp)
    (response : ConnResponse action) :
    (task.goOn action response (next response)).statement? crates =
      task.statement? crates ∧
    (task.goOn action response (next response)).found = task.found := by
  cases action with
  | preparedGet id =>
      exact (notLookup trivial).elim
  | _ =>
      exact ⟨rfl, rfl⟩

/-- Going on does not make a request depend on the session. -/
theorem Proper.mayUseSession_of_goOn
    (proper : task.Proper crates)
    (program : task.program = .act action next)
    {response : ConnResponse action}
    (mayUse :
      (task.goOn action response (next response)).MayUseSession crates) :
    task.MayUseSession crates := by
  by_cases looksUp : action.LooksUp
  · obtain ⟨isFresh, isExecute⟩ := proper.fresh_of_looksUp program looksUp
    exact .inr ⟨isExecute, congrArg ConnTask.found isFresh⟩
  · obtain ⟨sameStatement, sameFound⟩ :
        (task.goOn action response (next response)).statement? crates =
            task.statement? crates ∧
          (task.goOn action response (next response)).found = task.found :=
      statement?_goOn looksUp response
    simpa only [MayUseSession, UsesSession, sameStatement, sameFound,
      goOn_frame] using mayUse

/-- Nor does it add effects to come. -/
theorem Proper.awaits_of_goOn
    (proper : task.Proper crates)
    (program : task.program = .act action next)
    {response : ConnResponse action}
    (awaits : (task.goOn action response (next response)).Awaits crates) :
    task.Awaits crates := by
  rw [Awaits, goOn_program] at awaits
  rw [Awaits, program]
  rcases awaits with ⟨mayUse, reads⟩ | sets
  · exact .inl ⟨proper.mayUseSession_of_goOn program mayUse,
      fun never => reads (never.2 response)⟩
  · exact .inr fun never => sets (never.2 response)

omit [NeZero shards] in
/-- Only setting a keyspace is recorded as a USE. -/
theorem goOn_used
    (notSet : ¬ action.SetsKeyspace)
    (response : ConnResponse action) :
    (task.goOn action response (next response)).used = task.used := by
  cases action with
  | setKeyspace keyspace =>
      exact (notSet trivial).elim
  | _ =>
      rfl

omit [NeZero shards] in
/-- Only reading the session keyspace is recorded as such. -/
theorem goOn_sessionKs
    (notRead : ¬ action.ReadsKeyspace)
    (response : ConnResponse action) :
    (task.goOn action response (next response)).sessionKs =
      task.sessionKs := by
  cases action with
  | keyspace =>
      exact (notRead trivial).elim
  | _ =>
      rfl

/-- A request stays proper as it goes on. -/
theorem Proper.goOn
    (proper : task.Proper crates)
    (program : task.program = .act action next)
    (response : ConnResponse action) :
    (task.goOn action response (next response)).Proper crates where
  lookup := by
    rw [goOn_program]
    rcases proper.lookup with isFresh | never
    · have same : handleRequest crates task.frame = .act action next := by
        rw [← program]
        exact (congrArg ConnTask.program isFresh).symm
      by_cases isExecute : task.frame.opcode = .execute
      · have shape :
            (∃ fault, handleRequest crates task.frame =
              (.fail fault : ConnProgram shards (Reply shards))) ∨ _ :=
          handleRequest_execute crates isExecute
        rw [same] at shape
        rcases shape with ⟨fault, isFail⟩ | ⟨_, rest, isAct⟩
        · cases isFail
        · cases isAct
          exact .inr (never_afterLookup crates (fun _ => id)
            (fun looks => looks) (fun _ => id) rest response)
      · have never :
            (handleRequest crates task.frame :
              ConnProgram shards (Reply shards)).Never ConnAction.LooksUp :=
          never_handleRequest_looksUp crates isExecute
        rw [same] at never
        exact .inr (never.2 response)
    · rw [program] at never
      exact .inr (never.2 response)
  keeps := by
    intro mayUse
    obtain ⟨never, unused⟩ :=
      proper.keeps (proper.mayUseSession_of_goOn program mayUse)
    rw [program] at never
    exact ⟨never.2 response, by rw [goOn_used never.1, unused]⟩

end ConnTask

/-! ## Whole connections -/

/-- The last USE of a longer list is the later one, if there is one. -/
theorem lastUsed_append (first second : List (ConnTask shards)) :
    lastUsed (first ++ second) = (lastUsed second).or (lastUsed first) := by
  simp [lastUsed, List.findSome?_append]

/-- Where no request was a successful USE, there is no last one. -/
theorem lastUsed_eq_none
    {tasks : List (ConnTask shards)}
    (unused : ∀ task ∈ tasks, task.used = none) :
    lastUsed tasks = none := by
  simpa [lastUsed, List.findSome?_eq_none_iff] using unused

/-- The last USE depends on nothing but the recorded ones. -/
theorem lastUsed_congr
    {first second : List (ConnTask shards)}
    (same : first.map ConnTask.used = second.map ConnTask.used) :
    lastUsed first = lastUsed second := by
  have flat :
      ∀ tasks : List (ConnTask shards),
        lastUsed tasks = (tasks.map ConnTask.used).reverse.findSome? id := by
    intro tasks
    simp [lastUsed, ← List.map_reverse, List.findSome?_map]
  rw [flat, flat, same]

/-- A list around one of its elements. -/
theorem eq_take_cons_drop
    {α : Type}
    {items : List α}
    {index : Nat}
    {item : α}
    (found : items[index]? = some item) :
    items = items.take index ++ item :: items.drop (index + 1) := by
  obtain ⟨bound, rfl⟩ := List.getElem?_eq_some_iff.mp found
  rw [List.cons_getElem_drop_succ, List.take_append_drop]

namespace Connection

variable [NeZero shards] (crates : Crates)

/--
The session keyspace is that of the last USE in frame order, reads followed
the order, and nothing before a USE that took effect has an effect to come.
-/
structure InOrder (connection : Connection shards) : Prop where
  proper : ∀ task ∈ connection.tasks, task.Proper crates
  keyspace :
    connection.state.shared.keyspace = lastUsed connection.tasks
  follows : connection.FollowsOrder crates
  settled :
    ∀ (i j : Nat) (earlier later : ConnTask shards),
      i < j →
      connection.tasks[i]? = some earlier →
      connection.tasks[j]? = some later →
      later.used.isSome = true →
      ¬ earlier.Awaits crates

/-- A fresh connection is in order. -/
theorem inOrder_open (store : Storage shards) :
    (open_ store).InOrder crates where
  proper := by simp [open_]
  keyspace := rfl
  follows := by simp [FollowsOrder, open_]
  settled := by simp [open_]

variable
  {crates}
  {connection : Connection shards}
  {index : Nat}
  {task : ConnTask shards}
  {action : ConnAction shards}
  {next : ConnResponse action → ConnProgram shards (Reply shards)}

/-- Behind a request with an effect to come, no USE has taken effect. -/
theorem InOrder.unused_after
    (inOrder : connection.InOrder crates)
    (found : connection.tasks[index]? = some task)
    (awaits : task.Awaits crates) :
    lastUsed (connection.tasks.drop (index + 1)) = none := by
  apply lastUsed_eq_none
  intro later member
  obtain ⟨offset, isLater⟩ := List.mem_iff_getElem?.mp member
  rw [List.getElem?_drop] at isLater
  by_contra used
  exact inOrder.settled index _ task later (by omega) found isLater
    (Option.isSome_iff_ne_none.mpr used) awaits

/-- What a request that depends on the session is about to read. -/
theorem InOrder.keyspace_at
    (inOrder : connection.InOrder crates)
    (found : connection.tasks[index]? = some task)
    (mayUse : task.MayUseSession crates)
    (awaits : task.Awaits crates) :
    connection.state.shared.keyspace =
      lastUsed (connection.tasks.take index) := by
  have unused :=
    ((inOrder.proper task (List.mem_of_getElem? found)).keeps mayUse).2
  have alone : lastUsed [task] = none :=
    lastUsed_eq_none (by simpa using unused)
  have around := congrArg lastUsed (eq_take_cons_drop found)
  rw [inOrder.keyspace, around, lastUsed_append, ← List.singleton_append,
    lastUsed_append, inOrder.unused_after found awaits, alone]
  simp

/-- A request that has just read, or had read before, follows the order. -/
theorem InOrder.follows_goOn
    (inOrder : connection.InOrder crates)
    (found : connection.tasks[index]? = some task)
    (program : task.program = .act action next)
    {keyspace : Option String}
    (uses :
      (task.goOn action (connection.state.answer action).2
        (next (connection.state.answer action).2)).UsesSession crates)
    (read :
      (task.goOn action (connection.state.answer action).2
        (next (connection.state.answer action).2)).sessionKs =
          some keyspace) :
    keyspace = lastUsed (connection.tasks.take index) := by
  have proper := inOrder.proper task (List.mem_of_getElem? found)
  have mayUse := proper.mayUseSession_of_goOn program (.inl uses)
  by_cases reads : action.ReadsKeyspace
  · have awaits : task.Awaits crates := by
      refine .inl ⟨mayUse, fun never => ?_⟩
      rw [program] at never
      exact never.1 reads
    rw [← inOrder.keyspace_at found mayUse awaits]
    cases action with
    | keyspace =>
        exact (Option.some.inj read).symm
    | _ =>
        exact reads.elim
  · rw [ConnTask.goOn_sessionKs reads] at read
    by_cases looksUp : action.LooksUp
    · obtain ⟨isFresh, _⟩ := proper.fresh_of_looksUp program looksUp
      rw [isFresh] at read
      cases read
    · rw [ConnTask.UsesSession, (ConnTask.statement?_goOn looksUp _).1] at uses
      exact inOrder.follows index task keyspace found uses read

/-- An access other than a USE's keeps the order. -/
theorem InOrder.act
    (inOrder : connection.InOrder crates)
    (found : connection.tasks[index]? = some task)
    (program : task.program = .act action next)
    (notSet : ¬ action.SetsKeyspace) :
    InOrder crates
      ⟨(connection.state.answer action).1,
        connection.tasks.set index
          (task.goOn action (connection.state.answer action).2
            (next (connection.state.answer action).2))⟩ := by
  have proper := inOrder.proper task (List.mem_of_getElem? found)
  have bound := (List.getElem?_eq_some_iff.mp found).1
  generalize moved :
    task.goOn action (connection.state.answer action).2
      (next (connection.state.answer action).2) = after
  have afterProper : after.Proper crates := by
    rw [← moved]
    exact proper.goOn program _
  have sameUsed : after.used = task.used := by
    rw [← moved]
    exact ConnTask.goOn_used notSet _
  have usedKept :
      (connection.tasks.set index after).map ConnTask.used =
        connection.tasks.map ConnTask.used := by
    apply List.ext_getElem?
    intro i
    rw [List.getElem?_map, List.getElem?_map]
    by_cases here : i = index
    · subst here
      rw [List.getElem?_set_self bound, found]
      simp [sameUsed]
    · rw [List.getElem?_set_ne (Ne.symm here)]
  have keyspaceKept :
      (connection.state.answer action).1.shared.keyspace =
        connection.state.shared.keyspace := by
    cases action with
    | setKeyspace keyspace =>
        exact (notSet trivial).elim
    | _ =>
        rfl
  refine ⟨?_, ?_, ?_, ?_⟩
  · intro other member
    rcases List.mem_or_eq_of_mem_set member with before | rfl
    · exact inOrder.proper other before
    · exact afterProper
  · simp only [keyspaceKept, inOrder.keyspace]
    exact lastUsed_congr usedKept.symm
  · intro i other keyspace isOther uses read
    simp only at isOther ⊢
    have takeKept :
        lastUsed ((connection.tasks.set index after).take i) =
          lastUsed (connection.tasks.take i) := by
      apply lastUsed_congr
      rw [List.map_take, usedKept, List.map_take]
    rw [takeKept]
    by_cases here : i = index
    · subst here
      rw [List.getElem?_set_self bound, Option.some.injEq] at isOther
      rw [← isOther, ← moved] at uses read
      exact inOrder.follows_goOn found program uses read
    · rw [List.getElem?_set_ne (Ne.symm here)] at isOther
      exact inOrder.follows i other keyspace isOther uses read
  · intro i j earlier later before isEarlier isLater used
    simp only at isEarlier isLater
    have wasUsed :
        ∃ was, connection.tasks[j]? = some was ∧ was.used.isSome = true := by
      by_cases here : j = index
      · subst here
        rw [List.getElem?_set_self bound, Option.some.injEq] at isLater
        subst isLater
        exact ⟨task, found, by rw [← sameUsed]; exact used⟩
      · rw [List.getElem?_set_ne (Ne.symm here)] at isLater
        exact ⟨later, isLater, used⟩
    obtain ⟨was, isWas, used⟩ := wasUsed
    by_cases here : i = index
    · subst here
      rw [List.getElem?_set_self bound, Option.some.injEq] at isEarlier
      subst isEarlier
      intro awaits
      rw [← moved] at awaits
      exact inOrder.settled i j task was before found isWas used
        (proper.awaits_of_goOn program awaits)
    · rw [List.getElem?_set_ne (Ne.symm here)] at isEarlier
      exact inOrder.settled i j earlier was before isEarlier isWas used

/-- A USE that takes effect in order keeps the order. -/
theorem InOrder.use
    {keyspace : String}
    {next : Unit → ConnProgram shards (Reply shards)}
    (inOrder : connection.InOrder crates)
    (found : connection.tasks[index]? = some task)
    (program : task.program = .act (.setKeyspace keyspace) next)
    (earlierSettled :
      ∀ earlier ∈ connection.tasks.take index, ¬ earlier.Awaits crates)
    (laterUnread :
      ∀ later ∈ connection.tasks.drop (index + 1),
        later.UsesSession crates →
        later.sessionKs = none) :
    InOrder crates
      ⟨(connection.state.answer (.setKeyspace keyspace)).1,
        connection.tasks.set index
          (task.goOn (.setKeyspace keyspace) () (next ()))⟩ := by
  have proper := inOrder.proper task (List.mem_of_getElem? found)
  have bound := (List.getElem?_eq_some_iff.mp found).1
  have awaits : task.Awaits crates := by
    refine .inr fun never => ?_
    rw [program] at never
    exact never.1 trivial
  have afterProper :
      (task.goOn (.setKeyspace keyspace) () (next ())).Proper crates :=
    proper.goOn program ()
  have isUsed :
      (task.goOn (.setKeyspace keyspace) () (next ())).used =
        some keyspace :=
    rfl
  generalize moved :
    task.goOn (.setKeyspace keyspace) () (next ()) = after
      at afterProper isUsed ⊢
  refine ⟨?_, ?_, ?_, ?_⟩
  · intro other member
    rcases List.mem_or_eq_of_mem_set member with before | rfl
    · exact inOrder.proper other before
    · exact afterProper
  · have alone : lastUsed [after] = some keyspace := by
      simp [lastUsed, isUsed]
    have around :=
      congrArg lastUsed (eq_take_cons_drop (List.getElem?_set_self
        (a := after) bound))
    rw [List.drop_set_of_lt (Nat.lt_succ_self index), lastUsed_append,
      ← List.singleton_append, lastUsed_append,
      inOrder.unused_after found awaits, alone] at around
    rw [around]
    rfl
  · intro i other read isOther uses wasRead
    simp only at isOther ⊢
    rcases Nat.lt_trichotomy i index with before | here | behind
    · rw [List.getElem?_set_ne (by omega)] at isOther
      rw [List.take_set_of_le (by omega)]
      exact inOrder.follows i other read isOther uses wasRead
    · subst here
      rw [List.getElem?_set_self bound, Option.some.injEq] at isOther
      subst isOther
      have unused := (afterProper.keeps (.inl uses)).2
      rw [isUsed] at unused
      cases unused
    · rw [List.getElem?_set_ne (by omega)] at isOther
      have member : other ∈ connection.tasks.drop (index + 1) := by
        refine List.mem_of_getElem? (i := i - (index + 1)) ?_
        rw [List.getElem?_drop, ← isOther]
        congr 1
        omega
      rw [laterUnread other member uses] at wasRead
      cases wasRead
  · intro i j earlier later before isEarlier isLater used
    simp only at isEarlier isLater
    by_cases isIndex : j = index
    · subst isIndex
      rw [List.getElem?_set_ne (by omega)] at isEarlier
      exact earlierSettled earlier
        (List.mem_of_getElem? (by rw [List.getElem?_take_of_lt before, isEarlier]))
    · rw [List.getElem?_set_ne (Ne.symm isIndex)] at isLater
      by_cases here : i = index
      · subst here
        exact (inOrder.settled i j task later before found isLater used
          awaits).elim
      · rw [List.getElem?_set_ne (Ne.symm here)] at isEarlier
        exact inOrder.settled i j earlier later before isEarlier isLater used

/-- Taking a frame keeps the order. -/
theorem InOrder.receive
    (inOrder : connection.InOrder crates)
    (frame : Frame) :
    InOrder crates
      { connection with
        tasks := connection.tasks ++ [ConnTask.fresh crates frame] } := by
  refine ⟨?_, ?_, ?_, ?_⟩
  · intro other member
    rcases List.mem_append.mp member with before | isNew
    · exact inOrder.proper other before
    · rw [List.mem_singleton.mp isNew]
      exact ConnTask.proper_fresh crates frame
  · rw [lastUsed_append, inOrder.keyspace]
    rfl
  · intro i other keyspace isOther uses read
    simp only [List.getElem?_append] at isOther ⊢
    split at isOther
    · rename_i bound
      rw [List.take_append_of_le_length (by omega)]
      exact inOrder.follows i other keyspace isOther uses read
    · obtain ⟨_, rfl⟩ := List.getElem?_eq_some_iff.mp isOther
      simp [ConnTask.fresh] at read
  · intro i j earlier later before isEarlier isLater used
    simp only [List.getElem?_append] at isEarlier isLater
    split at isLater
    · rw [if_pos (by omega)] at isEarlier
      exact inOrder.settled i j earlier later before isEarlier isLater used
    · obtain ⟨_, rfl⟩ := List.getElem?_eq_some_iff.mp isLater
      simp [ConnTask.fresh] at used

/-- Every step in which a USE takes effect in order keeps the order. -/
theorem InOrder.step
    {after : Connection shards}
    {label : ConnLabel shards}
    (allowed : connection.UseInOrder crates label)
    (taken : connection.step? crates label = some after)
    (inOrder : connection.InOrder crates) :
    after.InOrder crates := by
  cases step?_sound taken with
  | @receive frame free =>
      exact inOrder.receive frame
  | @act index task action next found program =>
      by_cases sets : action.SetsKeyspace
      · cases action with
        | setKeyspace keyspace =>
            obtain ⟨earlierSettled, laterUnread⟩ :=
              allowed task keyspace next found program
            exact inOrder.use found program earlierSettled laterUnread
        | _ =>
            exact sets.elim
      · exact inOrder.act found program sets
  | engine thread moved =>
      exact ⟨inOrder.proper, inOrder.keyspace, inOrder.follows,
        inOrder.settled⟩
  | elsewhere action =>
      exact ⟨inOrder.proper, inOrder.keyspace, inOrder.follows,
        inOrder.settled⟩

/--
In every run of a connection in which each USE takes effect after the requests
before it and before the requests behind it, every statement without a
keyspace of its own is resolved in that of the last successful USE before it.
-/
theorem session_keyspace_follows_order
    {store : Storage shards}
    {labels : List (ConnLabel shards)}
    {final : Connection shards}
    (run :
      Run (step? crates) (UseInOrder crates) (open_ store) labels final) :
    final.FollowsOrder crates :=
  (run.invariant (fun allowed taken inOrder => inOrder.step allowed taken)
    (inOrder_open crates store)).follows

omit [NeZero shards] in
/--
A stricter condition that can be checked: when a USE takes effect, the
requests before it have been answered and those behind it have read nothing.
-/
def useAlone (connection : Connection shards) : ConnLabel shards → Bool
  | .advance index =>
      match connection.tasks[index]? with
      | some ⟨_, .act (.setKeyspace _) _, _, _, _⟩ =>
          (connection.tasks.take index).all ConnTask.isDone &&
            (connection.tasks.drop (index + 1)).all fun later =>
              later.sessionKs.isNone
      | _ =>
          true
  | _ =>
      true

omit [NeZero shards] in
/-- What passes the check is in order. -/
theorem useInOrder_of_useAlone
    {label : ConnLabel shards}
    (alone : connection.useAlone label = true) :
    connection.UseInOrder crates label := by
  cases label with
  | advance index =>
      intro task keyspace next found program
      obtain ⟨frame, _, sessionKs, looked, used⟩ := task
      cases program
      simp only [useAlone, found, Bool.and_eq_true, List.all_eq_true] at alone
      refine ⟨fun earlier member => ?_, fun later member _ => ?_⟩
      · have done := alone.1 earlier member
        rintro (⟨_, reads⟩ | sets)
        · exact reads (Program.never_of_isDone done)
        · exact sets (Program.never_of_isDone done)
      · exact Option.isNone_iff_eq_none.mp (alone.2 later member)
  | _ =>
      trivial

omit [NeZero shards] in
/-- A request that read something else than the last USE's keyspace. -/
theorem not_followsOrder
    {read : Option String}
    (seen :
      (connection.tasks[index]?).map
          (fun task =>
            (task.sessionKs,
              (task.statement? crates).map Statement.usesSession)) =
        some (some read, some true))
    (other : read ≠ lastUsed (connection.tasks.take index)) :
    ¬ connection.FollowsOrder crates := by
  intro follows
  obtain ⟨task, found, parts⟩ := Option.map_eq_some_iff.mp seen
  obtain ⟨wasRead, uses⟩ := Prod.mk.inj parts
  obtain ⟨statement, known, usesSession⟩ := Option.map_eq_some_iff.mp uses
  exact other
    (follows index task read found ⟨statement, known, usesSession⟩ wasRead)

end Connection

/-- `INSERT INTO kv (k, v) VALUES (?, ?)` as a QUERY with two values. -/
def insertFrame : Frame :=
  ⟨.query, longString "INSERT INTO kv (k, v) VALUES (?, ?)" ++ twoValues⟩

/-- A USE beside an INSERT, which reads the session once the USE is served. -/
def useThenInsert : List (ConnLabel 1) :=
  [.receive (queryFrame "USE\tother"), .receive insertFrame, .advance 0,
    .advance 0, .advance 0, .advance 1]

/-- The INSERT behind a USE is resolved in its keyspace. -/
theorem session_keyspace_follows_order_one :
    ∃ final,
      Run (Connection.step? sessionCrates)
          (Connection.UseInOrder sessionCrates) (.open_ twoKeyspaces)
          useThenInsert final ∧
        final.FollowsOrder sessionCrates ∧
        final.tasks.map ConnTask.sessionKs =
          [some none, some (some "other")] := by
  have alone :
      Permitted (Connection.step? sessionCrates)
        (fun connection label => connection.useAlone label = true)
        (.open_ twoKeyspaces) useThenInsert := by
    decide +kernel
  have observed :
      (run? (Connection.step? sessionCrates) (.open_ twoKeyspaces)
          useThenInsert).map (fun final => final.tasks.map ConnTask.sessionKs) =
        some [some none, some (some "other")] := by
    decide +kernel
  obtain ⟨final, ran, reads⟩ := Option.map_eq_some_iff.mp observed
  have run :
      Run (Connection.step? sessionCrates)
        (Connection.UseInOrder sessionCrates) (.open_ twoKeyspaces)
        useThenInsert final :=
    .of_run?
      ((Run.of_run? alone ran).permitted fun _ _ =>
        Connection.useInOrder_of_useAlone)
      ran
  exact ⟨final, run, Connection.session_keyspace_follows_order run, reads⟩

/--
A USE with a tab behind the keyword is handed to a task, and the INSERT behind
it reads the session keyspace first.
-/
def overtakenUse : List (ConnLabel 1) :=
  [.receive (queryFrame "USE bench"), .advance 0, .advance 0, .advance 0,
    .receive (queryFrame "USE\tother"), .receive insertFrame, .advance 2,
    .advance 1, .advance 1, .advance 1]

/-- An INSERT reads the session keyspace after the USE behind it was served. -/
def overtakingUse : List (ConnLabel 1) :=
  [.receive (queryFrame "USE bench"), .advance 0, .advance 0, .advance 0,
    .receive insertFrame, .receive (queryFrame "USE other"), .advance 2,
    .advance 2, .advance 2, .advance 1]

/--
An INSERT is resolved in `bench` although `USE other` with a tab precedes it,
and another one in `other` although `USE other` follows it.
-/
theorem session_keyspace_out_of_order :
    (∃ final,
      Run (Connection.step? sessionCrates) (fun _ _ => True)
          (.open_ twoKeyspaces) overtakenUse final ∧
        ¬ final.FollowsOrder sessionCrates) ∧
    ∃ final,
      Run (Connection.step? sessionCrates) (fun _ _ => True)
          (.open_ twoKeyspaces) overtakingUse final ∧
        ¬ final.FollowsOrder sessionCrates := by
  have overtaken :
      (run? (Connection.step? sessionCrates) (.open_ twoKeyspaces)
          overtakenUse).map
            (fun final =>
              ((final.tasks[2]?).map fun task =>
                (task.sessionKs,
                  (task.statement? sessionCrates).map Statement.usesSession),
                lastUsed (final.tasks.take 2))) =
        some (some (some (some "bench"), some true), some "other") := by
    decide +kernel
  have overtaking :
      (run? (Connection.step? sessionCrates) (.open_ twoKeyspaces)
          overtakingUse).map
            (fun final =>
              ((final.tasks[1]?).map fun task =>
                (task.sessionKs,
                  (task.statement? sessionCrates).map Statement.usesSession),
                lastUsed (final.tasks.take 1))) =
        some (some (some (some "other"), some true), some "bench") := by
    decide +kernel
  refine ⟨?_, ?_⟩
  · obtain ⟨final, ran, seen⟩ := Option.map_eq_some_iff.mp overtaken
    obtain ⟨read, last⟩ := Prod.mk.inj seen
    refine ⟨final,
      .of_run? (permitted_of_forall (fun _ _ _ => trivial) _) ran,
      Connection.not_followsOrder read ?_⟩
    rw [last]
    decide
  · obtain ⟨final, ran, seen⟩ := Option.map_eq_some_iff.mp overtaking
    obtain ⟨read, last⟩ := Prod.mk.inj seen
    refine ⟨final,
      .of_run? (permitted_of_forall (fun _ _ _ => trivial) _) ran,
      Connection.not_followsOrder read ?_⟩
    rw [last]
    decide

end RhydaDB
