import RhydaDB.Connection
import RhydaDB.StatementSpec

namespace RhydaDB

open ByteStrings AtomicPrograms FiniteRuns Storage

/-!
# Prepared ids

Ids come from a 16-bit counter that wraps around.  Only PREPARE touches the
counter and the registry, and the reader serves a PREPARE to its end before it
reads on, so registrations happen one after the other: the registration after
`k` others gets the number `k + 1` modulo 2^16, and looking an id up yields
the last statement registered under it.
-/

variable {shards : Nat}

/-- Whether an access allocates or registers an id. -/
def ConnAction.Registers : ConnAction shards → Prop
  | .fetchAddPreparedId =>
      True
  | .preparedInsert _ _ =>
      True
  | _ =>
      False

/-- The next access registers a parsed text under the number, and is the last. -/
def AboutToRegister
    (crates : Crates)
    (number : UInt16)
    (program : ConnProgram shards (Reply shards)) :
    Prop :=
  ∃ prepared reply,
    program =
        .act (.preparedInsert (toBe 2 number.toNat) prepared)
          (fun _ => .pure reply) ∧
      crates.parse prepared.text = some prepared.statement

/-- Once the program allocates a number, it registers under it and returns. -/
def Preparing (crates : Crates) : ConnProgram shards (Reply shards) → Prop
  | .pure _ =>
      True
  | .fail _ =>
      True
  | .act .fetchAddPreparedId next =>
      ∀ number, AboutToRegister crates number (next number)
  | .act (.preparedInsert _ _) _ =>
      False
  | .act (.storage _) next =>
      ∀ response, Preparing crates (next response)
  | .act .keyspace next =>
      ∀ response, Preparing crates (next response)
  | .act (.setKeyspace _) next =>
      ∀ response, Preparing crates (next response)
  | .act (.preparedGet _) next =>
      ∀ response, Preparing crates (next response)
  | .act (.settle _) next =>
      ∀ response, Preparing crates (next response)

/-- The store's part of a request leaves the rest to its continuation. -/
theorem preparing_onStore_bind
    {α : Type}
    {crates : Crates}
    (program : StorageProgram shards QueryFault α)
    {continuation : α → ConnProgram shards (Reply shards)}
    (later : ∀ value, Preparing crates (continuation value)) :
    Preparing crates (onStore program >>= continuation) := by
  induction program with
  | pure value =>
      exact later value
  | fail failure =>
      trivial
  | act action next inductionHypothesis =>
      exact fun response => inductionHypothesis response

/-- Awaiting tickets registers nothing. -/
theorem never_settle
    {marked : ConnAction shards → Prop}
    (unmarked : ∀ ticket, ¬ marked (.settle ticket))
    (tickets : List (WriteTicket shards)) :
    (settle tickets).Never marked := by
  induction tickets with
  | nil =>
      trivial
  | cons ticket rest inductionHypothesis =>
      exact ⟨unmarked ticket, fun _ => inductionHypothesis⟩

/-- Nor does changing the session keyspace. -/
theorem never_applyUse_registers (response : Response) :
    (applyUse response : ConnProgram shards Unit).Never
      ConnAction.Registers := by
  cases response with
  | setKeyspace keyspace =>
      exact ⟨id, fun _ => trivial⟩
  | _ =>
      trivial

variable [NeZero shards] (crates : Crates)

/-- A QUERY registers nothing. -/
theorem never_handleQuery_registers
    (text : String)
    (parameters : QueryParameters) :
    (handleQuery crates text parameters :
      ConnProgram shards (Reply shards)).Never ConnAction.Registers := by
  refine ⟨id, fun sessionKs => ?_⟩
  simp only
  split
  · trivial
  · apply (Program.never_embed (fun _ => id) _).bind_all
    intro executed
    apply (never_settle (fun _ => id) _).bind_all
    intro _
    apply (never_applyUse_registers _).bind_all
    intro _
    trivial

/-- An EXECUTE registers nothing. -/
theorem never_handleExecute_registers
    (prepared : PreparedStmt)
    (parameters : QueryParameters) :
    (handleExecute crates prepared parameters :
      ConnProgram shards (Reply shards)).Never ConnAction.Registers := by
  unfold handleExecute
  split
  · trivial
  · refine ⟨id, fun sessionKs => ?_⟩
    apply (Program.never_embed (fun _ => id) _).bind_all
    intro executed
    apply (never_settle (fun _ => id) _).bind_all
    intro _
    trivial

/-- A PREPARE registers its text under the number it allocates. -/
theorem preparing_handlePrepare (text : String) :
    Preparing crates
      (handlePrepare crates text : ConnProgram shards (Reply shards)) := by
  unfold handlePrepare
  split
  · trivial
  · rename_i statement parsed
    intro sessionKs
    apply preparing_onStore_bind
    intro info number
    exact ⟨_, _, rfl, parsed⟩

/-- Requests other than PREPARE register nothing. -/
theorem never_handleRequest_registers
    {frame : Frame}
    (notPrepare : frame.opcode ≠ .prepare) :
    (handleRequest crates frame : ConnProgram shards (Reply shards)).Never
      ConnAction.Registers := by
  unfold handleRequest
  split
  · split
    · trivial
    · split
      · trivial
      · exact never_handleQuery_registers crates _ _
  · rename_i isPrepare
    exact (notPrepare isPrepare).elim
  · split
    · trivial
    · refine ⟨id, fun found => ?_⟩
      change Option PreparedStmt at found
      cases found with
      | none =>
          trivial
      | some prepared =>
          simp only [Program.bind]
          split
          · trivial
          · exact never_handleExecute_registers crates _ _

/-- A PREPARE request registers at most once. -/
theorem preparing_handleRequest
    {frame : Frame}
    (isPrepare : frame.opcode = .prepare) :
    Preparing crates
      (handleRequest crates frame : ConnProgram shards (Reply shards)) := by
  unfold handleRequest
  rw [isPrepare]
  simp only
  split
  · trivial
  · exact preparing_handlePrepare crates _

omit [NeZero shards] in
/-- A program that registers nothing may be said to prepare. -/
theorem preparing_of_never
    {program : ConnProgram shards (Reply shards)}
    (never : program.Never ConnAction.Registers) :
    Preparing crates program := by
  induction program with
  | pure value =>
      trivial
  | fail failure =>
      trivial
  | act action next inductionHypothesis =>
      cases action with
      | fetchAddPreparedId =>
          exact (never.1 trivial).elim
      | preparedInsert id prepared =>
          exact never.1 trivial
      | _ =>
          exact fun response =>
            inductionHypothesis response (never.2 response)

omit [NeZero shards] in
variable {crates} in
/-- Any other access leaves the registration for later. -/
theorem Preparing.next
    {action : ConnAction shards}
    {next : ConnResponse action → ConnProgram shards (Reply shards)}
    (preparing : Preparing crates (.act action next))
    (silent : ¬ action.Registers)
    (response : ConnResponse action) :
    Preparing crates (next response) := by
  cases action with
  | fetchAddPreparedId =>
      exact (silent trivial).elim
  | preparedInsert id prepared =>
      exact (silent trivial).elim
  | _ =>
      exact preparing response

/-! ## The registry of a connection -/

/-- The number of the registration after `count` others. -/
def preparedNumber (count : Nat) : UInt16 :=
  UInt16.ofNat (count + 1)

/-- The registry after the listed registrations. -/
def registryOf (issued : List (Bytes × PreparedStmt)) (id : Bytes) :
    Option PreparedStmt :=
  (issued.reverse.find? fun entry => entry.1 == id).map Prod.snd

theorem registryOf_append
    (issued : List (Bytes × PreparedStmt))
    (id : Bytes)
    (prepared : PreparedStmt) :
    registryOf (issued ++ [(id, prepared)]) =
      Function.update (registryOf issued) id (some prepared) := by
  funext other
  by_cases same : other = id
  · subst same
    simp [registryOf]
  · have different : (id == other) = false := by
      simpa using Ne.symm same
    simp [registryOf, different, same]

/-- What is found under an id was registered under it. -/
theorem mem_of_registryOf
    {issued : List (Bytes × PreparedStmt)}
    {id : Bytes}
    {prepared : PreparedStmt}
    (found : registryOf issued id = some prepared) :
    (id, prepared) ∈ issued := by
  obtain ⟨⟨other, entry⟩, present, rfl⟩ := Option.map_eq_some_iff.mp found
  have same : other = id := by
    simpa using List.find?_some present
  subst same
  exact List.mem_reverse.mp (List.mem_of_find?_eq_some present)

/-- Something is found under every registered id. -/
theorem registryOf_isSome
    {issued : List (Bytes × PreparedStmt)}
    {entry : Bytes × PreparedStmt}
    (member : entry ∈ issued) :
    ∃ prepared, registryOf issued entry.1 = some prepared := by
  have present :
      (issued.reverse.find? fun other => other.1 == entry.1).isSome := by
    rw [List.find?_isSome]
    exact ⟨entry, by simpa using member, by simp⟩
  obtain ⟨found, isFound⟩ := Option.isSome_iff_exists.mp present
  exact ⟨found.2, by simp [registryOf, isFound]⟩

namespace ConnShared

/-- The counter agrees with what the unfinished PREPARE, if any, is up to. -/
def Counts
    (crates : Crates)
    (shared : ConnShared)
    (program : ConnProgram shards (Reply shards)) :
    Prop :=
  (Preparing crates program ∧
    shared.nextPreparedId = preparedNumber shared.issued.length) ∨
  (AboutToRegister crates (preparedNumber shared.issued.length) program ∧
    shared.nextPreparedId = preparedNumber (shared.issued.length + 1))

/-- Registrations carry consecutive numbers, and the registry follows them. -/
structure Numbered (crates : Crates) (shared : ConnShared) : Prop where
  registry : shared.prepared = registryOf shared.issued
  entries :
    ∀ count entry,
      shared.issued[count]? = some entry →
      entry.1 = toBe 2 (preparedNumber count).toNat ∧
        crates.parse entry.2.text = some entry.2.statement

/-- The registry and its counter are as they were. -/
structure SameRegistry (before after : ConnShared) : Prop where
  prepared : after.prepared = before.prepared
  nextPreparedId : after.nextPreparedId = before.nextPreparedId
  issued : after.issued = before.issued

omit [NeZero shards] in
variable {crates} in
theorem Counts.congr
    {before after : ConnShared}
    {program : ConnProgram shards (Reply shards)}
    (same : SameRegistry before after)
    (counts : before.Counts crates program) :
    after.Counts crates program := by
  unfold Counts at counts ⊢
  rw [same.nextPreparedId, same.issued]
  exact counts

variable {crates} in
theorem Numbered.congr
    {before after : ConnShared}
    (same : SameRegistry before after)
    (numbered : before.Numbered crates) :
    after.Numbered crates := by
  refine ⟨?_, ?_⟩
  · rw [same.prepared, same.issued]
    exact numbered.registry
  · rw [same.issued]
    exact numbered.entries

variable {crates} in
/-- A registration under the next number keeps the numbering. -/
theorem Numbered.insert
    {shared : ConnShared}
    (numbered : shared.Numbered crates)
    {prepared : PreparedStmt}
    (parsed : crates.parse prepared.text = some prepared.statement) :
    let id := toBe 2 (preparedNumber shared.issued.length).toNat
    Numbered crates
      { shared with
        prepared := Function.update shared.prepared id (some prepared)
        issued := shared.issued ++ [(id, prepared)] } := by
  refine ⟨?_, ?_⟩
  · simp only
    rw [numbered.registry, registryOf_append]
  · intro count entry present
    simp only [List.getElem?_append] at present
    split at present
    · exact numbered.entries count entry present
    · rename_i atEnd
      obtain ⟨here, rfl⟩ := List.getElem?_eq_some_iff.mp present
      have last : count = shared.issued.length := by
        simp only [List.length_singleton] at here
        omega
      subst last
      simpa using parsed

end ConnShared

omit [NeZero shards] in
/-- Only registrations change the registry and its counter. -/
theorem ConnState.sameRegistry_answer
    (state : ConnState shards)
    {action : ConnAction shards}
    (silent : ¬ action.Registers) :
    state.shared.SameRegistry (state.answer action).1.shared := by
  cases action with
  | fetchAddPreparedId =>
      exact (silent trivial).elim
  | preparedInsert id prepared =>
      exact (silent trivial).elim
  | _ =>
      exact ⟨rfl, rfl, rfl⟩

namespace ConnShared

omit [NeZero shards]

variable
  {crates}
  {shared : ConnShared}
  {program : ConnProgram shards (Reply shards)}

/-- Where no registration is to come, the counter is at rest. -/
theorem Counts.atRest
    (counts : shared.Counts crates program)
    (never : program.Never ConnAction.Registers) :
    shared.nextPreparedId = preparedNumber shared.issued.length := by
  rcases counts with ⟨_, atRest⟩ | ⟨⟨prepared, reply, rfl, _⟩, _⟩
  · exact atRest
  · exact (never.1 trivial).elim

/-- At rest, a program that registers nothing agrees with the counter. -/
theorem counts_of_never
    (atRest : shared.nextPreparedId = preparedNumber shared.issued.length)
    (never : program.Never ConnAction.Registers) :
    shared.Counts crates program :=
  .inl ⟨preparing_of_never crates never, atRest⟩

end ConnShared

namespace Connection

/--
At most the last request is a PREPARE under way; the counter tells how far it
has got.
-/
def Serial (crates : Crates) (connection : Connection shards) : Prop :=
  (connection.tasks = [] ∧
    connection.state.shared.nextPreparedId =
      preparedNumber connection.state.shared.issued.length) ∨
  ∃ earlier last,
    connection.tasks = earlier ++ [last] ∧
      (∀ task ∈ earlier, task.program.Never ConnAction.Registers) ∧
      (last.program.Never ConnAction.Registers ∨ last.frame.inline = true) ∧
      connection.state.shared.Counts crates last.program

/-- Registrations are numbered one after the other. -/
structure IdsInOrder (crates : Crates) (connection : Connection shards) : Prop where
  numbered : connection.state.shared.Numbered crates
  serial : connection.Serial crates

omit [NeZero shards] in
/-- A fresh connection has no registrations. -/
theorem idsInOrder_open (store : Storage shards) :
    (open_ store).IdsInOrder crates where
  numbered := ⟨rfl, by simp [open_, ConnShared.new]⟩
  serial := .inl ⟨rfl, rfl⟩

variable {crates}

omit [NeZero shards] in
/-- When the reader is free, no request is going to register. -/
theorem Serial.atRest
    {connection : Connection shards}
    {frame : Frame}
    (serial : connection.Serial crates)
    (free : connection.accepts frame = true) :
    (∀ task ∈ connection.tasks, task.program.Never ConnAction.Registers) ∧
      connection.state.shared.nextPreparedId =
        preparedNumber connection.state.shared.issued.length := by
  rcases serial with ⟨none, atRest⟩ | ⟨earlier, last, split, quiet, inline, counts⟩
  · simp [none, atRest]
  · simp only [accepts, Bool.and_eq_true, List.all_eq_true] at free
    have lastFree := free.1 last (by simp [split])
    have lastQuiet : last.program.Never ConnAction.Registers := by
      rcases inline with never | isInline
      · exact never
      · refine Program.never_of_isDone ?_
        simpa [isInline, ConnTask.isDone] using lastFree
    refine ⟨?_, counts.atRest lastQuiet⟩
    rw [split]
    intro task member
    rcases List.mem_append.mp member with inEarlier | isLast
    · exact quiet task inEarlier
    · rw [List.mem_singleton.mp isLast]
      exact lastQuiet

omit [NeZero shards] in
/-- One access of the last request keeps the registry in order. -/
theorem IdsInOrder.act_last
    {state : ConnState shards}
    {earlier : List (ConnTask shards)}
    {task : ConnTask shards}
    {action : ConnAction shards}
    {next : ConnResponse action → ConnProgram shards (Reply shards)}
    (numbered : state.shared.Numbered crates)
    (quiet : ∀ other ∈ earlier, other.program.Never ConnAction.Registers)
    (inline :
      task.program.Never ConnAction.Registers ∨ task.frame.inline = true)
    (counts : state.shared.Counts crates task.program)
    (program : task.program = .act action next) :
    IdsInOrder crates
      ⟨(state.answer action).1,
        earlier ++ [task.goOn action (state.answer action).2
          (next (state.answer action).2)]⟩ := by
  rcases counts with ⟨preparing, atRest⟩ | ⟨about, ahead⟩
  · rw [program] at preparing inline
    by_cases registers : action.Registers
    · -- a number is allocated; the registration under it comes next
      have isInline : task.frame.inline = true :=
        inline.resolve_left fun never => never.1 registers
      cases action with
      | fetchAddPreparedId =>
          refine ⟨⟨numbered.registry, numbered.entries⟩,
            .inr ⟨earlier, _, rfl, quiet, .inr isInline, .inr ⟨?_, ?_⟩⟩⟩
          · have about := preparing state.shared.nextPreparedId
            rw [atRest] at about
            simpa [ConnState.answer, ConnState.share, ConnTask.goOn, atRest]
              using about
          · simp [ConnState.answer, ConnState.share, atRest, preparedNumber,
              UInt16.ofNat_add]
      | preparedInsert id prepared =>
          exact preparing.elim
      | _ =>
          exact registers.elim
    · have same := state.sameRegistry_answer registers
      refine ⟨numbered.congr same,
        .inr ⟨earlier, _, rfl, quiet, ?_, .congr same ?_⟩⟩
      · rcases inline with never | isInline
        · exact .inl (never.2 _)
        · exact .inr (by simpa using isInline)
      · exact .inl ⟨preparing.next registers _, atRest⟩
  · obtain ⟨prepared, reply, shape, parsed⟩ := about
    rw [program] at shape
    cases shape
    refine ⟨numbered.insert parsed,
      .inr ⟨earlier, _, rfl, quiet, .inl trivial, .inl ⟨trivial, ?_⟩⟩⟩
    simpa [ConnState.answer, ConnState.share] using ahead

/-- Every step keeps the registry in order. -/
theorem IdsInOrder.step
    {connection next : Connection shards}
    {label : ConnLabel shards}
    (inOrder : connection.IdsInOrder crates)
    (taken : connection.step? crates label = some next) :
    next.IdsInOrder crates := by
  cases step?_sound taken with
  | @receive frame free =>
      obtain ⟨quiet, atRest⟩ := inOrder.serial.atRest free
      refine ⟨inOrder.numbered, .inr ⟨connection.tasks, _, rfl, quiet, ?_⟩⟩
      by_cases isPrepare : frame.opcode = .prepare
      · exact ⟨.inr (by simp [Frame.inline, isPrepare]),
          .inl ⟨preparing_handleRequest crates isPrepare, atRest⟩⟩
      · have never :
            (handleRequest crates frame :
              ConnProgram shards (Reply shards)).Never ConnAction.Registers :=
          never_handleRequest_registers crates isPrepare
        exact ⟨.inl never, ConnShared.counts_of_never atRest never⟩
  | @act index task action next found program =>
      rcases inOrder.serial with
        ⟨none, _⟩ | ⟨earlier, last, split, quiet, inline, counts⟩
      · simp [none] at found
      · rw [split] at found ⊢
        by_cases isEarlier : index < earlier.length
        · rw [List.getElem?_append_left isEarlier] at found
          have taskQuiet := quiet task (List.mem_of_getElem? found)
          rw [program] at taskQuiet
          have same := connection.state.sameRegistry_answer taskQuiet.1
          rw [List.set_append_left _ _ isEarlier]
          refine ⟨inOrder.numbered.congr same,
            .inr ⟨_, last, rfl, ?_, inline, .congr same counts⟩⟩
          intro other member
          rcases List.mem_or_eq_of_mem_set member with before | rfl
          · exact quiet other before
          · exact taskQuiet.2 _
        · obtain rfl : index = earlier.length := by
            have inside := (List.getElem?_eq_some_iff.mp found).1
            simp only [List.length_append, List.length_singleton] at inside
            omega
          obtain rfl : last = task := by
            simpa using found
          rw [List.set_append_right _ _ le_rfl]
          simpa using
            IdsInOrder.act_last inOrder.numbered quiet inline counts program
  | engine thread moved =>
      exact ⟨inOrder.numbered, inOrder.serial⟩
  | elsewhere action =>
      exact ⟨inOrder.numbered, inOrder.serial⟩

end Connection

/-! ## When ids keep their meaning -/

/-- Two registrations get the same number when a multiple of 2^16 apart. -/
theorem preparedNumber_eq_iff (first second : Nat) :
    preparedNumber first = preparedNumber second ↔
      first % 2 ^ 16 = second % 2 ^ 16 := by
  rw [preparedNumber, preparedNumber, ← UInt16.toNat_inj,
    UInt16.toNat_ofNat', UInt16.toNat_ofNat']
  omega

/-- Different numbers make different ids. -/
theorem preparedId_inj (first second : UInt16) :
    toBe 2 first.toNat = toBe 2 second.toNat ↔ first = second := by
  constructor
  · intro same
    have fits : ∀ number : UInt16, number.toNat < 256 ^ 2 :=
      UInt16.toNat_lt
    apply UInt16.toNat_inj.mp
    rw [← ofBe_toBe_of_lt (fits first), same, ofBe_toBe_of_lt (fits second)]
  · rintro rfl
    rfl

namespace ConnShared

/--
Every id issued so far is found in the registry with the statement it was
issued for, and different texts have different ids.
-/
structure IdsKept (shared : ConnShared) : Prop where
  found :
    ∀ entry ∈ shared.issued,
      ∃ now,
        shared.prepared entry.1 = some now ∧
          now.statement = entry.2.statement
  distinct :
    ∀ first ∈ shared.issued,
      ∀ second ∈ shared.issued,
        first.2.text ≠ second.2.text →
        first.1 ≠ second.1

/-- Registrations a multiple of 2^16 apart are of the same text. -/
def NoReuse (shared : ConnShared) : Prop :=
  ∀ (i j : Nat) (first second : Bytes × PreparedStmt),
    shared.issued[i]? = some first →
    shared.issued[j]? = some second →
    i % 2 ^ 16 = j % 2 ^ 16 →
    first.2.text = second.2.text

variable {crates} {shared : ConnShared}

/-- Ids are equal when their registrations are a multiple of 2^16 apart. -/
theorem Numbered.id_eq_iff
    (numbered : shared.Numbered crates)
    {i j : Nat}
    {first second : Bytes × PreparedStmt}
    (isFirst : shared.issued[i]? = some first)
    (isSecond : shared.issued[j]? = some second) :
    first.1 = second.1 ↔ i % 2 ^ 16 = j % 2 ^ 16 := by
  rw [(numbered.entries i first isFirst).1,
    (numbered.entries j second isSecond).1, preparedId_inj,
    preparedNumber_eq_iff]

/-- Ids keep their meaning exactly when none comes round for another text. -/
theorem Numbered.idsKept_iff (numbered : shared.Numbered crates) :
    shared.IdsKept ↔ shared.NoReuse := by
  constructor
  · intro kept i j first second isFirst isSecond apart
    by_contra different
    exact kept.distinct first (List.mem_of_getElem? isFirst) second
      (List.mem_of_getElem? isSecond) different
      ((numbered.id_eq_iff isFirst isSecond).mpr apart)
  · intro noReuse
    have sameText :
        ∀ first ∈ shared.issued,
          ∀ second ∈ shared.issued,
            first.1 = second.1 →
            first.2.text = second.2.text := by
      intro first firstMember second secondMember sameId
      obtain ⟨i, isFirst⟩ := List.mem_iff_getElem?.mp firstMember
      obtain ⟨j, isSecond⟩ := List.mem_iff_getElem?.mp secondMember
      exact noReuse i j first second isFirst isSecond
        ((numbered.id_eq_iff isFirst isSecond).mp sameId)
    refine ⟨?_, ?_⟩
    · intro entry member
      obtain ⟨now, isNow⟩ := registryOf_isSome member
      refine ⟨now, by rw [numbered.registry, isNow], ?_⟩
      -- a later registration under the id has the same text
      have nowMember := mem_of_registryOf isNow
      have texts : now.text = entry.2.text :=
        sameText (entry.1, now) nowMember entry member rfl
      obtain ⟨i, isEntry⟩ := List.mem_iff_getElem?.mp member
      obtain ⟨j, isLater⟩ := List.mem_iff_getElem?.mp nowMember
      have parsed := (numbered.entries i entry isEntry).2
      have parsedLater := (numbered.entries j _ isLater).2
      simp only [texts, parsed, Option.some.injEq] at parsedLater
      exact parsedLater.symm
    · intro first firstMember second secondMember different sameId
      exact different (sameText first firstMember second secondMember sameId)

end ConnShared

namespace Connection

/-- Registrations are numbered in order in every run of a connection. -/
theorem idsInOrder_of_run
    {store : Storage shards}
    {labels : List (ConnLabel shards)}
    {final : Connection shards}
    (run :
      Run (step? crates) (fun _ _ => True) (open_ store) labels final) :
    final.IdsInOrder crates :=
  run.invariant (fun _ taken inOrder => inOrder.step taken)
    (idsInOrder_open crates store)

/--
At every moment of every run of a connection, the ids issued so far keep their
statements, and different texts have different ids, exactly when no two
registrations of different texts are a multiple of 2^16 apart.
-/
theorem prepared_ids_kept_iff
    {store : Storage shards}
    {labels : List (ConnLabel shards)}
    {final : Connection shards}
    (run :
      Run (step? crates) (fun _ _ => True) (open_ store) labels final) :
    final.state.shared.IdsKept ↔ final.state.shared.NoReuse :=
  (idsInOrder_of_run crates run).numbered.idsKept_iff

/-! ### Runs that only prepare -/

omit [NeZero shards] in
/-- A program of the store awaits nothing. -/
theorem never_onStore_waits
    {α : Type}
    (program : StorageProgram shards QueryFault α) :
    (onStore program).Never ConnAction.Waits :=
  Program.never_embed (fun _ => id) program

/-- A PREPARE that succeeds registers its statement under the next number. -/
theorem handlePrepare_run
    {state : ConnState shards}
    {text : String}
    {statement : Statement}
    {info : PreparedInfo}
    {store : Storage shards}
    (parsed : crates.parse text = some statement)
    (prepared :
      (preparedInfo crates.json crates.shortNames state.shared.keyspace
            statement).run
          Storage.answer state.store =
        (.ok info, store)) :
    (handlePrepare crates text).run ConnState.answer state =
      let id := toBe 2 state.shared.nextPreparedId.toNat
      let entry : PreparedStmt :=
        ⟨statement, info.bindSpecs.map Prod.snd, text, info⟩
      (.ok (.prepared id info),
        ⟨store,
          { state.shared with
            nextPreparedId := state.shared.nextPreparedId + 1
            prepared := Function.update state.shared.prepared id (some entry)
            issued := state.shared.issued ++ [(id, entry)] }⟩) := by
  have looked :
      (onStore (preparedInfo crates.json crates.shortNames state.shared.keyspace
            statement)).run
          ConnState.answer state =
        (.ok info, { state with store := store }) := by
    rw [ConnState.run_onStore, prepared]
  simp [handlePrepare, parsed, access, ConnState.answer, ConnState.share,
    Program.run_bind_of_ok ConnState.answer looked]

/-- A PREPARE awaits nothing. -/
theorem never_handlePrepare_waits (text : String) :
    (handlePrepare crates text : ConnProgram shards (Reply shards)).Never
      ConnAction.Waits := by
  unfold handlePrepare
  split
  · trivial
  · refine ⟨id, fun sessionKs => ?_⟩
    apply (never_onStore_waits _).bind_all
    intro info
    exact ⟨id, fun number => ⟨id, fun _ => trivial⟩⟩

/-- In a store, and outside any keyspace, a frame prepares the text. -/
def Prepares
    (store : Storage shards)
    (frame : Frame)
    (text : String) :
    Prop :=
  ∃ rest statement info,
    frame.opcode = .prepare ∧
      readLongString frame.body = some (text, rest) ∧
      crates.parse text = some statement ∧
      (preparedInfo crates.json crates.shortNames none statement).run
          Storage.answer store =
        (.ok info, store)

omit [NeZero shards] in
/-- No request is under way, in a given store and outside any keyspace. -/
structure Idle (store : Storage shards) (connection : Connection shards) : Prop where
  done : ∀ task ∈ connection.tasks, task.isDone = true
  store : connection.state.store = store
  keyspace : connection.state.shared.keyspace = none

variable {crates}

omit [NeZero shards] in
/-- An idle connection takes any frame. -/
theorem Idle.accepts
    {store : Storage shards}
    {connection : Connection shards}
    (idle : connection.Idle store)
    (frame : Frame) :
    connection.accepts frame = true := by
  have nonePending :
      (connection.tasks.countP fun task => !task.isDone) = 0 := by
    rw [List.countP_eq_zero]
    intro task member
    simp [idle.done task member]
  simp only [Connection.accepts, nonePending, Bool.and_eq_true,
    List.all_eq_true, Bool.or_eq_true]
  refine ⟨fun task member => .inr (idle.done task member), .inr ?_⟩
  decide

/-- Serving a PREPARE to its end registers its text. -/
theorem Idle.exists_prepare
    {store : Storage shards}
    {connection : Connection shards}
    {frame : Frame}
    {text : String}
    (idle : connection.Idle store)
    (prepares : Prepares crates store frame text) :
    ∃ labels next,
      Run (step? crates) (fun _ _ => True) connection labels next ∧
        next.Idle store ∧
        next.state.shared.issued.map (fun entry => entry.2.text) =
          connection.state.shared.issued.map (fun entry => entry.2.text) ++
            [text] := by
  obtain ⟨rest, statement, info, isPrepare, read, parsed, prepared⟩ := prepares
  obtain ⟨state, tasks⟩ := connection
  have keyspace : state.shared.keyspace = none := idle.keyspace
  have isStore : state.store = store := idle.store
  have program :
      (handleRequest crates frame : ConnProgram shards (Reply shards)) =
        handlePrepare crates text := by
    simp [handleRequest, isPrepare, read]
  have ran :=
    congrArg Prod.snd (handlePrepare_run crates parsed
      (show (preparedInfo crates.json crates.shortNames state.shared.keyspace
          statement).run Storage.answer state.store = (.ok info, store) by
        rw [keyspace, isStore, prepared]))
  obtain ⟨count, last, served, lastDone⟩ :=
    exists_serve tasks ⟨frame, handlePrepare crates text, none, none, none⟩
      state (never_handlePrepare_waits crates text)
  refine ⟨.receive frame :: _, _,
    .cons trivial ?_
      (Run.of_run? (permitted_of_forall (fun _ _ _ => trivial) _) served),
    ⟨?_, ?_, ?_⟩, ?_⟩
  · simp only [step?, idle.accepts frame, if_true, program]
  · intro task member
    rcases List.mem_append.mp member with before | isLast
    · exact idle.done task before
    · rw [List.mem_singleton.mp isLast]
      exact lastDone
  · simp only [ran]
  · simp only [ran]
    exact keyspace
  · simp only [ran]
    simp

/-- Any list of texts that can be prepared can be prepared in order. -/
theorem Idle.exists_prepares
    {store : Storage shards}
    {connection : Connection shards}
    {frames : List Frame}
    {text : Frame → String}
    (idle : connection.Idle store)
    (prepares : ∀ frame ∈ frames, Prepares crates store frame (text frame)) :
    ∃ labels final,
      Run (step? crates) (fun _ _ => True) connection labels final ∧
        final.state.shared.issued.map (fun entry => entry.2.text) =
          connection.state.shared.issued.map (fun entry => entry.2.text) ++
            frames.map text := by
  induction frames generalizing connection with
  | nil =>
      exact ⟨[], connection, .nil connection, by simp⟩
  | cons frame rest inductionHypothesis =>
      obtain ⟨first, middle, ran, idleAgain, registered⟩ :=
        idle.exists_prepare (prepares frame (by simp))
      obtain ⟨later, final, ranLater, texts⟩ :=
        inductionHypothesis idleAgain fun other member =>
          prepares other (by simp [member])
      refine ⟨first ++ later, final, ran.append ranLater, ?_⟩
      rw [texts, registered]
      simp

omit [NeZero shards] in
/-- A connection is idle before its first frame. -/
theorem idle_open (store : Storage shards) : (open_ store).Idle store where
  done := by simp [open_]
  store := rfl
  keyspace := rfl

end Connection

/-- `SELECT * FROM bench.kv`, with or without a limit. -/
def kvSelect (limit : Option Int32) : Statement :=
  .select
    { tableName := kvName
      columns := [.star]
      whereClause := []
      limit := limit }

/-- A parser that knows two texts. -/
def kvCrates : Crates where
  parse := fun text =>
    if text = "SELECT * FROM bench.kv" then
      some (kvSelect none)
    else if text = "SELECT * FROM bench.kv LIMIT 1" then
      some (kvSelect (some 1))
    else
      none
  shortNames := fun _ => ""
  readParameters := fun _ => none
  json := cachedJson
  hexDecode := fun _ => none

/-- The PREPARE of one of the two texts. -/
def kvPrepare (limited : Bool) : Frame where
  opcode := .prepare
  body :=
    let text :=
      if limited then "SELECT * FROM bench.kv LIMIT 1"
      else "SELECT * FROM bench.kv"
    toBe 4 (utf8 text).length ++ utf8 text

/-- The text of a frame, or nothing. -/
def preparedText (frame : Frame) : String :=
  ((readLongString frame.body).map Prod.fst).getD ""

theorem preparedText_kvPrepare (limited : Bool) :
    preparedText (kvPrepare limited) =
      if limited then "SELECT * FROM bench.kv LIMIT 1"
      else "SELECT * FROM bench.kv" := by
  cases limited <;> decide +kernel

/-- Both texts can be prepared where the table is known. -/
theorem kvPrepare_prepares (limited : Bool) :
    Connection.Prepares kvCrates (storeWith false kvTable) (kvPrepare limited)
      (preparedText (kvPrepare limited)) := by
  have prepared :
      ∀ limit,
        (preparedInfo cachedJson (fun _ => "") none (kvSelect limit)).run answer
            (storeWith false kvTable) =
          (.ok ⟨"bench", "kv", [], [], [("k", .int), ("v", .text)]⟩,
            storeWith false kvTable) := by
    intro limit
    rw [kvSelect, preparedInfo,
      Program.run_bind_of_ok answer (resolveTable_kvName false)]
    rfl
  have read :
      readLongString (kvPrepare limited).body =
        some (preparedText (kvPrepare limited), []) := by
    cases limited <;> decide +kernel
  refine ⟨[], kvSelect (if limited then some 1 else none), _, rfl, read, ?_,
    prepared _⟩
  rw [preparedText_kvPrepare]
  cases limited <;> rfl

/-- Two registrations of different texts keep their ids. -/
theorem prepared_ids_kept_iff_two :
    ∃ labels final,
      Run (Connection.step? kvCrates) (fun _ _ => True)
          (.open_ (storeWith false kvTable)) labels final ∧
        final.state.shared.issued.map (fun entry => entry.2.text) =
          ["SELECT * FROM bench.kv", "SELECT * FROM bench.kv LIMIT 1"] ∧
        final.state.shared.IdsKept := by
  have prepares :
      ∀ frame ∈ [kvPrepare false, kvPrepare true],
        Connection.Prepares kvCrates (storeWith false kvTable) frame
          (preparedText frame) := by
    simp [kvPrepare_prepares]
  obtain ⟨labels, final, run, texts⟩ :=
    (Connection.idle_open (storeWith false kvTable)).exists_prepares prepares
  have issued :
      final.state.shared.issued.map (fun entry => entry.2.text) =
        ["SELECT * FROM bench.kv", "SELECT * FROM bench.kv LIMIT 1"] := by
    simpa [Connection.open_, ConnShared.new, preparedText_kvPrepare] using texts
  have count : final.state.shared.issued.length = 2 := by
    simpa using congrArg List.length issued
  refine ⟨labels, final, run, issued,
    (Connection.prepared_ids_kept_iff kvCrates run).mpr ?_⟩
  intro i j first second isFirst isSecond same
  have iBound := (List.getElem?_eq_some_iff.mp isFirst).1
  have jBound := (List.getElem?_eq_some_iff.mp isSecond).1
  obtain rfl : i = j := by omega
  rw [isFirst, Option.some.injEq] at isSecond
  rw [isSecond]

/--
After 2^16 registrations of one text, the next text gets the first one's id:
what the id is looked up as is no longer what it was issued for.
-/
theorem wrapped_id_rebound :
    ∃ labels final first second,
      Run (Connection.step? kvCrates) (fun _ _ => True)
          (.open_ (storeWith false kvTable)) labels final ∧
        final.state.shared.issued[0]? = some first ∧
        final.state.shared.issued[65536]? = some second ∧
        first.2.text = "SELECT * FROM bench.kv" ∧
        second.2.text = "SELECT * FROM bench.kv LIMIT 1" ∧
        first.1 = second.1 ∧
        ¬ final.state.shared.IdsKept := by
  have prepares :
      ∀ frame ∈ List.replicate 65536 (kvPrepare false) ++ [kvPrepare true],
        Connection.Prepares kvCrates (storeWith false kvTable) frame
          (preparedText frame) := by
    intro frame member
    rcases List.mem_append.mp member with repeated | last
    · rw [List.eq_of_mem_replicate repeated]
      exact kvPrepare_prepares false
    · rw [List.mem_singleton.mp last]
      exact kvPrepare_prepares true
  obtain ⟨labels, final, run, texts⟩ :=
    (Connection.idle_open (storeWith false kvTable)).exists_prepares prepares
  simp only [Connection.open_, ConnShared.new, List.map_nil, List.nil_append,
    List.map_append, List.map_replicate, List.map_cons,
    preparedText_kvPrepare] at texts
  have numbered := (Connection.idsInOrder_of_run kvCrates run).numbered
  have firstText :
      (final.state.shared.issued[0]?).map (fun entry => entry.2.text) =
        some "SELECT * FROM bench.kv" := by
    rw [← List.getElem?_map, texts, List.getElem?_append_left
      (by rw [List.length_replicate]; norm_num), List.getElem?_replicate]
    rfl
  have secondText :
      (final.state.shared.issued[65536]?).map (fun entry => entry.2.text) =
        some "SELECT * FROM bench.kv LIMIT 1" := by
    rw [← List.getElem?_map, texts, List.getElem?_append_right
      (by rw [List.length_replicate]), List.length_replicate]
    rfl
  obtain ⟨first, isFirst, isText⟩ := Option.map_eq_some_iff.mp firstText
  obtain ⟨second, isSecond, isOther⟩ := Option.map_eq_some_iff.mp secondText
  have sameId : first.1 = second.1 :=
    (numbered.id_eq_iff isFirst isSecond).mpr rfl
  refine ⟨labels, final, first, second, run, isFirst, isSecond, isText, isOther,
    sameId, ?_⟩
  intro kept
  refine kept.distinct first (List.mem_of_getElem? isFirst) second
    (List.mem_of_getElem? isSecond) ?_ sameId
  rw [isText, isOther]
  decide

end RhydaDB
