import RhydaDB.LiteralValues
import RhydaDB.PreparedMeaning
import RhydaDB.ResultFrames
import RhydaDB.StatementErrors

namespace RhydaDB

open ByteStrings AtomicPrograms Fallible Storage

/-!
# Reporting errors

The server answers a failed request with an ERROR frame that holds the error's
code and its message.  This module follows a request from the frame that brings
it to the frame that reports its error: `RequestFits` is the condition on the
request and the state it meets, and `errorReported_iff` says that it is exact.
-/

/-! ## Requests -/

section Requests

variable {shards : Nat} [NeZero shards]

/--
A request that can be reported if it fails: the statement it serves fits the
state it meets.
-/
def RequestFits
    (crates : Crates)
    (state : ConnState shards)
    (frame : Frame) :
    Prop :=
  match frame.opcode with
  | .query =>
      ∀ text rest parameters statement,
        readLongString frame.body = some (text, rest) →
        crates.readParameters rest = some parameters →
        crates.parse text = some statement →
        StatementFits crates.json crates.hexDecode state.store
          state.shared.keyspace (.new parameters.values) statement
  | .prepare =>
      ∀ text rest statement,
        readLongString frame.body = some (text, rest) →
        crates.parse text = some statement →
        PreparationFits crates.json crates.shortNames state.store
          state.shared.keyspace statement
  | .execute =>
      ∀ id rest prepared parameters,
        readShortBytes frame.body = some (id, rest) →
        state.shared.prepared id = some prepared →
        crates.readParameters rest = some parameters →
        parameters.values.length = prepared.bindTypes.length →
        StatementFits crates.json crates.hexDecode state.store
          state.shared.keyspace (.new parameters.values) prepared.statement

omit [NeZero shards] in
/-- Awaiting tickets does not fail. -/
theorem settle_ends (tickets : List (WriteTicket shards)) :
    (settle tickets).Ends (fun _ => True) QueryFault.Reportable := by
  induction tickets with
  | nil =>
      trivial
  | cons ticket rest inductionHypothesis =>
      exact fun _ => inductionHypothesis

omit [NeZero shards] in
/-- Changing the session does not fail. -/
theorem applyUse_ends (response : Response) :
    (applyUse response : ConnProgram shards Unit).Ends (fun _ => True)
      QueryFault.Reportable := by
  cases response <;> first | exact trivial | exact fun _ => trivial

omit [NeZero shards] in
/-- A request fails as its part on the store does, if the rest does not. -/
theorem onStore_bind_reportable
    {α β : Type}
    {program : StorageProgram shards QueryFault α}
    {continuation : α → ConnProgram shards β}
    {state : ConnState shards}
    (later :
      ∀ value,
        (continuation value).Ends (fun _ => True) QueryFault.Reportable) :
    FailsWith QueryFault.Reportable
        ((onStore program >>= continuation).run ConnState.answer state).1 ↔
      FailsWith QueryFault.Reportable
        (program.run Storage.answer state.store).1 := by
  rw [Program.failsWith_run_bind, ConnState.run_onStore]
  exact and_iff_left fun value next _ => (later value).run ConnState.answer next

variable (crates : Crates) (state : ConnState shards)

/-- A QUERY can be reported just if its statement fits. -/
theorem handleQuery_reportable
    (text : String)
    (parameters : QueryParameters) :
    FailsWith QueryFault.Reportable
        ((handleQuery crates text parameters).run ConnState.answer state).1 ↔
      ∀ statement,
        crates.parse text = some statement →
        StatementFits crates.json crates.hexDecode state.store
          state.shared.keyspace (.new parameters.values) statement := by
  unfold handleQuery access
  rw [Program.perform_bind, Program.run_act]
  cases crates.parse text with
  | none =>
      exact iff_of_true (.error (by decide +kernel)) (by simp)
  | some statement =>
      simp only [Option.some.injEq, forall_eq']
      refine (onStore_bind_reportable fun executed => ?_).trans
        (executeStatement_reportable _ _ _ _ _ statement)
      refine (settle_ends _).bind fun _ _ => ?_
      exact (applyUse_ends _).bind fun _ _ => trivial

/-- A PREPARE can be reported just if its statement fits. -/
theorem handlePrepare_reportable (text : String) :
    FailsWith QueryFault.Reportable
        ((handlePrepare crates text).run ConnState.answer state).1 ↔
      ∀ statement,
        crates.parse text = some statement →
        PreparationFits crates.json crates.shortNames state.store
          state.shared.keyspace statement := by
  unfold handlePrepare
  cases crates.parse text with
  | none =>
      exact iff_of_true (.error (by decide +kernel)) (by simp)
  | some statement =>
      simp only [Option.some.injEq, forall_eq', access]
      rw [Program.perform_bind, Program.run_act]
      refine (onStore_bind_reportable fun info => ?_).trans
        (preparedInfo_reportable _ _ _ statement)
      exact fun _ _ => trivial

/-- An EXECUTE can be reported just if its statement fits. -/
theorem handleExecute_reportable
    (prepared : PreparedStmt)
    (parameters : QueryParameters) :
    FailsWith QueryFault.Reportable
        ((handleExecute crates prepared parameters).run ConnState.answer
          state).1 ↔
      (parameters.values.length = prepared.bindTypes.length →
        StatementFits crates.json crates.hexDecode state.store
          state.shared.keyspace (.new parameters.values)
          prepared.statement) := by
  unfold handleExecute access
  split
  · rename_i different
    exact iff_of_true (.error (by decide +kernel))
      fun same => absurd same different
  · rename_i same
    rw [Program.perform_bind, Program.run_act, imp_iff_right (not_not.mp same)]
    refine (onStore_bind_reportable fun executed => ?_).trans
      (executeStatement_reportable _ _ _ _ _ prepared.statement)
    exact (settle_ends _).bind fun _ _ => trivial

/-- A request can be reported just if it fits the state. -/
theorem handleRequest_reportable (frame : Frame) :
    FailsWith QueryFault.Reportable
        ((handleRequest crates frame).run ConnState.answer state).1 ↔
      RequestFits crates state frame := by
  unfold handleRequest RequestFits
  cases frame.opcode with
  | query =>
      cases readLongString frame.body with
      | none =>
          exact iff_of_true (.error (by decide +kernel)) (by simp)
      | some found =>
          obtain ⟨text, rest⟩ := found
          simp only [Option.some.injEq, Prod.mk.injEq, and_imp]
          cases read : crates.readParameters rest with
          | none =>
              refine iff_of_true (.error (by decide +kernel)) ?_
              rintro _ _ parameters statement rfl rfl isRead
              rw [read] at isRead
              cases isRead
          | some parameters =>
              refine (handleQuery_reportable crates state text parameters).trans ?_
              constructor
              · rintro each _ _ _ statement rfl rfl isRead parsed
                rw [read] at isRead
                cases isRead
                exact each statement parsed
              · intro each statement parsed
                exact each text rest parameters statement rfl rfl read parsed
  | prepare =>
      cases readLongString frame.body with
      | none =>
          exact iff_of_true (.error (by decide +kernel)) (by simp)
      | some found =>
          obtain ⟨text, rest⟩ := found
          simp only [Option.some.injEq, Prod.mk.injEq, and_imp]
          refine (handlePrepare_reportable crates state text).trans ?_
          constructor
          · rintro each _ _ statement rfl rfl parsed
            exact each statement parsed
          · intro each statement parsed
            exact each text rest statement rfl rfl parsed
  | execute =>
      cases readShortBytes frame.body with
      | none =>
          exact iff_of_true (.error (by decide +kernel)) (by simp)
      | some found =>
          obtain ⟨id, rest⟩ := found
          simp only [Option.some.injEq, Prod.mk.injEq, and_imp, access]
          rw [Program.perform_bind, Program.run_act]
          simp only [ConnState.answer]
          cases registered : state.shared.prepared id with
          | none =>
              refine iff_of_true (.error (by decide +kernel)) ?_
              rintro _ _ prepared parameters rfl rfl found
              rw [registered] at found
              cases found
          | some prepared =>
              simp only
              cases read : crates.readParameters rest with
              | none =>
                  refine iff_of_true (.error (by decide +kernel)) ?_
                  rintro _ _ _ parameters rfl rfl _ isRead
                  rw [read] at isRead
                  cases isRead
              | some parameters =>
                  refine (handleExecute_reportable crates state prepared
                    parameters).trans ?_
                  constructor
                  · rintro each _ _ _ _ rfl rfl found isRead
                    rw [registered] at found
                    rw [read] at isRead
                    cases found
                    cases isRead
                    exact each
                  · intro each
                    exact each id rest prepared parameters rfl rfl registered read

end Requests

/-! ## Frames -/

/-- A string is written just if its size fits the length in front of it. -/
def ScyllaCql.BoundsStrings (scylla : ScyllaCql) : Prop :=
  ∀ text, scylla.writeString text = none ↔ 65535 < textSize text

/-- The body of an ERROR frame is compressed, where compression is agreed on. -/
def ScyllaCql.Compresses
    (scylla : ScyllaCql)
    (compression : Option Compression) :
    Prop :=
  ∀ algorithm,
    compression = some algorithm →
    ∀ body, scylla.compressAppend body algorithm ≠ none

/-- An error reaches the client in an ERROR frame on its stream. -/
def Reported
    (scylla : ScyllaCql)
    (version : UInt8)
    (stream : Int16)
    (compression : Option Compression)
    (code : Nat)
    (message : String) :
    Prop :=
  ∃ flags payload,
    Protocol.error scylla version stream code message compression =
      .ok ([version ||| 0x80, flags] ++ toBe 2 stream.toUInt16.toNat ++
        [ResponseOpcode.error.toUInt8] ++ toBe 4 payload.length ++ payload)

/-- A response frame is built where its body can be compressed. -/
theorem responseFrame_built
    {scylla : ScyllaCql}
    {compression : Option Compression}
    (compresses : scylla.Compresses compression)
    (version : UInt8)
    (stream : Int16)
    (opcode : ResponseOpcode)
    (body : Bytes) :
    ∃ flags payload,
      responseFrame scylla version stream opcode body compression =
        .ok ([version ||| 0x80, flags] ++ toBe 2 stream.toUInt16.toNat ++
          [opcode.toUInt8] ++ toBe 4 payload.length ++ payload) := by
  cases compression with
  | none =>
      exact ⟨_, _, rfl⟩
  | some algorithm =>
      obtain ⟨payload, compressed⟩ :=
        Option.ne_none_iff_exists'.mp (compresses algorithm rfl body)
      refine ⟨0x01, payload, ?_⟩
      simp only [responseFrame, compressed, expectWritten]
      rfl

/-- A message that fits its length is reported; a longer one panics. -/
theorem reported_iff
    {scylla : ScyllaCql}
    {compression : Option Compression}
    (bounds : scylla.BoundsStrings)
    (compresses : scylla.Compresses compression)
    (version : UInt8)
    (stream : Int16)
    (code : Nat)
    (message : String) :
    Reported scylla version stream compression code message ↔
      Reportable message := by
  unfold Reported Protocol.error Reportable
  cases written : scylla.writeString message with
  | none =>
      have long := (bounds message).mp written
      refine iff_of_false ?_ (by omega)
      rintro ⟨flags, payload, built⟩
      cases built
  | some bytes =>
      have short : ¬ 65535 < textSize message := by
        rw [← bounds message, written]
        exact Option.some_ne_none bytes
      refine iff_of_true ?_ (by omega)
      exact responseFrame_built compresses version stream .error _

/--
Every error a request fails with is at most 65535 bytes long and reaches the
client exactly when the request fits the state it meets.
-/
theorem errorReported_iff
    {shards : Nat}
    [NeZero shards]
    {scylla : ScyllaCql}
    {compression : Option Compression}
    (bounds : scylla.BoundsStrings)
    (compresses : scylla.Compresses compression)
    (version : UInt8)
    (stream : Int16)
    (crates : Crates)
    (state : ConnState shards)
    (frame : Frame) :
    (∀ code message,
        ((handleRequest crates frame).run ConnState.answer state).1 =
            .error (.error code message) →
        textSize message ≤ 65535 ∧
          Reported scylla version stream compression code message) ↔
      RequestFits crates state frame := by
  rw [← handleRequest_reportable]
  constructor
  · intro each failure failed
    cases failure with
    | error code message =>
        exact (each code message failed).1
    | panic =>
        trivial
    | hang =>
        trivial
  · intro fails code message failed
    have short : Reportable message := fails _ failed
    exact ⟨short,
      (reported_iff bounds compresses version stream code message).mpr short⟩

/-! ### An INSERT with a literal for its integer key -/

/-- A text behind its length is read back. -/
theorem readLongString_longString
    {text : String}
    (fits : textSize text < 2 ^ 31)
    (rest : Bytes) :
    readLongString (longString text ++ rest) = some (text, rest) := by
  have length :
      readI32 (longString text ++ rest) 0 = ((utf8 text).length : Int) := by
    have read := readI32_i32Be [] (utf8 text ++ rest) fits
    rwa [List.nil_append, ← List.append_assoc] at read
  have contents :
      slice (longString text ++ rest) 4 (utf8 text).length = utf8 text := by
    have field := slice_append (toBe 4 (utf8 text).length) (utf8 text) rest
    rwa [length_toBe] at field
  have whole :
      (longString text ++ rest).length =
        4 + (utf8 text).length + rest.length := by
    simp only [longString, List.length_append, length_toBe]
  have behind :
      (longString text ++ rest).drop (4 + (utf8 text).length) = rest := by
    rw [List.drop_append_of_le_length (by simp [longString]),
      List.drop_eq_nil_of_le (by simp [longString]), List.nil_append]
  rw [readLongString, length, if_neg (by omega)]
  simp only [Int.toNat_natCast, contents, behind, fromUtf8?_utf8,
    Option.map_some]

/-- The text of an INSERT with a literal for the key. -/
def insertText (literal : String) : String :=
  s!"INSERT INTO bench.kv (k, v) VALUES ({literal}, 'x')"

/-- What a client sends of such an INSERT, and how it is parsed. -/
def insertCrates (literal : String) : Crates :=
  { sessionCrates with
    parse := fun text =>
      if text = insertText literal then
        some (kvInsert [.const literal, .const "'x'"])
      else
        sessionCrates.parse text }

/-- A connection that has just been opened to a store with `kvTable`. -/
def kvConnection : ConnState 1 where
  store := storeWith false kvTable
  shared := .new

/-- A quoted text is no integer. -/
theorem parseLiteral_quoted (hexDecode : HexDecode) (contents : List Char) :
    Value.parseLiteral hexDecode (String.ofList (quoted contents)) .int =
      fail s!"cannot parse '{String.ofList (quoted contents)}' as {ColumnType.int.cqlString}" := by
  have unread : parseSigned 32 (quoted contents) = none := by
    simp [quoted, parseSigned, splitSign, parseDigits_quote]
  simp only [Value.parseLiteral, String.toList_ofList, trim_quoted, unread]
  rfl

/-- A QUERY fails as its statement does. -/
theorem handleQuery_eq_error
    {shards : Nat}
    [NeZero shards]
    {crates : Crates}
    {text : String}
    {statement : Statement}
    {parameters : QueryParameters}
    {state : ConnState shards}
    {failure : QueryFault}
    (parsed : crates.parse text = some statement)
    (failed :
      ((executeStatement crates.json crates.hexDecode state.shared.keyspace
          (.new parameters.values) parameters.pageSize parameters.pagingState
          statement).run Storage.answer state.store).1 =
        .error failure) :
    ((handleQuery crates text parameters).run ConnState.answer state).1 =
      .error failure := by
  unfold handleQuery access
  rw [Program.perform_bind, Program.run_act, parsed]
  simp only
  rw [Program.run_bind, ConnState.run_onStore]
  simp only [ConnState.answer, failed]

/-- A QUERY is executed as it is read. -/
theorem handleRequest_query
    {shards : Nat}
    [NeZero shards]
    {crates : Crates}
    {body rest : Bytes}
    {text : String}
    {parameters : QueryParameters}
    (read : readLongString body = some (text, rest))
    (readsRest : crates.readParameters rest = some parameters) :
    handleRequest crates ⟨.query, body⟩ =
      (handleQuery crates text parameters : ConnProgram shards (Reply shards)) := by
  simp only [handleRequest, read, readsRest]

section Literal

variable {literal : String}

/-- The INSERT is executed as it is parsed. -/
theorem handleRequest_insert
    (fits : textSize (insertText literal) < 2 ^ 31) :
    handleRequest (insertCrates literal) (queryFrame (insertText literal)) =
      (handleQuery (insertCrates literal) (insertText literal)
        ⟨[], none, none⟩ : ConnProgram 1 (Reply 1)) := by
  have parameters :
      (insertCrates literal).readParameters [0, 1, 0] =
        some ⟨[], none, none⟩ := by
    show sessionCrates.readParameters [0, 1, 0] = _
    decide
  exact handleRequest_query (readLongString_longString fits [0, 1, 0]) parameters

/-- The values fit where the literal is short enough to be quoted. -/
theorem insertFits_literal
    (short : Quotable 19 [literal, "int"])
    (binds : Binds) :
    SuppliedFit sessionCrates.hexDecode kvTable
        [(.unquoted "k", .const literal), (.unquoted "v", .const "'x'")]
        binds ∧
      ∀ resolved later,
        resolveValues sessionCrates.hexDecode kvTable
            [(.unquoted "k", .const literal), (.unquoted "v", .const "'x'")]
            (List.replicate kvTable.columns.length none) binds =
          .ok (resolved, later) →
        KeysSuppliedFit kvTable resolved := by
  have key :
      kvTable.resolve (.unquoted "k") = some ⟨"k", .int, true, false⟩ := by
    decide
  have regular :
      kvTable.resolve (.unquoted "v") = some ⟨"v", .text, false, false⟩ := by
    decide
  constructor
  · simp only [SuppliedFit, InTurn, SuppliedFits, key, regular]
    refine ⟨.inr short, fun later _ => ⟨?_, fun _ _ => trivial⟩⟩
    -- the second literal is text, which is accepted as it is
    exact .inl ⟨_, rfl⟩
  · intro resolved later _
    refine ⟨fun index _ => ?_, fun _ _ => trivial⟩
    split
    · show Quotable 28 ["k"]
      decide
    · intro _
      show Quotable 32 ["k"]
      decide

/-- The INSERT fits where its literal is short enough to be quoted. -/
theorem requestFits_insert
    (fits : textSize (insertText literal) < 2 ^ 31)
    (short : Quotable 19 [literal, "int"]) :
    RequestFits (insertCrates literal) kvConnection
      (queryFrame (insertText literal)) := by
  rintro text rest parameters statement read _ parsed
  rw [queryFrame, readLongString_longString fits] at read
  cases read
  simp only [insertCrates, if_true] at parsed
  cases parsed
  have named : nameKeyspace none kvName = .ok "bench" := by
    decide
  have known :
      (storeWith false kvTable).lookupTable cachedJson "bench"
          (normId kvName.name) =
        .ok (some kvTable) := by
    have name : normId kvName.name = "kv" := by
      decide
    rw [name]
    simp [Storage.lookupTable, storeWith, kvTable]
  intro keyspace isNamed
  obtain rfl : "bench" = keyspace := Except.ok.inj (named.symm.trans isNamed)
  show LookupFits ((storeWith false kvTable).lookupTable cachedJson "bench"
    (normId kvName.name)) ∧ _
  rw [known]
  refine ⟨.ok _, ?_⟩
  intro found isFound
  obtain rfl : some kvTable = found := Except.ok.inj isFound
  intro _ operands isValues _
  obtain rfl := InsertValues.values.inj isValues
  exact insertFits_literal short _

end Literal

/-- A quoted text as an integer key is rejected. -/
theorem quoted_key_rejected
    (contents : List Char)
    (fits : textSize (insertText (String.ofList (quoted contents))) < 2 ^ 31) :
    ((handleRequest (insertCrates (String.ofList (quoted contents)))
          (queryFrame (insertText (String.ofList (quoted contents))))).run
            ConnState.answer kvConnection).1 =
        .error (invalidErr
          s!"cannot parse '{String.ofList (quoted contents)}' as {ColumnType.int.cqlString}") := by
  have planned :
      planInsert sessionCrates.hexDecode kvTable
          { tableName := kvName
            columns := [.unquoted "k", .unquoted "v"]
            values :=
              .values [.const (String.ofList (quoted contents)), .const "'x'"] }
          (.new []) =
        .error (invalidErr
          s!"cannot parse '{String.ofList (quoted contents)}' as {ColumnType.int.cqlString}") := by
    have atIndex : kvTable.resolveIndex (.unquoted "k") = some 0 := by
      decide
    have column : kvTable.columns[0]? = some ⟨"k", .int, true, false⟩ := rfl
    simp only [planInsert, List.length_cons, List.length_nil, ne_eq,
      not_true_eq_false, if_false, List.zip_cons_cons, resolveValues, atIndex,
      column, operandToValue, literalToValue, constToValue, parseLiteral_quoted]
    rfl
  have failed :
      ((executeStatement sessionCrates.json sessionCrates.hexDecode none (.new [])
          none none
          (kvInsert [.const (String.ofList (quoted contents)), .const "'x'"])).run
            answer (storeWith false kvTable)).1 =
        .error (invalidErr
          s!"cannot parse '{String.ofList (quoted contents)}' as {ColumnType.int.cqlString}") := by
    show ((resolveTable cachedJson none kvName >>= fun named => _).run answer
      (storeWith false kvTable)).1 = _
    rw [Program.run_bind_of_ok answer (resolveTable_kvName false)]
    simp only [planned]
    rfl
  have parsed :
      (insertCrates (String.ofList (quoted contents))).parse
          (insertText (String.ofList (quoted contents))) =
        some (kvInsert
          [.const (String.ofList (quoted contents)), .const "'x'"]) := by
    simp only [insertCrates, if_true]
  rw [handleRequest_insert fits]
  exact handleQuery_eq_error parsed failed

/-- The plain writers refuse long strings only. -/
theorem plainScyllaCql_boundsStrings : plainScyllaCql.BoundsStrings := by
  intro text
  simp [plainScyllaCql, textSize]

/-- Without compression nothing has to be compressed. -/
theorem compresses_none (scylla : ScyllaCql) : scylla.Compresses none := by
  rintro algorithm ⟨⟩

/-- A quoted text of as many letters. -/
def letters (count : Nat) : String :=
  String.ofList (quoted (List.replicate count 'a'))

/-- A quoted text is two bytes longer than the text. -/
theorem textSize_letters (count : Nat) : textSize (letters count) = count + 2 := by
  have size :
      ((List.replicate count 'a').flatMap String.utf8EncodeChar).length = count := by
    induction count with
    | zero =>
        rfl
    | succ count inductionHypothesis =>
        rw [List.replicate_succ, List.flatMap_cons, List.length_append,
          inductionHypothesis, Nat.add_comm]
        rfl
  have quote : (String.utf8EncodeChar '\'').length = 1 := by
    decide
  rw [textSize, letters, utf8_eq_flatMap, String.toList_ofList, quoted,
    List.flatMap_cons, List.flatMap_append, List.flatMap_cons, List.flatMap_nil,
    List.append_nil, List.length_append, List.length_append, size, quote]
  omega

/-- The INSERT's own words are forty-two bytes. -/
theorem textSize_insertText (literal : String) :
    textSize (insertText literal) = 42 + ([literal].map textSize).sum :=
  quoting_inside (by decide +kernel)

/-- An INSERT with letters for its key. -/
theorem textSize_insertText_letters (count : Nat) :
    textSize (insertText (letters count)) = count + 44 := by
  rw [textSize_insertText, List.map_singleton, List.sum_singleton,
    textSize_letters]
  omega

/-- Letters as an integer key are rejected. -/
theorem letters_rejected {count : Nat} (framed : count < 2 ^ 25) :
    ((handleRequest (insertCrates (letters count))
          (queryFrame (insertText (letters count)))).run ConnState.answer
            kvConnection).1 =
        .error (invalidErr
          s!"cannot parse '{letters count}' as {ColumnType.int.cqlString}") := by
  have size := textSize_insertText_letters count
  exact quoted_key_rejected (List.replicate count 'a') (size.trans_lt (by omega))

/-- A literal of one letter is rejected with a message that is reported. -/
theorem short_literal_reported :
    ((handleRequest (insertCrates (letters 1))
          (queryFrame (insertText (letters 1)))).run ConnState.answer
            kvConnection).1 =
        .error (.error 0x2200 "cannot parse ''a'' as int") ∧
      Reported plainScyllaCql 0x04 7 none 0x2200 "cannot parse ''a'' as int" := by
  have fits : textSize (insertText (letters 1)) < 2 ^ 31 := by
    rw [textSize_insertText_letters]
    decide
  have short : Quotable 19 [letters 1, "int"] := by
    have type : textSize "int" = 3 := by
      decide
    simp [Quotable, textSize_letters, type]
  have message :
      s!"cannot parse '{letters 1}' as {ColumnType.int.cqlString}" =
        "cannot parse ''a'' as int" := by
    decide
  have rejected := letters_rejected (show 1 < 2 ^ 25 by decide)
  rw [message] at rejected
  exact ⟨rejected,
    ((errorReported_iff plainScyllaCql_boundsStrings (compresses_none _) 0x04 7
      (insertCrates (letters 1)) kvConnection
      (queryFrame (insertText (letters 1)))).mpr
        (requestFits_insert fits short) _ _ rejected).2⟩

/--
A literal with too many letters is quoted in a message that cannot be sent,
though its request fits a frame.
-/
theorem letters_not_reported
    {count : Nat}
    (many : 65512 ≤ count)
    (framed : count < 2 ^ 25) :
    ∃ message,
      (queryFrame (insertText (letters count))).body.length ≤ 64 * 1024 * 1024 ∧
        ((handleRequest (insertCrates (letters count))
            (queryFrame (insertText (letters count)))).run ConnState.answer
              kvConnection).1 =
          .error (.error 0x2200 message) ∧
        65535 < textSize message ∧
        Protocol.error plainScyllaCql 0x04 7 0x2200 message none =
          .error .panic := by
  have size := textSize_insertText_letters count
  have long :
      65535 < textSize s!"cannot parse '{letters count}' as {ColumnType.int.cqlString}" := by
    have quotes :
        Reportable s!"cannot parse '{letters count}' as {ColumnType.int.cqlString}" ↔
          Quotable 19 [letters count, "int"] :=
      reportable_iff_quotable (quoting_two_last (by decide))
    have type : textSize "int" = 3 := by
      decide
    refine not_le.mp (mt quotes.mp ?_)
    simp only [Quotable, List.map_cons, List.sum_cons, textSize_letters, type]
    omega
  have inFrame :
      (queryFrame (insertText (letters count))).body.length ≤ 64 * 1024 * 1024 := by
    have body :
        (queryFrame (insertText (letters count))).body.length =
          4 + textSize (insertText (letters count)) + 3 := by
      simp only [queryFrame, longString, textSize, List.length_append,
        length_toBe]
      rfl
    omega
  refine ⟨_, inFrame, letters_rejected framed, long, ?_⟩
  have refused :
      plainScyllaCql.writeString s!"cannot parse '{letters count}' as {ColumnType.int.cqlString}" =
        none :=
    (plainScyllaCql_boundsStrings _).mpr long
  show (expectWritten (plainScyllaCql.writeString
    s!"cannot parse '{letters count}' as {ColumnType.int.cqlString}") >>= _) = _
  rw [refused]
  rfl

/-- A literal of 65536 letters is quoted in a message that cannot be sent. -/
theorem long_literal_not_reported :
    ∃ message,
      (queryFrame (insertText (letters 65536))).body.length ≤ 64 * 1024 * 1024 ∧
        ((handleRequest (insertCrates (letters 65536))
            (queryFrame (insertText (letters 65536)))).run ConnState.answer
              kvConnection).1 =
          .error (.error 0x2200 message) ∧
        65535 < textSize message ∧
        Protocol.error plainScyllaCql 0x04 7 0x2200 message none =
          .error .panic :=
  letters_not_reported (by decide) (by decide)

end RhydaDB
