import RhydaDB.ExecuteStatement
import RhydaDB.OperandTyping
import RhydaDB.WireBounds

namespace RhydaDB

open ByteStrings Fallible

/-!
# The texts of errors

An error message is written behind a sixteen-bit length.  Most messages are
fixed, or hold a number; some quote a text of the statement or a name of the
catalog, whose length the client chose.
-/

/-- The size of a text in bytes. -/
def textSize (text : String) : Nat :=
  (utf8 text).length

/-- A message that fits the length in front of it. -/
def Reportable (message : String) : Prop :=
  textSize message ≤ 65535

instance (message : String) : Decidable (Reportable message) :=
  inferInstanceAs (Decidable (_ ≤ _))

@[simp] theorem textSize_append (first second : String) :
    textSize (first ++ second) = textSize first + textSize second := by
  simp [textSize, utf8]

@[simp] theorem textSize_toString (text : String) :
    textSize (toString text) = textSize text :=
  rfl

/-- Texts that a message with so many bytes of its own has room for. -/
def Quotable (fixed : Nat) (texts : List String) : Prop :=
  fixed + (texts.map textSize).sum ≤ 65535

instance (fixed : Nat) (texts : List String) : Decidable (Quotable fixed texts) :=
  inferInstanceAs (Decidable (_ ≤ _))

/-- A message of this size fits just if the texts in it are short enough. -/
theorem reportable_iff_quotable
    {message : String}
    {fixed : Nat}
    {texts : List String}
    (size : textSize message = fixed + (texts.map textSize).sum) :
    Reportable message ↔ Quotable fixed texts := by
  rw [Reportable, Quotable, size]

section Quoting

variable {before between after first second : String} {fixed : Nat}

/-- A message that ends with a text. -/
theorem quoting_last (size : textSize before = fixed) :
    textSize (before ++ first) = fixed + ([first].map textSize).sum := by
  simp [size]

/-- A message with a text inside. -/
theorem quoting_inside (size : textSize before + textSize after = fixed) :
    textSize (before ++ first ++ after) = fixed + ([first].map textSize).sum := by
  simp only [textSize_append, List.map_cons, List.map_nil, List.sum_cons,
    List.sum_nil]
  omega

/-- A message with two texts, the second at its end. -/
theorem quoting_two_last (size : textSize before + textSize between = fixed) :
    textSize (before ++ first ++ between ++ second) =
      fixed + ([first, second].map textSize).sum := by
  simp only [textSize_append, List.map_cons, List.map_nil, List.sum_cons,
    List.sum_nil]
  omega

/-- A message with two texts, the first at its start. -/
theorem quoting_two_first (size : textSize between + textSize after = fixed) :
    textSize (first ++ between ++ second ++ after) =
      fixed + ([first, second].map textSize).sum := by
  simp only [textSize_append, List.map_cons, List.map_nil, List.sum_cons,
    List.sum_nil]
  omega

/-- A message with two texts inside. -/
theorem quoting_two_inside
    (size : textSize before + textSize between + textSize after = fixed) :
    textSize (before ++ first ++ between ++ second ++ after) =
      fixed + ([first, second].map textSize).sum := by
  simp only [textSize_append, List.map_cons, List.map_nil, List.sum_cons,
    List.sum_nil]
  omega

end Quoting

/-- A machine word is written with few digits. -/
theorem textSize_nat
    {number : Nat}
    (word : number < 2 ^ 64) :
    textSize (toString number) ≤ 80 := by
  have digits : (Nat.repr number).length ≤ 20 :=
    (Nat.length_repr_le_iff (by omega)).mpr (by omega)
  have encoded := length_utf8_le (Nat.repr number).toList
  rw [String.ofList_toList, String.length_toList] at encoded
  show (utf8 (Nat.repr number)).length ≤ 80
  omega

/-! ## Decoding -/

/-- A fault whose message is short. -/
def Fault.Short : Fault → Prop
  | .error message =>
      textSize message ≤ 400
  | _ =>
      True

instance : (fault : Fault) → Decidable fault.Short
  | .error message =>
      inferInstanceAs (Decidable (textSize message ≤ 400))
  | .panic =>
      .isTrue trivial
  | .hang =>
      .isTrue trivial

/-- A decoding error is found inside the bytes, at a sequence of up to three. -/
theorem utf8Error_bounds
    {raw : Bytes}
    {start index : Nat}
    {length : Option Nat}
    (found : utf8Error raw start = some (index, length)) :
    index ≤ start + raw.length ∧ ∀ width, length = some width → width ≤ 3 := by
  fun_induction utf8Error raw start <;> grind

/-- The text of a decoding error is short. -/
theorem textSize_utf8ErrorText
    {raw : Bytes}
    (word : raw.length < 2 ^ 31) :
    textSize (utf8ErrorText raw) ≤ 400 := by
  have sequence : textSize "invalid utf-8 sequence of " ≤ 60 := by
    decide
  have middle : textSize " bytes from index " ≤ 60 := by
    decide
  have incomplete : textSize "incomplete utf-8 byte sequence from index " ≤ 60 := by
    decide
  have empty : textSize "" ≤ 60 := by
    decide
  unfold utf8ErrorText
  split
  · rename_i index length found
    obtain ⟨inside, narrow⟩ := utf8Error_bounds found
    have short := narrow length rfl
    have width := textSize_nat (show length < 2 ^ 64 by omega)
    have position := textSize_nat (show index < 2 ^ 64 by omega)
    simp only [textSize_append, textSize_toString]
    omega
  · rename_i index found
    obtain ⟨inside, _⟩ := utf8Error_bounds found
    have position := textSize_nat (show index < 2 ^ 64 by omega)
    simp only [textSize_append, textSize_toString]
    omega
  · omega

/-- A computation whose fault has a short text. -/
abbrev FailsShort {α : Type} (outcome : Outcome α) : Prop :=
  FailsWith Fault.Short outcome

/-- An array conversion fails with a short text. -/
theorem tryIntoArray_failsShort (size : Nat) (raw : Bytes) :
    FailsShort (tryIntoArray size raw) := by
  unfold tryIntoArray
  split
  · exact .ok _
  · exact .error (by decide)

/-- Reading a first byte fails without a text. -/
theorem firstByte_failsShort (raw : Bytes) : FailsShort (firstByte raw) := by
  cases raw with
  | nil =>
      exact .error trivial
  | cons byte rest =>
      exact .ok byte

/-- The kinds of collections that decoding errors name. -/
def collectionKinds : List String :=
  ["set", "list", "map"]

section Kinds

variable {kind : String}

/-- A truncated collection is reported with a short text. -/
theorem short_truncated (known : kind ∈ collectionKinds) :
    textSize s!"{kind} value truncated" ≤ 400 := by
  simp only [collectionKinds, List.mem_cons, List.not_mem_nil, or_false] at known
  rcases known with rfl | rfl | rfl <;> decide

/-- Decoding an item fails with a short text when its payload does. -/
theorem decodeItem_failsShort
    (known : kind ∈ collectionKinds)
    {decode : Bytes → Outcome Value}
    (decodes : ∀ data, FailsShort (decode data))
    (raw : Bytes)
    (off : Nat) :
    FailsShort (decodeItem kind decode raw off) := by
  unfold decodeItem
  split
  · exact .error (short_truncated known)
  · simp only
    split
    · exact .error (short_truncated known)
    · exact (decodes _).bind fun value _ => .ok _

/-- The element loop fails with a short text. -/
theorem decodeElements_failsShort
    (known : kind ∈ collectionKinds)
    {decode : Bytes → Outcome Value}
    (decodes : ∀ data, FailsShort (decode data))
    (raw : Bytes)
    (count off : Nat) :
    FailsShort (decodeElements kind decode raw count off) := by
  induction count generalizing off with
  | zero =>
      exact .ok []
  | succ count inductionHypothesis =>
      refine (decodeItem_failsShort known decodes raw off).bind
        fun item _ => ?_
      exact (inductionHypothesis item.2).bind fun rest _ => .ok _

/-- The entry loop fails with a short text. -/
theorem decodeEntries_failsShort
    {decodeKey decodeValue : Bytes → Outcome Value}
    (decodesKey : ∀ data, FailsShort (decodeKey data))
    (decodesValue : ∀ data, FailsShort (decodeValue data))
    (raw : Bytes)
    (count off : Nat) :
    FailsShort (decodeEntries decodeKey decodeValue raw count off) := by
  have known : "map" ∈ collectionKinds := by
    decide
  induction count generalizing off with
  | zero =>
      exact .ok []
  | succ count inductionHypothesis =>
      refine (decodeItem_failsShort known decodesKey raw off).bind
        fun key _ => ?_
      refine (decodeItem_failsShort known decodesValue raw key.2).bind
        fun value _ => ?_
      exact (inductionHypothesis value.2).bind fun rest _ => .ok _

end Kinds

/-- A collection's count fails with a short text. -/
theorem collectionCount_failsShort
    {kind counted : String}
    (tooShort : textSize s!"{kind} value too short" ≤ 400)
    (negative : textSize s!"negative {kind} {counted} count" ≤ 400)
    (raw : Bytes) :
    FailsShort (collectionCount kind counted raw) := by
  unfold collectionCount
  split
  · exact .error tooShort
  · split
    · exact .error negative
    · exact .ok _

/--
Checking a length prefix fails with a short text when the payload does, which
is shorter than `2 ^ 31` bytes where it is decoded.
-/
theorem withLengthPrefix_failsShort
    {decode : Bytes → Outcome Value}
    (decodes :
      ∀ payload,
        payload.length < 2 ^ 31 →
        FailsShort (decode payload))
    (data : Bytes) :
    FailsShort (withLengthPrefix decode data) := by
  have bound := readI32_lt data 0
  unfold withLengthPrefix
  split
  · exact .error (by decide)
  · split
    · exact .ok _
    · split
      · exact .error (by decide)
      · refine decodes _ ?_
        rw [List.length_drop]
        omega

/-- Decoding a payload fails with a short text. -/
theorem Value.fromPayload_failsShort (columnType : ColumnType) :
    ∀ raw : Bytes,
      raw.length < 2 ^ 31 →
      FailsShort (fromPayload columnType raw) := by
  induction columnType with
  | tinyInt =>
      exact fun raw _ => (firstByte_failsShort raw).bind fun byte _ => .ok _
  | boolean =>
      exact fun raw _ => (firstByte_failsShort raw).bind fun byte _ => .ok _
  | text =>
      intro raw word
      unfold fromPayload
      split
      · exact .ok _
      · exact .error (textSize_utf8ErrorText word)
  | blob =>
      exact fun raw _ => .ok _
  | inet =>
      intro raw word
      unfold fromPayload
      split
      · exact .ok _
      · split
        · exact .ok _
        · refine .error ?_
          have constant : textSize "invalid inet address length " ≤ 60 := by
            decide
          have number := textSize_nat (show raw.length < 2 ^ 64 by omega)
          have empty : textSize "" = 0 := by
            decide
          show textSize _ ≤ 400
          simp only [textSize_append, textSize_toString]
          omega
  | set element inductionHypothesis =>
      intro raw _
      refine (collectionCount_failsShort (by decide) (by decide +kernel)
        raw).bind fun count _ => ?_
      exact (decodeElements_failsShort (by decide)
        (withLengthPrefix_failsShort inductionHypothesis) raw count 4).bind
          fun values _ => .ok _
  | list element inductionHypothesis =>
      intro raw _
      refine (collectionCount_failsShort (by decide) (by decide +kernel)
        raw).bind fun count _ => ?_
      exact (decodeElements_failsShort (by decide)
        (withLengthPrefix_failsShort inductionHypothesis) raw count 4).bind
          fun values _ => .ok _
  | map key value keyHypothesis valueHypothesis =>
      intro raw _
      refine (collectionCount_failsShort (by decide) (by decide +kernel)
        raw).bind fun count _ => ?_
      exact (decodeEntries_failsShort (withLengthPrefix_failsShort keyHypothesis)
        (withLengthPrefix_failsShort valueHypothesis) raw count 4).bind
          fun values _ => .ok _
  | _ =>
      exact fun raw _ =>
        (tryIntoArray_failsShort _ raw).bind fun array _ => .ok _

/-- Decoding a length-prefixed value fails with a short text. -/
theorem Value.fromWire_failsShort (data : Bytes) (columnType : ColumnType) :
    FailsShort (fromWire data columnType) :=
  withLengthPrefix_failsShort (fromPayload_failsShort columnType) data

/-- Decoding a bare payload fails with a short text. -/
theorem Value.fromRawBytes_failsShort (raw : Bytes) (columnType : ColumnType) :
    FailsShort (fromRawBytes raw columnType) :=
  fromWire_failsShort _ columnType

/-! ## Stored rows -/

/-- The number of a column that a row names without the table having it. -/
theorem short_unknownColumn {index : Nat} (word : index < 2 ^ 64) :
    textSize s!"row references unknown column index {index}" ≤ 400 := by
  have constant : textSize "row references unknown column index " ≤ 60 := by
    decide
  have empty : textSize "" = 0 := by
    decide
  have number := textSize_nat word
  simp only [textSize_append, textSize_toString]
  omega

/-- Decoding a cell fails with a short text. -/
theorem decodeCell_failsShort
    (table : TableDef)
    (data : Bytes)
    (row : List Value) :
    FailsShort (decodeCell table data row) := by
  unfold decodeCell
  split
  · exact .error (by decide)
  · rename_i long
    have bound := ofBe_lt (slice data 0 2)
    rw [length_slice (by omega)] at bound
    simp only
    split
    · exact .error (short_unknownColumn (by omega))
    · split
      · exact .error (by decide)
      · split
        · exact .ok _
        · split
          · exact .error (by decide)
          · exact (Value.fromWire_failsShort _ _).bind fun value _ => .ok _

/-- Decoding cells fails with a short text. -/
theorem decodeCells_failsShort
    (table : TableDef)
    (rounds : Nat)
    (data : Bytes)
    (row : List Value) :
    FailsShort (decodeCells table rounds data row) := by
  induction rounds generalizing data row with
  | zero =>
      cases data with
      | nil =>
          exact .ok row
      | cons byte data =>
          exact .error (by decide)
  | succ rounds inductionHypothesis =>
      cases data with
      | nil =>
          exact .ok row
      | cons byte data =>
          exact (decodeCell_failsShort table (byte :: data) row).bind
            fun decoded _ => inductionHypothesis decoded.1 decoded.2

/-- Decoding key parts fails with a short text. -/
theorem decodeParts_failsShort (rounds : Nat) (rest : Bytes) :
    FailsShort (decodeParts rounds rest) := by
  induction rounds generalizing rest with
  | zero =>
      cases rest with
      | nil =>
          exact .ok []
      | cons byte rest =>
          exact .error (by decide)
  | succ rounds inductionHypothesis =>
      cases rest with
      | nil =>
          exact .ok []
      | cons byte rest =>
          unfold decodeParts
          split
          · exact .error (by decide)
          · simp only
            split
            · exact .error (by decide)
            · exact (inductionHypothesis _).bind fun later _ => .ok _

/-- Decoding a key fails with a short text. -/
theorem decodeKey_failsShort
    (keyspace table : String)
    (key : Bytes) :
    FailsShort (decodeKey keyspace table key) := by
  unfold decodeKey decodeKeyData
  split
  · exact decodeParts_failsShort _ _
  · exact .error (by decide)

namespace Projection

variable (projection : Projection)

/-- Decoding key columns fails with a short text. -/
theorem overlayKey_failsShort
    (table : TableDef)
    (indexes : List Nat)
    (parts : List Bytes)
    (row : List Value) :
    FailsShort (overlayKey table indexes parts row) := by
  induction indexes generalizing parts row with
  | nil =>
      exact .ok row
  | cons index indexes inductionHypothesis =>
      cases parts with
      | nil =>
          exact .ok row
      | cons part parts =>
          unfold overlayKey
          split
          · exact .error trivial
          · exact (Value.fromRawBytes_failsShort part _).bind
              fun value _ => inductionHypothesis parts _

/-- The generic projection fails with a short text. -/
theorem projectDecoded_failsShort (keyParts : List Bytes) (value : Bytes) :
    FailsShort (projection.projectDecoded keyParts value) := by
  refine FailsWith.bind ?_ fun row _ => .ok _
  exact (decodeCells_failsShort projection.table _ value _).bind
    fun row _ => overlayKey_failsShort projection.table _ keyParts row

/-- Scanning for a cell fails with a short text. -/
theorem scanCells_failsShort
    (table : TableDef)
    (index : Nat)
    (data : Bytes)
    (rounds offset : Nat) :
    FailsShort (scanCells table index data rounds offset) := by
  have cell : ∀ offset, FailsShort (scanCell table index data offset) := by
    intro offset
    unfold scanCell
    split
    · exact .error (by decide)
    · simp only
      split
      · split
        · exact .ok _
        · split
          · exact .error (by decide)
          · split
            · exact .error trivial
            · split
              · exact .error trivial
              · exact (Value.fromRawBytes_failsShort _ _).map _
      · split
        · exact .ok _
        · exact .ok _
  induction rounds generalizing offset with
  | zero =>
      unfold scanCells
      split
      · exact .ok _
      · exact .error trivial
  | succ rounds inductionHypothesis =>
      unfold scanCells
      split
      · exact .ok _
      · refine (cell offset).bind fun scanned _ => ?_
        split
        · exact .ok _
        · exact inductionHypothesis _

/-- The projection of a point lookup fails with a short text. -/
theorem projectPoint_failsShort (keyParts : List Bytes) (data : Bytes) :
    FailsShort (projection.projectPoint keyParts data) := by
  have single :
      ∀ index, FailsShort (projection.fastValue keyParts data index) := by
    intro index
    unfold fastValue
    split
    · split
      · exact Value.fromRawBytes_failsShort _ _
      · exact .error trivial
    · exact scanCells_failsShort projection.table index data _ 0
  unfold projectPoint
  split
  · exact FailsWith.map (.mapM fun index _ => single index) some
  · exact projection.projectDecoded_failsShort keyParts data

end Projection

/-! ## Statements -/

/-- An error of a statement whose message can be reported. -/
def QueryFault.Reportable : QueryFault → Prop
  | .error _ message =>
      RhydaDB.Reportable message
  | _ =>
      True

instance : (fault : QueryFault) → Decidable fault.Reportable
  | .error _ message =>
      inferInstanceAs (Decidable (Reportable message))
  | .panic =>
      .isTrue trivial
  | .hang =>
      .isTrue trivial

/-- An error can be reported just if the texts it quotes are short enough. -/
theorem failsWith_quoting
    {α : Type}
    {code fixed : Nat}
    {message : String}
    {texts : List String}
    (size : textSize message = fixed + (texts.map textSize).sum) :
    FailsWith QueryFault.Reportable
        (.error (.error code message) : QueryOutcome α) ↔
      Quotable fixed texts :=
  FailsWith.error_iff.trans (reportable_iff_quotable size)

/-- A short fault of the storage layer can be reported. -/
theorem Fault.Short.internalErr
    {fault : Fault}
    (short : fault.Short) :
    (internalErr fault).Reportable := by
  cases fault with
  | error message =>
      have constant : textSize "internal error: " ≤ 60 := by
        decide
      have empty : textSize "" = 0 := by
        decide
      have size : textSize message ≤ 400 := short
      show textSize _ ≤ 65535
      simp only [textSize_append, textSize_toString]
      omega
  | panic =>
      trivial
  | hang =>
      trivial

/-- Taking a bind value fails with an error that can be reported. -/
theorem Binds.take_reportable (binds : Binds) (column : ColumnDef) :
    FailsWith QueryFault.Reportable (binds.take column) := by
  unfold Binds.take
  split
  · exact .error (by decide)
  · exact .ok _
  · refine FailsWith.map (.mapError ?_) _
    intro fault failed
    have short := Value.fromRawBytes_failsShort _ _ fault failed
    cases fault with
    | error message =>
        have constant : textSize "Invalid bind value: " ≤ 60 := by
          decide
        have empty : textSize "" = 0 := by
          decide
        have size : textSize message ≤ 400 := short
        show textSize _ ≤ 65535
        simp only [textSize_append, textSize_toString]
        omega
    | panic =>
        trivial
    | hang =>
        trivial

/--
A literal that can be reported if it is rejected: it is accepted at its type, or
short enough to be quoted.  Collections reject without quoting.
-/
def LiteralFits
    (hexDecode : HexDecode)
    (text : String)
    (columnType : ColumnType) :
    Prop :=
  match columnType with
  | .set _ =>
      True
  | .list _ =>
      True
  | .map _ _ =>
      True
  | scalar =>
      (∃ value, Value.parseLiteral hexDecode text scalar = .ok value) ∨
        Quotable 19 [text, scalar.cqlString]

/-- A rejected scalar literal is quoted with its type, and nothing else. -/
theorem Value.parseLiteral_size
    {hexDecode : HexDecode}
    {text : String}
    {columnType : ColumnType}
    {fault : Fault}
    (notSet : ∀ element, columnType ≠ .set element)
    (notList : ∀ element, columnType ≠ .list element)
    (notMap : ∀ key value, columnType ≠ .map key value)
    (failed : parseLiteral hexDecode text columnType = .error fault) :
    ∃ message,
      fault = .error message ∧
        textSize message =
          textSize s!"cannot parse '{text}' as {columnType.cqlString}" := by
  have uuid : textSize "' as uuid" = textSize "' as " + textSize "uuid" := by
    decide
  cases columnType with
  | uuid =>
      simp only [parseLiteral] at failed
      split at failed
      · cases failed
        refine ⟨_, rfl, ?_⟩
        simp only [textSize_append, textSize_toString, ColumnType.cqlString]
        omega
      · split at failed
        · split at failed
          · cases failed
          · cases failed
            refine ⟨_, rfl, ?_⟩
            simp only [textSize_append, textSize_toString, ColumnType.cqlString]
            omega
        · cases failed
          refine ⟨_, rfl, ?_⟩
          simp only [textSize_append, textSize_toString, ColumnType.cqlString]
          omega
  | text =>
      cases failed
  | set element =>
      exact absurd rfl (notSet element)
  | list element =>
      exact absurd rfl (notList element)
  | map key value =>
      exact absurd rfl (notMap key value)
  | _ =>
      simp only [parseLiteral] at failed
      split at failed
      · cases failed
      · cases failed
        exact ⟨_, rfl, by simp [ColumnType.cqlString]⟩

section Operands

variable {hexDecode : HexDecode}

/-- Reading a literal fails with a reportable error just if the literal fits. -/
theorem constToValue_reportable
    (text : String)
    (columnType : ColumnType) :
    FailsWith QueryFault.Reportable (constToValue hexDecode text columnType) ↔
      LiteralFits hexDecode text columnType := by
  unfold LiteralFits
  split
  · exact iff_of_true (.error (by decide)) trivial
  · exact iff_of_true (.error (by decide)) trivial
  · exact iff_of_true (.error (by decide)) trivial
  · rename_i notSet notList notMap
    cases parsed : Value.parseLiteral hexDecode text columnType with
    | ok value =>
        rw [constToValue, parsed]
        exact iff_of_true (.ok value) (.inl ⟨value, rfl⟩)
    | error fault =>
        obtain ⟨message, rfl, size⟩ :=
          Value.parseLiteral_size notSet notList notMap parsed
        rw [constToValue, parsed]
        refine FailsWith.error_iff.trans ?_
        show textSize message ≤ 65535 ↔ _
        rw [size]
        have quoted :
            Reportable s!"cannot parse '{text}' as {columnType.cqlString}" ↔
              Quotable 19 [text, columnType.cqlString] :=
          reportable_iff_quotable (quoting_two_last (by decide))
        refine Iff.trans quoted ?_
        constructor
        · exact .inr
        · rintro (⟨value, accepted⟩ | short)
          · cases accepted
          · exact short

/-- An entry of a map literal that can be reported if it is rejected. -/
def EntryFits
    (hexDecode : HexDecode)
    (keyType valueType : ColumnType)
    (entry : String × String) :
    Prop :=
  LiteralFits hexDecode entry.1 keyType ∧
    ((∃ key, constToValue hexDecode entry.1 keyType = .ok key) →
      LiteralFits hexDecode entry.2 valueType)

/-- The key and the value of a map literal's entry. -/
def constsToEntry
    (hexDecode : HexDecode)
    (keyType valueType : ColumnType)
    (entry : String × String) :
    QueryOutcome (Value × Value) := do
  let first ← constToValue hexDecode entry.1 keyType
  let second ← constToValue hexDecode entry.2 valueType
  return (first, second)

/-- A map literal is read entry by entry. -/
theorem constsToEntries_eq_mapM
    (keyType valueType : ColumnType)
    (entries : List (String × String)) :
    constsToEntries hexDecode keyType valueType entries =
      entries.mapM (constsToEntry hexDecode keyType valueType) := by
  induction entries with
  | nil =>
      rfl
  | cons entry rest inductionHypothesis =>
      rw [List.mapM_cons, ← inductionHypothesis]
      simp [constsToEntries, constsToEntry]

/-- Reading an entry fails with a reportable error just if the entry fits. -/
theorem constsToEntry_reportable
    (keyType valueType : ColumnType)
    (entry : String × String) :
    FailsWith QueryFault.Reportable (constsToEntry hexDecode keyType valueType entry) ↔
      EntryFits hexDecode keyType valueType entry := by
  unfold constsToEntry EntryFits
  rw [forall_exists_index]
  refine FailsWith.bind_iff.trans (and_congr (constToValue_reportable _ _) ?_)
  refine forall₂_congr fun key _ => FailsWith.bind_iff.trans ?_
  rw [constToValue_reportable]
  exact and_iff_left fun value _ => .ok (key, value)

/-- An operand that can be reported if it is rejected at a type. -/
def OperandFits (hexDecode : HexDecode) : Operand → ColumnType → Prop
  | .const text, columnType =>
      LiteralFits hexDecode text columnType
  | .set items, .set element =>
      InTurn (fun _ item _ => ∃ value, constToValue hexDecode item element = .ok value)
        (fun _ item => LiteralFits hexDecode item element) items ()
  | .list items, .list element =>
      InTurn (fun _ item _ => ∃ value, constToValue hexDecode item element = .ok value)
        (fun _ item => LiteralFits hexDecode item element) items ()
  | .map entries, .map keyType valueType =>
      InTurn
        (fun _ entry _ =>
          ∃ value, constsToEntry hexDecode keyType valueType entry = .ok value)
        (fun _ entry => EntryFits hexDecode keyType valueType entry) entries ()
  | _, _ =>
      True

/-- Reading an operand fails with a reportable error just if it fits. -/
theorem literalToValue_reportable
    (operand : Operand)
    (columnType : ColumnType) :
    FailsWith QueryFault.Reportable (literalToValue hexDecode operand columnType) ↔
      OperandFits hexDecode operand columnType := by
  have mismatch :
      FailsWith QueryFault.Reportable
        (.error (invalidErr "Collection type mismatch in values") :
          QueryOutcome Value) :=
    .error (by decide)
  have unsupported :
      FailsWith QueryFault.Reportable
        (.error
          (invalidErr "Only literal values are supported (no bind markers)") :
          QueryOutcome Value) :=
    .error (by decide)
  cases operand with
  | const text =>
      exact constToValue_reportable text columnType
  | map entries =>
      cases columnType with
      | map keyType valueType =>
          refine FailsWith.map_iff.trans ?_
          rw [constsToEntries_eq_mapM]
          exact FailsWith.mapM_iff (constsToEntry_reportable keyType valueType)
      | _ =>
          exact iff_of_true mismatch trivial
  | set items =>
      cases columnType with
      | set element =>
          exact FailsWith.map_iff.trans
            (FailsWith.mapM_iff fun item => constToValue_reportable item element)
      | _ =>
          exact iff_of_true mismatch trivial
  | list items =>
      cases columnType with
      | list element =>
          exact FailsWith.map_iff.trans
            (FailsWith.mapM_iff fun item => constToValue_reportable item element)
      | _ =>
          exact iff_of_true mismatch trivial
  | null =>
      exact iff_of_true (.ok _) trivial
  | tuple items =>
      exact iff_of_true unsupported trivial
  | column identifier =>
      exact iff_of_true unsupported trivial
  | func text =>
      exact iff_of_true unsupported trivial
  | param text =>
      exact iff_of_true unsupported trivial

/-- Evaluating an operand fails with a reportable error just if it fits. -/
theorem operandToValue_reportable
    (operand : Operand)
    (column : ColumnDef)
    (binds : Binds) :
    FailsWith QueryFault.Reportable (operandToValue hexDecode operand column binds) ↔
      OperandFits hexDecode operand column.colType := by
  cases operand with
  | param text =>
      exact iff_of_true (binds.take_reportable column) trivial
  | _ =>
      simp only [operandToValue, FailsWith.map_iff]
      exact literalToValue_reportable _ _

/-- A restriction's value that can be reported if it is rejected at a type. -/
def FilterOperandFits
    (hexDecode : HexDecode)
    (operand : Operand)
    (columnType : ColumnType) :
    Prop :=
  ∀ text, operand = .const text → LiteralFits hexDecode text columnType

/-- A restriction's value fails with a reportable error just if it fits. -/
theorem filterValue_reportable
    (operand : Operand)
    (column : ColumnDef)
    (binds : Binds) :
    FailsWith QueryFault.Reportable (filterValue hexDecode operand column binds) ↔
      FilterOperandFits hexDecode operand column.colType := by
  unfold FilterOperandFits
  cases operand with
  | const text =>
      simp [filterValue, FailsWith.map_iff, constToValue_reportable]
  | param text =>
      exact iff_of_true (binds.take_reportable column) (by simp)
  | _ =>
      exact iff_of_true (.error (by decide)) (by simp)

/-- The items of an IN list fit in turn. -/
def FilterOperandsFit
    (hexDecode : HexDecode)
    (column : ColumnDef)
    (items : List Operand)
    (binds : Binds) :
    Prop :=
  InTurn
    (fun binds item later =>
      ∃ value, filterValue hexDecode item column binds = .ok (value, later))
    (fun _ item => FilterOperandFits hexDecode item column.colType) items binds

/-- An IN list fails with a reportable error just if its items fit. -/
theorem filterValues_reportable
    (column : ColumnDef)
    (items : List Operand)
    (binds : Binds) :
    FailsWith QueryFault.Reportable (filterValues hexDecode column items binds) ↔
      FilterOperandsFit hexDecode column items binds := by
  induction items generalizing binds with
  | nil =>
      exact iff_of_true (.ok _) trivial
  | cons item rest inductionHypothesis =>
      rw [filterValues, FilterOperandsFit, InTurn]
      refine FailsWith.bind_iff.trans
        (and_congr (filterValue_reportable item column binds) ?_)
      constructor
      · rintro each later ⟨value, accepted⟩
        exact (inductionHypothesis later).mp
          (FailsWith.bind_iff.mp (each (value, later) accepted)).1
      · rintro each ⟨value, later⟩ accepted
        exact ((inductionHypothesis later).mpr
          (each later ⟨value, accepted⟩)).bind fun values _ => .ok _

/-- The values an IN restriction lists fit in turn. -/
def InValuesFit (hexDecode : HexDecode) : Operand → ColumnDef → Binds → Prop
  | .tuple items, column, binds =>
      FilterOperandsFit hexDecode column items binds
  | operand, column, _ =>
      FilterOperandFits hexDecode operand column.colType

/-- An IN restriction fails with a reportable error just if its values fit. -/
theorem inValues_reportable
    (operand : Operand)
    (column : ColumnDef)
    (binds : Binds) :
    FailsWith QueryFault.Reportable (inValues hexDecode operand column binds) ↔
      InValuesFit hexDecode operand column binds := by
  cases operand with
  | tuple items =>
      exact filterValues_reportable column items binds
  | _ =>
      simp only [inValues, FailsWith.map_iff]
      exact filterValue_reportable _ column binds

/-- A restriction that can be reported if it is rejected. -/
def RelationFits
    (hexDecode : HexDecode)
    (table : TableDef)
    (binds : Binds)
    (relation : RelationElement) :
    Prop :=
  ∀ identifier,
    relation.obj = .column identifier →
    match table.resolve identifier, relation.oper with
    | none, _ =>
        Quotable 22 [normId identifier]
    | some column, .equal =>
        FilterOperandFits hexDecode relation.value column.colType
    | some column, .isIn =>
        InValuesFit hexDecode relation.value column binds
    | _, _ =>
        True

/-- A restriction fails with a reportable error just if it fits. -/
theorem parseFilter_reportable
    (table : TableDef)
    (relation : RelationElement)
    (binds : Binds) :
    FailsWith QueryFault.Reportable (parseFilter hexDecode table relation binds) ↔
      RelationFits hexDecode table binds relation := by
  have unsupported :
      FailsWith QueryFault.Reportable
        (.error (invalidErr
          "Only '=' and 'IN' restrictions are supported in WHERE") :
          QueryOutcome (Filter × Binds)) :=
    .error (by decide)
  obtain ⟨object, operator, operand⟩ := relation
  unfold RelationFits
  cases object with
  | column identifier =>
      simp only [Operand.column.injEq, forall_eq']
      cases resolved : table.resolve identifier with
      | none =>
          simp only [parseFilter, resolved]
          exact failsWith_quoting (quoting_last (by decide))
      | some column =>
          simp only [parseFilter, resolved]
          cases operator with
          | equal =>
              cases operand with
              | null =>
                  refine iff_of_true (.ok _) ?_
                  intro text isConst
                  cases isConst
              | _ =>
                  simp only [FailsWith.map_iff]
                  exact filterValue_reportable _ column binds
          | isIn =>
              simp only [FailsWith.map_iff]
              exact inValues_reportable operand column binds
          | _ =>
              exact iff_of_true unsupported trivial
  | _ =>
      exact iff_of_true (.error (by decide)) (by simp)

/-- The restrictions of a WHERE clause fit in turn. -/
def RelationsFit
    (hexDecode : HexDecode)
    (table : TableDef)
    (relations : List RelationElement)
    (binds : Binds) :
    Prop :=
  InTurn
    (fun binds relation later =>
      ∃ filter, parseFilter hexDecode table relation binds = .ok (filter, later))
    (RelationFits hexDecode table) relations binds

/-- A WHERE clause fails with a reportable error just if its restrictions fit. -/
theorem parseFilters_reportable
    (table : TableDef)
    (relations : List RelationElement)
    (binds : Binds) :
    FailsWith QueryFault.Reportable (parseFilters hexDecode table relations binds) ↔
      RelationsFit hexDecode table relations binds := by
  induction relations generalizing binds with
  | nil =>
      exact iff_of_true (.ok _) trivial
  | cons relation rest inductionHypothesis =>
      rw [parseFilters, RelationsFit, InTurn]
      refine FailsWith.bind_iff.trans
        (and_congr (parseFilter_reportable table relation binds) ?_)
      constructor
      · rintro each later ⟨filter, accepted⟩
        exact (inductionHypothesis later).mp
          (FailsWith.bind_iff.mp (each (filter, later) accepted)).1
      · rintro each ⟨filter, later⟩ accepted
        exact ((inductionHypothesis later).mpr
          (each later ⟨filter, accepted⟩)).bind fun filters _ => .ok _

end Operands

end RhydaDB
