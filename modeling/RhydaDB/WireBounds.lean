import RhydaDB.OperandTyping

namespace RhydaDB

open ByteStrings Fallible

/-!
# Decoding stays inside its bytes

The decoder once more, with every index and slice of the source checked: an
access outside the bytes panics.  All but one kind of access are guarded by the
length checks in front of them.  The exception is the first byte of a tinyint
or boolean payload, which is read without looking whether there is one.
-/

/-! ## The decoder with checked accesses -/

/-- `raw[off..off + len]`, which panics outside the bytes. -/
def sliceAt (raw : Bytes) (off len : Nat) : Outcome Bytes :=
  if off + len ≤ raw.length then
    .ok (slice raw off len)
  else
    .error .panic

/-- `raw[off]`, which panics outside the bytes. -/
def byteAt (raw : Bytes) (off : Nat) : Outcome UInt8 :=
  match raw[off]? with
  | some byte =>
      .ok byte
  | none =>
      .error .panic

/-- The four bytes from `off` on as a signed number. -/
def readI32At (raw : Bytes) (off : Nat) : Outcome Int := do
  let b0 ← byteAt raw off
  let b1 ← byteAt raw (off + 1)
  let b2 ← byteAt raw (off + 2)
  let b3 ← byteAt raw (off + 3)
  return ofBeSigned [b0, b1, b2, b3]

/-- `decodeItem` with checked accesses. -/
def decodeItemAt
    (kind : String)
    (decode : Bytes → Outcome Value)
    (raw : Bytes)
    (off : Nat) :
    Outcome (Value × Nat) :=
  if raw.length < off + 4 then
    fail s!"{kind} value truncated"
  else do
    let len ← readI32At raw off
    if len < 0 ∨ raw.length < off + 4 + len.toNat then
      fail s!"{kind} value truncated"
    else do
      let value ← decode (← sliceAt raw off (4 + len.toNat))
      return (value, off + 4 + len.toNat)

/-- `decodeElements` with checked accesses. -/
def decodeElementsAt
    (kind : String)
    (decode : Bytes → Outcome Value)
    (raw : Bytes) :
    Nat → Nat → Outcome (List Value)
  | 0, _ =>
      .ok []
  | count + 1, off => do
      let (value, next) ← decodeItemAt kind decode raw off
      let rest ← decodeElementsAt kind decode raw count next
      return value :: rest

/-- `decodeEntries` with checked accesses. -/
def decodeEntriesAt
    (decodeKey decodeValue : Bytes → Outcome Value)
    (raw : Bytes) :
    Nat → Nat → Outcome (List (Value × Value))
  | 0, _ =>
      .ok []
  | count + 1, off => do
      let (key, afterKey) ← decodeItemAt "map" decodeKey raw off
      let (value, next) ← decodeItemAt "map" decodeValue raw afterKey
      let rest ← decodeEntriesAt decodeKey decodeValue raw count next
      return (key, value) :: rest

/-- `collectionCount` with checked accesses. -/
def collectionCountAt (kind counted : String) (raw : Bytes) : Outcome Nat :=
  if raw.length < 4 then
    fail s!"{kind} value too short"
  else do
    let count ← readI32At raw 0
    if count < 0 then
      fail s!"negative {kind} {counted} count"
    else
      return count.toNat

/-- `withLengthPrefix` with checked accesses. -/
def withLengthPrefixAt
    (decode : Bytes → Outcome Value)
    (data : Bytes) :
    Outcome Value :=
  if data.length < 4 then
    fail "value is shorter than its length prefix"
  else do
    let len ← readI32At data 0
    if len < 0 then
      return .null
    else if data.length ≠ 4 + len.toNat then
      fail "value length prefix does not match payload"
    else
      decode (← sliceAt data 4 (data.length - 4))

namespace Value

/-- `fromPayload` with checked accesses. -/
def fromPayloadAt : ColumnType → Bytes → Outcome Value
  | .int, raw => do
      return .int (UInt32.ofNat (ofBe (← tryIntoArray 4 raw).toList)).toInt32
  | .bigInt, raw => do
      return .bigInt (UInt64.ofNat (ofBe (← tryIntoArray 8 raw).toList)).toInt64
  | .smallInt, raw => do
      return .smallInt (UInt16.ofNat (ofBe (← tryIntoArray 2 raw).toList)).toInt16
  | .tinyInt, raw => do
      return .tinyInt (← byteAt raw 0).toInt8
  | .float, raw => do
      return .float (UInt32.ofNat (ofBe (← tryIntoArray 4 raw).toList))
  | .double, raw => do
      return .double (UInt64.ofNat (ofBe (← tryIntoArray 8 raw).toList))
  | .boolean, raw => do
      return .boolean (decide ((← byteAt raw 0) ≠ 0))
  | .text, raw =>
      match fromUtf8? raw with
      | some decoded =>
          .ok (.text decoded)
      | none =>
          fail (utf8ErrorText raw)
  | .blob, raw =>
      .ok (.blob raw)
  | .timestamp, raw => do
      return .timestamp (UInt64.ofNat (ofBe (← tryIntoArray 8 raw).toList)).toInt64
  | .uuid, raw => do
      return .uuid (← tryIntoArray 16 raw)
  | .inet, raw =>
      if raw.length = 4 then do
        let b0 ← byteAt raw 0
        let b1 ← byteAt raw 1
        let b2 ← byteAt raw 2
        let b3 ← byteAt raw 3
        return .inet (.v4 ⟨[b0, b1, b2, b3], rfl⟩)
      else if sixteen : raw.length = 16 then
        .ok (.inet (.v6 ⟨raw, sixteen⟩))
      else
        fail s!"invalid inet address length {raw.length}"
  | .set element, raw => do
      let count ← collectionCountAt "set" "element" raw
      return .set
        (← decodeElementsAt "set" (withLengthPrefixAt (fromPayloadAt element))
          raw count 4)
  | .list element, raw => do
      let count ← collectionCountAt "list" "element" raw
      return .list
        (← decodeElementsAt "list" (withLengthPrefixAt (fromPayloadAt element))
          raw count 4)
  | .map key value, raw => do
      let count ← collectionCountAt "map" "entry" raw
      return .map
        (← decodeEntriesAt (withLengthPrefixAt (fromPayloadAt key))
          (withLengthPrefixAt (fromPayloadAt value)) raw count 4)

/-- `fromWire` with checked accesses. -/
def fromWireAt (data : Bytes) (columnType : ColumnType) : Outcome Value :=
  withLengthPrefixAt (fromPayloadAt columnType) data

/-- `fromRawBytes` with checked accesses. -/
def fromRawBytesAt (raw : Bytes) (columnType : ColumnType) : Outcome Value :=
  fromWireAt (i32Be raw.length ++ raw) columnType

end Value

/-! ## The checks never fail behind their guards -/

/-- A slice inside the bytes. -/
theorem sliceAt_eq
    {raw : Bytes}
    {off len : Nat}
    (inside : off + len ≤ raw.length) :
    sliceAt raw off len = .ok (slice raw off len) :=
  if_pos inside

/-- A byte inside the bytes. -/
theorem byteAt_eq
    {raw : Bytes}
    {off : Nat}
    (inside : off < raw.length) :
    byteAt raw off = .ok raw[off] := by
  simp [byteAt, inside]

/-- Four bytes inside the bytes. -/
theorem readI32At_eq
    {raw : Bytes}
    {off : Nat}
    (inside : off + 4 ≤ raw.length) :
    readI32At raw off = .ok (readI32 raw off) := by
  have bytes :
      slice raw off 4 =
        [raw[off], raw[off + 1], raw[off + 2], raw[off + 3]] := by
    unfold slice
    rw [List.drop_eq_getElem_cons (by omega),
      List.drop_eq_getElem_cons (by omega),
      List.drop_eq_getElem_cons (by omega),
      List.drop_eq_getElem_cons (by omega)]
    rfl
  rw [readI32, bytes, readI32At, byteAt_eq (by omega), byteAt_eq (by omega),
    byteAt_eq (by omega), byteAt_eq (by omega)]
  rfl

/-- The first byte, checked either way. -/
theorem byteAt_zero (raw : Bytes) : byteAt raw 0 = firstByte raw := by
  cases raw <;> rfl

theorem decodeItemAt_eq
    (kind : String)
    (decode : Bytes → Outcome Value)
    (raw : Bytes)
    (off : Nat) :
    decodeItemAt kind decode raw off = decodeItem kind decode raw off := by
  unfold decodeItemAt decodeItem
  split
  · rfl
  · rename_i long
    rw [readI32At_eq (by omega)]
    simp only [Bind.bind, Except.bind]
    split
    · rfl
    · rename_i enough
      rw [sliceAt_eq (by omega)]

theorem decodeElementsAt_eq
    (kind : String)
    (decode : Bytes → Outcome Value)
    (raw : Bytes)
    (count off : Nat) :
    decodeElementsAt kind decode raw count off =
      decodeElements kind decode raw count off := by
  induction count generalizing off with
  | zero =>
      rfl
  | succ count inductionHypothesis =>
      simp only [decodeElementsAt, decodeElements, decodeItemAt_eq,
        inductionHypothesis]

theorem decodeEntriesAt_eq
    (decodeKey decodeValue : Bytes → Outcome Value)
    (raw : Bytes)
    (count off : Nat) :
    decodeEntriesAt decodeKey decodeValue raw count off =
      decodeEntries decodeKey decodeValue raw count off := by
  induction count generalizing off with
  | zero =>
      rfl
  | succ count inductionHypothesis =>
      simp only [decodeEntriesAt, decodeEntries, decodeItemAt_eq,
        inductionHypothesis]

theorem collectionCountAt_eq
    (kind counted : String)
    (raw : Bytes) :
    collectionCountAt kind counted raw = collectionCount kind counted raw := by
  unfold collectionCountAt collectionCount
  split
  · rfl
  · rw [readI32At_eq (by omega)]
    rfl

theorem withLengthPrefixAt_eq
    (decode : Bytes → Outcome Value)
    (data : Bytes) :
    withLengthPrefixAt decode data = withLengthPrefix decode data := by
  unfold withLengthPrefixAt withLengthPrefix
  split
  · rfl
  · have whole : slice data 4 (data.length - 4) = data.drop 4 := by
      simp [slice]
    rw [readI32At_eq (by omega), sliceAt_eq (by omega), whole]
    rfl

namespace Value

theorem fromPayloadAt_eq (columnType : ColumnType) :
    fromPayloadAt columnType = fromPayload columnType := by
  induction columnType with
  | tinyInt =>
      funext raw
      simp only [fromPayloadAt, fromPayload, byteAt_zero]
  | boolean =>
      funext raw
      simp only [fromPayloadAt, fromPayload, byteAt_zero]
  | inet =>
      funext raw
      unfold fromPayloadAt fromPayload
      split
      · rename_i four
        obtain ⟨b0, b1, b2, b3, rfl⟩ := List.length_eq_four.mp four
        rfl
      · rfl
  | set element inductionHypothesis =>
      funext raw
      have items :
          withLengthPrefixAt (fromPayloadAt element) =
            withLengthPrefix (fromPayload element) := by
        funext data
        rw [withLengthPrefixAt_eq, inductionHypothesis]
      simp only [fromPayloadAt, fromPayload, items, collectionCountAt_eq,
        decodeElementsAt_eq]
  | list element inductionHypothesis =>
      funext raw
      have items :
          withLengthPrefixAt (fromPayloadAt element) =
            withLengthPrefix (fromPayload element) := by
        funext data
        rw [withLengthPrefixAt_eq, inductionHypothesis]
      simp only [fromPayloadAt, fromPayload, items, collectionCountAt_eq,
        decodeElementsAt_eq]
  | map key value keyHypothesis valueHypothesis =>
      funext raw
      have keys :
          withLengthPrefixAt (fromPayloadAt key) =
            withLengthPrefix (fromPayload key) := by
        funext data
        rw [withLengthPrefixAt_eq, keyHypothesis]
      have values :
          withLengthPrefixAt (fromPayloadAt value) =
            withLengthPrefix (fromPayload value) := by
        funext data
        rw [withLengthPrefixAt_eq, valueHypothesis]
      simp only [fromPayloadAt, fromPayload, keys, values,
        collectionCountAt_eq, decodeEntriesAt_eq]
  | _ =>
      rfl

/-- The decoder with checked accesses is the decoder. -/
theorem fromWireAt_eq (data : Bytes) (columnType : ColumnType) :
    fromWireAt data columnType = fromWire data columnType := by
  rw [fromWireAt, fromWire, withLengthPrefixAt_eq, fromPayloadAt_eq]

end Value

/-! ## The format of payloads -/

/--
The payloads of length-prefixed items from `off` on: at most `count` of them,
up to the first one that is truncated.
-/
def itemPayloads (raw : Bytes) : Nat → Nat → List Bytes
  | 0, _ =>
      []
  | count + 1, off =>
      if raw.length < off + 4 ∨
          readI32 raw off < 0 ∨
          raw.length < off + 4 + (readI32 raw off).toNat then
        []
      else
        slice raw (off + 4) (readI32 raw off).toNat ::
          itemPayloads raw count (off + 4 + (readI32 raw off).toNat)

/-- Two properties hold of the items in turn. -/
def Alternate (first second : Bytes → Prop) : List Bytes → Prop
  | [] =>
      True
  | payload :: rest =>
      first payload ∧ Alternate second first rest

/-- Some item is of a marked kind, and all items before it are fine. -/
def Reaches
    (first second firstMarked secondMarked : Bytes → Prop) :
    List Bytes → Prop
  | [] =>
      False
  | payload :: rest =>
      firstMarked payload ∨
        first payload ∧ Reaches second first secondMarked firstMarked rest

/-- A collection payload opens with its number of items. -/
def Announces (raw : Bytes) (count : Nat) : Prop :=
  4 ≤ raw.length ∧ readI32 raw 0 = count

/-- The payloads of a type. -/
def Readable : ColumnType → Bytes → Prop
  | .int, raw =>
      raw.length = 4
  | .bigInt, raw =>
      raw.length = 8
  | .smallInt, raw =>
      raw.length = 2
  | .tinyInt, raw =>
      raw ≠ []
  | .float, raw =>
      raw.length = 4
  | .double, raw =>
      raw.length = 8
  | .boolean, raw =>
      raw ≠ []
  | .text, raw =>
      (fromUtf8? raw).isSome = true
  | .blob, _ =>
      True
  | .timestamp, raw =>
      raw.length = 8
  | .uuid, raw =>
      raw.length = 16
  | .inet, raw =>
      raw.length = 4 ∨ raw.length = 16
  | .set element, raw =>
      ∃ count,
        Announces raw count ∧
          (itemPayloads raw count 4).length = count ∧
          Alternate (Readable element) (Readable element)
            (itemPayloads raw count 4)
  | .list element, raw =>
      ∃ count,
        Announces raw count ∧
          (itemPayloads raw count 4).length = count ∧
          Alternate (Readable element) (Readable element)
            (itemPayloads raw count 4)
  | .map key value, raw =>
      ∃ count,
        Announces raw count ∧
          (itemPayloads raw (2 * count) 4).length = 2 * count ∧
          Alternate (Readable key) (Readable value)
            (itemPayloads raw (2 * count) 4)

/--
Reading the payload item by item comes to an empty tinyint or boolean.
-/
def ReadsEmptyByte : ColumnType → Bytes → Prop
  | .tinyInt, raw =>
      raw = []
  | .boolean, raw =>
      raw = []
  | .set element, raw =>
      ∃ count,
        Announces raw count ∧
          Reaches (Readable element) (Readable element)
            (ReadsEmptyByte element) (ReadsEmptyByte element)
            (itemPayloads raw count 4)
  | .list element, raw =>
      ∃ count,
        Announces raw count ∧
          Reaches (Readable element) (Readable element)
            (ReadsEmptyByte element) (ReadsEmptyByte element)
            (itemPayloads raw count 4)
  | .map key value, raw =>
      ∃ count,
        Announces raw count ∧
          Reaches (Readable key) (Readable value) (ReadsEmptyByte key)
            (ReadsEmptyByte value) (itemPayloads raw (2 * count) 4)
  | _, _ =>
      False

/-! ## What the decoder does with a payload -/

/-- When an outcome is a success and when a panic; otherwise it is an error. -/
structure OutcomeIs
    {α : Type}
    (outcome : Outcome α)
    (succeeds panics : Prop) :
    Prop where
  ok : (∃ value, outcome = .ok value) ↔ succeeds
  panic : outcome = .error .panic ↔ panics
  returns : outcome ≠ .error .hang

namespace OutcomeIs

variable
  {α β : Type}
  {first : Outcome α}
  {succeeds panics : Prop}

/-- Conditions may be put in other words. -/
theorem congr
    {others otherPanics : Prop}
    (known : OutcomeIs first succeeds panics)
    (sameSuccess : succeeds ↔ others)
    (samePanic : panics ↔ otherPanics) :
    OutcomeIs first others otherPanics :=
  ⟨known.ok.trans sameSuccess, known.panic.trans samePanic, known.returns⟩

/-- A success. -/
theorem pure (value : α) : OutcomeIs (.ok value) True False :=
  ⟨by simp, by simp, by simp⟩

/-- An error. -/
theorem failed (message : String) :
    OutcomeIs (fail message : Outcome α) False False :=
  ⟨by simp [fail], by simp [fail], by simp [fail]⟩

/-- A continued computation goes on where the first part succeeds. -/
theorem bind
    {next : α → Outcome β}
    {laterSucceeds laterPanics : Prop}
    (known : OutcomeIs first succeeds panics)
    (later :
      ∀ value,
        first = .ok value →
        OutcomeIs (next value) laterSucceeds laterPanics) :
    OutcomeIs (first >>= next) (succeeds ∧ laterSucceeds)
      (panics ∨ succeeds ∧ laterPanics) := by
  cases found : first with
  | ok value =>
      have here := later value found
      have isSuccess : succeeds := known.ok.mp ⟨value, found⟩
      have noPanic : ¬ panics := by
        intro isPanic
        rw [known.panic.mpr isPanic] at found
        cases found
      refine ⟨?_, ?_, here.returns⟩
      · simpa [isSuccess, Bind.bind, Except.bind] using here.ok
      · simpa [isSuccess, noPanic, Bind.bind, Except.bind] using here.panic
  | error fault =>
      have noSuccess : ¬ succeeds := by
        intro isSuccess
        obtain ⟨value, same⟩ := known.ok.mpr isSuccess
        rw [found] at same
        cases same
      have panicIff := known.panic
      have returns := known.returns
      rw [found] at panicIff returns
      refine ⟨?_, ?_, ?_⟩
      · simp [noSuccess, Bind.bind, Except.bind]
      · simpa [noSuccess, Bind.bind, Except.bind] using panicIff
      · simpa [Bind.bind, Except.bind] using returns

/-- Returning something made of the result changes nothing. -/
theorem thenReturn
    (known : OutcomeIs first succeeds panics)
    (change : α → β) :
    OutcomeIs (first >>= fun value => Pure.pure (change value)) succeeds
      panics :=
  (known.bind fun value _ => .pure (change value)).congr (by simp) (by simp)

end OutcomeIs

/-- A truncated item is an error. -/
theorem decodeItem_truncated
    {kind : String}
    {decode : Bytes → Outcome Value}
    {raw : Bytes}
    {off : Nat}
    (truncated :
      raw.length < off + 4 ∨
        readI32 raw off < 0 ∨
        raw.length < off + 4 + (readI32 raw off).toNat) :
    decodeItem kind decode raw off = fail s!"{kind} value truncated" := by
  unfold decodeItem
  split
  · rfl
  · rename_i long
    exact if_pos (truncated.resolve_left long)

/-- An item that is all there is decoded from its payload. -/
theorem decodeItem_payload
    {kind : String}
    {decode : Bytes → Outcome Value}
    {raw : Bytes}
    {off : Nat}
    (whole :
      ¬ (raw.length < off + 4 ∨
        readI32 raw off < 0 ∨
        raw.length < off + 4 + (readI32 raw off).toNat)) :
    decodeItem kind (withLengthPrefix decode) raw off =
      (do
        let value ← decode (slice raw (off + 4) (readI32 raw off).toNat)
        return (value, off + 4 + (readI32 raw off).toNat)) := by
  push Not at whole
  obtain ⟨long, nonnegative, inside⟩ := whole
  have size :
      (slice raw off (4 + (readI32 raw off).toNat)).length =
        4 + (readI32 raw off).toNat := by
    simp only [slice, List.length_take, List.length_drop]
    omega
  have payload :
      (slice raw off (4 + (readI32 raw off).toNat)).drop 4 =
        slice raw (off + 4) (readI32 raw off).toNat := by
    simp only [slice, List.drop_take, List.drop_drop]
    congr 1
    omega
  rw [decodeItem, if_neg (by omega), if_neg (by omega), withLengthPrefix,
    if_neg (by omega), readI32_slice, if_neg (by omega), if_neg (by omega),
    payload]

/-- The element loop reads item by item. -/
theorem decodeElements_outcomeIs
    {kind : String}
    {decode : Bytes → Outcome Value}
    {readable empty : Bytes → Prop}
    (decodes : ∀ raw, OutcomeIs (decode raw) (readable raw) (empty raw))
    (raw : Bytes)
    (count off : Nat) :
    OutcomeIs (decodeElements kind (withLengthPrefix decode) raw count off)
      ((itemPayloads raw count off).length = count ∧
        Alternate readable readable (itemPayloads raw count off))
      (Reaches readable readable empty empty
        (itemPayloads raw count off)) := by
  induction count generalizing off with
  | zero =>
      exact (OutcomeIs.pure _).congr (by simp [itemPayloads, Alternate])
        (by simp [itemPayloads, Reaches])
  | succ count inductionHypothesis =>
      rw [decodeElements, itemPayloads]
      split
      · rename_i truncated
        rw [decodeItem_truncated truncated]
        exact (OutcomeIs.failed _).congr (by simp) (by simp [Reaches])
      · rename_i whole
        have later :
            ∀ value,
              OutcomeIs
                (do
                  let rest ←
                    decodeElements kind (withLengthPrefix decode) raw count
                      (off + 4 + (readI32 raw off).toNat)
                  return value :: rest)
                _ _ :=
          fun value =>
            (inductionHypothesis _).thenReturn _
        rw [decodeItem_payload whole, bind_assoc]
        refine ((decodes _).bind fun value _ => later value).congr ?_ .rfl
        simp only [List.length_cons, Nat.add_right_cancel_iff, Alternate]
        tauto

/-- The entry loop reads keys and values in turn. -/
theorem decodeEntries_outcomeIs
    {decodeKey decodeValue : Bytes → Outcome Value}
    {readableKey emptyKey readableValue emptyValue : Bytes → Prop}
    (decodesKey :
      ∀ raw, OutcomeIs (decodeKey raw) (readableKey raw) (emptyKey raw))
    (decodesValue :
      ∀ raw, OutcomeIs (decodeValue raw) (readableValue raw) (emptyValue raw))
    (raw : Bytes)
    (count off : Nat) :
    OutcomeIs
      (decodeEntries (withLengthPrefix decodeKey)
        (withLengthPrefix decodeValue) raw count off)
      ((itemPayloads raw (2 * count) off).length = 2 * count ∧
        Alternate readableKey readableValue
          (itemPayloads raw (2 * count) off))
      (Reaches readableKey readableValue emptyKey emptyValue
        (itemPayloads raw (2 * count) off)) := by
  induction count generalizing off with
  | zero =>
      exact (OutcomeIs.pure _).congr (by simp [itemPayloads, Alternate])
        (by simp [itemPayloads, Reaches])
  | succ count inductionHypothesis =>
      rw [decodeEntries, show 2 * (count + 1) = 2 * count + 1 + 1 by ring,
        itemPayloads]
      split
      · rename_i truncated
        rw [decodeItem_truncated truncated]
        exact (OutcomeIs.failed _).congr (by simp) (by simp [Reaches])
      · rename_i whole
        generalize afterKey :
          off + 4 + (readI32 raw off).toNat = next
        have values :
            ∀ key,
              OutcomeIs
                (do
                  let (value, last) ←
                    decodeItem "map" (withLengthPrefix decodeValue) raw next
                  let rest ←
                    decodeEntries (withLengthPrefix decodeKey)
                      (withLengthPrefix decodeValue) raw count last
                  return (key, value) :: rest)
                ((itemPayloads raw (2 * count + 1) next).length =
                    2 * count + 1 ∧
                  Alternate readableValue readableKey
                    (itemPayloads raw (2 * count + 1) next))
                (Reaches readableValue readableKey emptyValue emptyKey
                  (itemPayloads raw (2 * count + 1) next)) := by
          intro key
          rw [itemPayloads]
          split
          · rename_i truncated
            rw [decodeItem_truncated truncated]
            exact (OutcomeIs.failed _).congr (by simp) (by simp [Reaches])
          · rename_i whole
            have later :
                ∀ value,
                  OutcomeIs
                    (do
                      let rest ←
                        decodeEntries (withLengthPrefix decodeKey)
                          (withLengthPrefix decodeValue) raw count
                          (next + 4 + (readI32 raw next).toNat)
                      return (key, value) :: rest)
                    _ _ :=
              fun value =>
                (inductionHypothesis _).thenReturn _
            rw [decodeItem_payload whole, bind_assoc]
            refine ((decodesValue _).bind fun value _ => later value).congr
              ?_ .rfl
            simp only [List.length_cons, Nat.add_right_cancel_iff, Alternate]
            tauto
        rw [decodeItem_payload whole, afterKey, bind_assoc]
        refine ((decodesKey _).bind fun key _ => values key).congr ?_ .rfl
        simp only [List.length_cons, Nat.add_right_cancel_iff, Alternate]
        tauto

/-- The announced number of items. -/
theorem collectionCount_outcomeIs
    (kind counted : String)
    (raw : Bytes) :
    OutcomeIs (collectionCount kind counted raw)
      (∃ count, Announces raw count) False := by
  unfold collectionCount
  split
  · rename_i short
    refine (OutcomeIs.failed _).congr ?_ .rfl
    simp only [Announces, false_iff, not_exists, not_and]
    omega
  · split
    · rename_i long negative
      refine (OutcomeIs.failed _).congr ?_ .rfl
      simp only [Announces, false_iff, not_exists, not_and]
      omega
    · rename_i long nonnegative
      refine (OutcomeIs.pure _).congr ?_ .rfl
      exact iff_of_true trivial
        ⟨(readI32 raw 0).toNat, by omega, by omega⟩

/-- The count that is read is the one announced. -/
theorem announces_of_collectionCount
    {kind counted : String}
    {raw : Bytes}
    {count : Nat}
    (read : collectionCount kind counted raw = .ok count) :
    Announces raw count := by
  unfold collectionCount at read
  split at read
  · cases read
  · split at read
    · cases read
    · cases read
      exact ⟨by omega, by omega⟩

/-- There is one announced count at most. -/
theorem Announces.unique
    {raw : Bytes}
    {count other : Nat}
    (first : Announces raw count)
    (second : Announces raw other) :
    count = other := by
  have same := first.2.symm.trans second.2
  omega

/-- A collection is read item by item after its count. -/
theorem OutcomeIs.collection
    {kind counted : String}
    {raw : Bytes}
    {α : Type}
    {items : Nat → Outcome α}
    {succeeds panics : Nat → Prop}
    (reads : ∀ count, OutcomeIs (items count) (succeeds count) (panics count))
    (make : α → Value) :
    OutcomeIs
      (do
        let count ← collectionCount kind counted raw
        return make (← items count))
      (∃ count, Announces raw count ∧ succeeds count)
      (∃ count, Announces raw count ∧ panics count) := by
  have header := collectionCount_outcomeIs kind counted raw
  have drop :
      ∀ property : Nat → Prop,
        (∃ count, Announces raw count) ∧
            (∃ count, Announces raw count ∧ property count) ↔
          ∃ count, Announces raw count ∧ property count := by
    intro property
    refine and_iff_right_of_imp ?_
    rintro ⟨count, announced, _⟩
    exact ⟨count, announced⟩
  refine (header.bind fun count read => ?_).congr (drop succeeds)
    ((iff_of_eq (false_or _)).trans (drop panics))
  have announced := announces_of_collectionCount read
  have unique :
      ∀ property : Nat → Prop,
        property count ↔ ∃ other, Announces raw other ∧ property other := by
    intro property
    constructor
    · exact fun holds => ⟨count, announced, holds⟩
    · rintro ⟨other, alsoAnnounced, holds⟩
      rwa [announced.unique alsoAnnounced]
  exact ((reads count).thenReturn make).congr (unique _) (unique _)

/-- What an array conversion does. -/
theorem tryIntoArray_outcomeIs (size : Nat) (raw : Bytes) :
    OutcomeIs (tryIntoArray size raw) (raw.length = size) False := by
  unfold tryIntoArray
  split
  · rename_i exact_
    exact (OutcomeIs.pure _).congr (by simp [exact_]) .rfl
  · rename_i different
    exact (OutcomeIs.failed _).congr (by simp [different]) .rfl

/-- Reading the first byte panics when there is none. -/
theorem firstByte_outcomeIs (raw : Bytes) :
    OutcomeIs (firstByte raw) (raw ≠ []) (raw = []) := by
  cases raw with
  | nil =>
      exact ⟨by simp [firstByte], by simp [firstByte], by simp [firstByte]⟩
  | cons byte rest =>
      exact (OutcomeIs.pure _).congr (by simp) (by simp)

/-- Decoding succeeds on readable payloads and panics on empty bytes only. -/
theorem Value.fromPayload_outcomeIs (columnType : ColumnType) (raw : Bytes) :
    OutcomeIs (fromPayload columnType raw) (Readable columnType raw)
      (ReadsEmptyByte columnType raw) := by
  induction columnType generalizing raw with
  | int =>
      exact (tryIntoArray_outcomeIs 4 raw).thenReturn _
  | bigInt =>
      exact (tryIntoArray_outcomeIs 8 raw).thenReturn _
  | smallInt =>
      exact (tryIntoArray_outcomeIs 2 raw).thenReturn _
  | tinyInt =>
      exact (firstByte_outcomeIs raw).thenReturn _
  | float =>
      exact (tryIntoArray_outcomeIs 4 raw).thenReturn _
  | double =>
      exact (tryIntoArray_outcomeIs 8 raw).thenReturn _
  | boolean =>
      exact (firstByte_outcomeIs raw).thenReturn _
  | text =>
      unfold fromPayload
      split
      · rename_i decoded found
        exact (OutcomeIs.pure _).congr (by simp [Readable, found]) .rfl
      · rename_i invalid
        exact (OutcomeIs.failed _).congr (by simp [Readable, invalid]) .rfl
  | blob =>
      exact .pure _
  | timestamp =>
      exact (tryIntoArray_outcomeIs 8 raw).thenReturn _
  | uuid =>
      exact (tryIntoArray_outcomeIs 16 raw).thenReturn _
  | inet =>
      unfold fromPayload
      split
      · rename_i four
        exact (OutcomeIs.pure _).congr (by simp [Readable, four]) .rfl
      · split
        · rename_i sixteen
          exact (OutcomeIs.pure _).congr (by simp [Readable, sixteen]) .rfl
        · rename_i notFour notSixteen
          exact (OutcomeIs.failed _).congr
            (by simp [Readable, notFour, notSixteen]) .rfl
  | set element inductionHypothesis =>
      exact OutcomeIs.collection
        (fun count => decodeElements_outcomeIs inductionHypothesis raw count 4) _
  | list element inductionHypothesis =>
      exact OutcomeIs.collection
        (fun count => decodeElements_outcomeIs inductionHypothesis raw count 4) _
  | map key value keyHypothesis valueHypothesis =>
      exact OutcomeIs.collection
        (fun count =>
          decodeEntries_outcomeIs keyHypothesis valueHypothesis raw count 4) _

/-! ## Decoding client bytes -/

/-- A value in wire form: a length of zero or more and as many bytes. -/
def Prefixed (data : Bytes) : Prop :=
  4 ≤ data.length ∧
    0 ≤ readI32 data 0 ∧
    data.length = 4 + (readI32 data 0).toNat

/-- When decoding a length-prefixed value panics. -/
theorem Value.fromWire_panics_iff (data : Bytes) (columnType : ColumnType) :
    fromWire data columnType = .error .panic ↔
      Prefixed data ∧ ReadsEmptyByte columnType (data.drop 4) := by
  unfold fromWire withLengthPrefix Prefixed
  split
  · simp only [fail]
    constructor
    · intro same
      cases same
    · omega
  · split
    · constructor
      · intro same
        cases same
      · omega
    · split
      · simp only [fail]
        constructor
        · intro same
          cases same
        · omega
      · rename_i long nonnegative exact_
        rw [(fromPayload_outcomeIs columnType _).panic]
        exact (and_iff_right ⟨by omega, by omega, by omega⟩).symm

/-- Decoding a length-prefixed value always ends. -/
theorem Value.fromWire_returns (data : Bytes) (columnType : ColumnType) :
    fromWire data columnType ≠ .error .hang := by
  unfold fromWire withLengthPrefix
  split
  · simp [fail]
  · split
    · simp
    · split
      · simp [fail]
      · exact (fromPayload_outcomeIs columnType _).returns

/-- A four-byte number is less than `2 ^ 31`. -/
theorem readI32_lt (raw : Bytes) (off : Nat) : readI32 raw off < 2 ^ 31 := by
  have atMost : (slice raw off 4).length ≤ 4 :=
    List.length_take_le _ _
  have power : 256 ^ (slice raw off 4).length ≤ 256 ^ 4 :=
    Nat.pow_le_pow_right (by omega) atMost
  have bound := ofBe_lt (slice raw off 4)
  unfold readI32 ofBeSigned
  split
  · omega
  · have cast :
        (256 : Int) ^ (slice raw off 4).length =
          ((256 ^ (slice raw off 4).length : Nat) : Int) := by
      push_cast
      rfl
    rw [cast]
    omega

/-- A payload whose length fits its prefix is in wire form behind it. -/
theorem prefixed_i32Be_iff (raw : Bytes) :
    Prefixed (i32Be raw.length ++ raw) ↔ raw.length < 2 ^ 31 := by
  constructor
  · rintro ⟨_, nonnegative, same⟩
    have short := readI32_lt (i32Be raw.length ++ raw) 0
    rw [List.length_append, length_i32Be] at same
    omega
  · intro fits
    have header : readI32 (i32Be raw.length ++ raw) 0 = raw.length := by
      simpa using readI32_i32Be [] raw fits
    refine ⟨by simp, by omega, ?_⟩
    rw [header]
    simp

/-- The computation ends with a value or an error. -/
def ReturnsOrFails
    {Failure α : Type}
    (isError : Failure → Prop)
    (outcome : Except Failure α) :
    Prop :=
  (∃ value, outcome = .ok value) ∨
    ∃ failure, outcome = .error failure ∧ isError failure

/-- An error that carries a message. -/
def Fault.IsError (fault : Fault) : Prop :=
  ∃ message, fault = .error message

/-- An error that is reported to the client. -/
def QueryFault.IsError (fault : QueryFault) : Prop :=
  ∃ code message, fault = .error code message

/-- What neither panics nor hangs returns. -/
theorem returns_iff_ne_panic
    {α : Type}
    {outcome : Outcome α}
    (ends : outcome ≠ .error .hang) :
    ReturnsOrFails Fault.IsError outcome ↔ outcome ≠ .error .panic := by
  cases outcome with
  | ok value =>
      simp [ReturnsOrFails]
  | error fault =>
      cases fault <;> simp_all [ReturnsOrFails, Fault.IsError]

/-- The bind value to take next, if one is left and it is not null. -/
def Binds.nextBytes (binds : Binds) : Option Bytes :=
  binds.values[binds.next]?.join

/-- Taking a bind value returns unless its bytes read an empty byte. -/
theorem Binds.take_returns_iff (binds : Binds) (column : ColumnDef) :
    ReturnsOrFails QueryFault.IsError (binds.take column) ↔
      ∀ raw,
        binds.nextBytes = some raw →
        ¬ (raw.length < 2 ^ 31 ∧ ReadsEmptyByte column.colType raw) := by
  unfold Binds.take Binds.nextBytes
  cases binds.values[binds.next]? with
  | none =>
      simp [ReturnsOrFails, QueryFault.IsError, invalidErr]
  | some bound =>
      cases bound with
      | none =>
          simp [ReturnsOrFails]
      | some raw =>
          have panics :=
            Value.fromWire_panics_iff (i32Be raw.length ++ raw) column.colType
          have returns :=
            Value.fromWire_returns (i32Be raw.length ++ raw) column.colType
          rw [prefixed_i32Be_iff, List.drop_left' (length_i32Be raw.length)]
            at panics
          simp only [Option.join_some, Option.some.injEq, forall_eq', ← panics]
          rw [Value.fromRawBytes]
          generalize Value.fromWire (i32Be raw.length ++ raw)
            column.colType = outcome at returns
          cases outcome with
          | ok value =>
              simp [ReturnsOrFails, Except.mapError, Except.map]
          | error fault =>
              cases fault with
              | error message =>
                  simp [ReturnsOrFails, QueryFault.IsError, Except.mapError,
                    Except.map, QueryFault.ofFault, invalidErr]
              | panic =>
                  simp [ReturnsOrFails, QueryFault.IsError, Except.mapError,
                    Except.map, QueryFault.ofFault]
              | hang =>
                  exact absurd rfl returns

/--
Decoding bytes of a client, at any type, ends with a value or an error unless it
comes to an empty payload for a tinyint or a boolean.
-/
theorem decoding_returns_iff
    (data raw : Bytes)
    (columnType : ColumnType)
    (binds : Binds)
    (column : ColumnDef) :
    (ReturnsOrFails Fault.IsError (Value.fromWireAt data columnType) ↔
        ¬ (Prefixed data ∧ ReadsEmptyByte columnType (data.drop 4))) ∧
      (ReturnsOrFails Fault.IsError (Value.fromRawBytesAt raw columnType) ↔
        ¬ (raw.length < 2 ^ 31 ∧ ReadsEmptyByte columnType raw)) ∧
      (ReturnsOrFails QueryFault.IsError (binds.take column) ↔
        ∀ payload,
          binds.nextBytes = some payload →
          ¬ (payload.length < 2 ^ 31 ∧ ReadsEmptyByte column.colType payload)) := by
  refine ⟨?_, ?_, Binds.take_returns_iff binds column⟩
  · rw [Value.fromWireAt_eq,
      returns_iff_ne_panic (Value.fromWire_returns data columnType), ne_eq,
      Value.fromWire_panics_iff]
  · rw [Value.fromRawBytesAt, Value.fromWireAt_eq,
      returns_iff_ne_panic (Value.fromWire_returns _ columnType), ne_eq,
      Value.fromWire_panics_iff, prefixed_i32Be_iff,
      List.drop_left' (length_i32Be raw.length)]

/-- An empty bind value for a boolean column panics. -/
theorem empty_boolean_panics :
    ¬ ReturnsOrFails Fault.IsError (Value.fromRawBytesAt [] .boolean) ∧
      ¬ ReturnsOrFails QueryFault.IsError
        (Binds.take ⟨[some []], 0, []⟩ ⟨"flag", .boolean, false, false⟩) := by
  have decoded : Value.fromRawBytesAt [] .boolean = .error .panic := by
    decide +kernel
  have raw : Value.fromRawBytes [] .boolean = .error .panic := by
    decide +kernel
  have taken :
      Binds.take ⟨[some []], 0, []⟩ ⟨"flag", .boolean, false, false⟩ =
        .error .panic := by
    simp [Binds.take, raw, Except.mapError, Except.map, QueryFault.ofFault]
  constructor
  · rw [decoded]
    simp [ReturnsOrFails, Fault.IsError]
  · rw [taken]
    simp [ReturnsOrFails, QueryFault.IsError]

end RhydaDB
