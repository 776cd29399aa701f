import RhydaDB.WireBounds

namespace RhydaDB

open ByteStrings Fallible

/-!
# Canonical payloads

A value has one payload, the one that is written for it.  The decoder accepts
more: it looks only at the first byte of a tinyint or a boolean, takes any
nonzero byte for true, and leaves alone what stands behind the last item of a
collection.
-/

/-! ## The payloads that are written -/

/-- Items one after the other, each behind its length. -/
def prefixedItems (payloads : List Bytes) : Bytes :=
  payloads.flatMap fun payload => i32Be payload.length ++ payload

/-- A payload that ends with the last of its items. -/
def EndsWithItems (raw : Bytes) (payloads : List Bytes) : Prop :=
  raw.length = 4 + (prefixedItems payloads).length

/-- The payloads of a type without surplus bytes, at any depth. -/
def Canonical : ColumnType → Bytes → Prop
  | .int, raw =>
      raw.length = 4
  | .bigInt, raw =>
      raw.length = 8
  | .smallInt, raw =>
      raw.length = 2
  | .tinyInt, raw =>
      raw.length = 1
  | .float, raw =>
      raw.length = 4
  | .double, raw =>
      raw.length = 8
  | .boolean, raw =>
      raw = [0] ∨ raw = [1]
  | .text, raw =>
      (fromUtf8? raw).isSome = true
  | .blob, _ =>
      True
  | .timestamp, raw =>
      raw.length = 8
  | .uuid, raw =>
      raw.length = 16
  | .inet, raw =>
      raw.length = 4 ∨ raw.length = 16
  | .set element, raw =>
      ∃ count,
        Announces raw count ∧
          (itemPayloads raw count 4).length = count ∧
          Alternate (Canonical element) (Canonical element)
            (itemPayloads raw count 4) ∧
          EndsWithItems raw (itemPayloads raw count 4)
  | .list element, raw =>
      ∃ count,
        Announces raw count ∧
          (itemPayloads raw count 4).length = count ∧
          Alternate (Canonical element) (Canonical element)
            (itemPayloads raw count 4) ∧
          EndsWithItems raw (itemPayloads raw count 4)
  | .map key value, raw =>
      ∃ count,
        Announces raw count ∧
          (itemPayloads raw (2 * count) 4).length = 2 * count ∧
          Alternate (Canonical key) (Canonical value)
            (itemPayloads raw (2 * count) 4) ∧
          EndsWithItems raw (itemPayloads raw (2 * count) 4)

/-! ## Items in their bytes -/

/-- A length of zero or more is the number in front of its item. -/
theorem i32Be_readI32
    {raw : Bytes}
    {off : Nat}
    (inside : off + 4 ≤ raw.length)
    (nonnegative : 0 ≤ readI32 raw off) :
    i32Be (readI32 raw off).toNat = slice raw off 4 := by
  have bound := ofBe_lt (slice raw off 4)
  have field := toBe_ofBe_slice inside
  rw [length_slice inside] at bound
  unfold readI32 ofBeSigned at nonnegative ⊢
  rw [length_slice inside] at nonnegative ⊢
  split
  · rw [i32Be, Int.toNat_natCast, field]
  · rw [if_neg ‹_›] at nonnegative
    omega

/-- The bytes from an offset on are items and what stands behind them. -/
theorem drop_eq_prefixedItems
    (raw : Bytes)
    (count off : Nat) :
    raw.drop off =
      prefixedItems (itemPayloads raw count off) ++
        raw.drop (off + (prefixedItems (itemPayloads raw count off)).length) := by
  induction count generalizing off with
  | zero =>
      simp [itemPayloads, prefixedItems]
  | succ count inductionHypothesis =>
      rw [itemPayloads]
      split
      · simp [prefixedItems]
      · rename_i whole
        push Not at whole
        obtain ⟨long, nonnegative, inside⟩ := whole
        have size :
            (slice raw (off + 4) (readI32 raw off).toNat).length =
              (readI32 raw off).toNat :=
          length_slice inside
        have split :
            raw.drop off =
              slice raw off 4 ++
                (slice raw (off + 4) (readI32 raw off).toNat ++
                  raw.drop (off + 4 + (readI32 raw off).toNat)) := by
          unfold slice
          rw [← List.drop_drop (i := (readI32 raw off).toNat),
            List.take_append_drop, ← List.drop_drop, List.take_append_drop]
        have later := inductionHypothesis (off + 4 + (readI32 raw off).toNat)
        rw [split, later, ← i32Be_readI32 long nonnegative]
        simp only [prefixedItems, List.flatMap_cons, List.length_append, size,
          length_i32Be, List.append_assoc]
        congr 4
        omega

/-- Payloads that two decoders read in turn. -/
def ReadItems
    (first second : Bytes → Outcome Value) :
    List Bytes → List Value → Prop
  | [], [] =>
      True
  | payload :: payloads, value :: values =>
      first payload = .ok value ∧ ReadItems second first payloads values
  | _, _ =>
      False

/-- A decoded item is whole and decoded from its payload. -/
theorem decodeItem_eq_ok
    {kind : String}
    {decode : Bytes → Outcome Value}
    {raw : Bytes}
    {off next : Nat}
    {value : Value}
    (decoded :
      decodeItem kind (withLengthPrefix decode) raw off = .ok (value, next)) :
    ¬ (raw.length < off + 4 ∨
        readI32 raw off < 0 ∨
        raw.length < off + 4 + (readI32 raw off).toNat) ∧
      decode (slice raw (off + 4) (readI32 raw off).toNat) = .ok value ∧
      next = off + 4 + (readI32 raw off).toNat := by
  by_cases truncated :
      raw.length < off + 4 ∨
        readI32 raw off < 0 ∨
        raw.length < off + 4 + (readI32 raw off).toNat
  · rw [decodeItem_truncated truncated] at decoded
    cases decoded
  · rw [decodeItem_payload truncated] at decoded
    obtain ⟨item, read, same⟩ := bind_eq_ok.mp decoded
    cases same
    exact ⟨truncated, read, rfl⟩

/-- The element loop reads each payload. -/
theorem decodeElements_readAs
    {kind : String}
    {decode : Bytes → Outcome Value}
    {raw : Bytes}
    {count off : Nat}
    {values : List Value}
    (decoded :
      decodeElements kind (withLengthPrefix decode) raw count off =
        .ok values) :
    ReadItems decode decode (itemPayloads raw count off) values ∧
      (itemPayloads raw count off).length = count ∧
      values.length = count := by
  induction count generalizing off values with
  | zero =>
      cases decoded
      exact ⟨trivial, rfl, rfl⟩
  | succ count inductionHypothesis =>
      obtain ⟨⟨value, next⟩, item, later⟩ := bind_eq_ok.mp decoded
      obtain ⟨rest, others, same⟩ := bind_eq_ok.mp later
      cases same
      obtain ⟨whole, read, rfl⟩ := decodeItem_eq_ok item
      obtain ⟨readRest, payloads, values⟩ := inductionHypothesis others
      rw [itemPayloads, if_neg whole]
      exact ⟨⟨read, readRest⟩, by simp [payloads], by simp [values]⟩

/-- The entry loop reads keys and values in turn. -/
theorem decodeEntries_readAs
    {decodeKey decodeValue : Bytes → Outcome Value}
    {raw : Bytes}
    {count off : Nat}
    {entries : List (Value × Value)}
    (decoded :
      decodeEntries (withLengthPrefix decodeKey) (withLengthPrefix decodeValue)
          raw count off =
        .ok entries) :
    ReadItems decodeKey decodeValue (itemPayloads raw (2 * count) off)
        (entries.flatMap fun entry => [entry.1, entry.2]) ∧
      (itemPayloads raw (2 * count) off).length = 2 * count ∧
      entries.length = count := by
  induction count generalizing off entries with
  | zero =>
      cases decoded
      exact ⟨trivial, rfl, rfl⟩
  | succ count inductionHypothesis =>
      obtain ⟨⟨key, afterKey⟩, firstItem, later⟩ := bind_eq_ok.mp decoded
      obtain ⟨⟨value, next⟩, secondItem, later⟩ := bind_eq_ok.mp later
      obtain ⟨rest, others, same⟩ := bind_eq_ok.mp later
      cases same
      obtain ⟨wholeKey, readKey, rfl⟩ := decodeItem_eq_ok firstItem
      obtain ⟨wholeValue, readValue, rfl⟩ := decodeItem_eq_ok secondItem
      obtain ⟨readRest, payloads, values⟩ := inductionHypothesis others
      rw [show 2 * (count + 1) = 2 * count + 1 + 1 by ring, itemPayloads,
        if_neg wholeKey, itemPayloads, if_neg wholeValue]
      exact ⟨⟨readKey, readValue, readRest⟩, by simp [payloads],
        by simp [values]⟩

/-- Items behind their lengths can be told apart. -/
theorem prefixed_append_inj
    {first second firstRest secondRest : Bytes}
    (firstShort : first.length < 2 ^ 31)
    (secondShort : second.length < 2 ^ 31) :
    i32Be first.length ++ first ++ firstRest =
        i32Be second.length ++ second ++ secondRest ↔
      first = second ∧ firstRest = secondRest := by
  constructor
  · intro same
    simp only [List.append_assoc] at same
    obtain ⟨sameLength, rest⟩ :=
      List.append_inj same (by simp)
    have lengths : first.length = second.length := by
      have read := congrArg ofBe sameLength
      rwa [i32Be, i32Be, ofBe_toBe_of_lt (by omega),
        ofBe_toBe_of_lt (by omega)] at read
    exact List.append_inj rest lengths
  · rintro ⟨rfl, rfl⟩
    rfl

/-- What a decoder of canonical payloads does with a payload it accepts. -/
def KeepsCanonical
    (decode : Bytes → Outcome Value)
    (canonical : Bytes → Prop) :
    Prop :=
  ∀ payload value,
    payload.length < 2 ^ 31 →
    decode payload = .ok value →
    value.isNull = false ∧
      value.rawBytes.length ≤ payload.length ∧
      (value.rawBytes = payload ↔ canonical payload)

/--
Values that are read from items are written as the same bytes exactly when all
items are canonical and nothing stands behind them.
-/
theorem ReadItems.written_iff
    {first second : Bytes → Outcome Value}
    {firstCanonical secondCanonical : Bytes → Prop}
    (firstKeeps : KeepsCanonical first firstCanonical)
    (secondKeeps : KeepsCanonical second secondCanonical)
    {payloads : List Bytes}
    {values : List Value}
    (read : ReadItems first second payloads values)
    (short : (prefixedItems payloads).length < 2 ^ 31)
    (rest : Bytes) :
    values.flatMap Value.toWire = prefixedItems payloads ++ rest ↔
      Alternate firstCanonical secondCanonical payloads ∧ rest = [] := by
  induction payloads
      generalizing values first second firstCanonical secondCanonical with
  | nil =>
      cases values with
      | nil =>
          simp [prefixedItems, Alternate, eq_comm]
      | cons value values =>
          exact read.elim
  | cons payload payloads inductionHypothesis =>
      cases values with
      | nil =>
          exact read.elim
      | cons value values =>
          obtain ⟨readFirst, readRest⟩ := read
          have sizes :
              (prefixedItems (payload :: payloads)).length =
                4 + payload.length + (prefixedItems payloads).length := by
            simp [prefixedItems, Nat.add_assoc]
          obtain ⟨notNull, notLonger, kept⟩ :=
            firstKeeps payload value (by omega) readFirst
          have shape :
              prefixedItems (payload :: payloads) ++ rest =
                i32Be payload.length ++ payload ++
                  (prefixedItems payloads ++ rest) := by
            simp [prefixedItems]
          rw [List.flatMap_cons, Value.toWire_eq_prefixed notNull, shape,
            prefixed_append_inj (by omega) (by omega), kept,
            inductionHypothesis secondKeeps firstKeeps readRest (by omega),
            Alternate, and_assoc]

/-- A collection payload is its count, its items and what stands behind them. -/
theorem Announces.shape
    {raw : Bytes}
    {count : Nat}
    (announced : Announces raw count)
    (items : Nat) :
    raw =
      i32Be count ++
        (prefixedItems (itemPayloads raw items 4) ++
          raw.drop (4 + (prefixedItems (itemPayloads raw items 4)).length)) := by
  obtain ⟨long, read⟩ := announced
  have header :=
    i32Be_readI32 (show 0 + 4 ≤ raw.length by omega) (by omega)
  rw [read, Int.toNat_natCast] at header
  rw [← drop_eq_prefixedItems, header]
  simp [slice]

/--
A collection that is read from its payload is written as the same bytes exactly
when all items are canonical and the payload ends with them.
-/
theorem Announces.written_iff
    {first second : Bytes → Outcome Value}
    {firstCanonical secondCanonical : Bytes → Prop}
    (firstKeeps : KeepsCanonical first firstCanonical)
    (secondKeeps : KeepsCanonical second secondCanonical)
    {raw : Bytes}
    {count items : Nat}
    {values : List Value}
    (short : raw.length < 2 ^ 31)
    (announced : Announces raw count)
    (read : ReadItems first second (itemPayloads raw items 4) values) :
    i32Be count ++ values.flatMap Value.toWire = raw ↔
      Alternate firstCanonical secondCanonical (itemPayloads raw items 4) ∧
        EndsWithItems raw (itemPayloads raw items 4) := by
  have shape := announced.shape items
  have sizes := congrArg List.length shape
  simp only [List.length_append, length_i32Be] at sizes
  have ends :
      raw.drop (4 + (prefixedItems (itemPayloads raw items 4)).length) = [] ↔
        EndsWithItems raw (itemPayloads raw items 4) := by
    rw [List.drop_eq_nil_iff, EndsWithItems]
    omega
  rw [← ends, ← read.written_iff firstKeeps secondKeeps (by omega)]
  constructor
  · intro same
    exact List.append_cancel_left (same.trans shape)
  · intro same
    rw [same]
    exact shape.symm

/-! ## The decoder and the encoder -/

/-- A number is written as the bytes of the array it was read from. -/
theorem toBe_ofBe_array
    {width : Nat}
    (array : List.Vector UInt8 width)
    {size : Nat}
    (fits : 256 ^ width = size) :
    toBe width (ofBe array.toList % size) = array.toList := by
  have bound := ofBe_lt array.toList
  have field := toBe_ofBe array.toList
  rw [array.toList_length] at bound field
  rw [← fits, Nat.mod_eq_of_lt bound, field]

/-- An array conversion keeps all bytes and their number. -/
theorem tryIntoArray_toList
    {size : Nat}
    {raw : Bytes}
    {array : List.Vector UInt8 size}
    (converted : tryIntoArray size raw = .ok array) :
    array.toList = raw ∧ raw.length = size := by
  unfold tryIntoArray at converted
  split at converted
  · cases converted
    exact ⟨rfl, ‹_›⟩
  · cases converted

/-- A type whose accepted payloads are written as the same bytes when canonical. -/
def WritesCanonical (columnType : ColumnType) : Prop :=
  ∀ raw value,
    raw.length < 2 ^ 31 →
    Value.fromPayload columnType raw = .ok value →
    (value.rawBytes = raw ↔ Canonical columnType raw)

/-- A payload of fixed width that is written from what was read in it. -/
theorem fixedWidth_iff
    {size : Nat}
    {make : List.Vector UInt8 size → Value}
    (writes : ∀ array, (make array).rawBytes = array.toList)
    {raw : Bytes}
    {value : Value}
    (decoded : (do return make (← tryIntoArray size raw)) = .ok value) :
    value.rawBytes = raw ↔ raw.length = size := by
  obtain ⟨array, converted, same⟩ := bind_eq_ok.mp decoded
  cases same
  obtain ⟨rfl, exact_⟩ := tryIntoArray_toList converted
  exact iff_of_true (writes array) exact_

/-- Items of such a type keep canonical payloads. -/
theorem WritesCanonical.keeps
    {columnType : ColumnType}
    (writes : WritesCanonical columnType) :
    KeepsCanonical (Value.fromPayload columnType) (Canonical columnType) := by
  intro payload value short decoded
  obtain ⟨typed, notLonger⟩ :=
    Value.fromPayload_bounded columnType payload value decoded
  exact ⟨typed.isNull_eq_false, notLonger, writes payload value short decoded⟩

/-- A decoded tinyint is its first byte. -/
theorem writesCanonical_tinyInt : WritesCanonical .tinyInt := by
  intro raw value _ decoded
  cases raw with
  | nil =>
      cases decoded
  | cons byte rest =>
      cases decoded
      simp [Value.rawBytes, Canonical]

/-- A decoded boolean is whether its first byte is zero. -/
theorem writesCanonical_boolean : WritesCanonical .boolean := by
  intro raw value _ decoded
  cases raw with
  | nil =>
      cases decoded
  | cons byte rest =>
      cases decoded
      by_cases zero : byte = 0
      · simp [Value.rawBytes, Canonical, zero]
      · simp [Value.rawBytes, Canonical, zero, eq_comm]

/-- A decoded text has the bytes it was decoded from. -/
theorem writesCanonical_text : WritesCanonical .text := by
  intro raw value _ decoded
  unfold Value.fromPayload at decoded
  split at decoded
  · rename_i text valid
    cases decoded
    exact iff_of_true (utf8_of_fromUtf8? valid) (by simp [Canonical, valid])
  · cases decoded

/-- A decoded address has the bytes it was decoded from. -/
theorem writesCanonical_inet : WritesCanonical .inet := by
  intro raw value _ decoded
  unfold Value.fromPayload at decoded
  split at decoded
  · cases decoded
    exact iff_of_true rfl (.inl ‹_›)
  · split at decoded
    · cases decoded
      exact iff_of_true rfl (.inr ‹_›)
    · cases decoded

/-- Canonical elements make a canonical set or list. -/
theorem elements_written_iff
    {element : ColumnType}
    (writes : WritesCanonical element)
    {kind : String}
    {raw : Bytes}
    {count : Nat}
    {values : List Value}
    (short : raw.length < 2 ^ 31)
    (announced : Announces raw count)
    (decoded :
      decodeElements kind (withLengthPrefix (Value.fromPayload element)) raw
          count 4 =
        .ok values) :
    i32Be values.length ++ values.flatMap Value.toWire = raw ↔
      ∃ count,
        Announces raw count ∧
          (itemPayloads raw count 4).length = count ∧
          Alternate (Canonical element) (Canonical element)
            (itemPayloads raw count 4) ∧
          EndsWithItems raw (itemPayloads raw count 4) := by
  obtain ⟨read, all, length⟩ := decodeElements_readAs decoded
  rw [length, announced.written_iff writes.keeps writes.keeps short read]
  constructor
  · intro holds
    exact ⟨count, announced, all, holds⟩
  · rintro ⟨other, also, _, holds⟩
    rwa [announced.unique also]

/-- Canonical keys and values make a canonical map. -/
theorem entries_written_iff
    {key value : ColumnType}
    (writesKey : WritesCanonical key)
    (writesValue : WritesCanonical value)
    {raw : Bytes}
    {count : Nat}
    {entries : List (Value × Value)}
    (short : raw.length < 2 ^ 31)
    (announced : Announces raw count)
    (decoded :
      decodeEntries (withLengthPrefix (Value.fromPayload key))
          (withLengthPrefix (Value.fromPayload value)) raw count 4 =
        .ok entries) :
    (Value.map entries).rawBytes = raw ↔ Canonical (.map key value) raw := by
  obtain ⟨read, all, length⟩ := decodeEntries_readAs decoded
  have written :
      (Value.map entries).rawBytes =
        i32Be count ++
          (entries.flatMap fun entry => [entry.1, entry.2]).flatMap
            Value.toWire := by
    simp [Value.rawBytes, length, List.flatMap_assoc]
  rw [written, announced.written_iff writesKey.keeps writesValue.keeps short
    read, Canonical]
  constructor
  · intro holds
    exact ⟨count, announced, all, holds⟩
  · rintro ⟨other, also, _, holds⟩
    rwa [announced.unique also]

/--
A payload that is accepted is written as the same bytes exactly when it is
canonical.
-/
theorem writesCanonical (columnType : ColumnType) : WritesCanonical columnType := by
  induction columnType with
  | int =>
      intro raw value _ decoded
      refine fixedWidth_iff ?_ decoded
      intro array
      simpa [Value.rawBytes] using toBe_ofBe_array array (by norm_num)
  | bigInt =>
      intro raw value _ decoded
      refine fixedWidth_iff ?_ decoded
      intro array
      simpa [Value.rawBytes] using toBe_ofBe_array array (by norm_num)
  | smallInt =>
      intro raw value _ decoded
      refine fixedWidth_iff ?_ decoded
      intro array
      simpa [Value.rawBytes] using toBe_ofBe_array array (by norm_num)
  | tinyInt =>
      exact writesCanonical_tinyInt
  | float =>
      intro raw value _ decoded
      refine fixedWidth_iff ?_ decoded
      intro array
      simpa [Value.rawBytes] using toBe_ofBe_array array (by norm_num)
  | double =>
      intro raw value _ decoded
      refine fixedWidth_iff ?_ decoded
      intro array
      simpa [Value.rawBytes] using toBe_ofBe_array array (by norm_num)
  | boolean =>
      exact writesCanonical_boolean
  | text =>
      exact writesCanonical_text
  | blob =>
      intro raw value _ decoded
      cases decoded
      exact iff_of_true rfl trivial
  | timestamp =>
      intro raw value _ decoded
      refine fixedWidth_iff ?_ decoded
      intro array
      simpa [Value.rawBytes] using toBe_ofBe_array array (by norm_num)
  | uuid =>
      intro raw value _ decoded
      exact fixedWidth_iff (fun array => rfl) decoded
  | inet =>
      exact writesCanonical_inet
  | set element inductionHypothesis =>
      intro raw value short decoded
      obtain ⟨count, read, later⟩ := bind_eq_ok.mp decoded
      obtain ⟨values, elements, same⟩ := bind_eq_ok.mp later
      cases same
      exact elements_written_iff inductionHypothesis short
        (announces_of_collectionCount read) elements
  | list element inductionHypothesis =>
      intro raw value short decoded
      obtain ⟨count, read, later⟩ := bind_eq_ok.mp decoded
      obtain ⟨values, elements, same⟩ := bind_eq_ok.mp later
      cases same
      exact elements_written_iff inductionHypothesis short
        (announces_of_collectionCount read) elements
  | map key value keyHypothesis valueHypothesis =>
      intro raw value short decoded
      obtain ⟨count, read, later⟩ := bind_eq_ok.mp decoded
      obtain ⟨entries, found, same⟩ := bind_eq_ok.mp later
      cases same
      exact entries_written_iff keyHypothesis valueHypothesis short
        (announces_of_collectionCount read) found

/-! ## Accepted bind values -/

/--
A bind value that is kept as it is: whatever value it is decoded to is of the
column's type, with no null inside, and is written as the same bytes.
-/
def KeptAsIs (raw : Bytes) (columnType : ColumnType) : Prop :=
  ∀ value,
    Value.fromRawBytes raw columnType = .ok value →
    value.WellTyped columnType ∧ value.rawBytes = raw

/-- The number that is read where any number of bytes is announced. -/
theorem readI32_i32Be_mod (raw : Bytes) :
    readI32 (i32Be raw.length ++ raw) 0 =
      if raw.length % 2 ^ 32 < 2 ^ 31 then
        ((raw.length % 2 ^ 32 : Nat) : Int)
      else
        ((raw.length % 2 ^ 32 : Nat) : Int) - 2 ^ 32 := by
  have field : slice (i32Be raw.length ++ raw) 0 4 = i32Be raw.length := by
    simpa using slice_append [] (i32Be raw.length) raw
  have size : (256 : Nat) ^ 4 = 2 ^ 32 := by
    norm_num
  rw [readI32, field, ofBeSigned, i32Be, ofBe_toBe, length_toBe, size]
  split <;> split <;> first | rfl | omega

/-- A payload that fits its length is decoded at its type. -/
theorem Value.fromRawBytes_short
    {raw : Bytes}
    (short : raw.length < 2 ^ 31)
    (columnType : ColumnType) :
    fromRawBytes raw columnType = fromPayload columnType raw :=
  withLengthPrefix_i32Be _ short

/-- A payload whose length has its top bit set is taken for null. -/
theorem Value.fromRawBytes_negative
    {raw : Bytes}
    (negative : 2 ^ 31 ≤ raw.length % 2 ^ 32)
    (columnType : ColumnType) :
    fromRawBytes raw columnType = .ok .null := by
  have read := readI32_i32Be_mod raw
  rw [if_neg (by omega)] at read
  have bound := Nat.mod_lt raw.length (show 2 ^ 32 > 0 by decide)
  rw [fromRawBytes, fromWire, withLengthPrefix,
    if_neg (by simp), if_pos (by omega)]

/-- A payload whose length does not fit its prefix otherwise is an error. -/
theorem Value.fromRawBytes_mismatch
    {raw : Bytes}
    (long : 2 ^ 31 ≤ raw.length)
    (nonnegative : raw.length % 2 ^ 32 < 2 ^ 31)
    (columnType : ColumnType) :
    fromRawBytes raw columnType =
      fail "value length prefix does not match payload" := by
  have read := readI32_i32Be_mod raw
  rw [if_pos nonnegative] at read
  have size : (i32Be raw.length ++ raw).length = 4 + raw.length := by
    simp
  rw [fromRawBytes, fromWire, withLengthPrefix, if_neg (by omega),
    if_neg (by omega), if_pos (by omega)]

/--
A bind value is kept as it is exactly when it is not of a readable format with
surplus bytes, and its length does not read as a negative number.
-/
theorem keptAsIs_iff (raw : Bytes) (columnType : ColumnType) :
    KeptAsIs raw columnType ↔
      raw.length % 2 ^ 32 < 2 ^ 31 ∧
        (raw.length < 2 ^ 31 →
          Readable columnType raw →
          Canonical columnType raw) := by
  rcases Nat.lt_or_ge raw.length (2 ^ 31) with short | long
  · have same := Value.fromRawBytes_short short columnType
    have accepts := (Value.fromPayload_outcomeIs columnType raw).ok
    constructor
    · intro kept
      refine ⟨by omega, fun _ readable => ?_⟩
      obtain ⟨value, decoded⟩ := accepts.mpr readable
      exact (writesCanonical columnType raw value short decoded).mp
        (kept value (same.trans decoded)).2
    · rintro ⟨_, canonical⟩ value decoded
      rw [same] at decoded
      exact ⟨(Value.fromPayload_bounded columnType raw value decoded).1,
        (writesCanonical columnType raw value short decoded).mpr
          (canonical short (accepts.mp ⟨value, decoded⟩))⟩
  · by_cases nonnegative : raw.length % 2 ^ 32 < 2 ^ 31
    · have failed := Value.fromRawBytes_mismatch long nonnegative columnType
      refine iff_of_true ?_ ⟨nonnegative, fun short => by omega⟩
      intro value decoded
      rw [failed] at decoded
      cases decoded
    · refine iff_of_false ?_ fun holds => nonnegative holds.1
      intro kept
      have typed :=
        (kept .null
          (Value.fromRawBytes_negative (by omega) columnType)).1
      exact absurd typed.isNull_eq_false (by decide)

/--
Surplus bytes are dropped and a boolean is altered: a tinyint of two bytes, a
boolean byte of two, and a list with a byte behind its last item.
-/
theorem surplus_bytes_accepted :
    ¬ KeptAsIs [1, 2] .tinyInt ∧
      ¬ KeptAsIs [2] .boolean ∧
      ¬ KeptAsIs [0, 0, 0, 0, 7] (.list .int) := by
  refine ⟨?_, ?_, ?_⟩
  · intro kept
    have stored :=
      (kept (.tinyInt 1) (by decide +kernel)).2
    exact absurd stored (by decide +kernel)
  · intro kept
    have stored :=
      (kept (.boolean true) (by decide +kernel)).2
    exact absurd stored (by decide +kernel)
  · intro kept
    have stored :=
      (kept (.list []) (by decide +kernel)).2
    exact absurd stored (by decide +kernel)

end RhydaDB
