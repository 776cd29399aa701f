import RhydaDB.ByteStrings

namespace RhydaDB

open ByteStrings

/-!
# CQL values and their wire codec

Column types and values of `cql_value.rs`, with both hand-written encoders
(`toWire`, the length-prefixed form, and `rawBytes`, the bare payload) and the
decoder `fromWire`.  Floating-point payloads are kept as bit patterns.

Decoding can fail in two ways that the callers must tell apart: an ordinary
error carries the message the code builds, while `panic` marks an index or
conversion that aborts the running task.
-/

/-- How a fallible computation of the server can go wrong. -/
inductive Fault where
  | error (message : String)
  | panic
  /-- The computation never returns. -/
  | hang
  deriving Repr, DecidableEq

/-- The outcome of a fallible computation. -/
abbrev Outcome (α : Type) := Except Fault α

/-- Fail with an ordinary error message. -/
def fail {α : Type} (message : String) : Outcome α :=
  .error (.error message)

/-- The column types a table can declare. -/
inductive ColumnType where
  | int
  | bigInt
  | smallInt
  | tinyInt
  | float
  | double
  | boolean
  | text
  | blob
  | timestamp
  | uuid
  | inet
  | set (element : ColumnType)
  | list (element : ColumnType)
  | map (key value : ColumnType)
  deriving Repr, DecidableEq

/-- An IPv4 or IPv6 address as its octets. -/
inductive IpAddr where
  | v4 (octets : List.Vector UInt8 4)
  | v6 (octets : List.Vector UInt8 16)
  deriving DecidableEq

/-- A CQL value; `float` and `double` hold IEEE 754 bit patterns. -/
inductive Value where
  | null
  | int (value : Int32)
  | bigInt (value : Int64)
  | smallInt (value : Int16)
  | tinyInt (value : Int8)
  | float (bits : UInt32)
  | double (bits : UInt64)
  | boolean (value : Bool)
  | text (value : String)
  | blob (value : Bytes)
  | timestamp (value : Int64)
  | uuid (value : List.Vector UInt8 16)
  | inet (value : IpAddr)
  | set (values : List Value)
  | list (values : List Value)
  | map (entries : List (Value × Value))

/-- The UTF-8 bytes of a string. -/
def utf8 (text : String) : Bytes :=
  text.toByteArray.data.toList

/-- Decode UTF-8, rejecting anything that is not valid. -/
def fromUtf8? (bytes : Bytes) : Option String :=
  String.fromUTF8? ⟨bytes.toArray⟩

/-- Four big-endian bytes of a length or count, as `(n as i32).to_be_bytes()`. -/
def i32Be (count : Nat) : Bytes :=
  toBe 4 count

namespace Value

mutual

/-- The length-prefixed encoding that `write_wire` appends to its buffer. -/
def toWire : Value → Bytes
  | .null =>
      toBe 4 (2 ^ 32 - 1)
  | .int value =>
      i32Be 4 ++ toBe 4 value.toUInt32.toNat
  | .bigInt value =>
      i32Be 8 ++ toBe 8 value.toUInt64.toNat
  | .smallInt value =>
      i32Be 2 ++ toBe 2 value.toUInt16.toNat
  | .tinyInt value =>
      i32Be 1 ++ [value.toUInt8]
  | .float bits =>
      i32Be 4 ++ toBe 4 bits.toNat
  | .double bits =>
      i32Be 8 ++ toBe 8 bits.toNat
  | .boolean value =>
      i32Be 1 ++ [if value then 1 else 0]
  | .text value =>
      i32Be (utf8 value).length ++ utf8 value
  | .blob value =>
      i32Be value.length ++ value
  | .timestamp value =>
      i32Be 8 ++ toBe 8 value.toUInt64.toNat
  | .uuid value =>
      i32Be 16 ++ value.toList
  | .inet (.v4 octets) =>
      i32Be 4 ++ octets.toList
  | .inet (.v6 octets) =>
      i32Be 16 ++ octets.toList
  | .set values =>
      let payload := i32Be values.length ++ toWireAll values
      i32Be payload.length ++ payload
  | .list values =>
      let payload := i32Be values.length ++ toWireAll values
      i32Be payload.length ++ payload
  | .map entries =>
      let payload := i32Be entries.length ++ toWireEntries entries
      i32Be payload.length ++ payload

/-- The wire forms of collection elements, one after the other. -/
def toWireAll : List Value → Bytes
  | [] =>
      []
  | value :: rest =>
      value.toWire ++ toWireAll rest

/-- The wire forms of map entries, each key before its value. -/
def toWireEntries : List (Value × Value) → Bytes
  | [] =>
      []
  | (key, value) :: rest =>
      key.toWire ++ value.toWire ++ toWireEntries rest

end

/-- The payload without its length prefix, as stored in keys. -/
def rawBytes : Value → Bytes
  | .null =>
      []
  | .int value =>
      toBe 4 value.toUInt32.toNat
  | .bigInt value =>
      toBe 8 value.toUInt64.toNat
  | .smallInt value =>
      toBe 2 value.toUInt16.toNat
  | .tinyInt value =>
      [value.toUInt8]
  | .float bits =>
      toBe 4 bits.toNat
  | .double bits =>
      toBe 8 bits.toNat
  | .boolean value =>
      [if value then 1 else 0]
  | .text value =>
      utf8 value
  | .blob value =>
      value
  | .timestamp value =>
      toBe 8 value.toUInt64.toNat
  | .uuid value =>
      value.toList
  | .inet (.v4 octets) =>
      octets.toList
  | .inet (.v6 octets) =>
      octets.toList
  | .set values =>
      i32Be values.length ++ values.flatMap toWire
  | .list values =>
      i32Be values.length ++ values.flatMap toWire
  | .map entries =>
      i32Be entries.length ++
        entries.flatMap fun entry => entry.1.toWire ++ entry.2.toWire

mutual

/-- Compare two values with the given comparisons of float bit patterns. -/
def eqWith
    (single : UInt32 → UInt32 → Bool)
    (double : UInt64 → UInt64 → Bool) :
    Value → Value → Bool
  | .null, .null =>
      true
  | .int first, .int second =>
      first == second
  | .bigInt first, .bigInt second =>
      first == second
  | .smallInt first, .smallInt second =>
      first == second
  | .tinyInt first, .tinyInt second =>
      first == second
  | .float first, .float second =>
      single first second
  | .double first, .double second =>
      double first second
  | .boolean first, .boolean second =>
      first == second
  | .text first, .text second =>
      first == second
  | .blob first, .blob second =>
      first == second
  | .timestamp first, .timestamp second =>
      first == second
  | .uuid first, .uuid second =>
      first == second
  | .inet first, .inet second =>
      first == second
  | .set first, .set second =>
      eqAllWith single double first second
  | .list first, .list second =>
      eqAllWith single double first second
  | .map first, .map second =>
      eqEntriesWith single double first second
  | _, _ =>
      false

/-- Compare two element lists position by position. -/
def eqAllWith
    (single : UInt32 → UInt32 → Bool)
    (double : UInt64 → UInt64 → Bool) :
    List Value → List Value → Bool
  | [], [] =>
      true
  | first :: firstRest, second :: secondRest =>
      eqWith single double first second &&
        eqAllWith single double firstRest secondRest
  | _, _ =>
      false

/-- Compare two entry lists position by position. -/
def eqEntriesWith
    (single : UInt32 → UInt32 → Bool)
    (double : UInt64 → UInt64 → Bool) :
    List (Value × Value) → List (Value × Value) → Bool
  | [], [] =>
      true
  | (firstKey, first) :: firstRest, (secondKey, second) :: secondRest =>
      eqWith single double firstKey secondKey &&
        eqWith single double first second &&
        eqEntriesWith single double firstRest secondRest
  | _, _ =>
      false

end

/-- IEEE 754 equality of two single-precision bit patterns. -/
def floatEq (first second : UInt32) : Bool :=
  let magnitude := fun bits : UInt32 => bits &&& 0x7FFFFFFF
  let isNaN := fun bits : UInt32 => decide (0x7F800000 < magnitude bits)
  !isNaN first && !isNaN second &&
    (first == second || (magnitude first == 0 && magnitude second == 0))

/-- IEEE 754 equality of two double-precision bit patterns. -/
def doubleEq (first second : UInt64) : Bool :=
  let magnitude := fun bits : UInt64 => bits &&& 0x7FFFFFFFFFFFFFFF
  let isNaN := fun bits : UInt64 =>
    decide (0x7FF0000000000000 < magnitude bits)
  !isNaN first && !isNaN second &&
    (first == second || (magnitude first == 0 && magnitude second == 0))

/--
The derived `PartialEq` of values, which the WHERE filters use: floats compare
as numbers, everything else structurally.
-/
def partialEq (first second : Value) : Bool :=
  eqWith floatEq doubleEq first second

/-- Whether a value is the null value. -/
def isNull : Value → Bool
  | .null =>
      true
  | _ =>
      false

end Value

/-- The `len` bytes starting at `off`. -/
def slice (raw : Bytes) (off len : Nat) : Bytes :=
  (raw.drop off).take len

/-- The big-endian `i32` at `off`. -/
def readI32 (raw : Bytes) (off : Nat) : Int :=
  ofBeSigned (slice raw off 4)

/-- `raw.try_into()` for an array of `size` bytes. -/
def tryIntoArray (size : Nat) (raw : Bytes) : Outcome (List.Vector UInt8 size) :=
  if exact : raw.length = size then
    .ok ⟨raw, exact⟩
  else
    fail "could not convert slice to array"

/-- `raw[0]`, which panics on an empty slice. -/
def firstByte : Bytes → Outcome UInt8
  | [] =>
      .error .panic
  | byte :: _ =>
      .ok byte

/--
The position and kind of the first UTF-8 error, scanning from `index`.

The second component is the length of the invalid sequence, or `none` when the
input ends in the middle of one.
-/
def utf8Error : Bytes → Nat → Option (Nat × Option Nat)
  | [], _ =>
      none
  | b0 :: rest, index =>
      if b0 < 0x80 then
        utf8Error rest (index + 1)
      else if 0xC2 ≤ b0 ∧ b0 ≤ 0xDF then
        match rest with
        | [] =>
            some (index, none)
        | b1 :: rest =>
            if continues b1 then utf8Error rest (index + 2)
            else some (index, some 1)
      else if 0xE0 ≤ b0 ∧ b0 ≤ 0xEF then
        match rest with
        | [] =>
            some (index, none)
        | b1 :: rest =>
            if !secondOfThree b0 b1 then some (index, some 1)
            else
              match rest with
              | [] =>
                  some (index, none)
              | b2 :: rest =>
                  if continues b2 then utf8Error rest (index + 3)
                  else some (index, some 2)
      else if 0xF0 ≤ b0 ∧ b0 ≤ 0xF4 then
        match rest with
        | [] =>
            some (index, none)
        | b1 :: rest =>
            if !secondOfFour b0 b1 then some (index, some 1)
            else
              match rest with
              | [] =>
                  some (index, none)
              | b2 :: rest =>
                  if !continues b2 then some (index, some 2)
                  else
                    match rest with
                    | [] =>
                        some (index, none)
                    | b3 :: rest =>
                        if continues b3 then utf8Error rest (index + 4)
                        else some (index, some 3)
      else
        some (index, some 1)
where
  /-- A continuation byte. -/
  continues (byte : UInt8) : Bool :=
    0x80 ≤ byte ∧ byte ≤ 0xBF
  /-- Second bytes that exclude overlong forms and surrogates. -/
  secondOfThree (first second : UInt8) : Bool :=
    if first = 0xE0 then 0xA0 ≤ second ∧ second ≤ 0xBF
    else if first = 0xED then 0x80 ≤ second ∧ second ≤ 0x9F
    else continues second
  /-- Second bytes that stay inside the Unicode range. -/
  secondOfFour (first second : UInt8) : Bool :=
    if first = 0xF0 then 0x90 ≤ second ∧ second ≤ 0xBF
    else if first = 0xF4 then 0x80 ≤ second ∧ second ≤ 0x8F
    else continues second

/-- The message of a failed `String::from_utf8`. -/
def utf8ErrorText (raw : Bytes) : String :=
  match utf8Error raw 0 with
  | some (index, some length) =>
      s!"invalid utf-8 sequence of {length} bytes from index {index}"
  | some (index, none) =>
      s!"incomplete utf-8 byte sequence from index {index}"
  | none =>
      ""

/--
Decode the length-prefixed item at `off` and step past it.

This is the body all three collection loops repeat by hand.
-/
def decodeItem
    (kind : String)
    (decode : Bytes → Outcome Value)
    (raw : Bytes)
    (off : Nat) :
    Outcome (Value × Nat) :=
  if raw.length < off + 4 then
    fail s!"{kind} value truncated"
  else
    let len := readI32 raw off
    if len < 0 ∨ raw.length < off + 4 + len.toNat then
      fail s!"{kind} value truncated"
    else do
      let value ← decode (slice raw off (4 + len.toNat))
      return (value, off + 4 + len.toNat)

/-- The element loop of a set or list: `count` items from `off` on. -/
def decodeElements
    (kind : String)
    (decode : Bytes → Outcome Value)
    (raw : Bytes) :
    Nat → Nat → Outcome (List Value)
  | 0, _ =>
      .ok []
  | count + 1, off => do
      let (value, next) ← decodeItem kind decode raw off
      let rest ← decodeElements kind decode raw count next
      return value :: rest

/-- The entry loop of a map: `count` key/value pairs from `off` on. -/
def decodeEntries
    (decodeKey decodeValue : Bytes → Outcome Value)
    (raw : Bytes) :
    Nat → Nat → Outcome (List (Value × Value))
  | 0, _ =>
      .ok []
  | count + 1, off => do
      let (key, afterKey) ← decodeItem "map" decodeKey raw off
      let (value, next) ← decodeItem "map" decodeValue raw afterKey
      let rest ← decodeEntries decodeKey decodeValue raw count next
      return (key, value) :: rest

/-- The element count that opens a collection payload. -/
def collectionCount (kind counted : String) (raw : Bytes) : Outcome Nat :=
  if raw.length < 4 then
    fail s!"{kind} value too short"
  else if readI32 raw 0 < 0 then
    fail s!"negative {kind} {counted} count"
  else
    .ok (readI32 raw 0).toNat

/-- Check a length prefix against its payload, then decode the payload. -/
def withLengthPrefix
    (decode : Bytes → Outcome Value)
    (data : Bytes) :
    Outcome Value :=
  if data.length < 4 then
    fail "value is shorter than its length prefix"
  else if readI32 data 0 < 0 then
    .ok .null
  else if data.length ≠ 4 + (readI32 data 0).toNat then
    fail "value length prefix does not match payload"
  else
    decode (data.drop 4)

namespace Value

/-- The type-directed part of `from_wire`, applied to the payload. -/
def fromPayload : ColumnType → Bytes → Outcome Value
  | .int, raw => do
      return .int (UInt32.ofNat (ofBe (← tryIntoArray 4 raw).toList)).toInt32
  | .bigInt, raw => do
      return .bigInt (UInt64.ofNat (ofBe (← tryIntoArray 8 raw).toList)).toInt64
  | .smallInt, raw => do
      return .smallInt (UInt16.ofNat (ofBe (← tryIntoArray 2 raw).toList)).toInt16
  | .tinyInt, raw => do
      return .tinyInt (← firstByte raw).toInt8
  | .float, raw => do
      return .float (UInt32.ofNat (ofBe (← tryIntoArray 4 raw).toList))
  | .double, raw => do
      return .double (UInt64.ofNat (ofBe (← tryIntoArray 8 raw).toList))
  | .boolean, raw => do
      return .boolean (decide ((← firstByte raw) ≠ 0))
  | .text, raw =>
      match fromUtf8? raw with
      | some decoded =>
          .ok (.text decoded)
      | none =>
          fail (utf8ErrorText raw)
  | .blob, raw =>
      .ok (.blob raw)
  | .timestamp, raw => do
      return .timestamp (UInt64.ofNat (ofBe (← tryIntoArray 8 raw).toList)).toInt64
  | .uuid, raw => do
      return .uuid (← tryIntoArray 16 raw)
  | .inet, raw =>
      if four : raw.length = 4 then
        .ok (.inet (.v4 ⟨raw, four⟩))
      else if sixteen : raw.length = 16 then
        .ok (.inet (.v6 ⟨raw, sixteen⟩))
      else
        fail s!"invalid inet address length {raw.length}"
  | .set element, raw => do
      let count ← collectionCount "set" "element" raw
      return .set (← decodeElements "set" (withLengthPrefix (fromPayload element)) raw count 4)
  | .list element, raw => do
      let count ← collectionCount "list" "element" raw
      return .list (← decodeElements "list" (withLengthPrefix (fromPayload element)) raw count 4)
  | .map key value, raw => do
      let count ← collectionCount "map" "entry" raw
      return .map
        (← decodeEntries (withLengthPrefix (fromPayload key))
          (withLengthPrefix (fromPayload value)) raw count 4)

/-- Decode a length-prefixed value at a column type. -/
def fromWire (data : Bytes) (columnType : ColumnType) : Outcome Value :=
  withLengthPrefix (fromPayload columnType) data

/-- Decode a bare payload by putting its length in front. -/
def fromRawBytes (raw : Bytes) (columnType : ColumnType) : Outcome Value :=
  fromWire (i32Be raw.length ++ raw) columnType

/--
A value of exactly the given column type: no null, neither at the top nor
inside a collection.
-/
def WellTyped : ColumnType → Value → Prop
  | .int, .int _ =>
      True
  | .bigInt, .bigInt _ =>
      True
  | .smallInt, .smallInt _ =>
      True
  | .tinyInt, .tinyInt _ =>
      True
  | .float, .float _ =>
      True
  | .double, .double _ =>
      True
  | .boolean, .boolean _ =>
      True
  | .text, .text _ =>
      True
  | .blob, .blob _ =>
      True
  | .timestamp, .timestamp _ =>
      True
  | .uuid, .uuid _ =>
      True
  | .inet, .inet _ =>
      True
  | .set element, .set values =>
      ∀ value ∈ values, WellTyped element value
  | .list element, .list values =>
      ∀ value ∈ values, WellTyped element value
  | .map key value, .map entries =>
      ∀ entry ∈ entries, WellTyped key entry.1 ∧ WellTyped value entry.2
  | _, _ =>
      False

mutual

/-- Comparing float bit patterns by equality compares whole values by it. -/
theorem eqWith_bits_iff :
    ∀ first second : Value,
      eqWith (· == ·) (· == ·) first second = true ↔ first = second
  | .null, second => by
      cases second <;> simp [eqWith]
  | .int _, second => by
      cases second <;> simp [eqWith]
  | .bigInt _, second => by
      cases second <;> simp [eqWith]
  | .smallInt _, second => by
      cases second <;> simp [eqWith]
  | .tinyInt _, second => by
      cases second <;> simp [eqWith]
  | .float _, second => by
      cases second <;> simp [eqWith]
  | .double _, second => by
      cases second <;> simp [eqWith]
  | .boolean _, second => by
      cases second <;> simp [eqWith]
  | .text _, second => by
      cases second <;> simp [eqWith]
  | .blob _, second => by
      cases second <;> simp [eqWith]
  | .timestamp _, second => by
      cases second <;> simp [eqWith]
  | .uuid _, second => by
      cases second <;> simp [eqWith]
  | .inet _, second => by
      cases second <;> simp [eqWith]
  | .set values, second => by
      cases second <;> simp [eqWith, eqAllWith_bits_iff values]
  | .list values, second => by
      cases second <;> simp [eqWith, eqAllWith_bits_iff values]
  | .map entries, second => by
      cases second <;> simp [eqWith, eqEntriesWith_bits_iff entries]

/-- The element-list part of `eqWith_bits_iff`. -/
theorem eqAllWith_bits_iff :
    ∀ first second : List Value,
      eqAllWith (· == ·) (· == ·) first second = true ↔ first = second
  | [], second => by
      cases second <;> simp [eqAllWith]
  | head :: rest, second => by
      cases second <;>
        simp [eqAllWith, eqWith_bits_iff head, eqAllWith_bits_iff rest]

/-- The entry-list part of `eqWith_bits_iff`. -/
theorem eqEntriesWith_bits_iff :
    ∀ first second : List (Value × Value),
      eqEntriesWith (· == ·) (· == ·) first second = true ↔ first = second
  | [], second => by
      cases second <;> simp [eqEntriesWith]
  | (key, value) :: rest, second => by
      cases second <;>
        simp [eqEntriesWith, eqWith_bits_iff key, eqWith_bits_iff value,
          eqEntriesWith_bits_iff rest, Prod.ext_iff]

end

end Value

instance : DecidableEq Value :=
  fun first second =>
    decidable_of_iff _ (Value.eqWith_bits_iff first second)

instance {α : Type} [DecidableEq α] : DecidableEq (Outcome α) :=
  fun first second =>
    match first, second with
    | .ok first, .ok second =>
        decidable_of_iff (first = second) (by simp)
    | .error first, .error second =>
        decidable_of_iff (first = second) (by simp)
    | .ok _, .error _ =>
        .isFalse (by simp)
    | .error _, .ok _ =>
        .isFalse (by simp)

end RhydaDB
