import RhydaDB.Fallible
import RhydaDB.KeyCodec
import RhydaDB.RowCodec
import RhydaDB.Statement

namespace RhydaDB

open ByteStrings Fallible

/-!
# Accepted operands are storable

A value that the query layer accepts for a column, be it decoded from a bind
value or parsed from a literal, is null or of the column's type, and it is not
much longer than the text or the bytes it came from.  A request that fits one
frame therefore never produces a value whose length overflows its header.
-/

namespace Value

/-- A value of a type whose encoding has at most the given length. -/
def Bounded (columnType : ColumnType) (bound : Nat) (value : Value) : Prop :=
  value.WellTyped columnType ∧ value.rawBytes.length ≤ bound

/-- The wire form of a bounded value is four bytes longer. -/
theorem Bounded.length_toWire_le
    {columnType : ColumnType}
    {bound : Nat}
    {value : Value}
    (bounded : value.Bounded columnType bound) :
    value.toWire.length ≤ 4 + bound := by
  rw [length_toWire bounded.1.isNull_eq_false]
  exact Nat.add_le_add_left bounded.2 4

end Value

/-! ## Bind values -/

/-- An array conversion keeps all bytes. -/
theorem tryIntoArray_eq_ok
    {size : Nat}
    {raw : Bytes}
    {array : List.Vector UInt8 size}
    (converted : tryIntoArray size raw = .ok array) :
    raw.length = size := by
  unfold tryIntoArray at converted
  split at converted
  · assumption
  · cases converted

/-- Decoding UTF-8 keeps all bytes. -/
theorem utf8_of_fromUtf8?
    {raw : Bytes}
    {text : String}
    (decoded : fromUtf8? raw = some text) :
    utf8 text = raw := by
  unfold fromUtf8? String.fromUTF8? at decoded
  split at decoded
  · cases decoded
    simp [utf8, String.fromUTF8]
  · cases decoded

/-- A non-negative length at the front of a slice is read from the slice. -/
theorem readI32_slice
    (raw : Bytes)
    (off len : Nat) :
    readI32 (slice raw off (4 + len)) 0 = readI32 raw off := by
  unfold readI32 slice
  rw [List.drop_zero, List.take_take]
  congr 2
  omega

/-- A decoded item takes up its length field and its payload. -/
theorem decodeItem_bounded
    {kind : String}
    {columnType : ColumnType}
    {decode : Bytes → Outcome Value}
    (decodes :
      ∀ raw value,
        decode raw = .ok value →
        value.Bounded columnType raw.length)
    {raw : Bytes}
    {off next : Nat}
    {value : Value}
    (decoded :
      decodeItem kind (withLengthPrefix decode) raw off =
        .ok (value, next)) :
    value.WellTyped columnType ∧
      off + value.toWire.length ≤ next ∧ next ≤ raw.length := by
  unfold decodeItem at decoded
  split at decoded
  · cases decoded
  · simp only at decoded
    split at decoded
    · cases decoded
    · rename_i long enough
      push Not at enough
      obtain ⟨nonnegative, inside⟩ := enough
      obtain ⟨item, first, same⟩ := bind_eq_ok.mp decoded
      cases same
      have size :
          (slice raw off (4 + (readI32 raw off).toNat)).length =
            4 + (readI32 raw off).toNat := by
        simp only [slice, List.length_take, List.length_drop]
        omega
      rw [withLengthPrefix, if_neg (by omega), readI32_slice,
        if_neg (by omega), if_neg (by omega)] at first
      have bounded := decodes _ _ first
      have payload :
          ((slice raw off (4 + (readI32 raw off).toNat)).drop 4).length =
            (readI32 raw off).toNat := by
        rw [List.length_drop, size]
        omega
      rw [payload] at bounded
      have wire := bounded.length_toWire_le
      exact ⟨bounded.1, by omega, inside⟩

/-- Decoded elements take up no more than the bytes they are read from. -/
theorem decodeElements_bounded
    {kind : String}
    {columnType : ColumnType}
    {decode : Bytes → Outcome Value}
    (decodes :
      ∀ raw value,
        decode raw = .ok value →
        value.Bounded columnType raw.length)
    {raw : Bytes}
    {count off : Nat}
    (inside : off ≤ raw.length)
    {values : List Value}
    (decoded :
      decodeElements kind (withLengthPrefix decode) raw count off =
        .ok values) :
    (∀ value ∈ values, value.WellTyped columnType) ∧
      off + (values.flatMap Value.toWire).length ≤ raw.length := by
  induction count generalizing off values with
  | zero =>
      cases decoded
      simpa using inside
  | succ count inductionHypothesis =>
      obtain ⟨⟨value, next⟩, first, later⟩ := bind_eq_ok.mp decoded
      obtain ⟨rest, second, same⟩ := bind_eq_ok.mp later
      cases same
      obtain ⟨typed, taken, nextInside⟩ := decodeItem_bounded decodes first
      obtain ⟨restTyped, restTaken⟩ := inductionHypothesis nextInside second
      constructor
      · simpa using ⟨typed, restTyped⟩
      · simp only [List.flatMap_cons, List.length_append]
        omega

/-- Decoded entries take up no more than the bytes they are read from. -/
theorem decodeEntries_bounded
    {keyType valueType : ColumnType}
    {decodeKey decodeValue : Bytes → Outcome Value}
    (decodesKey :
      ∀ raw value,
        decodeKey raw = .ok value →
        value.Bounded keyType raw.length)
    (decodesValue :
      ∀ raw value,
        decodeValue raw = .ok value →
        value.Bounded valueType raw.length)
    {raw : Bytes}
    {count off : Nat}
    (inside : off ≤ raw.length)
    {entries : List (Value × Value)}
    (decoded :
      decodeEntries (withLengthPrefix decodeKey)
          (withLengthPrefix decodeValue) raw count off =
        .ok entries) :
    (∀ entry ∈ entries,
        entry.1.WellTyped keyType ∧ entry.2.WellTyped valueType) ∧
      off + (entries.flatMap fun entry =>
          entry.1.toWire ++ entry.2.toWire).length ≤ raw.length := by
  induction count generalizing off entries with
  | zero =>
      cases decoded
      simpa using inside
  | succ count inductionHypothesis =>
      obtain ⟨⟨key, afterKey⟩, first, later⟩ := bind_eq_ok.mp decoded
      obtain ⟨⟨value, next⟩, second, later⟩ := bind_eq_ok.mp later
      obtain ⟨rest, third, same⟩ := bind_eq_ok.mp later
      cases same
      obtain ⟨keyTyped, keyTaken, _⟩ := decodeItem_bounded decodesKey first
      obtain ⟨valueTyped, valueTaken, nextInside⟩ :=
        decodeItem_bounded decodesValue second
      obtain ⟨restTyped, restTaken⟩ := inductionHypothesis nextInside third
      constructor
      · exact List.forall_mem_cons.mpr ⟨⟨keyTyped, valueTyped⟩, restTyped⟩
      · simp only [List.flatMap_cons, List.length_append]
        omega

/-- A collection that announces a count is long enough to hold it. -/
theorem collectionCount_eq_ok
    {kind counted : String}
    {raw : Bytes}
    {count : Nat}
    (announced : collectionCount kind counted raw = .ok count) :
    4 ≤ raw.length := by
  unfold collectionCount at announced
  split at announced
  · cases announced
  · omega

/-- Decoding a payload yields a value of the type, no longer than the payload. -/
theorem Value.fromPayload_bounded
    (columnType : ColumnType) :
    ∀ raw value,
      fromPayload columnType raw = .ok value →
      value.Bounded columnType raw.length := by
  induction columnType with
  | int =>
      intro raw value decoded
      obtain ⟨array, converted, same⟩ := bind_eq_ok.mp decoded
      cases same
      exact ⟨trivial, by simp [rawBytes, tryIntoArray_eq_ok converted]⟩
  | bigInt =>
      intro raw value decoded
      obtain ⟨array, converted, same⟩ := bind_eq_ok.mp decoded
      cases same
      exact ⟨trivial, by simp [rawBytes, tryIntoArray_eq_ok converted]⟩
  | smallInt =>
      intro raw value decoded
      obtain ⟨array, converted, same⟩ := bind_eq_ok.mp decoded
      cases same
      exact ⟨trivial, by simp [rawBytes, tryIntoArray_eq_ok converted]⟩
  | tinyInt =>
      intro raw value decoded
      obtain ⟨byte, first, same⟩ := bind_eq_ok.mp decoded
      cases same
      cases raw with
      | nil =>
          cases first
      | cons byte rest =>
          exact ⟨trivial, by simp [rawBytes]⟩
  | float =>
      intro raw value decoded
      obtain ⟨array, converted, same⟩ := bind_eq_ok.mp decoded
      cases same
      exact ⟨trivial, by simp [rawBytes, tryIntoArray_eq_ok converted]⟩
  | double =>
      intro raw value decoded
      obtain ⟨array, converted, same⟩ := bind_eq_ok.mp decoded
      cases same
      exact ⟨trivial, by simp [rawBytes, tryIntoArray_eq_ok converted]⟩
  | boolean =>
      intro raw value decoded
      obtain ⟨byte, first, same⟩ := bind_eq_ok.mp decoded
      cases same
      cases raw with
      | nil =>
          cases first
      | cons byte rest =>
          exact ⟨trivial, by simp [rawBytes]⟩
  | text =>
      intro raw value decoded
      unfold fromPayload at decoded
      split at decoded
      · rename_i text converted
        cases decoded
        exact ⟨trivial, by simp [rawBytes, utf8_of_fromUtf8? converted]⟩
      · cases decoded
  | blob =>
      intro raw value decoded
      cases decoded
      exact ⟨trivial, by simp [rawBytes]⟩
  | timestamp =>
      intro raw value decoded
      obtain ⟨array, converted, same⟩ := bind_eq_ok.mp decoded
      cases same
      exact ⟨trivial, by simp [rawBytes, tryIntoArray_eq_ok converted]⟩
  | uuid =>
      intro raw value decoded
      obtain ⟨array, converted, same⟩ := bind_eq_ok.mp decoded
      cases same
      exact ⟨trivial, by simp [rawBytes, tryIntoArray_eq_ok converted]⟩
  | inet =>
      intro raw value decoded
      unfold fromPayload at decoded
      split at decoded
      · cases decoded
        exact ⟨trivial, by simp [rawBytes]⟩
      · split at decoded
        · cases decoded
          exact ⟨trivial, by simp [rawBytes]⟩
        · cases decoded
  | set element inductionHypothesis =>
      intro raw value decoded
      obtain ⟨count, counted, later⟩ := bind_eq_ok.mp decoded
      obtain ⟨values, elements, same⟩ := bind_eq_ok.mp later
      cases same
      obtain ⟨typed, taken⟩ :=
        decodeElements_bounded inductionHypothesis
          (collectionCount_eq_ok counted) elements
      exact ⟨typed, by simpa [rawBytes] using taken⟩
  | list element inductionHypothesis =>
      intro raw value decoded
      obtain ⟨count, counted, later⟩ := bind_eq_ok.mp decoded
      obtain ⟨values, elements, same⟩ := bind_eq_ok.mp later
      cases same
      obtain ⟨typed, taken⟩ :=
        decodeElements_bounded inductionHypothesis
          (collectionCount_eq_ok counted) elements
      exact ⟨typed, by simpa [rawBytes] using taken⟩
  | map key value keyHypothesis valueHypothesis =>
      intro raw decodedValue decoded
      obtain ⟨count, counted, later⟩ := bind_eq_ok.mp decoded
      obtain ⟨entries, elements, same⟩ := bind_eq_ok.mp later
      cases same
      obtain ⟨typed, taken⟩ :=
        decodeEntries_bounded keyHypothesis valueHypothesis
          (collectionCount_eq_ok counted) elements
      exact ⟨typed, by simpa [rawBytes] using taken⟩

/-- A bare payload of representable length decodes to a bounded value. -/
theorem Value.fromRawBytes_bounded
    {columnType : ColumnType}
    {raw : Bytes}
    (fits : raw.length < 2 ^ 31)
    {value : Value}
    (decoded : fromRawBytes raw columnType = .ok value) :
    value.Bounded columnType raw.length := by
  rw [fromRawBytes, fromWire, withLengthPrefix_i32Be _ fits] at decoded
  exact fromPayload_bounded columnType raw value decoded

/-! ## Literals -/

/-- Decoded hexadecimal text has two digits per byte. -/
def HexDecode.Halves (hexDecode : HexDecode) : Prop :=
  ∀ text bytes,
    hexDecode text = some bytes →
    2 * bytes.length = text.length

/-- Trimming does not lengthen. -/
theorem length_trim_le (text : List Char) : (trim text).length ≤ text.length := by
  simp only [trim, trimEnd, List.length_reverse]
  refine (List.dropWhile_sublist _).length_le.trans ?_
  rw [List.length_reverse]
  exact (List.dropWhile_sublist _).length_le

/-- Nor does replacing pairs of quotes. -/
theorem length_undoubleQuotes_le (text : List Char) :
    (undoubleQuotes text).length ≤ text.length := by
  fun_induction undoubleQuotes text with
  | case1 rest inductionHypothesis =>
      simp only [List.length_cons]
      omega
  | case2 char rest _ inductionHypothesis =>
      simpa using inductionHypothesis
  | case3 =>
      simp

/-- Nor does unquoting. -/
theorem length_unescapeString_le (text : List Char) :
    (unescapeString text).length ≤ text.length := by
  have trimmed := length_trim_le text
  unfold unescapeString
  split
  · rename_i rest shape
    rw [shape, List.length_cons] at trimmed
    split
    · have shorter := length_undoubleQuotes_le rest.dropLast
      rw [List.length_dropLast] at shorter
      omega
    · simpa using trimmed
  · exact trimmed

/-- Nor does dropping a hexadecimal marker. -/
theorem length_stripHexMarker_le (text : List Char) :
    (stripHexMarker text).length ≤ text.length := by
  unfold stripHexMarker
  split
  · simp only [List.length_cons]
    omega
  · simp only [List.length_cons]
    omega
  · exact le_rfl

/-- A character takes at most four bytes. -/
theorem length_utf8_le (text : List Char) :
    (utf8 (String.ofList text)).length ≤ 4 * text.length := by
  rw [utf8_eq_flatMap, String.toList_ofList]
  induction text with
  | nil =>
      simp
  | cons char rest inductionHypothesis =>
      have width := String.length_utf8EncodeChar char
      have atMost := char.utf8Size_le_four
      simp only [List.flatMap_cons, List.length_append, List.length_cons]
      omega

/-- An address takes at most sixteen bytes. -/
theorem length_inet_le (address : IpAddr) :
    (Value.inet address).rawBytes.length ≤ 16 := by
  cases address <;> simp [Value.rawBytes]

/-- What a literal parser finds is bounded when every result of it is. -/
theorem bounded_of_parsed
    {α : Type}
    {found : Option α}
    {make : α → Value}
    {message : String}
    {columnType : ColumnType}
    {bound : Nat}
    {value : Value}
    (parsed :
      (match found.map make with
        | some value =>
            .ok value
        | none =>
            fail message : Outcome Value) = .ok value)
    (each : ∀ result, (make result).Bounded columnType bound) :
    value.Bounded columnType bound := by
  cases found with
  | none =>
      cases parsed
  | some result =>
      cases parsed
      exact each result

/-- A parsed literal is of its column's type and not much longer than its text. -/
theorem Value.parseLiteral_bounded
    {hexDecode : HexDecode}
    (halves : hexDecode.Halves)
    {text : String}
    {columnType : ColumnType}
    {value : Value}
    (parsed : parseLiteral hexDecode text columnType = .ok value) :
    value.Bounded columnType (4 * text.length + 16) := by
  have trimmed : (trim text.toList).length ≤ text.length :=
    (length_trim_le _).trans_eq String.length_toList
  cases columnType with
  | int =>
      exact bounded_of_parsed parsed
        fun _ => ⟨trivial, by simp [rawBytes]⟩
  | bigInt =>
      exact bounded_of_parsed parsed
        fun _ => ⟨trivial, by simp [rawBytes]⟩
  | smallInt =>
      exact bounded_of_parsed parsed
        fun _ => ⟨trivial, by simp [rawBytes]⟩
  | tinyInt =>
      exact bounded_of_parsed parsed
        fun _ => ⟨trivial, by simp [rawBytes]⟩
  | float =>
      exact bounded_of_parsed parsed
        fun _ => ⟨trivial, by simp [rawBytes]⟩
  | double =>
      exact bounded_of_parsed parsed
        fun _ => ⟨trivial, by simp [rawBytes]⟩
  | boolean =>
      simp only [parseLiteral] at parsed
      split at parsed
      · rename_i found
        cases parsed
        split at found
        · cases found
          exact ⟨trivial, by simp [rawBytes]⟩
        · split at found
          · cases found
            exact ⟨trivial, by simp [rawBytes]⟩
          · cases found
      · cases parsed
  | text =>
      cases parsed
      have shorter := length_unescapeString_le (trim text.toList)
      have encoded := length_utf8_le (unescapeString (trim text.toList))
      refine ⟨trivial, ?_⟩
      rw [rawBytes]
      omega
  | blob =>
      simp only [parseLiteral] at parsed
      split at parsed
      · rename_i found
        obtain ⟨bytes, decoded, rfl⟩ := Option.map_eq_some_iff.mp found
        cases parsed
        have half := halves _ _ decoded
        have shorter := length_stripHexMarker_le (trim text.toList)
        rw [String.length_ofList] at half
        refine ⟨trivial, ?_⟩
        rw [rawBytes]
        omega
      · cases parsed
  | timestamp =>
      exact bounded_of_parsed parsed
        fun _ => ⟨trivial, by simp [rawBytes]⟩
  | uuid =>
      simp only [parseLiteral] at parsed
      split at parsed
      · cases parsed
      · split at parsed
        · split at parsed
          · rename_i octets _ sixteen
            cases parsed
            refine ⟨trivial, ?_⟩
            simp only [rawBytes, List.Vector.toList, sixteen]
            omega
          · cases parsed
        · cases parsed
  | inet =>
      exact bounded_of_parsed parsed fun address =>
        ⟨trivial, (length_inet_le address).trans (by omega)⟩
  | set element =>
      cases parsed
  | list element =>
      cases parsed
  | map key value =>
      cases parsed

end RhydaDB
