import RhydaDB.CqlValue

namespace RhydaDB

open ByteStrings

/-!
# The value codec round-trips

Both encoders agree: the wire form is the length of the raw payload followed
by the payload.  The decoder recovers a well-typed value from either form.
Every collection level is one induction over its element list, with the
decoder's running offset tracked as the length of the bytes already consumed.
-/

/-- Decoding the UTF-8 bytes of a string returns the string. -/
theorem fromUtf8?_utf8 (text : String) :
    fromUtf8? (utf8 text) = some text := by
  have valid : ByteArray.IsValidUTF8 text.toByteArray :=
    text.isValidUTF8
  simp [fromUtf8?, utf8, String.fromUTF8?, valid, String.fromUTF8]

/-- The bytes between a known front and a known rest. -/
theorem slice_append
    (front item rest : Bytes) :
    slice (front ++ item ++ rest) front.length item.length = item := by
  simp [slice]

/-- A slice inside the bytes has the length asked for. -/
theorem length_slice
    {raw : Bytes}
    {off len : Nat}
    (inside : off + len ≤ raw.length) :
    (slice raw off len).length = len := by
  simp only [slice, List.length_take, List.length_drop]
  omega

/-- A field inside the bytes is the number that is read from it. -/
theorem toBe_ofBe_slice
    {raw : Bytes}
    {off width : Nat}
    (inside : off + width ≤ raw.length) :
    toBe width (ofBe (slice raw off width)) = slice raw off width := by
  have whole := toBe_ofBe (slice raw off width)
  rwa [length_slice inside] at whole

@[simp] theorem length_i32Be (count : Nat) :
    (i32Be count).length = 4 := by
  simp [i32Be]

/-- A length below `2 ^ 31` is read back as itself. -/
theorem readI32_i32Be
    (front rest : Bytes)
    {count : Nat}
    (fits : count < 2 ^ 31) :
    readI32 (front ++ (i32Be count ++ rest)) front.length = count := by
  have field :
      slice (front ++ (i32Be count ++ rest)) front.length 4 =
        i32Be count := by
    simpa [List.append_assoc] using slice_append front (i32Be count) rest
  rw [readI32, field, i32Be, ofBeSigned_toBe (by omega)]

/-- A correct length prefix is stripped and checked without loss. -/
theorem withLengthPrefix_i32Be
    (decode : Bytes → Outcome Value)
    {payload : Bytes}
    (fits : payload.length < 2 ^ 31) :
    withLengthPrefix decode (i32Be payload.length ++ payload) =
      decode payload := by
  have header :
      readI32 (i32Be payload.length ++ payload) 0 = payload.length := by
    simpa using readI32_i32Be [] payload fits
  have nonnegative : ¬ ((payload.length : Int) < 0) := by
    omega
  have body : (i32Be payload.length ++ payload).drop 4 = payload := by
    exact List.drop_left' (length_i32Be payload.length)
  simp [withLengthPrefix, header, nonnegative, body]

/-- A negative length prefix decodes to null at every type. -/
theorem fromWire_null (columnType : ColumnType) :
    Value.fromWire Value.null.toWire columnType = .ok .null := by
  have longEnough : ¬ (toBe 4 (2 ^ 32 - 1)).length < 4 := by
    decide
  have negative : readI32 (toBe 4 (2 ^ 32 - 1)) 0 < 0 := by
    decide
  rw [Value.fromWire, Value.toWire, withLengthPrefix,
    if_neg longEnough, if_pos negative]

namespace Value

/-- Element wire forms are concatenated. -/
theorem toWireAll_eq_flatMap (values : List Value) :
    toWireAll values = values.flatMap toWire := by
  induction values with
  | nil =>
      rfl
  | cons value rest inductionHypothesis =>
      simp [toWireAll, inductionHypothesis]

/-- Entry wire forms are concatenated, key before value. -/
theorem toWireEntries_eq_flatMap (entries : List (Value × Value)) :
    toWireEntries entries =
      entries.flatMap fun entry => entry.1.toWire ++ entry.2.toWire := by
  induction entries with
  | nil =>
      rfl
  | cons entry rest inductionHypothesis =>
      simp [toWireEntries, inductionHypothesis]

/-- The two encoders agree: a length prefix in front of the raw payload. -/
theorem toWire_eq_prefixed
    {value : Value}
    (notNull : value.isNull = false) :
    value.toWire = i32Be value.rawBytes.length ++ value.rawBytes := by
  cases value with
  | null =>
      simp [isNull] at notNull
  | inet address =>
      cases address <;> simp [toWire, rawBytes]
  | set values =>
      simp [toWire, rawBytes, toWireAll_eq_flatMap]
  | list values =>
      simp [toWire, rawBytes, toWireAll_eq_flatMap]
  | map entries =>
      simp [toWire, rawBytes, toWireEntries_eq_flatMap]
  | _ =>
      simp [toWire, rawBytes]

/-- A well-typed value is not null. -/
theorem WellTyped.isNull_eq_false
    {columnType : ColumnType}
    {value : Value}
    (typed : WellTyped columnType value) :
    value.isNull = false := by
  cases value with
  | null =>
      cases columnType <;> exact typed.elim
  | _ =>
      rfl

end Value

/-- One item of a collection is decoded and stepped past. -/
theorem decodeItem_toWire
    (kind : String)
    {decode : Bytes → Outcome Value}
    {value : Value}
    (front rest : Bytes)
    (notNull : value.isNull = false)
    (fits : value.rawBytes.length < 2 ^ 31)
    (decodes : decode value.rawBytes = .ok value) :
    decodeItem kind (withLengthPrefix decode)
        (front ++ (value.toWire ++ rest)) front.length =
      .ok (value, front.length + value.toWire.length) := by
  have shape := Value.toWire_eq_prefixed notNull
  have header :
      readI32 (front ++ (value.toWire ++ rest)) front.length =
        value.rawBytes.length := by
    rw [shape, List.append_assoc]
    exact readI32_i32Be front (value.rawBytes ++ rest) fits
  have wireLength :
      value.toWire.length = 4 + value.rawBytes.length := by
    simp [shape]
  have item :
      slice (front ++ (value.toWire ++ rest)) front.length
          (4 + value.rawBytes.length) =
        value.toWire := by
    rw [← wireLength, ← List.append_assoc]
    exact slice_append front value.toWire rest
  have unframed :
      withLengthPrefix decode value.toWire = .ok value := by
    rw [shape, withLengthPrefix_i32Be decode fits, decodes]
  have nonnegative : ¬ ((value.rawBytes.length : Int) < 0) := by
    omega
  have roomForHeader :
      ¬ (front ++ (value.toWire ++ rest)).length < front.length + 4 := by
    simp only [List.length_append, wireLength]
    omega
  have roomForItem :
      ¬ (front ++ (value.toWire ++ rest)).length <
        front.length + 4 + value.rawBytes.length := by
    simp only [List.length_append, wireLength]
    omega
  simp only [decodeItem, header, Int.toNat_natCast]
  rw [if_neg roomForHeader, if_neg (not_or.mpr ⟨nonnegative, roomForItem⟩),
    item, unframed, wireLength]
  simp [bind, Except.bind, pure, Except.pure, Nat.add_assoc]

/-- The element loop recovers every element from where it starts. -/
theorem decodeElements_flatMap
    (kind : String)
    {decode : Bytes → Outcome Value}
    (values : List Value)
    (front : Bytes)
    (elements :
      ∀ value ∈ values,
        value.isNull = false ∧
          value.rawBytes.length < 2 ^ 31 ∧
          decode value.rawBytes = .ok value) :
    decodeElements kind (withLengthPrefix decode)
        (front ++ values.flatMap Value.toWire)
        values.length front.length =
      .ok values := by
  induction values generalizing front with
  | nil =>
      rfl
  | cons value rest inductionHypothesis =>
      obtain ⟨notNull, fits, decodes⟩ := elements value (by simp)
      have head :=
        decodeItem_toWire kind front (rest.flatMap Value.toWire)
          notNull fits decodes
      have tail :=
        inductionHypothesis (front ++ value.toWire)
          fun later member => elements later (by simp [member])
      simp only [List.append_assoc, List.length_append] at tail
      simp only [List.flatMap_cons, List.length_cons, decodeElements, head,
        bind, Except.bind, tail, pure, Except.pure]

/-- The entry loop recovers every key and value from where it starts. -/
theorem decodeEntries_flatMap
    {decodeKey decodeValue : Bytes → Outcome Value}
    (entries : List (Value × Value))
    (front : Bytes)
    (members :
      ∀ entry ∈ entries,
        (entry.1.isNull = false ∧
          entry.1.rawBytes.length < 2 ^ 31 ∧
          decodeKey entry.1.rawBytes = .ok entry.1) ∧
        entry.2.isNull = false ∧
          entry.2.rawBytes.length < 2 ^ 31 ∧
          decodeValue entry.2.rawBytes = .ok entry.2) :
    decodeEntries (withLengthPrefix decodeKey)
        (withLengthPrefix decodeValue)
        (front ++
          entries.flatMap fun entry => entry.1.toWire ++ entry.2.toWire)
        entries.length front.length =
      .ok entries := by
  induction entries generalizing front with
  | nil =>
      rfl
  | cons entry rest inductionHypothesis =>
      obtain ⟨⟨keyNotNull, keyFits, keyDecodes⟩,
        valueNotNull, valueFits, valueDecodes⟩ := members entry (by simp)
      have key :=
        decodeItem_toWire "map" front
          (entry.2.toWire ++
            rest.flatMap fun entry => entry.1.toWire ++ entry.2.toWire)
          keyNotNull keyFits keyDecodes
      have value :=
        decodeItem_toWire "map" (front ++ entry.1.toWire)
          (rest.flatMap fun entry => entry.1.toWire ++ entry.2.toWire)
          valueNotNull valueFits valueDecodes
      have tail :=
        inductionHypothesis (front ++ entry.1.toWire ++ entry.2.toWire)
          fun later member => members later (by simp [member])
      simp only [List.append_assoc, List.length_append,
        Nat.add_assoc] at key value tail
      simp only [List.flatMap_cons, List.append_assoc, List.length_cons,
        decodeEntries, key, bind, Except.bind, value, tail, pure,
        Except.pure]

/-- A collection's opening count is read back. -/
theorem collectionCount_i32Be
    (kind counted : String)
    {count : Nat}
    (rest : Bytes)
    (fits : count < 2 ^ 31) :
    collectionCount kind counted (i32Be count ++ rest) = .ok count := by
  have header : readI32 (i32Be count ++ rest) 0 = count := by
    simpa using readI32_i32Be [] rest fits
  have nonnegative : ¬ ((count : Int) < 0) := by
    omega
  simp [collectionCount, header, nonnegative]

namespace Value

/-- One item's encoding is no longer than the whole collection's. -/
theorem length_encode_le_of_mem
    {α : Type}
    {items : List α}
    {item : α}
    (encode : α → Bytes)
    (member : item ∈ items) :
    (encode item).length ≤ (items.flatMap encode).length := by
  obtain ⟨earlier, later, rfl⟩ := List.append_of_mem member
  simp only [List.flatMap_append, List.flatMap_cons, List.length_append]
  omega

/-- A collection has no more items than encoded bytes. -/
theorem length_le_flatMap
    {α : Type}
    {items : List α}
    {encode : α → Bytes}
    (nonempty : ∀ item ∈ items, 0 < (encode item).length) :
    items.length ≤ (items.flatMap encode).length := by
  induction items with
  | nil =>
      simp
  | cons item rest inductionHypothesis =>
      have head := nonempty item (by simp)
      have tail :=
        inductionHypothesis fun later member =>
          nonempty later (by simp [member])
      simp only [List.length_cons, List.flatMap_cons, List.length_append]
      omega

/-- The wire form of a value that is not null is four bytes longer than it. -/
theorem length_toWire
    {value : Value}
    (notNull : value.isNull = false) :
    value.toWire.length = 4 + value.rawBytes.length := by
  simp [toWire_eq_prefixed notNull]

/-- The element loop inverts the encoding of a well-typed element list. -/
theorem decodeElements_of_wellTyped
    (kind : String)
    {element : ColumnType}
    {values : List Value}
    (typed : ∀ value ∈ values, WellTyped element value)
    (fits : (i32Be values.length ++ values.flatMap toWire).length < 2 ^ 31)
    (decodes :
      ∀ value,
        WellTyped element value →
        value.rawBytes.length < 2 ^ 31 →
        fromPayload element value.rawBytes = .ok value) :
    collectionCount kind "element"
          (i32Be values.length ++ values.flatMap toWire) =
        .ok values.length ∧
      decodeElements kind (withLengthPrefix (fromPayload element))
          (i32Be values.length ++ values.flatMap toWire) values.length 4 =
        .ok values := by
  have elements :
      ∀ value ∈ values,
        value.isNull = false ∧
          value.rawBytes.length < 2 ^ 31 ∧
          fromPayload element value.rawBytes = .ok value := by
    intro value member
    have notNull := (typed value member).isNull_eq_false
    have inside := length_encode_le_of_mem toWire member
    have small : value.rawBytes.length < 2 ^ 31 := by
      simp only [List.length_append, length_toWire notNull] at fits inside
      omega
    exact ⟨notNull, small, decodes value (typed value member) small⟩
  have countBound : values.length < 2 ^ 31 := by
    have counted : values.length ≤ (values.flatMap toWire).length := by
      apply length_le_flatMap
      intro value member
      rw [length_toWire (elements value member).1]
      omega
    simp only [List.length_append] at fits
    omega
  constructor
  · exact collectionCount_i32Be kind "element" _ countBound
  · simpa using
      decodeElements_flatMap kind values (i32Be values.length) elements

/-- The entry loop inverts the encoding of a well-typed entry list. -/
theorem decodeEntries_of_wellTyped
    {key value : ColumnType}
    {entries : List (Value × Value)}
    (typed :
      ∀ entry ∈ entries,
        WellTyped key entry.1 ∧ WellTyped value entry.2)
    (fits :
      (i32Be entries.length ++
        entries.flatMap fun entry =>
          entry.1.toWire ++ entry.2.toWire).length < 2 ^ 31)
    (decodesKey :
      ∀ item,
        WellTyped key item →
        item.rawBytes.length < 2 ^ 31 →
        fromPayload key item.rawBytes = .ok item)
    (decodesValue :
      ∀ item,
        WellTyped value item →
        item.rawBytes.length < 2 ^ 31 →
        fromPayload value item.rawBytes = .ok item) :
    collectionCount "map" "entry"
          (i32Be entries.length ++
            entries.flatMap fun entry =>
              entry.1.toWire ++ entry.2.toWire) =
        .ok entries.length ∧
      decodeEntries (withLengthPrefix (fromPayload key))
          (withLengthPrefix (fromPayload value))
          (i32Be entries.length ++
            entries.flatMap fun entry =>
              entry.1.toWire ++ entry.2.toWire)
          entries.length 4 =
        .ok entries := by
  have members :
      ∀ entry ∈ entries,
        (entry.1.isNull = false ∧
          entry.1.rawBytes.length < 2 ^ 31 ∧
          fromPayload key entry.1.rawBytes = .ok entry.1) ∧
        entry.2.isNull = false ∧
          entry.2.rawBytes.length < 2 ^ 31 ∧
          fromPayload value entry.2.rawBytes = .ok entry.2 := by
    intro entry member
    obtain ⟨keyTyped, valueTyped⟩ := typed entry member
    have keyNotNull := keyTyped.isNull_eq_false
    have valueNotNull := valueTyped.isNull_eq_false
    have inside :=
      length_encode_le_of_mem
        (fun entry : Value × Value => entry.1.toWire ++ entry.2.toWire)
        member
    simp only [List.length_append, length_toWire keyNotNull,
      length_toWire valueNotNull] at fits inside
    have keySmall : entry.1.rawBytes.length < 2 ^ 31 := by
      omega
    have valueSmall : entry.2.rawBytes.length < 2 ^ 31 := by
      omega
    exact
      ⟨⟨keyNotNull, keySmall, decodesKey entry.1 keyTyped keySmall⟩,
        valueNotNull, valueSmall,
        decodesValue entry.2 valueTyped valueSmall⟩
  have countBound : entries.length < 2 ^ 31 := by
    have counted :
        entries.length ≤
          (entries.flatMap fun entry =>
            entry.1.toWire ++ entry.2.toWire).length := by
      apply length_le_flatMap
      intro entry member
      rw [List.length_append, length_toWire (members entry member).1.1]
      omega
    simp only [List.length_append] at fits
    omega
  constructor
  · exact collectionCount_i32Be "map" "entry" _ countBound
  · simpa using
      decodeEntries_flatMap entries (i32Be entries.length) members

/-- The payload decoder inverts `rawBytes` at every column type. -/
theorem fromPayload_rawBytes
    (columnType : ColumnType) :
    ∀ value,
      WellTyped columnType value →
      value.rawBytes.length < 2 ^ 31 →
      fromPayload columnType value.rawBytes = .ok value := by
  induction columnType with
  | int =>
      intro value typed _
      cases value with
      | int number =>
          have bound : number.toUInt32.toNat < 256 ^ 4 :=
            number.toUInt32.toNat_lt.trans_eq (by norm_num)
          simp [fromPayload, rawBytes, tryIntoArray,
            ofBe_toBe_of_lt bound, bind, Except.bind, pure, Except.pure]
      | _ =>
          exact typed.elim
  | bigInt =>
      intro value typed _
      cases value with
      | bigInt number =>
          have bound : number.toUInt64.toNat < 256 ^ 8 :=
            number.toUInt64.toNat_lt.trans_eq (by norm_num)
          simp [fromPayload, rawBytes, tryIntoArray,
            ofBe_toBe_of_lt bound, bind, Except.bind, pure, Except.pure]
      | _ =>
          exact typed.elim
  | smallInt =>
      intro value typed _
      cases value with
      | smallInt number =>
          have bound : number.toUInt16.toNat < 256 ^ 2 :=
            number.toUInt16.toNat_lt.trans_eq (by norm_num)
          simp [fromPayload, rawBytes, tryIntoArray,
            ofBe_toBe_of_lt bound, bind, Except.bind, pure, Except.pure]
      | _ =>
          exact typed.elim
  | tinyInt =>
      intro value typed _
      cases value with
      | tinyInt number =>
          simp [fromPayload, rawBytes, firstByte, bind, Except.bind,
            pure, Except.pure]
      | _ =>
          exact typed.elim
  | float =>
      intro value typed _
      cases value with
      | float bits =>
          have bound : bits.toNat < 256 ^ 4 :=
            bits.toNat_lt.trans_eq (by norm_num)
          simp [fromPayload, rawBytes, tryIntoArray,
            ofBe_toBe_of_lt bound, bind, Except.bind, pure, Except.pure]
      | _ =>
          exact typed.elim
  | double =>
      intro value typed _
      cases value with
      | double bits =>
          have bound : bits.toNat < 256 ^ 8 :=
            bits.toNat_lt.trans_eq (by norm_num)
          simp [fromPayload, rawBytes, tryIntoArray,
            ofBe_toBe_of_lt bound, bind, Except.bind, pure, Except.pure]
      | _ =>
          exact typed.elim
  | boolean =>
      intro value typed _
      cases value with
      | boolean flag =>
          cases flag <;> rfl
      | _ =>
          exact typed.elim
  | text =>
      intro value typed _
      cases value with
      | text text =>
          simp [fromPayload, rawBytes, fromUtf8?_utf8]
      | _ =>
          exact typed.elim
  | blob =>
      intro value typed _
      cases value with
      | blob bytes =>
          rfl
      | _ =>
          exact typed.elim
  | timestamp =>
      intro value typed _
      cases value with
      | timestamp number =>
          have bound : number.toUInt64.toNat < 256 ^ 8 :=
            number.toUInt64.toNat_lt.trans_eq (by norm_num)
          simp [fromPayload, rawBytes, tryIntoArray,
            ofBe_toBe_of_lt bound, bind, Except.bind, pure, Except.pure]
      | _ =>
          exact typed.elim
  | uuid =>
      intro value typed _
      cases value with
      | uuid octets =>
          simp [fromPayload, rawBytes, tryIntoArray, bind, Except.bind,
            pure, Except.pure]
      | _ =>
          exact typed.elim
  | inet =>
      intro value typed _
      cases value with
      | inet address =>
          cases address with
          | v4 octets =>
              simp [fromPayload, rawBytes]
          | v6 octets =>
              simp [fromPayload, rawBytes]
      | _ =>
          exact typed.elim
  | set element inductionHypothesis =>
      intro value typed fits
      cases value with
      | set values =>
          rw [WellTyped] at typed
          rw [rawBytes] at fits ⊢
          obtain ⟨counted, decoded⟩ :=
            decodeElements_of_wellTyped "set" typed fits
              inductionHypothesis
          rw [fromPayload, counted]
          simp only [bind, Except.bind, decoded, pure, Except.pure]
      | _ =>
          exact typed.elim
  | list element inductionHypothesis =>
      intro value typed fits
      cases value with
      | list values =>
          rw [WellTyped] at typed
          rw [rawBytes] at fits ⊢
          obtain ⟨counted, decoded⟩ :=
            decodeElements_of_wellTyped "list" typed fits
              inductionHypothesis
          rw [fromPayload, counted]
          simp only [bind, Except.bind, decoded, pure, Except.pure]
      | _ =>
          exact typed.elim
  | map keyType valueType keyHypothesis valueHypothesis =>
      intro value typed fits
      cases value with
      | map entries =>
          rw [WellTyped] at typed
          rw [rawBytes] at fits ⊢
          obtain ⟨counted, decoded⟩ :=
            decodeEntries_of_wellTyped typed fits keyHypothesis
              valueHypothesis
          rw [fromPayload, counted]
          simp only [bind, Except.bind, decoded, pure, Except.pure]
      | _ =>
          exact typed.elim

/-- The raw-payload decoder inverts `rawBytes`. -/
theorem fromRawBytes_rawBytes
    {columnType : ColumnType}
    {value : Value}
    (typed : WellTyped columnType value)
    (fits : value.rawBytes.length < 2 ^ 31) :
    fromRawBytes value.rawBytes columnType = .ok value := by
  rw [fromRawBytes, fromWire, withLengthPrefix_i32Be _ fits,
    fromPayload_rawBytes columnType value typed fits]

/-- The wire decoder inverts `toWire`. -/
theorem fromWire_toWire
    {columnType : ColumnType}
    {value : Value}
    (typed : WellTyped columnType value)
    (fits : value.rawBytes.length < 2 ^ 31) :
    fromWire value.toWire columnType = .ok value := by
  rw [toWire_eq_prefixed typed.isNull_eq_false]
  exact fromRawBytes_rawBytes typed fits

/--
The codec round-trips on both code paths: the wire form is the length-prefixed
raw payload, and both decoders recover the value.  Null survives the wire form.
-/
theorem codec_round_trip
    (columnType : ColumnType)
    (value : Value)
    (typed : WellTyped columnType value)
    (fits : value.rawBytes.length < 2 ^ 31) :
    value.toWire = i32Be value.rawBytes.length ++ value.rawBytes ∧
      fromWire value.toWire columnType = .ok value ∧
      fromRawBytes value.rawBytes columnType = .ok value ∧
      fromWire Value.null.toWire columnType = .ok .null :=
  ⟨toWire_eq_prefixed typed.isNull_eq_false,
    fromWire_toWire typed fits,
    fromRawBytes_rawBytes typed fits,
    fromWire_null columnType⟩

/-- A nested value that meets the hypotheses of `codec_round_trip`. -/
theorem codec_round_trip_nested :
    fromWire
        (Value.map
          [(.text "k", .list [.tinyInt 1, .tinyInt (-1)])]).toWire
        (.map .text (.list .tinyInt)) =
      .ok (.map [(.text "k", .list [.tinyInt 1, .tinyInt (-1)])]) :=
  (codec_round_trip (.map .text (.list .tinyInt))
    (.map [(.text "k", .list [.tinyInt 1, .tinyInt (-1)])])
    (by simp [WellTyped]) (by decide +kernel)).2.1

end Value

end RhydaDB
