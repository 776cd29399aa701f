import RhydaDB.ByteMap
import RhydaDB.CqlValueRoundTrip
import RhydaDB.Fallible

namespace RhydaDB

open ByteStrings

/-!
# Storage keys

A row lives under `dt!<keyspace>!<table>!` followed by its key parts, each
behind a two-byte length.  Names contain no `!`, so the two textual components
can be read back; parts of at most 65535 bytes have exact length fields, so
the encoded part list is prefix-free part by part.

Everything the engines, scans and range deletions rely on about keys is proved
here once: row keys are injective, and being under a table, a keyspace or a
partition is exactly extending the corresponding byte prefix.
-/

/-- Keyspace metadata keys start with `ks!`. -/
def ksPrefix : Bytes :=
  [0x6B, 0x73, 0x21]

/-- Table definition keys start with `tb!`. -/
def tbPrefix : Bytes :=
  [0x74, 0x62, 0x21]

/-- Row data keys start with `dt!`. -/
def dtPrefix : Bytes :=
  [0x64, 0x74, 0x21]

/-- The separator `!` as a byte. -/
def bang : UInt8 :=
  0x21

/-- Concatenate key parts, each behind its length as a big-endian `u16`. -/
def encodeKey : List Bytes → Bytes
  | [] =>
      []
  | part :: rest =>
      toBe 2 part.length ++ part ++ encodeKey rest

/--
Split an encoded part list.

Every round consumes at least the two length bytes, so the input's length
bounds the number of rounds.
-/
def decodeParts : Nat → Bytes → Outcome (List Bytes)
  | _, [] =>
      .ok []
  | 0, _ =>
      fail "corrupt key"
  | rounds + 1, rest =>
      if rest.length < 2 then
        fail "corrupt key"
      else
        let len := ofBe (slice rest 0 2)
        if rest.length < 2 + len then
          fail "corrupt key"
        else do
          let later ← decodeParts rounds (rest.drop (2 + len))
          return slice rest 2 len :: later

/-- Decode the key parts that follow a given prefix. -/
def decodeKeyData (leading fullKey : Bytes) : Outcome (List Bytes) :=
  if leading.isPrefixOf fullKey then
    decodeParts (fullKey.drop leading.length).length
      (fullKey.drop leading.length)
  else
    fail "key does not belong to table"

/-- The prefix of every row key of a table. -/
def dataPrefix (keyspace table : String) : Bytes :=
  dtPrefix ++ utf8 keyspace ++ [bang] ++ utf8 table ++ [bang]

/-- The prefix of every row key of a keyspace. -/
def keyspaceDataPrefix (keyspace : String) : Bytes :=
  dtPrefix ++ utf8 keyspace ++ [bang]

/-- The full storage key of a row. -/
def rowKey (keyspace table : String) (keyParts : List Bytes) : Bytes :=
  dataPrefix keyspace table ++ encodeKey keyParts

/-- Decode the key parts of a row key of the given table. -/
def decodeKey
    (keyspace table : String)
    (fullKey : Bytes) :
    Outcome (List Bytes) :=
  decodeKeyData (dataPrefix keyspace table) fullKey

/-- Increment the first byte below `0xFF` of a reversed prefix. -/
def bumpReversed : Bytes → Option Bytes
  | [] =>
      none
  | byte :: rest =>
      if byte < 0xFF then
        some ((byte + 1) :: rest)
      else
        (bumpReversed rest).map (byte :: ·)

/--
The exclusive end bound used by range deletions: the last byte below `0xFF`
is incremented, later bytes stay as they are.
-/
def prefixUpperBound (leading : Bytes) : Option Bytes :=
  (bumpReversed leading.reverse).map List.reverse

/-- A byte below `0xFF` is covered by its increment. -/
theorem covBy_succ
    {byte : UInt8}
    (below : byte < 0xFF) :
    byte ⋖ byte + 1 := by
  have small : byte.toNat < 255 := UInt8.lt_iff_toNat_lt.mp below
  have next : (byte + 1).toNat = byte.toNat + 1 := by
    rw [UInt8.toNat_add, UInt8.toNat_one]
    omega
  constructor
  · rw [UInt8.lt_iff_toNat_lt, next]
    omega
  · intro between lower upper
    rw [UInt8.lt_iff_toNat_lt] at lower upper
    omega

/-- A prefix ending below `0xFF` is bounded by incrementing its last byte. -/
theorem prefixUpperBound_append
    (stem : Bytes)
    {last : UInt8}
    (below : last < 0xFF) :
    prefixUpperBound (stem ++ [last]) = some (stem ++ [last + 1]) := by
  simp [prefixUpperBound, bumpReversed, below]

/-- A byte that is not below `0xFF` is `0xFF`. -/
theorem eq_full_of_not_lt
    {byte : UInt8}
    (notBelow : ¬ byte < 0xFF) :
    byte = 0xFF := by
  have atLeast := UInt8.lt_iff_toNat_lt.not.mp notBelow
  have bound := byte.toNat_lt
  have full : (0xFF : UInt8).toNat = 255 := rfl
  apply UInt8.toNat_inj.mp
  omega

/-- Only bytes that are all `0xFF` have none to increment. -/
theorem bumpReversed_eq_none_iff
    {reversed : Bytes} :
    bumpReversed reversed = none ↔ ∀ byte ∈ reversed, byte = 0xFF := by
  induction reversed with
  | nil =>
      simp [bumpReversed]
  | cons byte rest inductionHypothesis =>
      by_cases below : byte < 0xFF
      · have notFull : byte ≠ 0xFF := ne_of_lt below
        simp [bumpReversed, below, notFull]
      · have full := eq_full_of_not_lt below
        simp [bumpReversed, inductionHypothesis, full]

/-- There is no bound for a prefix of `0xFF` bytes alone. -/
theorem prefixUpperBound_eq_none_iff
    {leading : Bytes} :
    prefixUpperBound leading = none ↔ ∀ byte ∈ leading, byte = 0xFF := by
  simp [prefixUpperBound, bumpReversed_eq_none_iff]

/-- A last byte `0xFF` stays behind the bound of what is before it. -/
theorem prefixUpperBound_append_full (stem : Bytes) :
    prefixUpperBound (stem ++ [0xFF]) =
      (prefixUpperBound stem).map (· ++ [0xFF]) := by
  simp [prefixUpperBound, bumpReversed, Option.map_map, Function.comp_def]

/-- The bound lies behind every extension of the prefix and is as long as it. -/
theorem prefixUpperBound_covers
    {leading stop : Bytes}
    (bounded : prefixUpperBound leading = some stop) :
    stop.length = leading.length ∧ ∀ rest, leading ++ rest < stop := by
  induction leading using List.reverseRecOn generalizing stop with
  | nil =>
      cases bounded
  | append_singleton stem last inductionHypothesis =>
      by_cases below : last < 0xFF
      · rw [prefixUpperBound_append stem below] at bounded
        cases bounded
        refine ⟨by simp, fun rest => ?_⟩
        rw [List.append_assoc]
        exact List.Lex.append_left _ (List.Lex.rel (covBy_succ below).lt) stem
      · cases eq_full_of_not_lt below
        rw [prefixUpperBound_append_full] at bounded
        obtain ⟨earlier, found, rfl⟩ := Option.map_eq_some_iff.mp bounded
        obtain ⟨sameLength, covers⟩ := inductionHypothesis found
        refine ⟨by simp [sameLength], fun rest => ?_⟩
        rw [List.append_assoc]
        exact (covers _).trans_le (le_of_stem (List.prefix_append _ _))

/--
The bound of a prefix closes a range that holds exactly its extensions, and
only prefixes without a byte below `0xFF` have no bound.
-/
def HasExactBound (leading : Bytes) : Prop :=
  (∀ stop,
    prefixUpperBound leading = some stop →
    ∀ key, leading ≤ key ∧ key < stop ↔ leading <+: key) ∧
  (prefixUpperBound leading = none ↔
    leading = [] ∨ ∀ byte ∈ leading, byte = 0xFF)

/--
A prefix that ends in `0xFF` behind a smaller byte keeps that `0xFF` in its
bound, so the bound without it is in the range and no extension of the prefix.
All other prefixes have exact bounds.
-/
theorem hasExactBound_iff (leading : Bytes) :
    HasExactBound leading ↔
      (leading.getLast? = some 0xFF → ∀ byte ∈ leading, byte = 0xFF) := by
  have unbounded :
      prefixUpperBound leading = none ↔
        leading = [] ∨ ∀ byte ∈ leading, byte = 0xFF := by
    rw [prefixUpperBound_eq_none_iff]
    exact ⟨.inr, fun either => either.elim (fun empty => by simp [empty]) id⟩
  constructor
  · rintro ⟨ranges, _⟩ endsFull
    obtain ⟨stem, rfl⟩ := List.getLast?_eq_some_iff.mp endsFull
    -- a bound of the stem is itself a key of the range
    cases found : prefixUpperBound stem with
    | none =>
        intro byte member
        rcases List.mem_append.mp member with inStem | isLast
        · exact prefixUpperBound_eq_none_iff.mp found byte inStem
        · exact List.mem_singleton.mp isLast
    | some earlier =>
        have bounded :
            prefixUpperBound (stem ++ [0xFF]) = some (earlier ++ [0xFF]) := by
          rw [prefixUpperBound_append_full, found]
          rfl
        obtain ⟨sameLength, covers⟩ := prefixUpperBound_covers found
        have shorter : earlier < earlier ++ [0xFF] := by
          have below : earlier ++ [] < earlier ++ [0xFF] :=
            List.Lex.append_left _ List.Lex.nil earlier
          rwa [List.append_nil] at below
        have extending :=
          ((ranges _ bounded earlier).mp ⟨(covers [0xFF]).le, shorter⟩).length_le
        simp [sameLength] at extending
  · intro exact_
    refine ⟨fun stop bounded key => ?_, unbounded⟩
    rcases List.eq_nil_or_concat leading with rfl | ⟨stem, last, rfl⟩
    · cases bounded
    · have below : last < 0xFF := by
        by_contra notBelow
        cases eq_full_of_not_lt notBelow
        have none_ := prefixUpperBound_eq_none_iff.mpr (exact_ (by simp))
        rw [bounded] at none_
        cases none_
      rw [List.concat_eq_append, prefixUpperBound_append stem below] at bounded
      cases bounded
      rw [List.concat_eq_append]
      exact (stem_iff_between (covBy_succ below)).symm

/-- The bound `02 FF` of the prefix `01 FF` lets `02` into the range. -/
theorem trailing_full_byte_not_exact : ¬ HasExactBound [0x01, 0xFF] := by
  rintro ⟨ranges, _⟩
  have extending :=
    (ranges [0x02, 0xFF] (by decide) [0x02]).mp ⟨by decide, by decide⟩
  exact absurd extending (by decide)

/-- The range up to the bound of a `!`-terminated prefix is the prefix. -/
theorem bang_range_iff
    {stem key : Bytes} :
    stem ++ [bang] ≤ key ∧ key < stem ++ [bang + 1] ↔
      stem ++ [bang] <+: key :=
  (stem_iff_between (covBy_succ (by decide))).symm

/-- A name that the identifier grammar admits contains no `!`. -/
def BangFree (name : String) : Prop :=
  '!' ∉ name.toList

instance (name : String) : Decidable (BangFree name) :=
  inferInstanceAs (Decidable ('!' ∉ name.toList))

/-- A byte with its high bit set is not `!`. -/
theorem bang_ne_ofNat
    {value : Nat}
    (high : 128 ≤ value % 256) :
    bang ≠ UInt8.ofNat value := by
  intro same
  have read := congrArg UInt8.toNat same
  rw [UInt8.toNat_ofNat'] at read
  have bytes : bang.toNat = 33 := rfl
  omega

/-- The byte `!` occurs in a character's encoding only for `!` itself. -/
theorem eq_bang_of_mem_utf8EncodeChar
    {character : Char}
    (member : bang ∈ String.utf8EncodeChar character) :
    character = '!' := by
  simp only [String.utf8EncodeChar] at member
  split at member
  · rename_i ascii
    have same : bang = UInt8.ofNat character.val.toNat := by
      simpa using member
    have read := congrArg UInt8.toNat same
    rw [UInt8.toNat_ofNat', Nat.mod_eq_of_lt (by omega)] at read
    exact Char.ext (UInt32.toNat_inj.mp read.symm)
  · exfalso
    -- every byte of a longer encoding has its high bit set
    split at member
    · simp only [List.mem_cons, List.not_mem_nil, or_false] at member
      rcases member with same | same
      · exact bang_ne_ofNat (by omega) same
      · exact bang_ne_ofNat (by omega) same
    · split at member
      · simp only [List.mem_cons, List.not_mem_nil, or_false] at member
        rcases member with same | same | same
        · exact bang_ne_ofNat (by omega) same
        · exact bang_ne_ofNat (by omega) same
        · exact bang_ne_ofNat (by omega) same
      · simp only [List.mem_cons, List.not_mem_nil, or_false] at member
        rcases member with same | same | same | same
        · exact bang_ne_ofNat (by omega) same
        · exact bang_ne_ofNat (by omega) same
        · exact bang_ne_ofNat (by omega) same
        · exact bang_ne_ofNat (by omega) same

/-- The bytes of a string are its characters' encodings in order. -/
theorem utf8_eq_flatMap (text : String) :
    utf8 text = text.toList.flatMap String.utf8EncodeChar := by
  rw [utf8, ← String.utf8Encode_toList, List.utf8Encode]
  simp

/-- A name without `!` has no such byte. -/
theorem bang_notMem_utf8
    {name : String}
    (free : BangFree name) :
    bang ∉ utf8 name := by
  intro member
  rw [utf8_eq_flatMap, List.mem_flatMap] at member
  obtain ⟨character, occurs, inside⟩ := member
  rw [eq_bang_of_mem_utf8EncodeChar inside] at occurs
  exact free occurs

/-- Strings with equal bytes are equal. -/
theorem utf8_injective : Function.Injective utf8 := by
  intro first second same
  have decoded := congrArg fromUtf8? same
  simpa [fromUtf8?_utf8] using decoded

/-! ## The part codec -/

/-- Key parts whose length fits the two-byte field. -/
def PartsFit (parts : List Bytes) : Prop :=
  ∀ part ∈ parts, part.length ≤ 65535

instance (parts : List Bytes) : Decidable (PartsFit parts) :=
  inferInstanceAs (Decidable (∀ part ∈ parts, part.length ≤ 65535))

/-- Encoding distributes over concatenation of part lists. -/
theorem encodeKey_append (first second : List Bytes) :
    encodeKey (first ++ second) = encodeKey first ++ encodeKey second := by
  induction first with
  | nil =>
      rfl
  | cons part rest inductionHypothesis =>
      simp [encodeKey, inductionHypothesis]

/-- A part's length field reads back as its length. -/
theorem ofBe_length_field
    {part : Bytes}
    (fits : part.length ≤ 65535) :
    ofBe (toBe 2 part.length) = part.length :=
  ofBe_toBe_of_lt (by omega)

/-- Equal encodings of bounded heads split into equal heads and tails. -/
theorem encodePart_append_inj
    {first second firstRest secondRest : Bytes}
    (firstFits : first.length ≤ 65535)
    (secondFits : second.length ≤ 65535)
    (same :
      toBe 2 first.length ++ first ++ firstRest =
        toBe 2 second.length ++ second ++ secondRest) :
    first = second ∧ firstRest = secondRest := by
  rw [List.append_assoc, List.append_assoc] at same
  obtain ⟨fields, bodies⟩ := List.append_inj same (by simp)
  have lengths : first.length = second.length := by
    rw [← ofBe_length_field firstFits, ← ofBe_length_field secondFits,
      fields]
  exact List.append_inj bodies lengths

/-- The part codec is prefix-free part by part. -/
theorem encodeKey_prefix_iff
    {first second : List Bytes}
    (firstFits : PartsFit first)
    (secondFits : PartsFit second) :
    encodeKey first <+: encodeKey second ↔ first <+: second := by
  constructor
  · intro below
    induction first generalizing second with
    | nil =>
        exact List.nil_prefix
    | cons part rest inductionHypothesis =>
        obtain ⟨remaining, shape⟩ := below
        cases second with
        | nil =>
            simp [encodeKey, toBe] at shape
        | cons otherPart otherRest =>
            have partFits := firstFits part (by simp)
            have otherFits := secondFits otherPart (by simp)
            simp only [encodeKey, List.append_assoc] at shape
            have parts :
                part = otherPart ∧
                  encodeKey rest ++ remaining = encodeKey otherRest :=
              encodePart_append_inj partFits otherFits
                (by simpa using shape)
            obtain ⟨rfl, tails⟩ := parts
            have restFits : PartsFit rest :=
              fun later member => firstFits later (by simp [member])
            have otherRestFits : PartsFit otherRest :=
              fun later member => secondFits later (by simp [member])
            have tail : rest <+: otherRest :=
              inductionHypothesis restFits otherRestFits
                ⟨remaining, tails⟩
            simpa using tail
  · rintro ⟨remaining, rfl⟩
    rw [encodeKey_append]
    exact List.prefix_append _ _

/-- Bounded part lists with equal encodings are equal. -/
theorem encodeKey_injective
    {first second : List Bytes}
    (firstFits : PartsFit first)
    (secondFits : PartsFit second)
    (same : encodeKey first = encodeKey second) :
    first = second := by
  have forward : first <+: second :=
    (encodeKey_prefix_iff firstFits secondFits).mp (same ▸ List.prefix_rfl)
  have backward : second <+: first :=
    (encodeKey_prefix_iff secondFits firstFits).mp (same ▸ List.prefix_rfl)
  exact forward.eq_of_length_le backward.length_le

/-- With enough rounds, bounded parts are decoded exactly. -/
theorem decodeParts_encodeKey
    {parts : List Bytes}
    (fits : PartsFit parts)
    {rounds : Nat}
    (enough : (encodeKey parts).length ≤ rounds) :
    decodeParts rounds (encodeKey parts) = .ok parts := by
  induction parts generalizing rounds with
  | nil =>
      cases rounds <;> rfl
  | cons part rest inductionHypothesis =>
      have partFits := fits part (by simp)
      have lengths :
          (encodeKey (part :: rest)).length =
            2 + part.length + (encodeKey rest).length := by
        simp [encodeKey]
        omega
      cases rounds with
      | zero =>
          omega
      | succ rounds =>
          have field :
              ofBe (slice (encodeKey (part :: rest)) 0 2) =
                part.length := by
            have bytes :
                slice (encodeKey (part :: rest)) 0 2 =
                  toBe 2 part.length := by
              simp [slice, encodeKey]
            rw [bytes, ofBe_length_field partFits]
          have body :
              slice (encodeKey (part :: rest)) 2 part.length = part := by
            simpa [encodeKey] using
              slice_append (toBe 2 part.length) part (encodeKey rest)
          have tail :
              (encodeKey (part :: rest)).drop (2 + part.length) =
                encodeKey rest := by
            rw [encodeKey]
            apply List.drop_left'
            simp
          have later :
              decodeParts rounds (encodeKey rest) = .ok rest :=
            inductionHypothesis
              (fun later member => fits later (by simp [member]))
              (by omega)
          have nonempty : encodeKey (part :: rest) ≠ [] := by
            intro empty
            rw [empty] at lengths
            simp at lengths
            omega
          unfold decodeParts
          split
          · contradiction
          · contradiction
          · rename_i same _
            cases same
            rw [if_neg (by omega), field, if_neg (by omega), tail, later,
              body]
            rfl

/-- Bytes that decode to parts are the encoding of these parts. -/
theorem decodeParts_eq_ok
    {rounds : Nat}
    {rest : Bytes}
    {parts : List Bytes}
    (decoded : decodeParts rounds rest = .ok parts) :
    rest = encodeKey parts := by
  induction rounds generalizing rest parts with
  | zero =>
      cases rest with
      | nil =>
          cases decoded
          rfl
      | cons byte rest =>
          cases decoded
  | succ rounds inductionHypothesis =>
      cases rest with
      | nil =>
          cases decoded
          rfl
      | cons byte rest =>
          rw [decodeParts] at decoded
          · generalize byte :: rest = data at decoded
            split at decoded
            · cases decoded
            · rename_i twoBytes
              dsimp only at decoded
              split at decoded
              · cases decoded
              · rename_i enough
                obtain ⟨later, decodedLater, same⟩ :=
                  Fallible.bind_eq_ok.mp decoded
                cases same
                have field :
                    toBe 2 (slice data 2 (ofBe (slice data 0 2))).length =
                      data.take 2 := by
                  rw [length_slice (by omega)]
                  exact toBe_ofBe_slice (by omega)
                rw [encodeKey, field, ← inductionHypothesis decodedLater,
                  List.append_assoc, slice, ← List.drop_drop,
                  List.take_append_drop, List.take_append_drop]
          · simp

/-- Decoding what follows a prefix returns the parts it encodes. -/
theorem decodeKeyData_append
    (leading : Bytes)
    {parts : List Bytes}
    (fits : PartsFit parts) :
    decodeKeyData leading (leading ++ encodeKey parts) = .ok parts := by
  have under : leading.isPrefixOf (leading ++ encodeKey parts) = true :=
    List.isPrefixOf_iff_prefix.mpr (List.prefix_append _ _)
  rw [decodeKeyData, if_pos under, List.drop_left]
  exact decodeParts_encodeKey fits le_rfl

/-- A key that decodes is its prefix followed by the encoded parts. -/
theorem decodeKeyData_eq_ok
    {leading key : Bytes}
    {parts : List Bytes}
    (decoded : decodeKeyData leading key = .ok parts) :
    key = leading ++ encodeKey parts := by
  rw [decodeKeyData] at decoded
  split at decoded
  · rename_i under
    obtain ⟨rest, rfl⟩ := List.isPrefixOf_iff_prefix.mp under
    rw [List.drop_left] at decoded
    rw [decodeParts_eq_ok decoded]
  · cases decoded

/-- Decoding a table's row key returns the parts it was built from. -/
theorem decodeKey_rowKey
    (keyspace table : String)
    {parts : List Bytes}
    (fits : PartsFit parts) :
    decodeKey keyspace table (rowKey keyspace table parts) = .ok parts :=
  decodeKeyData_append (dataPrefix keyspace table) fits

/--
The key codec is a bijection between bounded part lists and the keys that
decode, and it keeps and reflects prefixes.
-/
theorem key_codec_bijective (leading : Bytes) :
    (∀ parts,
      PartsFit parts →
      decodeKeyData leading (leading ++ encodeKey parts) = .ok parts) ∧
    (∀ key parts,
      decodeKeyData leading key = .ok parts →
      key = leading ++ encodeKey parts) ∧
    (∀ first second,
      PartsFit first →
      PartsFit second →
      (encodeKey first <+: encodeKey second ↔ first <+: second)) :=
  ⟨fun _ fits => decodeKeyData_append leading fits,
    fun _ _ decoded => decodeKeyData_eq_ok decoded,
    fun _ _ firstFits secondFits => encodeKey_prefix_iff firstFits secondFits⟩

/-- The codec on two parts behind the prefix `!`, one of them empty. -/
theorem key_codec_bijective_two_parts :
    decodeKeyData [bang] ([bang] ++ encodeKey [[7], []]) = .ok [[7], []] ∧
      (encodeKey [[7]] <+: encodeKey [[7], []] ↔
        [[7]] <+: ([[7], []] : List Bytes)) :=
  ⟨(key_codec_bijective [bang]).1 _ (by decide),
    (key_codec_bijective [bang]).2.2 _ _ (by decide) (by decide)⟩

/-! ## Tables and rows as key ranges -/

/-- A table name pair that the grammar can produce. -/
structure TableName where
  keyspace : String
  table : String
  keyspaceFree : BangFree keyspace
  tableFree : BangFree table
  deriving DecidableEq

/-- The address of one row: its table and its encodable key parts. -/
structure RowAddress extends TableName where
  keyParts : List Bytes
  nonempty : keyParts ≠ []
  fits : PartsFit keyParts
  deriving DecidableEq

namespace TableName

/-- The byte prefix of the table's rows. -/
def dataPrefix (name : TableName) : Bytes :=
  RhydaDB.dataPrefix name.keyspace name.table

/-- Tables are equal when their two names are. -/
theorem ext_names
    {first second : TableName}
    (keyspaces : first.keyspace = second.keyspace)
    (tables : first.table = second.table) :
    first = second := by
  cases first
  cases second
  simp_all

end TableName

namespace RowAddress

/-- The full storage key of the addressed row. -/
def key (address : RowAddress) : Bytes :=
  rowKey address.keyspace address.table address.keyParts

/-- Addresses are equal when their table and key parts are. -/
theorem ext_parts
    {first second : RowAddress}
    (tables : first.toTableName = second.toTableName)
    (parts : first.keyParts = second.keyParts) :
    first = second := by
  cases first
  cases second
  simp_all

end RowAddress

/-- A `!`-terminated name at the front of a string is determined by it. -/
theorem name_prefix_iff
    {first second : String}
    (firstFree : BangFree first)
    (secondFree : BangFree second)
    {rest otherRest : Bytes} :
    utf8 first ++ bang :: rest <+: utf8 second ++ bang :: otherRest ↔
      first = second ∧ rest <+: otherRest := by
  constructor
  · rintro ⟨remaining, shape⟩
    have split :
        utf8 first ++ bang :: (rest ++ remaining) =
          utf8 second ++ bang :: otherRest := by
      simpa using shape
    rw [List.append_eq_append_iff] at split
    rcases split with
        ⟨middle, names, tails⟩ | ⟨middle, names, tails⟩
    · cases middle with
      | nil =>
          simp only [List.append_nil, List.nil_append,
            List.cons.injEq, true_and] at names tails
          exact ⟨(utf8_injective names).symm, ⟨remaining, tails⟩⟩
      | cons byte middle =>
          simp only [List.cons_append, List.cons.injEq] at tails
          have inside : bang ∈ utf8 second := by
            rw [names, ← tails.1]
            simp
          exact absurd inside (bang_notMem_utf8 secondFree)
    · cases middle with
      | nil =>
          simp only [List.append_nil, List.nil_append,
            List.cons.injEq, true_and] at names tails
          exact ⟨utf8_injective names, ⟨remaining, tails.symm⟩⟩
      | cons byte middle =>
          simp only [List.cons_append, List.cons.injEq] at tails
          have inside : bang ∈ utf8 first := by
            rw [names, ← tails.1]
            simp
          exact absurd inside (bang_notMem_utf8 firstFree)
  · rintro ⟨rfl, below⟩
    rw [List.prefix_append_right_inj, List.cons_prefix_cons]
    exact ⟨rfl, below⟩

/-- Being under a keyspace's prefix is belonging to the keyspace. -/
theorem keyspaceDataPrefix_prefix_key_iff
    {keyspace : String}
    (free : BangFree keyspace)
    (address : RowAddress) :
    keyspaceDataPrefix keyspace <+: address.key ↔
      keyspace = address.keyspace := by
  have shape :
      address.key =
        dtPrefix ++ (utf8 address.keyspace ++
          bang :: (utf8 address.table ++
            bang :: encodeKey address.keyParts)) := by
    simp [RowAddress.key, rowKey, dataPrefix]
  have stem :
      keyspaceDataPrefix keyspace =
        dtPrefix ++ (utf8 keyspace ++ bang :: []) := by
    simp [keyspaceDataPrefix]
  rw [shape, stem, List.prefix_append_right_inj,
    name_prefix_iff free address.keyspaceFree]
  simp

/-- Extending a table's prefix by a part list is lying in that partition. -/
theorem partition_prefix_key_iff
    {name : TableName}
    {parts : List Bytes}
    (fits : PartsFit parts)
    (address : RowAddress) :
    name.dataPrefix ++ encodeKey parts <+: address.key ↔
      name = address.toTableName ∧ parts <+: address.keyParts := by
  have shape :
      address.key =
        dtPrefix ++ (utf8 address.keyspace ++
          bang :: (utf8 address.table ++
            bang :: encodeKey address.keyParts)) := by
    simp [RowAddress.key, rowKey, dataPrefix]
  have stem :
      name.dataPrefix ++ encodeKey parts =
        dtPrefix ++ (utf8 name.keyspace ++
          bang :: (utf8 name.table ++ bang :: encodeKey parts)) := by
    simp [TableName.dataPrefix, dataPrefix]
  rw [shape, stem, List.prefix_append_right_inj,
    name_prefix_iff name.keyspaceFree address.keyspaceFree,
    name_prefix_iff name.tableFree address.tableFree,
    encodeKey_prefix_iff fits address.fits]
  constructor
  · rintro ⟨keyspaces, tables, below⟩
    exact ⟨TableName.ext_names keyspaces tables, below⟩
  · rintro ⟨rfl, below⟩
    exact ⟨rfl, rfl, below⟩

/-- Being under a table's prefix is belonging to the table. -/
theorem dataPrefix_prefix_key_iff
    (name : TableName)
    (address : RowAddress) :
    name.dataPrefix <+: address.key ↔ name = address.toTableName := by
  have whole : PartsFit [] := by
    simp [PartsFit]
  have below :
      name.dataPrefix ++ encodeKey [] <+: address.key ↔
        name = address.toTableName ∧ [] <+: address.keyParts :=
    partition_prefix_key_iff whole address
  simpa [encodeKey] using below

/-- Distinct rows have distinct keys. -/
theorem RowAddress.key_injective :
    Function.Injective RowAddress.key := by
  intro first second same
  have below :
      first.toTableName.dataPrefix ++ encodeKey first.keyParts <+:
        second.key := by
    rw [← same]
    exact List.prefix_rfl
  obtain ⟨tables, _⟩ := (partition_prefix_key_iff first.fits second).mp below
  refine RowAddress.ext_parts tables
    (encodeKey_injective first.fits second.fits ?_)
  have bytes :
      second.toTableName.dataPrefix ++ encodeKey first.keyParts =
        second.toTableName.dataPrefix ++ encodeKey second.keyParts := by
    rw [← tables]
    simpa [RowAddress.key, rowKey, TableName.dataPrefix, ← tables] using same
  exact List.append_cancel_left bytes

end RhydaDB
