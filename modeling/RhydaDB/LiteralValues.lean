import RhydaDB.CanonicalEncodings
import RhydaDB.CqlLiteral

namespace RhydaDB

open ByteStrings

/-!
# Literals and bind values

A value can be written into a statement or bound to a marker.  Each scalar type
but the floats has literals of its own in the grammar.  They are read back as
the value that the bound bytes are decoded to, except for addresses: the quotes
that the grammar demands around them are not taken off.
-/

/-! ## The literals of a value -/

/-- The number that decimal digits stand for. -/
def decimalValue (digits : List Char) : Nat :=
  digits.foldl (fun total char => total * 10 + (char.toNat - '0'.toNat)) 0

/-- A decimal literal of a number: digits behind an optional minus. -/
def DecimalLiteral (number : Int) (text : List Char) : Prop :=
  ∃ digits : List Char,
    digits ≠ [] ∧
      (∀ char ∈ digits, '0' ≤ char ∧ char ≤ '9') ∧
      (text = digits ∧ number = decimalValue digits ∨
        text = '-' :: digits ∧ number = -decimalValue digits)

/-- The value of a hexadecimal digit, in either case. -/
def hexDigitValue (char : Char) : Option Nat :=
  if '0' ≤ char ∧ char ≤ '9' then
    some (char.toNat - '0'.toNat)
  else if 'a' ≤ char ∧ char ≤ 'f' then
    some (char.toNat - 'a'.toNat + 10)
  else if 'A' ≤ char ∧ char ≤ 'F' then
    some (char.toNat - 'A'.toNat + 10)
  else
    none

/-- Two hexadecimal digits for each byte. -/
inductive HexPairs : List Char → Bytes → Prop
  | nil :
      HexPairs [] []
  | cons
      {high low : Char}
      {highValue lowValue : Nat}
      {digits : List Char}
      {bytes : Bytes}
      (highRead : hexDigitValue high = some highValue)
      (lowRead : hexDigitValue low = some lowValue)
      (rest : HexPairs digits bytes) :
      HexPairs (high :: low :: digits)
        (UInt8.ofNat (16 * highValue + lowValue) :: bytes)

/-- Decoding reads two hexadecimal digits, in either case, for each byte. -/
def HexDecode.ReadsPairs (hexDecode : HexDecode) : Prop :=
  ∀ digits bytes,
    HexPairs digits bytes →
    hexDecode (String.ofList digits) = some bytes

/-- A character of a string literal. -/
def doubleQuote (char : Char) : List Char :=
  if char = '\'' then ['\'', '\''] else [char]

/-- The contents of a string literal between its quotes. -/
def quoted (contents : List Char) : List Char :=
  '\'' :: (contents ++ ['\''])

/-- Hexadecimal digits in groups of eight, four, four, four and twelve. -/
def Hyphenated (digits text : List Char) : Prop :=
  ∃ first second third fourth last : List Char,
    first.length = 8 ∧
      second.length = 4 ∧
      third.length = 4 ∧
      fourth.length = 4 ∧
      last.length = 12 ∧
      digits = first ++ second ++ third ++ fourth ++ last ∧
      text =
        first ++ '-' :: (second ++ '-' :: (third ++ '-' :: (fourth ++
          '-' :: last)))

/-- The literals of a scalar value, other than a float, in the grammar. -/
def LiteralOf : Value → List Char → Prop
  | .int value, text =>
      DecimalLiteral value.toInt text
  | .bigInt value, text =>
      DecimalLiteral value.toInt text
  | .smallInt value, text =>
      DecimalLiteral value.toInt text
  | .tinyInt value, text =>
      DecimalLiteral value.toInt text
  | .timestamp value, text =>
      DecimalLiteral value.toInt text
  | .boolean value, text =>
      text.map Char.toUpper =
        if value then ['T', 'R', 'U', 'E'] else ['F', 'A', 'L', 'S', 'E']
  | .text value, text =>
      text = quoted (value.toList.flatMap doubleQuote)
  | .blob value, text =>
      value ≠ [] ∧
        ∃ digits,
          HexPairs digits value ∧
            (text = '0' :: 'x' :: digits ∨ text = '0' :: 'X' :: digits)
  | .uuid value, text =>
      ∃ digits, HexPairs digits value.toList ∧ Hyphenated digits text
  | .inet value, text =>
      ∃ address, parseIpAddr address = some value ∧ text = quoted address
  | _, _ =>
      False

/-! ## Trimming -/

/-- Nothing is dropped where the first character stays. -/
theorem dropWhile_of_head
    {matching : Char → Bool}
    {first : Char}
    {rest : List Char}
    (kept : matching first = false) :
    (first :: rest).dropWhile matching = first :: rest := by
  rw [List.dropWhile_cons, kept]
  rfl

/-- Nothing is dropped at the end where the last character stays. -/
theorem trimEnd_of_last
    {matching : Char → Bool}
    {front : List Char}
    {last : Char}
    (kept : matching last = false) :
    trimEnd matching (front ++ [last]) = front ++ [last] := by
  rw [trimEnd, List.reverse_append, List.reverse_singleton,
    List.singleton_append, dropWhile_of_head kept]
  simp

/-- A text whose ends stay is not trimmed. -/
theorem trimmed_of_ends
    {matching : Char → Bool}
    {text : List Char}
    (headKept : ∀ char, text.head? = some char → matching char = false)
    (lastKept : ∀ char, text.getLast? = some char → matching char = false) :
    trimEnd matching (text.dropWhile matching) = text := by
  cases text with
  | nil =>
      rfl
  | cons first rest =>
      have shape := List.dropLast_append_getLast (List.cons_ne_nil first rest)
      have last := lastKept _ (List.getLast?_eq_getLast_of_ne_nil (List.cons_ne_nil first rest))
      rw [dropWhile_of_head (headKept first rfl), ← shape]
      exact trimEnd_of_last last

/-- A text all of whose characters stay is not trimmed. -/
theorem trimmed_of_all
    {matching : Char → Bool}
    {text : List Char}
    (kept : ∀ char ∈ text, matching char = false) :
    trimEnd matching (text.dropWhile matching) = text :=
  trimmed_of_ends (fun char first => kept char (List.mem_of_mem_head? first))
    fun char last => kept char (List.mem_of_getLast? last)

/-- Quotes at both ends protect white space from being trimmed. -/
theorem trim_quoted (contents : List Char) :
    trim (quoted contents) = quoted contents := by
  apply trimmed_of_ends
  · intro char first
    cases first
    decide
  · intro char last
    rw [quoted, ← List.cons_append, List.getLast?_concat] at last
    cases last
    decide

/-! ## Strings -/

/-- A character other than a quote is kept. -/
theorem undoubleQuotes_cons
    {char : Char}
    (other : char ≠ '\'')
    (rest : List Char) :
    undoubleQuotes (char :: rest) = char :: undoubleQuotes rest := by
  conv_lhs => unfold undoubleQuotes
  split
  · rename_i same
    simp only [List.cons.injEq] at same
    exact absurd same.1 other
  · rename_i same
    cases same
    rfl
  · rename_i same
    cases same

/-- Doubled quotes are read as the quotes they stand for. -/
theorem undoubleQuotes_flatMap (text : List Char) :
    undoubleQuotes (text.flatMap doubleQuote) = text := by
  induction text with
  | nil =>
      rfl
  | cons char rest inductionHypothesis =>
      rw [List.flatMap_cons, doubleQuote]
      split
      · rename_i quote
        subst quote
        simp [undoubleQuotes, inductionHypothesis]
      · rename_i other
        rw [List.singleton_append, undoubleQuotes_cons other,
          inductionHypothesis]

/-- A quoted string is read as its contents. -/
theorem unescapeString_quoted (text : List Char) :
    unescapeString (quoted (text.flatMap doubleQuote)) = text := by
  unfold unescapeString
  rw [trim_quoted]
  simp only [quoted, List.getLast?_concat, List.dropLast_concat]
  exact undoubleQuotes_flatMap text

/-! ## Numbers -/

/-- A decimal digit has the value that it stands for. -/
theorem digitValue_ten
    {char : Char}
    (digit : '0' ≤ char ∧ char ≤ '9') :
    digitValue 10 char = some (char.toNat - '0'.toNat) := by
  have bounds : '0'.toNat ≤ char.toNat ∧ char.toNat ≤ '9'.toNat := digit
  have zero : '0'.toNat = 48 := rfl
  have nine : '9'.toNat = 57 := rfl
  rw [digitValue, if_pos digit, if_pos (by omega)]

/-- Decimal digits are read as the number that they stand for. -/
theorem parseDigits_decimal
    {digits : List Char}
    (nonempty : digits ≠ [])
    (all : ∀ char ∈ digits, '0' ≤ char ∧ char ≤ '9') :
    parseDigits 10 digits = some (decimalValue digits) := by
  have from_ :
      ∀ total,
        digits.foldl
            (fun total char => do
              return (← total) * 10 + (← digitValue 10 char))
            (some total) =
          some (digits.foldl
            (fun total char => total * 10 + (char.toNat - '0'.toNat)) total) := by
    clear nonempty
    induction digits with
    | nil =>
        intro total
        rfl
    | cons char rest inductionHypothesis =>
        intro total
        have first := digitValue_ten (all char (by simp))
        have later := inductionHypothesis fun char member =>
          all char (by simp [member])
        rw [List.foldl_cons, List.foldl_cons, ← later, first]
        rfl
  cases digits with
  | nil =>
      exact absurd rfl nonempty
  | cons char rest =>
      exact from_ 0

/-- Decimal digits are not white space. -/
theorem isWhitespace_digit
    {char : Char}
    (digit : '0' ≤ char ∧ char ≤ '9') :
    isWhitespace char = false := by
  have bounds : '0'.toNat ≤ char.toNat ∧ char.toNat ≤ '9'.toNat := digit
  have zero : '0'.toNat = 48 := rfl
  have nine : '9'.toNat = 57 := rfl
  simp only [isWhitespace, Bool.or_eq_false_iff, Bool.and_eq_false_iff,
    decide_eq_false_iff_not, beq_eq_false_iff_ne]
  omega

/-- A decimal literal is not trimmed. -/
theorem DecimalLiteral.trim_eq
    {number : Int}
    {text : List Char}
    (literal : DecimalLiteral number text) :
    trim text = text := by
  obtain ⟨digits, _, all, shape⟩ := literal
  apply trimmed_of_all
  rcases shape with ⟨rfl, _⟩ | ⟨rfl, _⟩
  · intro char member
    exact isWhitespace_digit (all char member)
  · intro char member
    rcases List.mem_cons.mp member with rfl | later
    · decide
    · exact isWhitespace_digit (all char later)

/-- Digits have no sign in front. -/
theorem splitSign_digits
    {digits : List Char}
    (all : ∀ char ∈ digits, '0' ≤ char ∧ char ≤ '9') :
    splitSign digits = (false, digits) := by
  unfold splitSign
  split
  · exact absurd (all '-' (by simp)) (by decide)
  · exact absurd (all '+' (by simp)) (by decide)
  · rfl

/-- A decimal literal is read as the number that it stands for, if that fits. -/
theorem DecimalLiteral.parseSigned_eq
    {number : Int}
    {text : List Char}
    (literal : DecimalLiteral number text)
    (bits : Nat)
    (fits : -2 ^ (bits - 1) ≤ number ∧ number < 2 ^ (bits - 1)) :
    parseSigned bits text = some number := by
  obtain ⟨digits, nonempty, all, shape⟩ := literal
  have read := parseDigits_decimal nonempty all
  rcases shape with ⟨rfl, rfl⟩ | ⟨rfl, rfl⟩
  · unfold parseSigned
    rw [splitSign_digits all]
    simp only [read, Option.bind_eq_bind, Option.bind_some]
    exact if_pos fits
  · unfold parseSigned splitSign
    simp only [read, Option.bind_eq_bind, Option.bind_some]
    exact if_pos fits

/-! ## Booleans -/

/-- White space has no other case. -/
theorem isWhitespace_toUpper
    {char : Char}
    (white : isWhitespace char = true) :
    char.toUpper = char := by
  rw [Char.toUpper]
  split
  · rename_i lower
    have low : 97 ≤ char.toNat ∧ char.toNat ≤ 122 := by
      simpa [UInt32.le_iff_toNat_le] using lower
    simp only [isWhitespace, Bool.or_eq_true, Bool.and_eq_true,
      decide_eq_true_eq, beq_iff_eq] at white
    omega
  · rfl

/-- A spelling of a name without white space is not trimmed. -/
theorem trim_of_toUpper
    {text name : List Char}
    (spelled : text.map Char.toUpper = name)
    (solid : ∀ char ∈ name, isWhitespace char = false) :
    trim text = text := by
  apply trimmed_of_all
  intro char member
  by_contra white
  rw [Bool.not_eq_false] at white
  have upper : char.toUpper ∈ name :=
    spelled ▸ List.mem_map_of_mem member
  rw [isWhitespace_toUpper white] at upper
  rw [solid char upper] at white
  cases white

/-- The long s does not occur in a spelling of an ASCII name. -/
theorem map_upperBooleanChar
    {text name : List Char}
    (spelled : text.map Char.toUpper = name)
    (ascii : 'ſ' ∉ name) :
    text.map upperBooleanChar = name := by
  rw [← spelled]
  apply List.map_congr_left
  intro char member
  rw [upperBooleanChar]
  split
  · rename_i long
    subst long
    have upper : Char.toUpper 'ſ' ∈ name :=
      spelled ▸ List.mem_map_of_mem member
    exact absurd upper ascii
  · rfl

/-! ## Hexadecimal digits -/

/-- A hexadecimal digit is an ASCII letter or digit. -/
theorem hexDigitValue_range
    {char : Char}
    {value : Nat}
    (read : hexDigitValue char = some value) :
    48 ≤ char.toNat ∧ char.toNat ≤ 57 ∨
      97 ≤ char.toNat ∧ char.toNat ≤ 102 ∨
      65 ≤ char.toNat ∧ char.toNat ≤ 70 := by
  unfold hexDigitValue at read
  split at read
  · rename_i range
    exact .inl range
  · split at read
    · rename_i range
      exact .inr (.inl range)
    · split at read
      · rename_i range
        exact .inr (.inr range)
      · cases read

/-- A hexadecimal digit is neither white space nor a quote nor a hyphen. -/
theorem hexDigitValue_solid
    {char : Char}
    {value : Nat}
    (read : hexDigitValue char = some value) :
    isWhitespace char = false ∧ char ≠ '\'' ∧ char ≠ '-' ∧ char.utf8Size = 1 := by
  have range := hexDigitValue_range read
  refine ⟨?_, ?_, ?_, ?_⟩
  · simp only [isWhitespace, Bool.or_eq_false_iff, Bool.and_eq_false_iff,
      decide_eq_false_iff_not, beq_eq_false_iff_ne]
    omega
  · rintro rfl
    have code : '\''.toNat = 39 := rfl
    omega
  · rintro rfl
    have code : '-'.toNat = 45 := rfl
    omega
  · rw [Char.utf8Size_eq_one_iff, UInt32.le_iff_toNat_le]
    have small : char.toNat ≤ 127 := by
      omega
    exact small

/-- All characters of hexadecimal pairs are hexadecimal digits. -/
theorem HexPairs.digits
    {digits : List Char}
    {bytes : Bytes}
    (pairs : HexPairs digits bytes) :
    ∀ char ∈ digits, ∃ value, hexDigitValue char = some value := by
  induction pairs with
  | nil =>
      simp
  | cons highRead lowRead _ inductionHypothesis =>
      intro char member
      rcases List.mem_cons.mp member with rfl | member
      · exact ⟨_, highRead⟩
      · rcases List.mem_cons.mp member with rfl | member
        · exact ⟨_, lowRead⟩
        · exact inductionHypothesis char member

/-- Hexadecimal digits take one byte each. -/
theorem length_utf8_hex
    {digits : List Char}
    (all : ∀ char ∈ digits, ∃ value, hexDigitValue char = some value) :
    (utf8 (String.ofList digits)).length = digits.length := by
  rw [utf8_eq_flatMap, String.toList_ofList]
  induction digits with
  | nil =>
      rfl
  | cons char rest inductionHypothesis =>
      obtain ⟨value, read⟩ := all char (by simp)
      have width := String.length_utf8EncodeChar char
      rw [(hexDigitValue_solid read).2.2.2] at width
      rw [List.flatMap_cons, List.length_append, width, List.length_cons,
        inductionHypothesis fun char member => all char (by simp [member])]
      omega

/-- A blob literal is read as its bytes. -/
theorem parse_blob
    {hexDecode : HexDecode}
    (reads : hexDecode.ReadsPairs)
    {marker : Char}
    (marked : marker = 'x' ∨ marker = 'X')
    {digits : List Char}
    {bytes : Bytes}
    (pairs : HexPairs digits bytes) :
    hexDecode
        (String.ofList (stripHexMarker (trim ('0' :: marker :: digits)))) =
      some bytes := by
  have solid :
      ∀ char ∈ '0' :: marker :: digits, isWhitespace char = false := by
    intro char member
    rcases List.mem_cons.mp member with rfl | member
    · decide
    · rcases List.mem_cons.mp member with rfl | member
      · rcases marked with rfl | rfl <;> decide
      · obtain ⟨value, read⟩ := pairs.digits char member
        exact (hexDigitValue_solid read).1
  have whole : trim ('0' :: marker :: digits) = '0' :: marker :: digits :=
    trimmed_of_all solid
  rw [whole]
  rcases marked with rfl | rfl
  · exact reads digits bytes pairs
  · exact reads digits bytes pairs

/-- Removing the hyphens of a uuid literal leaves its digits. -/
theorem Hyphenated.filter_eq
    {digits text : List Char}
    (hyphenated : Hyphenated digits text)
    (all : ∀ char ∈ digits, ∃ value, hexDigitValue char = some value) :
    text.filter (· ≠ '-') = digits := by
  obtain ⟨first, second, third, fourth, last, _, _, _, _, _, rfl, rfl⟩ :=
    hyphenated
  have kept :
      ∀ group : List Char,
        (∀ char ∈ group,
          char ∈ first ++ second ++ third ++ fourth ++ last) →
        group.filter (· ≠ '-') = group := by
    intro group inside
    rw [List.filter_eq_self]
    intro char member
    obtain ⟨value, read⟩ := all char (inside char member)
    simpa using (hexDigitValue_solid read).2.2.1
  simp only [List.filter_append, List.filter_cons]
  rw [kept first (by simp +contextual), kept second (by simp +contextual),
    kept third (by simp +contextual), kept fourth (by simp +contextual),
    kept last (by simp +contextual)]
  simp

/-- A uuid literal has digits and hyphens only. -/
theorem Hyphenated.mem
    {digits text : List Char}
    (hyphenated : Hyphenated digits text)
    {char : Char}
    (member : char ∈ text) :
    char = '-' ∨ char ∈ digits := by
  obtain ⟨first, second, third, fourth, last, _, _, _, _, _, rfl, rfl⟩ :=
    hyphenated
  simp only [List.mem_append, List.mem_cons] at member ⊢
  tauto

/-- A uuid literal has thirty-two digits. -/
theorem Hyphenated.length_digits
    {digits text : List Char}
    (hyphenated : Hyphenated digits text) :
    digits.length = 32 := by
  obtain ⟨first, second, third, fourth, last, one, two, three, four, five,
    rfl, _⟩ := hyphenated
  simp only [List.length_append]
  omega

/-- A uuid literal is read as its bytes. -/
theorem parse_uuid
    {hexDecode : HexDecode}
    (reads : hexDecode.ReadsPairs)
    {text : String}
    {digits : List Char}
    {value : List.Vector UInt8 16}
    (pairs : HexPairs digits value.toList)
    (hyphenated : Hyphenated digits text.toList) :
    Value.parseLiteral hexDecode text .uuid = .ok (.uuid value) := by
  have solid :
      ∀ char ∈ text.toList,
        isWhitespace char = false ∧ (char == '\'') = false := by
    intro char member
    rcases hyphenated.mem member with rfl | digit
    · decide
    · obtain ⟨_, read⟩ := pairs.digits char digit
      exact ⟨(hexDigitValue_solid read).1,
        beq_eq_false_iff_ne.mpr (hexDigitValue_solid read).2.1⟩
  have trimmed : trim text.toList = text.toList :=
    trimmed_of_all fun char member => (solid char member).1
  have unquoted :
      trimEnd (· == '\'') (text.toList.dropWhile (· == '\'')) = text.toList :=
    trimmed_of_all fun char member => (solid char member).2
  have width := length_utf8_hex pairs.digits
  rw [hyphenated.length_digits] at width
  have decoded := reads digits value.toList pairs
  have exact_ : value.toList.length = 16 :=
    value.toList_length
  simp only [Value.parseLiteral, trimmed, unquoted,
    hyphenated.filter_eq pairs.digits, width, ne_eq, not_true_eq_false,
    if_false, decoded, exact_, dite_true]
  rfl

/-! ## Addresses -/

/-- A quote is no digit. -/
theorem parseDigits_quote
    (base : Nat)
    (rest : List Char) :
    parseDigits base ('\'' :: rest) = none := by
  have quote : digitValue base '\'' = none := by
    simp [digitValue]
  have stays :
      ∀ chars : List Char,
        chars.foldl
            (fun total char => do
              return (← total) * base + (← digitValue base char))
            none =
          none := by
    intro chars
    induction chars with
    | nil =>
        rfl
    | cons char chars inductionHypothesis =>
        exact inductionHypothesis
  rw [parseDigits, List.foldl_cons, quote]
  · exact stays rest
  · simp

/-- The first field of a text that starts with a quote starts with it too. -/
theorem splitOn_quote
    {separator : Char}
    (other : separator ≠ '\'')
    (rest : List Char) :
    ∃ field fields,
      ('\'' :: rest).splitOn separator = ('\'' :: field) :: fields := by
  rw [List.splitOn, List.splitOnP_cons_eq_if_modifyHead, if_neg (by simpa using other.symm)]
  cases shape : rest.splitOnP (· == separator) with
  | nil =>
      exact absurd shape (List.splitOnP_ne_nil _ _)
  | cons field fields =>
      exact ⟨field, fields, rfl⟩

/-- A quoted text is no IPv4 address. -/
theorem parseIpv4_quote (rest : List Char) : parseIpv4 ('\'' :: rest) = none := by
  obtain ⟨field, fields, shape⟩ :=
    splitOn_quote (show '.' ≠ '\'' by decide) rest
  have octet : parseOctet ('\'' :: field) = none := by
    rw [parseOctet, parseDigits_quote]
    rfl
  rw [parseIpv4, shape]
  simp only [List.mapM_cons, octet]
  split <;> rfl

/-- A quoted text is no group of an IPv6 address. -/
theorem parseGroup_quote (rest : List Char) : parseGroup ('\'' :: rest) = none := by
  rw [parseGroup, parseDigits_quote]
  rfl

/-- A quoted text is no list of groups. -/
theorem parseGroups_quote (rest : List Char) :
    parseGroups ('\'' :: rest) = none := by
  obtain ⟨field, fields, shape⟩ :=
    splitOn_quote (show ':' ≠ '\'' by decide) rest
  rw [parseGroups]
  · simp only [shape]
    cases fields with
    | nil =>
        simp [parseIpv4_quote, parseGroup_quote]
    | cons second others =>
        rw [List.dropLast_cons_of_ne_nil (List.cons_ne_nil second others)]
        simp only [List.mapM_cons, parseGroup_quote]
        split
        · rename_i last _
          cases (parseIpv4 last).or (parseGroup last) <;> rfl
        · rfl
  · simp

/-- A quote in front of an address stays in its first half. -/
theorem splitCompression_quote (rest : List Char) :
    splitCompression ('\'' :: rest) =
      (splitCompression rest).map fun (before, after) =>
        ('\'' :: before, after) := by
  rw [splitCompression]
  simp

/-- A quoted text is no IPv6 address. -/
theorem parseIpv6_quote (rest : List Char) : parseIpv6 ('\'' :: rest) = none := by
  rw [parseIpv6]
  cases compressed : splitCompression ('\'' :: rest) with
  | none =>
      simp [parseGroups_quote]
  | some halves =>
      obtain ⟨before, after⟩ := halves
      rw [splitCompression_quote, Option.map_eq_some_iff] at compressed
      obtain ⟨⟨front, _⟩, _, same⟩ := compressed
      cases same
      simp [parseGroups_quote]

/-- A quoted text is no address. -/
theorem parseIpAddr_quote (rest : List Char) :
    parseIpAddr ('\'' :: rest) = none := by
  rw [parseIpAddr, parseIpv4_quote, parseIpv6_quote]

/-- An address literal is rejected, whatever address it quotes. -/
theorem parse_inet
    (hexDecode : HexDecode)
    {text : String}
    {address : List Char}
    (shape : text.toList = quoted address) :
    ∃ message, Value.parseLiteral hexDecode text .inet = fail message := by
  simp only [Value.parseLiteral, shape, trim_quoted]
  rw [quoted, parseIpAddr_quote]
  exact ⟨_, rfl⟩

/-! ## Both ways to give a value -/

/-- The literal and the bound bytes of a value are both read as the value. -/
def ReadsAlike
    (hexDecode : HexDecode)
    (columnType : ColumnType)
    (value : Value)
    (text : String) :
    Prop :=
  Value.parseLiteral hexDecode text columnType = .ok value ∧
    Value.fromRawBytes value.rawBytes columnType = .ok value

/-- A literal of a type other than inet is read as its value. -/
theorem parseLiteral_literalOf
    {hexDecode : HexDecode}
    (reads : hexDecode.ReadsPairs)
    {columnType : ColumnType}
    (notInet : columnType ≠ .inet)
    {value : Value}
    (typed : value.WellTyped columnType)
    {text : String}
    (literal : LiteralOf value text.toList) :
    Value.parseLiteral hexDecode text columnType = .ok value := by
  cases value with
  | int value =>
      cases columnType <;> try exact typed.elim
      have fits := And.intro value.le_toInt value.toInt_lt
      simp [Value.parseLiteral, literal.trim_eq, literal.parseSigned_eq 32 fits]
  | bigInt value =>
      cases columnType <;> try exact typed.elim
      have fits := And.intro value.le_toInt value.toInt_lt
      simp [Value.parseLiteral, literal.trim_eq, literal.parseSigned_eq 64 fits]
  | smallInt value =>
      cases columnType <;> try exact typed.elim
      have fits := And.intro value.le_toInt value.toInt_lt
      simp [Value.parseLiteral, literal.trim_eq, literal.parseSigned_eq 16 fits]
  | tinyInt value =>
      cases columnType <;> try exact typed.elim
      have fits := And.intro value.le_toInt value.toInt_lt
      simp [Value.parseLiteral, literal.trim_eq, literal.parseSigned_eq 8 fits]
  | timestamp value =>
      cases columnType <;> try exact typed.elim
      have fits := And.intro value.le_toInt value.toInt_lt
      simp [Value.parseLiteral, literal.trim_eq, literal.parseSigned_eq 64 fits]
  | boolean value =>
      cases columnType <;> try exact typed.elim
      cases value with
      | true =>
          simp only [LiteralOf, if_true] at literal
          have trimmed := trim_of_toUpper literal (by simp [isWhitespace])
          have upper := map_upperBooleanChar literal (by simp)
          simp only [Value.parseLiteral, trimmed, upper]
          rfl
      | false =>
          simp only [LiteralOf] at literal
          have trimmed := trim_of_toUpper literal (by simp [isWhitespace])
          have upper := map_upperBooleanChar literal (by simp)
          simp only [Value.parseLiteral, trimmed, upper]
          rfl
  | text value =>
      cases columnType <;> try exact typed.elim
      have shape : text.toList = _ := literal
      simp only [Value.parseLiteral, shape, trim_quoted, unescapeString_quoted]
      rw [String.ofList_toList]
  | blob value =>
      cases columnType <;> try exact typed.elim
      obtain ⟨_, digits, pairs, shape | shape⟩ := literal
      · simp only [Value.parseLiteral, shape,
          parse_blob reads (.inl rfl) pairs]
        rfl
      · simp only [Value.parseLiteral, shape,
          parse_blob reads (.inr rfl) pairs]
        rfl
  | uuid value =>
      cases columnType <;> try exact typed.elim
      obtain ⟨digits, pairs, hyphenated⟩ := literal
      exact parse_uuid reads pairs hyphenated
  | inet value =>
      cases columnType <;> try exact typed.elim
      exact absurd rfl notInet
  | _ =>
      exact literal.elim

/-- Bound bytes that are too many for their length are not read as the value. -/
theorem fromRawBytes_long
    {columnType : ColumnType}
    {value : Value}
    (typed : value.WellTyped columnType)
    {raw : Bytes}
    (long : 2 ^ 31 ≤ raw.length) :
    Value.fromRawBytes raw columnType ≠ .ok value := by
  by_cases nonnegative : raw.length % 2 ^ 32 < 2 ^ 31
  · rw [Value.fromRawBytes_mismatch long nonnegative]
    simp [fail]
  · rw [Value.fromRawBytes_negative (by omega)]
    intro same
    cases same
    exact absurd typed.isNull_eq_false (by decide)

/--
The literals of a value are read like its bound bytes exactly when it is not an
address and its bytes fit their length.
-/
theorem readsAlike_iff
    {hexDecode : HexDecode}
    (reads : hexDecode.ReadsPairs)
    {columnType : ColumnType}
    {value : Value}
    (typed : value.WellTyped columnType)
    {text : String}
    (literal : LiteralOf value text.toList) :
    ReadsAlike hexDecode columnType value text ↔
      columnType ≠ .inet ∧ value.rawBytes.length < 2 ^ 31 := by
  constructor
  · rintro ⟨parsed, decoded⟩
    constructor
    · rintro rfl
      cases value <;> try exact typed.elim
      obtain ⟨address, _, shape⟩ := literal
      obtain ⟨message, rejected⟩ := parse_inet hexDecode shape
      rw [rejected] at parsed
      cases parsed
    · by_contra long
      exact fromRawBytes_long typed (by omega) decoded
  · rintro ⟨notInet, fits⟩
    exact ⟨parseLiteral_literalOf reads notInet typed literal,
      Value.fromRawBytes_rawBytes typed fits⟩

/-- Read hexadecimal digits in pairs; anything else is rejected. -/
def readHexPairs : List Char → Option Bytes
  | [] =>
      some []
  | [_] =>
      none
  | high :: low :: rest => do
      let byte := 16 * (← hexDigitValue high) + (← hexDigitValue low)
      return UInt8.ofNat byte :: (← readHexPairs rest)

/-- A hexadecimal decoder reads pairs of digits. -/
theorem readHexPairs_readsPairs :
    HexDecode.ReadsPairs fun text => readHexPairs text.toList := by
  intro digits bytes pairs
  show readHexPairs (String.ofList digits).toList = some bytes
  rw [String.toList_ofList]
  induction pairs with
  | nil =>
      rfl
  | cons highRead lowRead _ inductionHypothesis =>
      simp [readHexPairs, highRead, lowRead, inductionHypothesis]

/-- A string with white space at its ends and a quote inside. -/
theorem readsAlike_quoted_text :
    ReadsAlike (fun text => readHexPairs text.toList) .text
      (.text " it's ") "' it''s '" := by
  refine (readsAlike_iff readHexPairs_readsPairs ?_ ?_).mpr ⟨?_, ?_⟩
  · trivial
  · show "' it''s '".toList = quoted (" it's ".toList.flatMap doubleQuote)
    decide +kernel
  · decide
  · decide +kernel

/--
The local address: its literal is rejected for the quotes around it, its four
bytes are accepted.
-/
theorem quoted_address_rejected :
    LiteralOf (.inet (.v4 ⟨[127, 0, 0, 1], rfl⟩)) "'127.0.0.1'".toList ∧
      Value.parseLiteral (fun text => readHexPairs text.toList) "'127.0.0.1'"
          .inet =
        fail "cannot parse ''127.0.0.1'' as inet" ∧
      Value.fromRawBytes [127, 0, 0, 1] .inet =
        .ok (.inet (.v4 ⟨[127, 0, 0, 1], rfl⟩)) ∧
      ¬ ReadsAlike (fun text => readHexPairs text.toList) .inet
        (.inet (.v4 ⟨[127, 0, 0, 1], rfl⟩)) "'127.0.0.1'" := by
  have rejected :
      Value.parseLiteral (fun text => readHexPairs text.toList) "'127.0.0.1'"
          .inet =
        fail "cannot parse ''127.0.0.1'' as inet" := by
    decide +kernel
  refine ⟨⟨"127.0.0.1".toList, by decide +kernel, by decide +kernel⟩, rejected,
    by decide +kernel, ?_⟩
  intro alike
  have parsed := alike.1
  rw [rejected] at parsed
  cases parsed

end RhydaDB
