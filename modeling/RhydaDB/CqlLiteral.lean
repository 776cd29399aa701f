import RhydaDB.CqlValue

namespace RhydaDB

open ByteStrings

/-!
# CQL literals

`parse_literal` reads the source text of a constant at a column type.  The
standard library parsers it calls (integers, floats, addresses) are written
out on character lists; hexadecimal decoding comes from another crate and is a
parameter.
-/

/-- The characters `str::trim` removes. -/
def isWhitespace (char : Char) : Bool :=
  let code := char.toNat
  (0x9 ≤ code && code ≤ 0xD) || code == 0x20 || code == 0x85 ||
    code == 0xA0 || code == 0x1680 || (0x2000 ≤ code && code ≤ 0x200A) ||
    code == 0x2028 || code == 0x2029 || code == 0x202F || code == 0x205F ||
    code == 0x3000

/-- Drop matching characters at the end. -/
def trimEnd (matching : Char → Bool) (text : List Char) : List Char :=
  (text.reverse.dropWhile matching).reverse

/-- Drop white space at both ends. -/
def trim (text : List Char) : List Char :=
  trimEnd isWhitespace (text.dropWhile isWhitespace)

/-- The value of a digit of the given base. -/
def digitValue (base : Nat) (char : Char) : Option Nat :=
  let value :=
    if '0' ≤ char ∧ char ≤ '9' then char.toNat - '0'.toNat
    else if 'a' ≤ char ∧ char ≤ 'z' then char.toNat - 'a'.toNat + 10
    else if 'A' ≤ char ∧ char ≤ 'Z' then char.toNat - 'A'.toNat + 10
    else base
  if value < base then some value else none

/-- Read a non-empty run of digits that fills the whole text. -/
def parseDigits (base : Nat) : List Char → Option Nat
  | [] =>
      none
  | digits =>
      digits.foldl
        (fun total char => do
          return (← total) * base + (← digitValue base char))
        (some 0)

/-- Split an optional sign off; `true` stands for minus. -/
def splitSign : List Char → Bool × List Char
  | '-' :: rest =>
      (true, rest)
  | '+' :: rest =>
      (false, rest)
  | text =>
      (false, text)

/-- `parse::<iN>()` for the type with the given number of bits. -/
def parseSigned (bits : Nat) (text : List Char) : Option Int := do
  let (negative, digits) := splitSign text
  let magnitude ← parseDigits 10 digits
  let value : Int := if negative then -magnitude else magnitude
  if -2 ^ (bits - 1) ≤ value ∧ value < 2 ^ (bits - 1) then
    some value
  else
    none

/--
The bit pattern of `numerator / denominator` rounded to the nearest value of a
binary format, ties to even, without its sign bit.
-/
def roundBits
    (fractionBits exponentBits numerator denominator : Nat) :
    Nat :=
  if numerator = 0 then
    0
  else
    let minExponent : Int := 2 - 2 ^ (exponentBits - 1)
    let estimate : Int := (numerator.log2 : Int) - denominator.log2
    -- the estimate is the binary exponent or one more than it
    let tooBig :=
      numerator * 2 ^ (-estimate).toNat < denominator * 2 ^ estimate.toNat
    let exponent :=
      max minExponent (if tooBig then estimate - 1 else estimate)
    let shift : Int := exponent - fractionBits
    let scaled := numerator * 2 ^ (-shift).toNat
    let unit := denominator * 2 ^ shift.toNat
    let quotient := scaled / unit
    let remainder := scaled % unit
    let rounded :=
      if unit < 2 * remainder ∨ (unit = 2 * remainder ∧ quotient % 2 = 1) then
        quotient + 1
      else
        quotient
    let infinity := (2 ^ exponentBits - 1) * 2 ^ fractionBits
    min infinity
      ((exponent - minExponent).toNat * 2 ^ fractionBits + rounded)

/-- The digits around an optional point, with the number of decimals. -/
def parseMantissa (text : List Char) : Option (Nat × Nat) :=
  let whole := text.takeWhile (· ≠ '.')
  let decimals := (text.drop whole.length).drop 1
  if whole = [] ∧ decimals = [] then
    none
  else do
    let digits ← parseDigits 10 (whole ++ decimals)
    return (digits, decimals.length)

/-- A decimal number as a fraction. -/
def parseDecimal (text : List Char) : Option (Nat × Nat) := do
  let mantissa := text.takeWhile fun char => char ≠ 'e' ∧ char ≠ 'E'
  let (digits, decimals) ← parseMantissa mantissa
  match text.drop mantissa.length with
  | [] =>
      return (digits, 10 ^ decimals)
  | _ :: exponentText => do
      let (negative, exponentDigits) := splitSign exponentText
      let exponent ← parseDigits 10 exponentDigits
      if negative then
        return (digits, 10 ^ (decimals + exponent))
      else
        return (digits * 10 ^ exponent, 10 ^ decimals)

/-- The bit pattern of an unsigned float: a number or one of the names. -/
def parseMagnitude (fractionBits exponentBits : Nat) (text : List Char) :
    Option Nat :=
  let name := String.ofList (text.map Char.toLower)
  let infinity := (2 ^ exponentBits - 1) * 2 ^ fractionBits
  if name = "inf" ∨ name = "infinity" then
    some infinity
  else if name = "nan" then
    some (infinity + 2 ^ (fractionBits - 1))
  else
    (parseDecimal text).map fun (numerator, denominator) =>
      roundBits fractionBits exponentBits numerator denominator

/-- `parse::<f32>()` and `parse::<f64>()`, as bit patterns. -/
def parseFloat (fractionBits exponentBits : Nat) (text : List Char) :
    Option Nat :=
  let (negative, magnitude) := splitSign text
  (parseMagnitude fractionBits exponentBits magnitude).map fun bits =>
    (if negative then 2 ^ (fractionBits + exponentBits) else 0) + bits

/-- One decimal octet: at most three digits and no leading zero. -/
def parseOctet (text : List Char) : Option UInt8 := do
  let value ← parseDigits 10 text
  if text.length ≤ 3 ∧ value ≤ 255 ∧ (text.length = 1 ∨ text.head? ≠ some '0')
  then
    some (UInt8.ofNat value)
  else
    none

/-- A dotted IPv4 address. -/
def parseIpv4 (text : List Char) : Option Bytes :=
  let fields := text.splitOn '.'
  if fields.length = 4 then
    fields.mapM parseOctet
  else
    none

/-- One group of an IPv6 address: one to four hexadecimal digits. -/
def parseGroup (text : List Char) : Option Bytes := do
  let value ← parseDigits 16 text
  if text.length ≤ 4 then some (toBe 2 value) else none

/-- Colon-separated groups, the last of which may be an IPv4 address. -/
def parseGroups (text : List Char) : Option Bytes :=
  match text with
  | [] =>
      some []
  | _ =>
      let fields := text.splitOn ':'
      match fields.getLast? with
      | some last => do
          let tail ← (parseIpv4 last).or (parseGroup last)
          let groups ← fields.dropLast.mapM parseGroup
          return groups.flatten ++ tail
      | none =>
          none

/-- Split at the first double colon. -/
def splitCompression : List Char → Option (List Char × List Char)
  | ':' :: ':' :: rest =>
      some ([], rest)
  | char :: rest =>
      (splitCompression rest).map fun (before, after) =>
        (char :: before, after)
  | [] =>
      none

/-- An IPv6 address, in which `::` stands for one or more zero groups. -/
def parseIpv6 (text : List Char) : Option Bytes :=
  match splitCompression text with
  | none =>
      (parseGroups text).filter fun octets => octets.length = 16
  | some (before, after) => do
      -- an embedded IPv4 address may only stand at the very end
      let head ← if before.contains '.' then none else parseGroups before
      let tail ← parseGroups after
      if head.length + tail.length ≤ 14 then
        some (head ++
          List.replicate (16 - head.length - tail.length) 0 ++ tail)
      else
        none

/-- `parse::<IpAddr>()`. -/
def parseIpAddr (text : List Char) : Option IpAddr :=
  match parseIpv4 text with
  | some octets =>
      if four : octets.length = 4 then some (.v4 ⟨octets, four⟩) else none
  | none =>
      match parseIpv6 text with
      | some octets =>
          if sixteen : octets.length = 16 then
            some (.v6 ⟨octets, sixteen⟩)
          else
            none
      | none =>
          none

/--
Upper case as far as it can make a text equal to `TRUE` or `FALSE`: ASCII
letters and the long s.
-/
def upperBooleanChar (char : Char) : Char :=
  if char = 'ſ' then 'S' else char.toUpper

/-- Replace each pair of quotes by one, from the left. -/
def undoubleQuotes : List Char → List Char
  | '\'' :: '\'' :: rest =>
      '\'' :: undoubleQuotes rest
  | char :: rest =>
      char :: undoubleQuotes rest
  | [] =>
      []

/-- The contents of a quoted string; other text stays as it is. -/
def unescapeString (text : List Char) : List Char :=
  match trim text with
  | '\'' :: rest =>
      match rest.getLast? with
      | some '\'' =>
          undoubleQuotes rest.dropLast
      | _ =>
          '\'' :: rest
  | other =>
      other

/-- Drop a hexadecimal marker. -/
def stripHexMarker : List Char → List Char
  | '0' :: 'x' :: rest =>
      rest
  | '0' :: 'X' :: rest =>
      rest
  | text =>
      text

/-- Decoding of hexadecimal text, by another crate. -/
abbrev HexDecode :=
  String → Option Bytes

namespace Value

/-- Read a constant's source text at a column type. -/
def parseLiteral
    (hexDecode : HexDecode)
    (text : String)
    (columnType : ColumnType) :
    Outcome Value :=
  let chars := trim text.toList
  let orFail := fun (found : Option Value) (kind : String) =>
    match found with
    | some value =>
        .ok value
    | none =>
        fail s!"cannot parse '{text}' as {kind}"
  match columnType with
  | .int =>
      orFail ((parseSigned 32 chars).map fun value =>
        .int (Int32.ofInt value)) "int"
  | .bigInt =>
      orFail ((parseSigned 64 chars).map fun value =>
        .bigInt (Int64.ofInt value)) "bigint"
  | .smallInt =>
      orFail ((parseSigned 16 chars).map fun value =>
        .smallInt (Int16.ofInt value)) "smallint"
  | .tinyInt =>
      orFail ((parseSigned 8 chars).map fun value =>
        .tinyInt (Int8.ofInt value)) "tinyint"
  | .float =>
      orFail ((parseFloat 23 8 chars).map fun bits =>
        .float (UInt32.ofNat bits)) "float"
  | .double =>
      orFail ((parseFloat 52 11 chars).map fun bits =>
        .double (UInt64.ofNat bits)) "double"
  | .boolean =>
      let upper := String.ofList (chars.map upperBooleanChar)
      orFail
        (if upper = "TRUE" then some (.boolean true)
        else if upper = "FALSE" then some (.boolean false)
        else none) "boolean"
  | .text =>
      .ok (.text (String.ofList (unescapeString chars)))
  | .blob =>
      orFail ((hexDecode (String.ofList (stripHexMarker chars))).map .blob)
        "blob"
  | .timestamp =>
      orFail ((parseSigned 64 chars).map fun value =>
        .timestamp (Int64.ofInt value)) "timestamp"
  | .uuid =>
      let unquoted :=
        trimEnd (· == '\'') (chars.dropWhile (· == '\''))
      let cleaned := String.ofList (unquoted.filter (· ≠ '-'))
      if (utf8 cleaned).length ≠ 32 then
        fail s!"cannot parse '{text}' as uuid"
      else
        match hexDecode cleaned with
        | some octets =>
            if sixteen : octets.length = 16 then
              .ok (.uuid ⟨octets, sixteen⟩)
            else
              fail s!"cannot parse '{text}' as uuid"
        | none =>
            fail s!"cannot parse '{text}' as uuid"
  | .inet =>
      orFail ((parseIpAddr chars).map .inet) "inet"
  | .set _ =>
      fail "collection literals are not supported"
  | .list _ =>
      fail "collection literals are not supported"
  | .map _ _ =>
      fail "collection literals are not supported"

end Value

end RhydaDB
