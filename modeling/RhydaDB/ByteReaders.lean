import RhydaDB.ByteStrings

/-!
# Readers of byte formats

A reader takes its fields off the front of the input or fails.  A format is
described by saying which bytes a reader reads as which value, whatever
follows them; such facts compose along the reader.
-/

namespace ByteReaders

open ByteStrings

/-- A computation that takes bytes off the front of its input. -/
abbrev Reader (α : Type) := StateT Bytes Option α

namespace Reader

variable {α β : Type}

/-- A decision that reads nothing. -/
def lift (answer : Option α) : Reader α :=
  fun input => answer.map fun value => (value, input)

/-- The next `count` bytes. -/
def bytes (count : Nat) : Reader Bytes :=
  fun input =>
    if count ≤ input.length then
      some (input.take count, input.drop count)
    else
      none

/-- All bytes that are left. -/
def rest : Reader Bytes :=
  fun input => some (input, [])

/-- How many bytes are left. -/
def remaining : Reader Nat :=
  fun input => some (input.length, input)

/-- A big-endian number without sign. -/
def unsigned (width : Nat) : Reader Nat := do
  return ofBe (← bytes width)

/-- A big-endian number in two's complement. -/
def signed (width : Nat) : Reader Int := do
  return ofBeSigned (← bytes width)

/-- A field that stands there only under a condition. -/
def onlyIf (present : Bool) (reader : Reader α) : Reader (Option α) :=
  if present then do
    return some (← reader)
  else
    return none

/-- As many fields of one format. -/
def times (reader : Reader α) : Nat → Reader (List α)
  | 0 =>
      return []
  | count + 1 => do
      let first ← reader
      let others ← times reader count
      return first :: others

/-- One field for each item of a list. -/
def each (reader : β → Reader α) : List β → Reader (List α)
  | [] =>
      return []
  | item :: items => do
      let first ← reader item
      let others ← each reader items
      return first :: others

/-- Read an input to its end. -/
def whole (reader : Reader α) (input : Bytes) : Option α :=
  match reader input with
  | some (value, []) =>
      some value
  | _ =>
      none

/-- An interpretation of all bytes reads its input to the end. -/
theorem whole_rest (interpret : Bytes → Option α) (input : Bytes) :
    Reader.whole (do Reader.lift (interpret (← Reader.rest))) input =
      interpret input := by
  change
    (match (interpret input).map fun value => (value, ([] : Bytes)) with
      | some (value, []) => some value
      | _ => none) =
      interpret input
  cases interpret input with
  | none =>
      rfl
  | some value =>
      rfl

end Reader

/-- The reader reads these bytes as this value, whatever follows them. -/
def Reads {α : Type} (reader : Reader α) (encoded : Bytes) (value : α) : Prop :=
  ∀ rest, reader (encoded ++ rest) = some (value, rest)

namespace Reads

variable {α β γ : Type}

/-- Nothing is read to return a value. -/
theorem pure (value : α) : Reads (Pure.pure value) [] value := by
  intro rest
  rfl

/-- Nothing is read for a decision. -/
theorem lift
    {answer : Option α}
    {value : α}
    (answered : answer = some value) :
    Reads (Reader.lift answer) [] value := by
  intro rest
  rw [answered]
  rfl

/-- What is bound reads its parts one after the other. -/
theorem bind
    {reader : Reader α}
    {next : α → Reader β}
    {first second : Bytes}
    {value : α}
    {result : β}
    (readsFirst : Reads reader first value)
    (readsSecond : Reads (next value) second result) :
    Reads (reader >>= next) (first ++ second) result := by
  intro rest
  have front := readsFirst (second ++ rest)
  rw [← List.append_assoc] at front
  change (reader (first ++ second ++ rest) >>= fun read => next read.1 read.2) = _
  rw [front]
  exact readsSecond rest

/-- The last field of a format. -/
theorem last
    {reader : Reader α}
    {encoded : Bytes}
    {value : α}
    (reads : Reads reader encoded value)
    (result : α → β) :
    Reads (do return result (← reader)) encoded (result value) := by
  have whole :
      Reads (reader >>= fun read => Pure.pure (result read)) (encoded ++ [])
        (result value) :=
    reads.bind (Reads.pure (result value))
  rwa [List.append_nil] at whole

/-- A field that is interpreted once it is read. -/
theorem checked
    {reader : Reader α}
    {encoded : Bytes}
    {value : α}
    {result : β}
    {interpret : α → Option β}
    (reads : Reads reader encoded value)
    (interpreted : interpret value = some result) :
    Reads (do Reader.lift (interpret (← reader))) encoded result := by
  have whole :
      Reads (reader >>= fun read => Reader.lift (interpret read)) (encoded ++ [])
        result :=
    reads.bind (Reads.lift interpreted)
  rwa [List.append_nil] at whole

/-- A known number of bytes is read as it is. -/
theorem bytes (encoded : Bytes) :
    Reads (Reader.bytes encoded.length) encoded encoded := by
  intro rest
  simp [Reader.bytes]

/-- A number below its width's modulus is read back. -/
theorem unsigned
    {width value : Nat}
    (fits : value < 256 ^ width) :
    Reads (Reader.unsigned width) (toBe width value) value := by
  have field := Reads.bytes (toBe width value)
  rw [length_toBe] at field
  have read := field.last ofBe
  rwa [ofBe_toBe_of_lt fits] at read

/-- The bytes of a number are read as its two's complement. -/
theorem signed (width value : Nat) :
    Reads (Reader.signed width) (toBe width value)
      (ofBeSigned (toBe width value)) := by
  have field := Reads.bytes (toBe width value)
  rw [length_toBe] at field
  exact field.last ofBeSigned

/-- A field that stands there is read. -/
theorem onlyIf_present
    {reader : Reader α}
    {encoded : Bytes}
    {value : α}
    (reads : Reads reader encoded value) :
    Reads (Reader.onlyIf true reader) encoded (some value) :=
  reads.last some

/-- A field that does not stand there is not read. -/
theorem onlyIf_absent (reader : Reader α) :
    Reads (Reader.onlyIf false reader) [] none :=
  Reads.pure none

/-- Fields of one format are read one after the other. -/
theorem times
    {reader : Reader α}
    {encode : β → Bytes}
    (value : β → α)
    {items : List β}
    (reads : ∀ item ∈ items, Reads reader (encode item) (value item)) :
    Reads (reader.times items.length) (items.flatMap encode) (items.map value) := by
  induction items with
  | nil =>
      exact Reads.pure []
  | cons item items inductionHypothesis =>
      have first := reads item List.mem_cons_self
      have others :=
        inductionHypothesis fun later member =>
          reads later (List.mem_cons_of_mem _ member)
      rw [List.flatMap_cons]
      exact first.bind (others.last fun values => value item :: values)

/-- Fields of listed formats are read one after the other. -/
theorem each
    {reader : β → Reader α}
    {encode : α → Bytes}
    {items : List β}
    {values : List α}
    (reads :
      List.Forall₂ (fun item value => Reads (reader item) (encode value) value)
        items values) :
    Reads (Reader.each reader items) (values.flatMap encode) values := by
  induction reads with
  | nil =>
      exact Reads.pure []
  | @cons item value items values first _ inductionHypothesis =>
      rw [List.flatMap_cons]
      exact first.bind (inductionHypothesis.last fun others => value :: others)

/-- Nothing is left behind a format that is the whole input. -/
theorem whole
    {reader : Reader α}
    {encoded : Bytes}
    {value : α}
    (reads : Reads reader encoded value) :
    reader.whole encoded = some value := by
  have read := reads []
  rw [List.append_nil] at read
  rw [Reader.whole, read]

end Reads

end ByteReaders
