import RhydaDB.Catalog
import RhydaDB.CqlValueRoundTrip

namespace RhydaDB

open ByteStrings

/-!
# The JSON text of catalog records

What the derived serialisers write for keyspace and table definitions: compact
objects with the fields in declaration order, an enumeration's variant as a
string or as an object with one field.  The reader accepts exactly such texts,
and it returns what was written.
-/

/-- A reader takes a value off the front of a text. -/
abbrev Reader (α : Type) := Bytes → Option (α × Bytes)

/-- Reading what was written returns it and leaves the rest. -/
def Reads {α : Type} (write : α → Bytes) (read : Reader α) : Prop :=
  ∀ value rest, read (write value ++ rest) = some (value, rest)

/-- Take one given byte off the front. -/
def expect (byte : UInt8) : Bytes → Option Bytes
  | first :: rest =>
      if first = byte then
        some rest
      else
        none
  | [] =>
      none

@[simp] theorem expect_cons (byte : UInt8) (rest : Bytes) :
    expect byte (byte :: rest) = some rest := by
  simp [expect]

/-! ## Strings -/

/-- A lower case hexadecimal digit. -/
def hexDigit (value : Nat) : UInt8 :=
  if value < 10 then
    UInt8.ofNat (0x30 + value)
  else
    UInt8.ofNat (0x57 + value)

/-- The value of a lower case hexadecimal digit. -/
def hexValue (digit : UInt8) : Nat :=
  if digit.toNat < 0x3A then
    digit.toNat - 0x30
  else
    digit.toNat - 0x57

/-- A byte of a string; quotes, backslashes and control bytes are escaped. -/
def escapeByte (byte : UInt8) : Bytes :=
  if byte = 0x22 then
    [0x5C, 0x22]
  else if byte = 0x5C then
    [0x5C, 0x5C]
  else if byte = 0x08 then
    [0x5C, 0x62]
  else if byte = 0x09 then
    [0x5C, 0x74]
  else if byte = 0x0A then
    [0x5C, 0x6E]
  else if byte = 0x0C then
    [0x5C, 0x66]
  else if byte = 0x0D then
    [0x5C, 0x72]
  else if byte < 0x20 then
    [0x5C, 0x75, 0x30, 0x30, hexDigit (byte.toNat / 16),
      hexDigit (byte.toNat % 16)]
  else
    [byte]

/-- The bytes up to the closing quote. -/
def readEscaped : Bytes → Option (Bytes × Bytes)
  | 0x22 :: rest =>
      some ([], rest)
  | 0x5C :: 0x75 :: _ :: _ :: high :: low :: rest =>
      (readEscaped rest).map fun (bytes, rest) =>
        (UInt8.ofNat (hexValue high * 16 + hexValue low) :: bytes, rest)
  | 0x5C :: 0x62 :: rest =>
      (readEscaped rest).map fun (bytes, rest) => (0x08 :: bytes, rest)
  | 0x5C :: 0x74 :: rest =>
      (readEscaped rest).map fun (bytes, rest) => (0x09 :: bytes, rest)
  | 0x5C :: 0x6E :: rest =>
      (readEscaped rest).map fun (bytes, rest) => (0x0A :: bytes, rest)
  | 0x5C :: 0x66 :: rest =>
      (readEscaped rest).map fun (bytes, rest) => (0x0C :: bytes, rest)
  | 0x5C :: 0x72 :: rest =>
      (readEscaped rest).map fun (bytes, rest) => (0x0D :: bytes, rest)
  | 0x5C :: byte :: rest =>
      (readEscaped rest).map fun (bytes, rest) => (byte :: bytes, rest)
  | byte :: rest =>
      (readEscaped rest).map fun (bytes, rest) => (byte :: bytes, rest)
  | [] =>
      none

/-- A quoted string. -/
def writeString (text : String) : Bytes :=
  0x22 :: (utf8 text).flatMap escapeByte ++ [0x22]

/-- Read a quoted string. -/
def readString : Reader String
  | 0x22 :: rest => do
      let (bytes, rest) ← readEscaped rest
      let text ← fromUtf8? bytes
      return (text, rest)
  | _ =>
      none

/-- Reading an escaped byte returns the byte. -/
theorem readEscaped_escapeByte (byte : UInt8) (rest : Bytes) :
    readEscaped (escapeByte byte ++ rest) =
      (readEscaped rest).map fun (bytes, rest) => (byte :: bytes, rest) := by
  unfold escapeByte
  split
  · subst_vars
    simp [readEscaped]
  split
  · subst_vars
    simp [readEscaped]
  split
  · subst_vars
    simp [readEscaped]
  split
  · subst_vars
    simp [readEscaped]
  split
  · subst_vars
    simp [readEscaped]
  split
  · subst_vars
    simp [readEscaped]
  split
  · subst_vars
    simp [readEscaped]
  split
  · rename_i control
    have digits :
        ∀ byte : Fin 32,
          UInt8.ofNat (hexValue (hexDigit (byte.val / 16)) * 16 +
            hexValue (hexDigit (byte.val % 16))) = UInt8.ofNat byte.val := by
      decide
    have small : byte.toNat < 32 := UInt8.lt_iff_toNat_lt.mp control
    have same := digits ⟨byte.toNat, small⟩
    simp [readEscaped, same]
  · rename_i notQuote notBackslash _ _ _ _ _ _
    simp only [List.cons_append, List.nil_append]
    rw [readEscaped]
    all_goals simp_all

/-- Reading escaped bytes up to the closing quote returns the bytes. -/
theorem readEscaped_flatMap (bytes rest : Bytes) :
    readEscaped (bytes.flatMap escapeByte ++ 0x22 :: rest) =
      some (bytes, rest) := by
  induction bytes with
  | nil =>
      rfl
  | cons byte bytes inductionHypothesis =>
      rw [List.flatMap_cons, List.append_assoc, readEscaped_escapeByte,
        inductionHypothesis]
      rfl

/-- Strings are read back. -/
theorem reads_string : Reads writeString readString := by
  intro text rest
  simp [writeString, readString, readEscaped_flatMap, fromUtf8?_utf8]

/-- A truth value. -/
def writeBool : Bool → Bytes
  | true =>
      utf8 "true"
  | false =>
      utf8 "false"

/-- Read a truth value. -/
def readBool : Reader Bool
  | 0x74 :: 0x72 :: 0x75 :: 0x65 :: rest =>
      some (true, rest)
  | 0x66 :: 0x61 :: 0x6C :: 0x73 :: 0x65 :: rest =>
      some (false, rest)
  | _ =>
      none

/-- Truth values are read back. -/
theorem reads_bool : Reads writeBool readBool := by
  intro value rest
  cases value with
  | true =>
      have text : utf8 "true" = [0x74, 0x72, 0x75, 0x65] := by
        decide
      simp [writeBool, text, readBool]
  | false =>
      have text : utf8 "false" = [0x66, 0x61, 0x6C, 0x73, 0x65] := by
        decide
      simp [writeBool, text, readBool]

/-! ## Sequences -/

section Sequences

variable {α : Type}

/-- The items after the first one. -/
def writeTail (write : α → Bytes) : List α → Bytes
  | [] =>
      [0x5D]
  | item :: rest =>
      0x2C :: write item ++ writeTail write rest

/-- A bracketed sequence. -/
def writeList (write : α → Bytes) : List α → Bytes
  | [] =>
      [0x5B, 0x5D]
  | item :: rest =>
      0x5B :: write item ++ writeTail write rest

/-- Read the items after the first one. -/
def readTail (read : Reader α) : Nat → Reader (List α)
  | _, 0x5D :: rest =>
      some ([], rest)
  | rounds + 1, 0x2C :: rest => do
      let (item, rest) ← read rest
      let (items, rest) ← readTail read rounds rest
      return (item :: items, rest)
  | _, _ =>
      none

/-- Read a bracketed sequence. -/
def readList (read : Reader α) : Reader (List α)
  | 0x5B :: 0x5D :: rest =>
      some ([], rest)
  | 0x5B :: rest => do
      let (item, rest) ← read rest
      let (items, rest) ← readTail read rest.length rest
      return (item :: items, rest)
  | _ =>
      none

/-- No item starts like the end of a sequence. -/
def StartsInside (write : α → Bytes) : Prop :=
  ∀ item, ∃ first rest, write item = first :: rest ∧ first ≠ 0x5D

variable
  {write : α → Bytes}
  {read : Reader α}

/-- The items after the first one are read back. -/
theorem readTail_writeTail
    (reads : Reads write read)
    {items : List α}
    {rounds : Nat}
    (enough : items.length ≤ rounds)
    (rest : Bytes) :
    readTail read rounds (writeTail write items ++ rest) =
      some (items, rest) := by
  induction items generalizing rounds with
  | nil =>
      cases rounds <;> rfl
  | cons item items inductionHypothesis =>
      cases rounds with
      | zero =>
          cases enough
      | succ rounds =>
          have later := inductionHypothesis (Nat.le_of_succ_le_succ enough)
          simp [writeTail, readTail, reads item, later]

/-- A sequence's text is at least as long as the sequence. -/
theorem length_le_writeTail (items : List α) :
    items.length ≤ (writeTail write items).length := by
  induction items with
  | nil =>
      simp
  | cons item items inductionHypothesis =>
      simp only [writeTail, List.length_cons, List.length_append]
      omega

/-- Sequences are read back. -/
theorem reads_list
    (reads : Reads write read)
    (starts : StartsInside write) :
    Reads (writeList write) (readList read) := by
  intro items rest
  cases items with
  | nil =>
      rfl
  | cons item items =>
      obtain ⟨first, more, text, inside⟩ := starts item
      have readItem := reads item (writeTail write items ++ rest)
      have enough :
          items.length ≤ (writeTail write items ++ rest).length := by
        have shorter : items.length ≤ (writeTail write items).length :=
          length_le_writeTail items
        rw [List.length_append]
        omega
      have readItems := readTail_writeTail reads enough rest
      rw [text, List.cons_append] at readItem
      simp only [writeList, List.cons_append, List.append_assoc, text]
      rw [readList]
      · simp only [readItem, Option.bind_eq_bind, Option.bind_some, readItems]
        rfl
      · rintro _ ⟨⟩
        exact inside rfl

end Sequences

/-! ## Fields -/

section Fields

variable {α : Type}

/-- A field of an object. -/
def writeField (name : String) (text : Bytes) : Bytes :=
  writeString name ++ 0x3A :: text

/-- Read a field with the given name. -/
def readField (name : String) (read : Reader α) : Reader α := fun text => do
  let (found, rest) ← readString text
  if found = name then
    let rest ← expect 0x3A rest
    read rest
  else
    none

/-- Fields are read back. -/
theorem readField_writeField
    {write : α → Bytes}
    {read : Reader α}
    (reads : Reads write read)
    (name : String)
    (value : α)
    (rest : Bytes) :
    readField name read (writeField name (write value) ++ rest) =
      some (value, rest) := by
  simp [readField, writeField, reads_string name, reads value]

end Fields

/-! ## Column types -/

/-- The variant of a type without elements. -/
def variantName : ColumnType → Option String
  | .int =>
      some "Int"
  | .bigInt =>
      some "BigInt"
  | .smallInt =>
      some "SmallInt"
  | .tinyInt =>
      some "TinyInt"
  | .float =>
      some "Float"
  | .double =>
      some "Double"
  | .boolean =>
      some "Boolean"
  | .text =>
      some "Text"
  | .blob =>
      some "Blob"
  | .timestamp =>
      some "Timestamp"
  | .uuid =>
      some "Uuid"
  | .inet =>
      some "Inet"
  | _ =>
      none

/-- The type of a variant without elements. -/
def variantType (name : String) : Option ColumnType :=
  [ColumnType.int, .bigInt, .smallInt, .tinyInt, .float, .double, .boolean,
    .text, .blob, .timestamp, .uuid, .inet].find? fun colType =>
      variantName colType == some name

/-- The text of a column type. -/
def writeType : ColumnType → Bytes
  | .set element =>
      0x7B :: writeField "Set" (writeType element) ++ [0x7D]
  | .list element =>
      0x7B :: writeField "List" (writeType element) ++ [0x7D]
  | .map key value =>
      0x7B :: writeField "Map"
        (0x5B :: writeType key ++ 0x2C :: writeType value ++ [0x5D]) ++ [0x7D]
  | simple =>
      writeString ((variantName simple).getD "")

/-- Read a column type, with a bound on its nesting. -/
def readType : Nat → Reader ColumnType
  | 0, _ =>
      none
  | rounds + 1, 0x7B :: text => do
      let (name, rest) ← readString text
      let rest ← expect 0x3A rest
      if name = "Set" then
        let (element, rest) ← readType rounds rest
        let rest ← expect 0x7D rest
        return (.set element, rest)
      else if name = "List" then
        let (element, rest) ← readType rounds rest
        let rest ← expect 0x7D rest
        return (.list element, rest)
      else if name = "Map" then
        let rest ← expect 0x5B rest
        let (key, rest) ← readType rounds rest
        let rest ← expect 0x2C rest
        let (value, rest) ← readType rounds rest
        let rest ← expect 0x5D rest
        let rest ← expect 0x7D rest
        return (.map key value, rest)
      else
        none
  | _ + 1, text => do
      let (name, rest) ← readString text
      let colType ← variantType name
      return (colType, rest)

/-- A variant without elements is read back. -/
theorem readType_variant
    {colType : ColumnType}
    {name : String}
    (found : variantType name = some colType)
    (rounds : Nat)
    (rest : Bytes) :
    readType (rounds + 1) (writeString name ++ rest) =
      some (colType, rest) := by
  have read := reads_string name rest
  simp only [writeString, List.cons_append] at read ⊢
  rw [readType]
  · rw [read]
    simp [found]
  · rintro _ ⟨⟩

/-- Column types are read back within the length of their text. -/
theorem readType_writeType
    (colType : ColumnType)
    {rounds : Nat}
    (enough : (writeType colType).length < rounds)
    (rest : Bytes) :
    readType rounds (writeType colType ++ rest) = some (colType, rest) := by
  obtain ⟨rounds, rfl⟩ : ∃ fewer, rounds = fewer + 1 :=
    ⟨rounds - 1, by omega⟩
  induction colType generalizing rounds rest with
  | set element inductionHypothesis =>
      simp only [writeType, writeField, List.length_append, List.length_cons,
        List.length_nil] at enough
      obtain ⟨fewer, rfl⟩ : ∃ fewer, rounds = fewer + 1 :=
        ⟨rounds - 1, by omega⟩
      have inner :
          ∀ rest,
            readType (fewer + 1) (writeType element ++ rest) =
              some (element, rest) :=
        fun rest => inductionHypothesis rest fewer (by omega)
      simp [writeType, writeField, readType, reads_string "Set", inner]
  | list element inductionHypothesis =>
      simp only [writeType, writeField, List.length_append, List.length_cons,
        List.length_nil] at enough
      obtain ⟨fewer, rfl⟩ : ∃ fewer, rounds = fewer + 1 :=
        ⟨rounds - 1, by omega⟩
      have inner :
          ∀ rest,
            readType (fewer + 1) (writeType element ++ rest) =
              some (element, rest) :=
        fun rest => inductionHypothesis rest fewer (by omega)
      simp [writeType, writeField, readType, reads_string "List", inner]
  | map key value keyHypothesis valueHypothesis =>
      simp only [writeType, writeField, List.length_append, List.length_cons,
        List.length_nil] at enough
      obtain ⟨fewer, rfl⟩ : ∃ fewer, rounds = fewer + 1 :=
        ⟨rounds - 1, by omega⟩
      have readKey :
          ∀ rest,
            readType (fewer + 1) (writeType key ++ rest) = some (key, rest) :=
        fun rest => keyHypothesis rest fewer (by omega)
      have readValue :
          ∀ rest,
            readType (fewer + 1) (writeType value ++ rest) =
              some (value, rest) :=
        fun rest => valueHypothesis rest fewer (by omega)
      simp [writeType, writeField, readType, reads_string "Map", readKey,
        readValue]
  | _ =>
      exact readType_variant (by decide) rounds rest

/-- Read a column type. -/
def readColumnType : Reader ColumnType := fun text =>
  readType (text.length + 1) text

/-- Column types are read back. -/
theorem reads_columnType : Reads writeType readColumnType := by
  intro colType rest
  refine readType_writeType colType ?_ rest
  rw [List.length_append]
  omega

/-! ## Definitions -/

/-- The text of a column. -/
def writeColumn (column : ColumnDef) : Bytes :=
  0x7B :: writeField "name" (writeString column.name) ++
    0x2C :: writeField "col_type" (writeType column.colType) ++
    0x2C :: writeField "is_partition_key" (writeBool column.isPartitionKey) ++
    0x2C :: writeField "is_clustering" (writeBool column.isClustering) ++
    [0x7D]

/-- Read a column. -/
def readColumn : Reader ColumnDef := fun text => do
  let rest ← expect 0x7B text
  let (name, rest) ← readField "name" readString rest
  let rest ← expect 0x2C rest
  let (colType, rest) ← readField "col_type" readColumnType rest
  let rest ← expect 0x2C rest
  let (isPartitionKey, rest) ← readField "is_partition_key" readBool rest
  let rest ← expect 0x2C rest
  let (isClustering, rest) ← readField "is_clustering" readBool rest
  let rest ← expect 0x7D rest
  return (⟨name, colType, isPartitionKey, isClustering⟩, rest)

/-- Columns are read back. -/
theorem reads_column : Reads writeColumn readColumn := by
  intro column rest
  simp [writeColumn, readColumn, readField_writeField reads_string,
    readField_writeField reads_columnType, readField_writeField reads_bool]

/-- The text of a table definition. -/
def writeTable (table : TableDef) : Bytes :=
  0x7B :: writeField "keyspace" (writeString table.keyspace) ++
    0x2C :: writeField "name" (writeString table.name) ++
    0x2C :: writeField "columns" (writeList writeColumn table.columns) ++
    0x2C :: writeField "partition_keys"
      (writeList writeString table.partitionKeys) ++
    0x2C :: writeField "clustering_keys"
      (writeList writeString table.clusteringKeys) ++
    [0x7D]

/-- Read a table definition. -/
def readTable : Reader TableDef := fun text => do
  let rest ← expect 0x7B text
  let (keyspace, rest) ← readField "keyspace" readString rest
  let rest ← expect 0x2C rest
  let (name, rest) ← readField "name" readString rest
  let rest ← expect 0x2C rest
  let (columns, rest) ← readField "columns" (readList readColumn) rest
  let rest ← expect 0x2C rest
  let (partitionKeys, rest) ←
    readField "partition_keys" (readList readString) rest
  let rest ← expect 0x2C rest
  let (clusteringKeys, rest) ←
    readField "clustering_keys" (readList readString) rest
  let rest ← expect 0x7D rest
  return (⟨keyspace, name, columns, partitionKeys, clusteringKeys⟩, rest)

theorem startsInside_string : StartsInside writeString :=
  fun _ => ⟨_, _, rfl, by decide⟩

theorem startsInside_column : StartsInside writeColumn :=
  fun _ => ⟨_, _, rfl, by decide⟩

/-- Table definitions are read back. -/
theorem reads_table : Reads writeTable readTable := by
  intro table rest
  simp [writeTable, readTable, readField_writeField reads_string,
    readField_writeField (reads_list reads_column startsInside_column),
    readField_writeField (reads_list reads_string startsInside_string)]

/-- The text of a pair of strings. -/
def writePair (pair : String × String) : Bytes :=
  0x5B :: writeString pair.1 ++ 0x2C :: writeString pair.2 ++ [0x5D]

/-- Read a pair of strings. -/
def readPair : Reader (String × String) := fun text => do
  let rest ← expect 0x5B text
  let (first, rest) ← readString rest
  let rest ← expect 0x2C rest
  let (second, rest) ← readString rest
  let rest ← expect 0x5D rest
  return ((first, second), rest)

/-- Pairs are read back. -/
theorem reads_pair : Reads writePair readPair := by
  rintro ⟨first, second⟩ rest
  simp [writePair, readPair, reads_string first, reads_string second]

theorem startsInside_pair : StartsInside writePair :=
  fun _ => ⟨_, _, rfl, by decide⟩

/-- The text of a keyspace definition. -/
def writeKeyspace (keyspace : KeyspaceDef) : Bytes :=
  0x7B :: writeField "name" (writeString keyspace.name) ++
    0x2C :: writeField "replication"
      (writeList writePair keyspace.replication) ++
    [0x7D]

/-- Read a keyspace definition. -/
def readKeyspace : Reader KeyspaceDef := fun text => do
  let rest ← expect 0x7B text
  let (name, rest) ← readField "name" readString rest
  let rest ← expect 0x2C rest
  let (replication, rest) ← readField "replication" (readList readPair) rest
  let rest ← expect 0x7D rest
  return (⟨name, replication⟩, rest)

/-- Keyspace definitions are read back. -/
theorem reads_keyspace : Reads writeKeyspace readKeyspace := by
  intro keyspace rest
  simp [writeKeyspace, readKeyspace, readField_writeField reads_string,
    readField_writeField (reads_list reads_pair startsInside_pair)]

/-- Read a whole text. -/
def readAll {α : Type} (read : Reader α) (text : Bytes) : Outcome α :=
  match read text with
  | some (value, []) =>
      .ok value
  | some (_, _ :: _) =>
      fail "trailing characters"
  | none =>
      fail "expected value"

/-- The serialisation of catalog records. -/
def serdeJson : CatalogJson where
  keyspaceToVec := writeKeyspace
  keyspaceFromSlice := readAll readKeyspace
  tableToVec := writeTable
  tableFromSlice := readAll readTable

/-- Reading a whole text that was written returns the value. -/
theorem readAll_write
    {α : Type}
    {write : α → Bytes}
    {read : Reader α}
    (reads : Reads write read)
    (value : α) :
    readAll read (write value) = .ok value := by
  have whole := reads value []
  rw [List.append_nil] at whole
  rw [readAll, whole]

/-- Definitions survive serialisation. -/
theorem serdeJson_roundTrips : serdeJson.RoundTrips :=
  ⟨readAll_write reads_keyspace, readAll_write reads_table⟩

end RhydaDB
