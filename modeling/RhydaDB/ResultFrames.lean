import RhydaDB.ByteReaders
import RhydaDB.CqlValueRoundTrip
import RhydaDB.Protocol

namespace RhydaDB

open ByteStrings ByteReaders

/-!
# Clients read what the server sends

A reader of result frames after the grammar of the native protocol, version 4:
the header, the flags of the metadata with the fields that each of them adds,
column specifications with nested type options, and values of the announced
types.  It reads every frame of rows and every answer to a PREPARE back to what
the server wrote, up to the last byte.
-/

namespace ColumnType

/-- A type without elements. -/
def Scalar : ColumnType → Prop
  | .set _ =>
      False
  | .list _ =>
      False
  | .map _ _ =>
      False
  | _ =>
      True

/-- A scalar or a collection of scalars. -/
def Flat : ColumnType → Prop
  | .set element =>
      element.Scalar
  | .list element =>
      element.Scalar
  | .map key value =>
      key.Scalar ∧ value.Scalar
  | _ =>
      True

end ColumnType

namespace CqlReader

/-! ## The grammar -/

/-- A string: its length in two bytes and its UTF-8 bytes. -/
def string : Reader String := do
  let length ← Reader.unsigned 2
  let text ← Reader.bytes length
  Reader.lift (fromUtf8? text)

/-- Short bytes: their length in two bytes and the bytes. -/
def shortBytes : Reader Bytes := do
  let length ← Reader.unsigned 2
  Reader.bytes length

/-- Bytes with a signed length in four bytes; a negative one stands for null. -/
def bytes : Reader (Option Bytes) := do
  let length ← Reader.signed 4
  if length < 0 then
    return none
  else
    return some (← Reader.bytes length.toNat)

/-- A type option: the number of a type, behind it those of its elements. -/
def typeOption : Nat → Reader ColumnType
  | 0 =>
      Reader.lift none
  | depth + 1 => do
      match ← Reader.unsigned 2 with
      | 0x0002 =>
          return .bigInt
      | 0x0003 =>
          return .blob
      | 0x0004 =>
          return .boolean
      | 0x0007 =>
          return .double
      | 0x0008 =>
          return .float
      | 0x0009 =>
          return .int
      | 0x000B =>
          return .timestamp
      | 0x000C =>
          return .uuid
      | 0x000D =>
          return .text
      | 0x0010 =>
          return .inet
      | 0x0013 =>
          return .smallInt
      | 0x0014 =>
          return .tinyInt
      | 0x0020 =>
          return .list (← typeOption depth)
      | 0x0021 => do
          let key ← typeOption depth
          return .map key (← typeOption depth)
      | 0x0022 =>
          return .set (← typeOption depth)
      | _ =>
          Reader.lift none

/-- A type option as deep as the bytes that are left allow. -/
def columnType : Reader ColumnType := do
  let depth ← Reader.remaining
  typeOption depth

/-- The table of a column: its keyspace and its name. -/
def tableSpec : Reader (String × String) := do
  let keyspace ← string
  let table ← string
  return (keyspace, table)

/-- A column as the metadata describes it. -/
structure ColumnSpec where
  /-- The column's own table, unless one table is given for all columns. -/
  table : Option (String × String)
  name : String
  columnType : ColumnType
  deriving Repr, DecidableEq

/-- One column; its table stands in front unless it is given for all. -/
def columnSpec (global : Bool) : Reader ColumnSpec := do
  let table ← Reader.onlyIf (!global) tableSpec
  let name ← string
  return ⟨table, name, ← columnType⟩

/-- The columns that metadata describes. -/
structure Columns where
  globalTable : Option (String × String)
  specs : List ColumnSpec
  deriving Repr, DecidableEq

/-- The columns: a table for all of them, if flagged, and as many columns. -/
def columns (global : Bool) (count : Nat) : Reader Columns := do
  let globalTable ← Reader.onlyIf global tableSpec
  return ⟨globalTable, ← (columnSpec global).times count⟩

/-- The metadata of rows; it can leave out the columns. -/
structure Metadata where
  pagingState : Option Bytes
  columns : Option Columns
  deriving Repr, DecidableEq

/--
Flags, the number of columns, the paging state if there are more pages, and the
columns.  These are left out under the flag that says so, and there are none
under a negative number.
-/
def metadata : Reader Metadata := do
  let flags ← Reader.unsigned 4
  let count ← Reader.signed 4
  let pagingState ← Reader.onlyIf (flags.testBit 1) bytes
  let described := !flags.testBit 2 && decide (0 ≤ count)
  return ⟨pagingState.join,
    ← Reader.onlyIf described (columns (flags.testBit 0) count.toNat)⟩

/-- The metadata of bind variables: which of them form the key, and all of them. -/
structure PreparedMetadata where
  keyIndexes : List UInt16
  columns : Columns
  deriving Repr, DecidableEq

/-- Flags, both counts, the indexes of the key and the bind variables. -/
def preparedMetadata : Reader PreparedMetadata := do
  let flags ← Reader.unsigned 4
  let count ← Reader.signed 4
  let keyCount ← Reader.signed 4
  let keyIndexes ← (Reader.unsigned 2).times keyCount.toNat
  return ⟨keyIndexes.map UInt16.ofNat, ← columns (flags.testBit 0) count.toNat⟩

/-- Bytes of a fixed number. -/
def octets (count : Nat) (raw : Bytes) : Option (List.Vector UInt8 count) :=
  if fits : raw.length = count then
    some ⟨raw, fits⟩
  else
    none

/-- An address by the number of its octets. -/
def address (raw : Bytes) : Option IpAddr :=
  match octets 4 raw with
  | some short =>
      some (.v4 short)
  | none =>
      (octets 16 raw).map .v6

/-- A value: its bytes hold nothing but the payload; null has none. -/
def cell (payload : Reader Value) : Reader Value := do
  match ← bytes with
  | none =>
      return .null
  | some raw =>
      Reader.lift (payload.whole raw)

/-- The payload of a value by its type. -/
def payload : ColumnType → Reader Value
  | .int => do
      return .int (UInt32.ofNat (← Reader.unsigned 4)).toInt32
  | .bigInt => do
      return .bigInt (UInt64.ofNat (← Reader.unsigned 8)).toInt64
  | .smallInt => do
      return .smallInt (UInt16.ofNat (← Reader.unsigned 2)).toInt16
  | .tinyInt => do
      return .tinyInt (UInt8.ofNat (← Reader.unsigned 1)).toInt8
  | .float => do
      return .float (UInt32.ofNat (← Reader.unsigned 4))
  | .double => do
      return .double (UInt64.ofNat (← Reader.unsigned 8))
  | .boolean => do
      return .boolean (decide ((← Reader.unsigned 1) ≠ 0))
  | .text => do
      Reader.lift ((fromUtf8? (← Reader.rest)).map .text)
  | .blob => do
      return .blob (← Reader.rest)
  | .timestamp => do
      return .timestamp (UInt64.ofNat (← Reader.unsigned 8)).toInt64
  | .uuid => do
      Reader.lift ((octets 16 (← Reader.rest)).map .uuid)
  | .inet => do
      Reader.lift ((address (← Reader.rest)).map .inet)
  | .set element => do
      let count ← Reader.signed 4
      return .set (← (cell (payload element)).times count.toNat)
  | .list element => do
      let count ← Reader.signed 4
      return .list (← (cell (payload element)).times count.toNat)
  | .map key value => do
      let count ← Reader.signed 4
      let entry : Reader (Value × Value) := do
        let entryKey ← cell (payload key)
        return (entryKey, ← cell (payload value))
      return .map (← entry.times count.toNat)

/-- Rows: their number, and for each one a value for each column. -/
def rows (types : List ColumnType) : Reader (List (List Value)) := do
  let count ← Reader.signed 4
  (Reader.each (fun columnType => cell (payload columnType)) types).times
    count.toNat

/-- What a result carries. -/
inductive ResultBody where
  | rows (metadata : Metadata) (rows : List (List Value))
  | prepared (id : Bytes) (binds : PreparedMetadata) (results : Metadata)
  deriving DecidableEq

/-- The types of the rows: those announced, or else those already known. -/
def Metadata.types (metadata : Metadata) (known : List ColumnType) :
    List ColumnType :=
  match metadata.columns with
  | some columns =>
      columns.specs.map ColumnSpec.columnType
  | none =>
      known

/-- A result of rows or of a PREPARE, by its kind. -/
def resultBody (known : List ColumnType) : Reader ResultBody := do
  match ← Reader.unsigned 4 with
  | 0x0002 => do
      let described ← metadata
      return .rows described (← rows (described.types known))
  | 0x0004 => do
      let id ← shortBytes
      let binds ← preparedMetadata
      return .prepared id binds (← metadata)
  | _ =>
      Reader.lift none

/-- A result frame: who it answers and what it carries. -/
structure ResultFrame where
  version : UInt8
  stream : Int16
  body : ResultBody
  deriving DecidableEq

/-- An uncompressed result frame; its body has the length of the header. -/
def resultFrame (known : List ColumnType) : Reader ResultFrame := do
  let version ← Reader.unsigned 1
  let flags ← Reader.unsigned 1
  let stream ← Reader.unsigned 2
  let opcode ← Reader.unsigned 1
  let length ← Reader.signed 4
  let raw ← Reader.bytes length.toNat
  let body ←
    Reader.lift
      (if flags = 0 ∧ opcode = 0x08 then
        (resultBody known).whole raw
      else
        none)
  return ⟨UInt8.ofNat version, (UInt16.ofNat stream).toInt16, body⟩

/-- Read a frame to its end, given the types of a statement prepared before. -/
def decode (known : List ColumnType) (frame : Bytes) : Option ResultFrame :=
  (resultFrame known).whole frame

/-! ## How fields are read -/

/-- A short string is read back. -/
theorem reads_string
    {text : String}
    (fits : (utf8 text).length ≤ 65535) :
    Reads string (toBe 2 (utf8 text).length ++ utf8 text) text := by
  have length :
      Reads (Reader.unsigned 2) (toBe 2 (utf8 text).length) (utf8 text).length :=
    Reads.unsigned (by omega)
  exact length.bind ((Reads.bytes (utf8 text)).checked (fromUtf8?_utf8 text))

/-- Short bytes are read back. -/
theorem reads_shortBytes
    {value : Bytes}
    (fits : value.length ≤ 65535) :
    Reads shortBytes (toBe 2 value.length ++ value) value := by
  have length : Reads (Reader.unsigned 2) (toBe 2 value.length) value.length :=
    Reads.unsigned (by omega)
  exact length.bind (Reads.bytes value)

/-- A number of two bytes is read back. -/
theorem reads_short (number : UInt16) :
    Reads (Reader.unsigned 2) (toBe 2 number.toNat) number.toNat :=
  Reads.unsigned number.toNat_lt

/-- A count below the sign bit is read back. -/
theorem reads_count
    {count : Nat}
    (fits : count < 2 ^ 31) :
    Reads (Reader.signed 4) (i32Be count) (count : Int) := by
  have read := Reads.signed 4 count
  rwa [ofBeSigned_toBe (by omega)] at read

/-- Bytes are read back. -/
theorem reads_bytes
    {value : Bytes}
    (fits : value.length < 2 ^ 31) :
    Reads bytes (i32Be value.length ++ value) (some value) := by
  refine (reads_count fits).bind ?_
  rw [if_neg (by omega), Int.toNat_natCast]
  exact (Reads.bytes value).last some

/-- A value of a payload that is read to its end is read. -/
theorem reads_cell
    {reader : Reader Value}
    {raw : Bytes}
    {value : Value}
    (fits : raw.length < 2 ^ 31)
    (whole : reader.whole raw = some value) :
    Reads (cell reader) (i32Be raw.length ++ raw) value := by
  have read :
      Reads (cell reader) (i32Be raw.length ++ raw ++ []) value :=
    (reads_bytes fits).bind (Reads.lift whole)
  rwa [List.append_nil] at read

/-- A field of all ones is read as -1. -/
theorem reads_minusOne : Reads (Reader.signed 4) (toBe 4 (2 ^ 32 - 1)) (-1) := by
  have minusOne : ofBeSigned (toBe 4 (2 ^ 32 - 1)) = -1 := by
    decide
  have read := Reads.signed 4 (2 ^ 32 - 1)
  rwa [minusOne] at read

/-- A length of -1 is read as null. -/
theorem reads_null (reader : Reader Value) :
    Reads (cell reader) Value.null.toWire .null := by
  have noBytes : Reads bytes (toBe 4 (2 ^ 32 - 1) ++ []) none :=
    reads_minusOne.bind (Reads.pure none)
  have read :
      Reads (cell reader) (toBe 4 (2 ^ 32 - 1) ++ [] ++ []) .null :=
    noBytes.bind (Reads.pure Value.null)
  rwa [List.append_nil, List.append_nil] at read

/-- A collection is read: how many items it has, and these. -/
theorem reads_collection
    {α β : Type}
    {reader : Reader α}
    {encode : α → Bytes}
    {items : List α}
    (fits : (i32Be items.length ++ items.flatMap encode).length < 2 ^ 31)
    (nonempty : ∀ item ∈ items, 0 < (encode item).length)
    (reads : ∀ item ∈ items, Reads reader (encode item) item)
    (build : List α → β) :
    Reads
      (do
        let count ← Reader.signed 4
        return build (← reader.times count.toNat))
      (i32Be items.length ++ items.flatMap encode) (build items) := by
  have counted : items.length < 2 ^ 31 := by
    have enough := Value.length_le_flatMap nonempty
    simp only [List.length_append] at fits
    omega
  have all := Reads.times id reads
  rw [List.map_id] at all
  refine (reads_count counted).bind ?_
  rw [Int.toNat_natCast]
  exact all.last build

/-- A number is read to its end. -/
theorem whole_unsigned
    {width number : Nat}
    (fits : number < 256 ^ width)
    {build : Nat → Value}
    {value : Value}
    (built : build number = value) :
    Reader.whole (do return build (← Reader.unsigned width)) (toBe width number) =
      some value := by
  rw [← built]
  exact ((Reads.unsigned fits).last build).whole

/-- No wire form is empty. -/
theorem length_toWire_pos (value : Value) : 0 < value.toWire.length := by
  cases isNull : value.isNull with
  | false =>
      rw [Value.length_toWire isNull]
      omega
  | true =>
      cases value with
      | null =>
          decide
      | _ =>
          cases isNull

/-- An item of a collection is read where payloads of its type are. -/
theorem reads_item
    {columnType : ColumnType}
    {value : Value}
    (typed : value.WellTyped columnType)
    (decodes :
      value.WellTyped columnType →
      value.rawBytes.length < 2 ^ 31 →
      (payload columnType).whole value.rawBytes = some value)
    {front items : Bytes}
    (inside : value.toWire.length ≤ items.length)
    (fits : (front ++ items).length < 2 ^ 31) :
    Reads (cell (payload columnType)) value.toWire value := by
  have notNull := typed.isNull_eq_false
  have small : value.rawBytes.length < 2 ^ 31 := by
    rw [Value.length_toWire notNull] at inside
    rw [List.length_append] at fits
    omega
  rw [Value.toWire_eq_prefixed notNull]
  exact reads_cell small (decodes typed small)

/-- The payload of a value is read back at its type. -/
theorem payload_rawBytes
    (columnType : ColumnType)
    (value : Value)
    (typed : value.WellTyped columnType)
    (fits : value.rawBytes.length < 2 ^ 31) :
    (payload columnType).whole value.rawBytes = some value := by
  induction columnType generalizing value with
  | int =>
      cases value <;> try exact typed.elim
      rename_i number
      exact whole_unsigned number.toUInt32.toNat_lt (by simp)
  | bigInt =>
      cases value <;> try exact typed.elim
      rename_i number
      exact whole_unsigned number.toUInt64.toNat_lt (by simp)
  | smallInt =>
      cases value <;> try exact typed.elim
      rename_i number
      exact whole_unsigned number.toUInt16.toNat_lt (by simp)
  | tinyInt =>
      cases value <;> try exact typed.elim
      rename_i number
      have byte : toBe 1 number.toUInt8.toNat = [number.toUInt8] := by
        simp [toBe]
      rw [Value.rawBytes, ← byte]
      exact whole_unsigned number.toUInt8.toNat_lt (by simp)
  | float =>
      cases value <;> try exact typed.elim
      rename_i bits
      exact whole_unsigned bits.toNat_lt (by simp)
  | double =>
      cases value <;> try exact typed.elim
      rename_i bits
      exact whole_unsigned bits.toNat_lt (by simp)
  | boolean =>
      cases value <;> try exact typed.elim
      rename_i flag
      cases flag <;> rfl
  | text =>
      cases value <;> try exact typed.elim
      rename_i text
      rw [payload, Reader.whole_rest, Value.rawBytes, fromUtf8?_utf8]
      rfl
  | blob =>
      cases value <;> try exact typed.elim
      rfl
  | timestamp =>
      cases value <;> try exact typed.elim
      rename_i number
      exact whole_unsigned number.toUInt64.toNat_lt (by simp)
  | uuid =>
      cases value <;> try exact typed.elim
      rename_i raw
      rw [payload, Reader.whole_rest, Value.rawBytes, octets,
        dif_pos raw.toList_length]
      rfl
  | inet =>
      cases value <;> try exact typed.elim
      rename_i raw
      rw [payload, Reader.whole_rest]
      cases raw with
      | v4 raw =>
          simp [Value.rawBytes, address, octets]
      | v6 raw =>
          simp [Value.rawBytes, address, octets]
  | set element inductionHypothesis =>
      cases value <;> try exact typed.elim
      rename_i values
      rw [Value.WellTyped] at typed
      rw [Value.rawBytes] at fits ⊢
      have reads : ∀ value ∈ values, Reads (cell (payload element)) value.toWire value :=
        fun value member =>
          reads_item (typed value member) (inductionHypothesis value)
            (Value.length_encode_le_of_mem Value.toWire member) fits
      exact (reads_collection fits (fun value _ => length_toWire_pos value) reads
        Value.set).whole
  | list element inductionHypothesis =>
      cases value <;> try exact typed.elim
      rename_i values
      rw [Value.WellTyped] at typed
      rw [Value.rawBytes] at fits ⊢
      have reads : ∀ value ∈ values, Reads (cell (payload element)) value.toWire value :=
        fun value member =>
          reads_item (typed value member) (inductionHypothesis value)
            (Value.length_encode_le_of_mem Value.toWire member) fits
      exact (reads_collection fits (fun value _ => length_toWire_pos value) reads
        Value.list).whole
  | map keyType valueType keyHypothesis valueHypothesis =>
      cases value <;> try exact typed.elim
      rename_i entries
      rw [Value.WellTyped] at typed
      rw [Value.rawBytes] at fits ⊢
      have reads :
          ∀ entry ∈ entries,
            Reads
              (do
                let entryKey ← cell (payload keyType)
                return (entryKey, ← cell (payload valueType)))
              (entry.1.toWire ++ entry.2.toWire) entry := by
        intro entry member
        obtain ⟨keyTyped, valueTyped⟩ := typed entry member
        have inside :=
          Value.length_encode_le_of_mem
            (fun entry : Value × Value => entry.1.toWire ++ entry.2.toWire) member
        rw [List.length_append] at inside
        have key :=
          reads_item keyTyped (keyHypothesis entry.1)
            ((Nat.le_add_right _ _).trans inside) fits
        have value :=
          reads_item valueTyped (valueHypothesis entry.2)
            ((Nat.le_add_left _ _).trans inside) fits
        exact key.bind (value.last fun value => (entry.1, value))
      refine (reads_collection fits ?_ reads Value.map).whole
      intro entry _
      rw [List.length_append]
      exact Nat.add_pos_left (length_toWire_pos entry.1) _

/-- A cell: null, or a value of the column's type that fits its length. -/
def CellFits (columnType : ColumnType) (value : Value) : Prop :=
  value = .null ∨
    value.WellTyped columnType ∧ value.rawBytes.length < 2 ^ 31

/-- A cell is read back at its column's type. -/
theorem reads_value
    {columnType : ColumnType}
    {value : Value}
    (fits : CellFits columnType value) :
    Reads (cell (payload columnType)) value.toWire value := by
  rcases fits with rfl | ⟨typed, small⟩
  · exact reads_null _
  · rw [Value.toWire_eq_prefixed typed.isNull_eq_false]
    exact reads_cell small (payload_rawBytes columnType value typed small)

/-- Rows are read back at the types of their columns. -/
theorem reads_rows
    {types : List ColumnType}
    {values : List (List Value)}
    (count : values.length < 2 ^ 31)
    (fits : ∀ row ∈ values, List.Forall₂ CellFits types row) :
    Reads (rows types)
      (i32Be values.length ++ values.flatMap fun row => row.flatMap Value.toWire)
      values := by
  have readsRow :
      ∀ row ∈ values,
        Reads (Reader.each (fun columnType => cell (payload columnType)) types)
          (row.flatMap Value.toWire) row :=
    fun row member => Reads.each ((fits row member).imp fun _ _ => reads_value)
  have all := Reads.times id readsRow
  rw [List.map_id] at all
  refine (reads_count count).bind ?_
  rw [Int.toNat_natCast]
  exact all

/-! ## How metadata is read -/

/-- The number of a type without elements is read as the type. -/
theorem reads_scalar
    {elementType : ColumnType}
    (scalar : elementType.Scalar)
    (depth : Nat) :
    Reads (typeOption (depth + 1)) (toBe 2 elementType.wireId.toNat) elementType := by
  have number := reads_short elementType.wireId
  have read :
      Reads (typeOption (depth + 1)) (toBe 2 elementType.wireId.toNat ++ [])
        elementType := by
    cases elementType with
    | set element =>
        exact scalar.elim
    | list element =>
        exact scalar.elim
    | map key value =>
        exact scalar.elim
    | _ =>
        exact number.bind (Reads.pure _)
  rwa [List.append_nil] at read

/-- A type option of a collection of scalars is read back. -/
theorem reads_typeOption
    {optionType : ColumnType}
    (flat : optionType.Flat)
    (depth : Nat) :
    Reads (typeOption (depth + 2)) optionType.wireType optionType := by
  have number := reads_short optionType.wireId
  cases optionType with
  | set element =>
      exact number.bind ((reads_scalar flat depth).last ColumnType.set)
  | list element =>
      exact number.bind ((reads_scalar flat depth).last ColumnType.list)
  | map key value =>
      exact number.bind ((reads_scalar flat.1 depth).bind
        ((reads_scalar flat.2 depth).last (ColumnType.map key)))
  | _ =>
      exact number.bind (Reads.pure _)

/-- A type is read where it stands. -/
theorem reads_columnType
    {optionType : ColumnType}
    (flat : optionType.Flat) :
    Reads columnType optionType.wireType optionType := by
  intro rest
  have deep : 2 ≤ (optionType.wireType ++ rest).length := by
    have front :
        toBe 2 optionType.wireId.toNat <+: optionType.wireType ++ rest :=
      (List.prefix_append _ _).trans (List.prefix_append _ rest)
    simpa using front.length_le
  obtain ⟨depth, length⟩ := Nat.exists_eq_add_of_le' deep
  change
    typeOption (optionType.wireType ++ rest).length (optionType.wireType ++ rest) =
      some (optionType, rest)
  rw [length]
  exact reads_typeOption flat depth rest

/-- The field of a string. -/
def stringField (text : String) : Bytes :=
  toBe 2 (utf8 text).length ++ utf8 text

/-- The field of a column's name and type. -/
def specField (col : String × ColumnType) : Bytes :=
  stringField col.1 ++ col.2.wireType

/-- The fields of the table of all columns and of the columns. -/
def globalField
    (keyspace table : String)
    (cols : List (String × ColumnType)) :
    Bytes :=
  stringField keyspace ++ stringField table ++ cols.flatMap specField

/-- The columns of one table as metadata describes them. -/
def globalColumns
    (keyspace table : String)
    (cols : List (String × ColumnType)) :
    Columns :=
  ⟨some (keyspace, table), cols.map fun col => ⟨none, col.1, col.2⟩⟩

/-- As many columns as a count holds, of short names and flat types. -/
structure ColumnsFit (cols : List (String × ColumnType)) : Prop where
  count : cols.length < 2 ^ 31
  names : ∀ col ∈ cols, (utf8 col.1).length ≤ 65535
  types : ∀ col ∈ cols, col.2.Flat

/-- The columns of one table are read back. -/
theorem reads_columns
    {keyspace table : String}
    (keyspaceFits : (utf8 keyspace).length ≤ 65535)
    (tableFits : (utf8 table).length ≤ 65535)
    {cols : List (String × ColumnType)}
    (fits : ColumnsFit cols) :
    Reads (columns true cols.length) (globalField keyspace table cols)
      (globalColumns keyspace table cols) := by
  have readsTable :
      Reads tableSpec (stringField keyspace ++ stringField table)
        (keyspace, table) :=
    (reads_string keyspaceFits).bind
      ((reads_string tableFits).last fun table => (keyspace, table))
  have readsSpec :
      ∀ col ∈ cols,
        Reads (columnSpec true) (specField col) (⟨none, col.1, col.2⟩ : ColumnSpec) := by
    intro col member
    refine (Reads.onlyIf_absent tableSpec).bind
      ((reads_string (fits.names col member)).bind ?_)
    exact (reads_columnType (fits.types col member)).last
      fun columnType => (⟨none, col.1, columnType⟩ : ColumnSpec)
  have readsSpecs :=
    Reads.times (fun col : String × ColumnType => (⟨none, col.1, col.2⟩ : ColumnSpec))
      readsSpec
  exact readsTable.onlyIf_present.bind
    (readsSpecs.last fun specs => (⟨some (keyspace, table), specs⟩ : Columns))

/-- The field of a paging state, if there is one. -/
def pagingBytes : Option Bytes → Bytes
  | some state =>
      i32Be state.length ++ state
  | none =>
      []

/-- Metadata is read as its flags say. -/
theorem reads_metadata
    {flags : Nat}
    (small : flags < 256 ^ 4)
    {countField : Bytes}
    {count : Int}
    (readsCount : Reads (Reader.signed 4) countField count)
    {pagingState : Option Bytes}
    (hasMore : flags.testBit 1 = pagingState.isSome)
    (pagingFits : ∀ state, pagingState = some state → state.length < 2 ^ 31)
    {columnsField : Bytes}
    {described : Option Columns}
    (readsColumns :
      Reads
        (Reader.onlyIf (!flags.testBit 2 && decide (0 ≤ count))
          (columns (flags.testBit 0) count.toNat))
        columnsField described) :
    Reads metadata
      (i32Be flags ++ (countField ++ (pagingBytes pagingState ++ columnsField)))
      ⟨pagingState, described⟩ := by
  have readsPaging :
      Reads (Reader.onlyIf (flags.testBit 1) bytes) (pagingBytes pagingState)
        (pagingState.map some) := by
    rw [hasMore]
    cases pagingState with
    | none =>
        exact Reads.onlyIf_absent bytes
    | some state =>
        exact (reads_bytes (pagingFits state rfl)).onlyIf_present
  have joined : (pagingState.map some).join = pagingState := by
    cases pagingState <;> rfl
  refine (Reads.unsigned small).bind (readsCount.bind (readsPaging.bind ?_))
  rw [joined]
  exact readsColumns.last fun columns => (⟨pagingState, columns⟩ : Metadata)

/-- The metadata of one table's columns is read back. -/
theorem reads_described
    {keyspace table : String}
    (keyspaceFits : (utf8 keyspace).length ≤ 65535)
    (tableFits : (utf8 table).length ≤ 65535)
    {cols : List (String × ColumnType)}
    (fits : ColumnsFit cols)
    {pagingState : Option Bytes}
    (pagingFits : ∀ state, pagingState = some state → state.length < 2 ^ 31) :
    Reads metadata
      (i32Be (0x0001 ||| if pagingState.isSome then 0x0002 else 0) ++
        (i32Be cols.length ++
          (pagingBytes pagingState ++ globalField keyspace table cols)))
      ⟨pagingState, some (globalColumns keyspace table cols)⟩ := by
  have readsCount := reads_count fits.count
  have described
      {flags : Nat}
      (global : flags.testBit 0 = true)
      (kept : flags.testBit 2 = false) :
      Reads
        (Reader.onlyIf (!flags.testBit 2 && decide (0 ≤ (cols.length : Int)))
          (columns (flags.testBit 0) (cols.length : Int).toNat))
        (globalField keyspace table cols)
        (some (globalColumns keyspace table cols)) := by
    rw [global, kept, Int.toNat_natCast, decide_eq_true (Int.natCast_nonneg _)]
    exact (reads_columns keyspaceFits tableFits fits).onlyIf_present
  cases pagingState with
  | none =>
      have small : 0x0001 < 256 ^ 4 := by
        decide
      exact reads_metadata small readsCount rfl pagingFits (described rfl rfl)
  | some state =>
      have flags :
          (0x0001 ||| if (some state).isSome then 0x0002 else 0) = 0x0003 := by
        simp
      have small : 0x0003 < 256 ^ 4 := by
        decide
      rw [flags]
      exact reads_metadata small readsCount rfl pagingFits (described rfl rfl)

/-- Metadata that leaves out the columns is read back. -/
theorem reads_undescribed
    {pagingState : Option Bytes}
    (pagingFits : ∀ state, pagingState = some state → state.length < 2 ^ 31) :
    Reads metadata
      (i32Be (if pagingState.isSome then 0x0002 else 0) ++
        (toBe 4 (2 ^ 32 - 1) ++ pagingBytes pagingState))
      ⟨pagingState, none⟩ := by
  have absent (flags : Nat) :
      Reads
        (Reader.onlyIf (!flags.testBit 2 && decide ((0 : Int) ≤ -1))
          (columns (flags.testBit 0) (Int.toNat (-1))))
        [] none := by
    have negative : decide ((0 : Int) ≤ -1) = false := by
      decide
    rw [negative, Bool.and_false]
    exact Reads.onlyIf_absent _
  rw [← List.append_nil (pagingBytes pagingState)]
  cases pagingState with
  | none =>
      have small : 0x0000 < 256 ^ 4 := by
        decide
      exact reads_metadata small reads_minusOne rfl pagingFits (absent 0)
  | some state =>
      have small : 0x0002 < 256 ^ 4 := by
        decide
      exact reads_metadata small reads_minusOne rfl pagingFits (absent 2)

/-! ## How frames are read -/

/-- A byte is read back. -/
theorem reads_byte (byte : UInt8) : Reads (Reader.unsigned 1) [byte] byte.toNat := by
  have field : toBe 1 byte.toNat = [byte] := by
    simp [toBe]
  have read : Reads (Reader.unsigned 1) (toBe 1 byte.toNat) byte.toNat :=
    Reads.unsigned byte.toNat_lt
  rwa [field] at read

/-- The key indexes of bind variables are read back. -/
theorem reads_keyIndexes (keyIndexes : List UInt16) :
    Reads ((Reader.unsigned 2).times keyIndexes.length)
      (keyIndexes.flatMap fun index => toBe 2 index.toNat)
      (keyIndexes.map UInt16.toNat) :=
  Reads.times UInt16.toNat fun index _ => reads_short index

/-- The metadata of bind variables of one table is read back. -/
theorem reads_preparedMetadata
    {keyspace table : String}
    (keyspaceFits : (utf8 keyspace).length ≤ 65535)
    (tableFits : (utf8 table).length ≤ 65535)
    {bindSpecs : List (String × ColumnType)}
    (fits : ColumnsFit bindSpecs)
    {pkIndexes : List UInt16}
    (keyCount : pkIndexes.length < 2 ^ 31) :
    Reads preparedMetadata
      (i32Be 0x0001 ++
        (i32Be bindSpecs.length ++
          (i32Be pkIndexes.length ++
            (pkIndexes.flatMap (fun index => toBe 2 index.toNat) ++
              globalField keyspace table bindSpecs))))
      ⟨pkIndexes, globalColumns keyspace table bindSpecs⟩ := by
  have small : 0x0001 < 256 ^ 4 := by
    decide
  have sameIndex : UInt16.ofNat ∘ UInt16.toNat = id :=
    funext fun index => UInt16.ofNat_toNat
  have sameIndexes : (pkIndexes.map UInt16.toNat).map UInt16.ofNat = pkIndexes := by
    rw [List.map_map, sameIndex, List.map_id]
  refine (Reads.unsigned small).bind ((reads_count fits.count).bind
    ((reads_count keyCount).bind ((reads_keyIndexes pkIndexes).bind ?_)))
  rw [sameIndexes]
  exact (reads_columns keyspaceFits tableFits fits).last
    fun columns => (⟨pkIndexes, columns⟩ : PreparedMetadata)

/-- A frame around a body that is read to its end is read to its end. -/
theorem decode_frame
    {known : List ColumnType}
    {body : Bytes}
    (fits : body.length < 2 ^ 31)
    {result : ResultBody}
    (read : (resultBody known).whole body = some result)
    (version : UInt8)
    (stream : Int16) :
    decode known
        ([version, 0x00] ++ toBe 2 stream.toUInt16.toNat ++ [0x08] ++
          toBe 4 body.length ++ body) =
      some ⟨version, stream, result⟩ := by
  have accepted :
      (if (0x00 : UInt8).toNat = 0 ∧ (0x08 : UInt8).toNat = 0x08 then
        (resultBody known).whole body
      else
        none) =
        some result := by
    rw [if_pos (by decide), read]
  have readsBody :=
    (Reads.lift accepted).last fun body =>
      (⟨UInt8.ofNat version.toNat, (UInt16.ofNat stream.toUInt16.toNat).toInt16,
        body⟩ : ResultFrame)
  have readsFrame :
      Reads (resultFrame known)
        ([version] ++ ([0x00] ++ (toBe 2 stream.toUInt16.toNat ++ ([0x08] ++
          (toBe 4 body.length ++ (body ++ []))))))
        ⟨UInt8.ofNat version.toNat, (UInt16.ofNat stream.toUInt16.toNat).toInt16,
          result⟩ :=
    (reads_byte version).bind ((reads_byte 0x00).bind
      ((reads_short stream.toUInt16).bind ((reads_byte 0x08).bind
        ((reads_count fits).bind ((Reads.bytes body).bind readsBody)))))
  have whole := readsFrame.whole
  simpa [decode] using whole

/-- Rows are read behind their metadata, at the types it announces. -/
theorem resultBody_rows
    {known : List ColumnType}
    {described : Bytes}
    {sent : Metadata}
    (readsMetadata : Reads metadata described sent)
    {values : List (List Value)}
    (count : values.length < 2 ^ 31)
    (cells : ∀ row ∈ values, List.Forall₂ CellFits (sent.types known) row) :
    (resultBody known).whole
        (i32Be 0x0002 ++ described ++ i32Be values.length ++
          values.flatMap fun row => row.flatMap Value.toWire) =
      some (.rows sent values) := by
  have small : 0x0002 < 256 ^ 4 := by
    decide
  have readsBody :
      Reads (resultBody known)
        (i32Be 0x0002 ++ (described ++ (i32Be values.length ++
          values.flatMap fun row => row.flatMap Value.toWire)))
        (.rows sent values) :=
    (Reads.unsigned small).bind (readsMetadata.bind
      ((reads_rows count cells).last (ResultBody.rows sent)))
  simpa using readsBody.whole

/-- The answer to a PREPARE is read behind its identifier. -/
theorem resultBody_prepared
    (known : List ColumnType)
    {id : Bytes}
    (idFits : id.length ≤ 65535)
    {bindsField resultsField : Bytes}
    {binds : PreparedMetadata}
    {results : Metadata}
    (readsBinds : Reads preparedMetadata bindsField binds)
    (readsResults : Reads metadata resultsField results) :
    (resultBody known).whole
        (i32Be 0x0004 ++ (toBe 2 id.length ++ id) ++ bindsField ++ resultsField) =
      some (.prepared id binds results) := by
  have small : 0x0004 < 256 ^ 4 := by
    decide
  have readsBody :
      Reads (resultBody known)
        (i32Be 0x0004 ++ ((toBe 2 id.length ++ id) ++ (bindsField ++ resultsField)))
        (.prepared id binds results) :=
    (Reads.unsigned small).bind ((reads_shortBytes idFits).bind (readsBinds.bind
      (readsResults.last (ResultBody.prepared id binds))))
  simpa using readsBody.whole

end CqlReader

/-! ## Frames of the server -/

open CqlReader

section Sent

variable {scylla : ScyllaCql} (documented : scylla.Documented)

include documented

/-- Short strings are written. -/
theorem expectWritten_string
    {text : String}
    (fits : (utf8 text).length ≤ 65535) :
    expectWritten (scylla.writeString text) = .ok (stringField text) := by
  rw [documented.string text fits]
  rfl

/-- Columns of short names are written one after the other. -/
theorem columnSpecs_eq
    {cols : List (String × ColumnType)}
    (names : ∀ col ∈ cols, (utf8 col.1).length ≤ 65535) :
    columnSpecs scylla cols = .ok (cols.flatMap specField) := by
  induction cols with
  | nil =>
      rfl
  | cons col cols inductionHypothesis =>
      have first := expectWritten_string documented (names col List.mem_cons_self)
      have others :=
        inductionHypothesis fun later member =>
          names later (List.mem_cons_of_mem _ member)
      rw [columnSpecs, first, others]
      rfl

/-- The columns of one table are written behind its name. -/
theorem globalSpecs_eq
    {keyspace table : String}
    (keyspaceFits : (utf8 keyspace).length ≤ 65535)
    (tableFits : (utf8 table).length ≤ 65535)
    {cols : List (String × ColumnType)}
    (fits : ColumnsFit cols) :
    globalSpecs scylla keyspace table cols =
      .ok (globalField keyspace table cols) := by
  rw [globalSpecs, expectWritten_string documented keyspaceFits,
    expectWritten_string documented tableFits, columnSpecs_eq documented fits.names]
  rfl

/-- A paging state is written with its length. -/
theorem pagingField_eq
    {pagingState : Option Bytes}
    (pagingFits : ∀ state, pagingState = some state → state.length < 2 ^ 31) :
    pagingField scylla pagingState = .ok (pagingBytes pagingState) := by
  cases pagingState with
  | none =>
      rfl
  | some state =>
      rw [pagingField, documented.bytes state (pagingFits state rfl)]
      rfl

end Sent

/--
The server sends a frame, and a client that knows these types reads it to its
last byte unless the body is longer than the header can say.
-/
def ReadAs
    (known : List ColumnType)
    (sent : Outcome Bytes)
    (result : ResultFrame) :
    Prop :=
  ∃ frame,
    sent = .ok frame ∧
      (frame.length < 9 + 2 ^ 31 → decode known frame = some result)

/-- An uncompressed frame is read when its body is. -/
theorem responseFrame_readAs
    (scylla : ScyllaCql)
    {known : List ColumnType}
    {body : Bytes}
    {result : ResultBody}
    (read : (resultBody known).whole body = some result)
    (version : UInt8)
    (stream : Int16) :
    ReadAs known (responseFrame scylla version stream .result body none)
      ⟨version ||| 0x80, stream, result⟩ := by
  refine ⟨_, rfl, ?_⟩
  intro fits
  simp only [List.length_append, List.length_cons, List.length_nil, length_toBe] at fits
  exact decode_frame (by omega) read (version ||| 0x80) stream

/-- What a frame of rows can carry. -/
structure RowsFit
    (cols : List (String × ColumnType))
    (rows : List (List Value))
    (pagingState : Option Bytes) :
    Prop where
  columns : ColumnsFit cols
  count : rows.length < 2 ^ 31
  cells : ∀ row ∈ rows, List.Forall₂ CellFits (cols.map Prod.snd) row
  paging : ∀ state, pagingState = some state → state.length < 2 ^ 31

/-- What an answer to a PREPARE can carry. -/
structure PreparedFits
    (id : Bytes)
    (bindSpecs : List (String × ColumnType))
    (pkIndexes : List UInt16)
    (resultCols : List (String × ColumnType)) :
    Prop where
  id : id.length ≤ 65535
  binds : ColumnsFit bindSpecs
  keyCount : pkIndexes.length < 2 ^ 31
  results : ColumnsFit resultCols

/--
A client reads frames of rows, with and without metadata, and answers to a
PREPARE back to what the server was given.
-/
theorem result_frames_decode
    {scylla : ScyllaCql}
    (documented : scylla.Documented)
    (version : UInt8)
    (stream : Int16)
    {keyspace table : String}
    (keyspaceFits : (utf8 keyspace).length ≤ 65535)
    (tableFits : (utf8 table).length ≤ 65535) :
    (∀ cols rows pagingState known,
      RowsFit cols rows pagingState →
      ReadAs known
        (resultRows scylla version stream keyspace table cols rows false
          pagingState none)
        ⟨version ||| 0x80, stream,
          .rows ⟨pagingState, some (globalColumns keyspace table cols)⟩ rows⟩) ∧
    (∀ cols rows pagingState,
      RowsFit cols rows pagingState →
      ReadAs (cols.map Prod.snd)
        (resultRows scylla version stream keyspace table cols rows true
          pagingState none)
        ⟨version ||| 0x80, stream, .rows ⟨pagingState, none⟩ rows⟩) ∧
    (∀ id bindSpecs pkIndexes resultCols known,
      PreparedFits id bindSpecs pkIndexes resultCols →
      ReadAs known
        (resultPrepared scylla version stream id keyspace table bindSpecs
          pkIndexes resultCols none)
        ⟨version ||| 0x80, stream,
          .prepared id ⟨pkIndexes, globalColumns keyspace table bindSpecs⟩
            ⟨none, some (globalColumns keyspace table resultCols)⟩⟩) := by
  refine ⟨?_, ?_, ?_⟩
  · intro cols rows pagingState known fits
    have announced :
        (⟨pagingState, some (globalColumns keyspace table cols)⟩ : Metadata).types
            known =
          cols.map Prod.snd := by
      simp [Metadata.types, globalColumns]
    have read :=
      resultBody_rows
        (reads_described keyspaceFits tableFits fits.columns fits.paging)
        fits.count (announced ▸ fits.cells)
    rw [resultRows, rowsMetadata, pagingField_eq documented fits.paging,
      globalSpecs_eq documented keyspaceFits tableFits fits.columns]
    simp only [← List.append_assoc] at read
    exact responseFrame_readAs scylla read version stream
  · intro cols rows pagingState fits
    have read :=
      resultBody_rows (reads_undescribed fits.paging) fits.count fits.cells
    rw [resultRows, rowsMetadata, pagingField_eq documented fits.paging]
    simp only [← List.append_assoc] at read
    exact responseFrame_readAs scylla read version stream
  · intro id bindSpecs pkIndexes resultCols known fits
    have noPaging :
        ∀ state, (none : Option Bytes) = some state → state.length < 2 ^ 31 := by
      intro state absent
      cases absent
    have read :=
      resultBody_prepared known fits.id
        (reads_preparedMetadata keyspaceFits tableFits fits.binds fits.keyCount)
        (reads_described keyspaceFits tableFits fits.results noPaging)
    rw [resultPrepared, documented.shortBytes id fits.id,
      globalSpecs_eq documented keyspaceFits tableFits fits.binds,
      globalSpecs_eq documented keyspaceFits tableFits fits.results]
    exact responseFrame_readAs scylla read version stream

/-- Writers that refuse only what their length fields cannot say. -/
def plainScyllaCql : ScyllaCql where
  writeString text :=
    if (utf8 text).length ≤ 65535 then
      some (toBe 2 (utf8 text).length ++ utf8 text)
    else
      none
  writeBytes value :=
    if value.length < 2 ^ 31 then
      some (i32Be value.length ++ value)
    else
      none
  writeShortBytes value :=
    if value.length ≤ 65535 then
      some (toBe 2 value.length ++ value)
    else
      none
  compressAppend _ _ :=
    none

/-- They write as documented. -/
theorem plainScyllaCql_documented : plainScyllaCql.Documented where
  string _ fits := if_pos fits
  bytes _ fits := if_pos fits
  shortBytes _ fits := if_pos fits

/-- One row of `SELECT k FROM app.kv`, and a page state behind its metadata. -/
theorem result_frames_decode_one_row :
    ReadAs []
      (resultRows plainScyllaCql 0x04 7 "app" "kv" [("k", .int)] [[.int 5]] false
        (some [1, 2]) none)
      ⟨0x84, 7,
        .rows ⟨some [1, 2], some (globalColumns "app" "kv" [("k", .int)])⟩
          [[.int 5]]⟩ := by
  have columns : ColumnsFit [("k", ColumnType.int)] := by
    refine ⟨by decide, ?_, ?_⟩
    · intro col member
      rw [List.mem_singleton.mp member]
      decide
    · intro col member
      rw [List.mem_singleton.mp member]
      trivial
  have cells :
      ∀ row ∈ [[Value.int 5]],
        List.Forall₂ CellFits ([("k", ColumnType.int)].map Prod.snd) row := by
    intro row member
    rw [List.mem_singleton.mp member]
    exact .cons (.inr ⟨trivial, by decide⟩) .nil
  have paging :
      ∀ state, some ([1, 2] : Bytes) = some state → state.length < 2 ^ 31 := by
    intro state same
    cases same
    decide
  exact (result_frames_decode plainScyllaCql_documented 0x04 7
    (by decide) (by decide)).1 _ _ _ _ ⟨columns, by decide, cells, paging⟩

end RhydaDB
