import RhydaDB.CqlValue

namespace RhydaDB

open ByteStrings

/-!
# Result frames

The frames of `protocol.rs` that carry metadata: the rows of a SELECT and the
answer to a PREPARE.  The driver library's writers of strings and byte strings
and its compression are parameters; all of them can refuse their argument, and
the server expects that they do not.
-/

/-- The compression algorithms of the protocol. -/
inductive Compression where
  | lz4
  | snappy
  deriving Repr, DecidableEq

/-- The opcodes of the responses that the server sends. -/
inductive ResponseOpcode where
  | error
  | ready
  | supported
  | result
  deriving Repr, DecidableEq

/-- The byte of an opcode. -/
def ResponseOpcode.toUInt8 : ResponseOpcode → UInt8
  | .error =>
      0x00
  | .ready =>
      0x02
  | .supported =>
      0x06
  | .result =>
      0x08

/-- The functions of the driver library that the server builds frames with. -/
structure ScyllaCql where
  writeString : String → Option Bytes
  writeBytes : Bytes → Option Bytes
  writeShortBytes : Bytes → Option Bytes
  compressAppend : Bytes → Compression → Option Bytes

/-- The library writes a length and the bytes wherever the length fits its field. -/
structure ScyllaCql.Documented (scylla : ScyllaCql) : Prop where
  string :
    ∀ text,
      (utf8 text).length ≤ 65535 →
      scylla.writeString text = some (toBe 2 (utf8 text).length ++ utf8 text)
  bytes :
    ∀ value,
      value.length < 2 ^ 31 →
      scylla.writeBytes value = some (i32Be value.length ++ value)
  shortBytes :
    ∀ value,
      value.length ≤ 65535 →
      scylla.writeShortBytes value = some (toBe 2 value.length ++ value)

/-- `expect`: a refusal panics. -/
def expectWritten (written : Option Bytes) : Outcome Bytes :=
  match written with
  | some bytes =>
      .ok bytes
  | none =>
      .error .panic

namespace ColumnType

/-- The number of a type in the protocol. -/
def wireId : ColumnType → UInt16
  | .int =>
      0x0009
  | .bigInt =>
      0x0002
  | .smallInt =>
      0x0013
  | .tinyInt =>
      0x0014
  | .float =>
      0x0008
  | .double =>
      0x0007
  | .boolean =>
      0x0004
  | .text =>
      0x000D
  | .blob =>
      0x0003
  | .timestamp =>
      0x000B
  | .uuid =>
      0x000C
  | .inet =>
      0x0010
  | .set _ =>
      0x0022
  | .list _ =>
      0x0020
  | .map _ _ =>
      0x0021

/-- What `write_wire_type` appends: element types by their numbers alone. -/
def wireType (columnType : ColumnType) : Bytes :=
  toBe 2 columnType.wireId.toNat ++
    match columnType with
    | .set element =>
        toBe 2 element.wireId.toNat
    | .list element =>
        toBe 2 element.wireId.toNat
    | .map key value =>
        toBe 2 key.wireId.toNat ++ toBe 2 value.wireId.toNat
    | _ =>
        []

end ColumnType

section Frames

variable (scylla : ScyllaCql)

/-- A frame: nine bytes of header and the body, compressed on request. -/
def responseFrame
    (version : UInt8)
    (stream : Int16)
    (opcode : ResponseOpcode)
    (body : Bytes)
    (compression : Option Compression) :
    Outcome Bytes := do
  let (flags, payload) ←
    match compression with
    | some algorithm => do
        let compressed ← expectWritten (scylla.compressAppend body algorithm)
        pure ((0x01 : UInt8), compressed)
    | none =>
        pure (0x00, body)
  return [version ||| 0x80, flags] ++ toBe 2 stream.toUInt16.toNat ++
    [opcode.toUInt8] ++ toBe 4 payload.length ++ payload

/-- An ERROR frame: a code and a message. -/
def Protocol.error
    (version : UInt8)
    (stream : Int16)
    (code : Nat)
    (message : String)
    (compression : Option Compression) :
    Outcome Bytes := do
  let written ← expectWritten (scylla.writeString message)
  responseFrame scylla version stream .error (toBe 4 code ++ written) compression

/-- The names and types of columns, one after the other. -/
def columnSpecs : List (String × ColumnType) → Outcome Bytes
  | [] =>
      .ok []
  | (name, columnType) :: cols => do
      let written ← expectWritten (scylla.writeString name)
      let others ← columnSpecs cols
      return written ++ columnType.wireType ++ others

/-- The keyspace and table that all columns belong to, and the columns. -/
def globalSpecs
    (keyspace table : String)
    (cols : List (String × ColumnType)) :
    Outcome Bytes := do
  let keyspaceField ← expectWritten (scylla.writeString keyspace)
  let tableField ← expectWritten (scylla.writeString table)
  let specs ← columnSpecs scylla cols
  return keyspaceField ++ tableField ++ specs

/-- The field of a paging state, if there is one. -/
def pagingField (pagingState : Option Bytes) : Outcome Bytes :=
  match pagingState with
  | some state =>
      expectWritten (scylla.writeBytes state)
  | none =>
      .ok []

/-- The answer to a PREPARE. -/
def resultPrepared
    (version : UInt8)
    (stream : Int16)
    (id : Bytes)
    (keyspace table : String)
    (bindSpecs : List (String × ColumnType))
    (pkIndexes : List UInt16)
    (resultCols : List (String × ColumnType))
    (compression : Option Compression) :
    Outcome Bytes := do
  let idField ← expectWritten (scylla.writeShortBytes id)
  let binds ← globalSpecs scylla keyspace table bindSpecs
  let results ← globalSpecs scylla keyspace table resultCols
  let body :=
    i32Be 0x0004 ++ idField ++
      (i32Be 0x0001 ++ i32Be bindSpecs.length ++ i32Be pkIndexes.length ++
        pkIndexes.flatMap (fun index => toBe 2 index.toNat) ++ binds) ++
      (i32Be 0x0001 ++ i32Be resultCols.length ++ results)
  responseFrame scylla version stream .result body compression

/-- The metadata of rows; a column count of -1 says that it is left out. -/
def rowsMetadata
    (keyspace table : String)
    (cols : List (String × ColumnType))
    (skipMetadata : Bool)
    (pagingState : Option Bytes) :
    Outcome Bytes := do
  let hasMore := if pagingState.isSome then 0x0002 else 0
  let paging ← pagingField scylla pagingState
  if skipMetadata then
    return i32Be hasMore ++ toBe 4 (2 ^ 32 - 1) ++ paging
  else do
    let specs ← globalSpecs scylla keyspace table cols
    return i32Be (0x0001 ||| hasMore) ++ i32Be cols.length ++ paging ++ specs

/-- The rows of a SELECT. -/
def resultRows
    (version : UInt8)
    (stream : Int16)
    (keyspace table : String)
    (cols : List (String × ColumnType))
    (rows : List (List Value))
    (skipMetadata : Bool)
    (pagingState : Option Bytes)
    (compression : Option Compression) :
    Outcome Bytes := do
  let metadata ← rowsMetadata scylla keyspace table cols skipMetadata pagingState
  let body :=
    i32Be 0x0002 ++ metadata ++ i32Be rows.length ++
      rows.flatMap fun row => row.flatMap Value.toWire
  responseFrame scylla version stream .result body compression

end Frames

end RhydaDB
