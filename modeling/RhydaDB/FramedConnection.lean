import RhydaDB.Connection
import RhydaDB.Fallible
import RhydaDB.Protocol
import RhydaDB.RequestFrames
import RhydaDB.ResponseWriter

namespace RhydaDB

open ByteStrings AtomicPrograms FiniteRuns Storage

/-!
# Connections over byte streams

The reader of a connection cuts the bytes of the client into frames.  It serves
the control opcodes, PREPARE and USE itself and hands QUERY and EXECUTE to tasks
of their own, as long as there are permits.  Whoever serves a frame puts the
response on the channel of the writer, so responses leave in any order.
-/

/-! ## Responses -/

section Frames

variable (scylla : ScyllaCql)

/-- A READY frame. -/
def Protocol.ready
    (version : UInt8)
    (stream : Int16)
    (compression : Option Compression) :
    Outcome Bytes :=
  responseFrame scylla version stream .ready [] compression

/-- The answer to a statement that returns nothing. -/
def resultVoid
    (version : UInt8)
    (stream : Int16)
    (compression : Option Compression) :
    Outcome Bytes :=
  responseFrame scylla version stream .result (i32Be 0x0001) compression

/-- The answer to a USE. -/
def resultSetKeyspace
    (version : UInt8)
    (stream : Int16)
    (keyspace : String)
    (compression : Option Compression) :
    Outcome Bytes := do
  let written ← expectWritten (scylla.writeString keyspace)
  responseFrame scylla version stream .result (i32Be 0x0003 ++ written)
    compression

/-- The answer to a statement that changes the schema. -/
def resultSchemaChange
    (version : UInt8)
    (stream : Int16)
    (change target keyspace table : String)
    (compression : Option Compression) :
    Outcome Bytes := do
  let changeField ← expectWritten (scylla.writeString change)
  let targetField ← expectWritten (scylla.writeString target)
  let keyspaceField ← expectWritten (scylla.writeString keyspace)
  let tableField ← expectWritten (scylla.writeString table)
  responseFrame scylla version stream .result
    (i32Be 0x0005 ++ changeField ++ targetField ++ keyspaceField ++ tableField)
    compression

/-- The frame of a statement's response. -/
def respond
    (version : UInt8)
    (stream : Int16)
    (compression : Option Compression)
    (response : Response)
    (skipMetadata : Bool) :
    Outcome Bytes :=
  match response with
  | .rows keyspace table cols rows _ pagingState =>
      resultRows scylla version stream keyspace table cols rows skipMetadata
        pagingState compression
  | .void =>
      resultVoid scylla version stream compression
  | .setKeyspace keyspace =>
      resultSetKeyspace scylla version stream keyspace compression
  | .schemaChange change target keyspace table =>
      resultSchemaChange scylla version stream change target keyspace table
        compression

end Frames

/-! ## Requests -/

/-- The opcodes that do not reach the query layer. -/
inductive ControlOpcode where
  | startup
  | options
  | register
  | batch
  | authResponse
  deriving Repr, DecidableEq

/-- The opcodes of requests. -/
inductive Opcode where
  | control (opcode : ControlOpcode)
  | request (opcode : RequestOpcode)
  deriving Repr, DecidableEq

/--
What other crates contribute to a connection over bytes: how the driver library
numbers opcodes, reads STARTUP and the flag that leaves metadata out, compresses
and writes, and how Unicode text is lower-cased.
-/
structure WireCrates extends Crates where
  scylla : ScyllaCql
  opcodeByte : Opcode → UInt8
  tryFromOpcode : UInt8 → Option Opcode
  decompress : Bytes → Compression → Option Bytes
  readStartup : Bytes → Option (String → Option String)
  skipMetadata : Bytes → Bool
  writeStringMultimap : List (String × List String) → Option Bytes
  toLowercase : String → String

/-- Opcodes are read as they are numbered. -/
def WireCrates.NumbersOpcodes (crates : WireCrates) : Prop :=
  ∀ byte opcode,
    crates.tryFromOpcode byte = some opcode ↔ crates.opcodeByte opcode = byte

section Crates

variable (crates : WireCrates)

/-- A SUPPORTED frame. -/
def Protocol.supported
    (version : UInt8)
    (stream : Int16)
    (compression : Option Compression) :
    Outcome Bytes := do
  let body ←
    expectWritten (crates.writeStringMultimap
      [("CQL_VERSION", ["3.4.5"]), ("COMPRESSION", ["lz4", "snappy"]),
        ("PROTOCOL_VERSIONS", ["4"])])
  responseFrame crates.scylla version stream .supported body compression

/--
Serve a frame that does not reach the query layer: the compression agreed on
afterwards, and the response.
-/
def serveControl
    (stream : Int16)
    (compression : Option Compression)
    (opcode : Option ControlOpcode)
    (body : Bytes) :
    Option Compression × Outcome Bytes :=
  let error (code : Nat) (message : String) :=
    (compression,
      Protocol.error crates.scylla 0x04 stream code message compression)
  match opcode with
  | none =>
      error 0x000A "Unknown opcode"
  | some .options =>
      (compression, Protocol.supported crates 0x04 stream compression)
  | some .startup =>
      match crates.readStartup body with
      | none =>
          error 0x000A "Malformed STARTUP message"
      | some options =>
          match (options "COMPRESSION").map crates.toLowercase with
          | some "lz4" =>
              (some .lz4, Protocol.ready crates.scylla 0x04 stream (some .lz4))
          | some "snappy" =>
              (some .snappy,
                Protocol.ready crates.scylla 0x04 stream (some .snappy))
          | some other =>
              error 0x000A s!"Unsupported compression algorithm: {other}"
          | none =>
              (compression,
                Protocol.ready crates.scylla 0x04 stream compression)
  | some .register =>
      (compression, Protocol.ready crates.scylla 0x04 stream compression)
  | some .batch =>
      error 0x2200 "Batches are not supported yet"
  | some .authResponse =>
      error 0x000A "Authentication is not enabled"

/-- Whether the parameters of a frame ask to leave metadata out. -/
def Frame.skipsMetadata (frame : Frame) : Bool :=
  match frame.opcode with
  | .query =>
      (readLongString frame.body).any fun read => crates.skipMetadata read.2
  | .execute =>
      (readShortBytes frame.body).any fun read => crates.skipMetadata read.2
  | .prepare =>
      false

/--
The response to what a request ended with, once it has ended.  A reply is
compressed as agreed on when the request was taken up, an error as agreed on
when it is reported.
-/
def ConnTask.response?
    {shards : Nat}
    (task : ConnTask shards)
    (stream : Int16)
    (agreed current : Option Compression) :
    Option (Outcome Bytes) :=
  match task.program with
  | .pure (.executed executed) =>
      some (respond crates.scylla 0x04 stream agreed executed.response
        (task.frame.skipsMetadata crates))
  | .pure (.prepared id info) =>
      some (resultPrepared crates.scylla 0x04 stream id info.keyspace info.table
        info.bindSpecs info.pkIndexes info.resultCols agreed)
  | .fail (.error code message) =>
      some (Protocol.error crates.scylla 0x04 stream code message current)
  | .fail .panic =>
      some (.error .panic)
  | .fail .hang =>
      none
  | .act _ _ =>
      none

end Crates

/-- How far a frame has been served. -/
inductive ServicePhase where
  | spawned
  /-- `handle_request` has been entered under this compression. -/
  | serving (agreed : Option Compression)
  | sending (response : Bytes)
  | answered (response : Bytes)
  /-- There is no response, or no writer left to take it. -/
  | dropped
  | panicked
  deriving Repr, DecidableEq

/-- A frame that the reader has taken and how it is served. -/
structure Service (shards : Nat) where
  raw : RawFrame
  /-- The body, decompressed. -/
  body : Bytes
  /-- Whether the reader serves the frame itself. -/
  inline : Bool
  /-- The program of a frame that reaches the query layer. -/
  task : Option (ConnTask shards)
  phase : ServicePhase

/-- What the reader of a connection is doing. -/
inductive ReaderPhase where
  | header
  | body (header : FrameHeader)
  /-- A frame is decompressed and may need a permit. -/
  | dispatch (raw : RawFrame) (body : Bytes)
  /-- Until a frame is served; `last` if the reader stops then. -/
  | awaiting (index : Nat) (last : Bool)
  | stopped
  deriving Repr, DecidableEq

/--
A connection over bytes.  `services` are the frames taken so far, oldest first;
`arrived` is history: all bytes that the client has sent.
-/
structure FramedConnection (shards : Nat) where
  state : ConnState shards
  compression : Option Compression
  /-- The bytes that have not been read. -/
  buffer : Bytes
  /-- Whether the client has closed its side. -/
  closed : Bool
  reader : ReaderPhase
  permits : Nat
  services : List (Service shards)
  writer : ResponseWriter
  arrived : Bytes

/-- One step of a connection over bytes. -/
inductive FramedLabel (shards : Nat) where
  | arrive (chunk : Bytes)
  | hangUp
  /-- The socket reports an error to the reader. -/
  | readFails
  | read
  /-- The next step of whoever serves a frame. -/
  | serve (index : Nat)
  | write (label : WriterLabel)
  | engine (engine : Fin shards) (label : PipelineLabel)
  | elsewhere (action : StorageAction shards)

namespace ServicePhase

/-- Whether a frame is still being served. -/
def isActive : ServicePhase → Bool
  | .spawned =>
      true
  | .serving _ =>
      true
  | .sending _ =>
      true
  | _ =>
      false

/-- Whether the response to a frame is still to be built. -/
def IsWorking (phase : ServicePhase) : Prop :=
  phase = .spawned ∨ ∃ agreed, phase = .serving agreed

end ServicePhase

namespace FramedConnection

variable {shards : Nat}

/-- A connection that was just accepted. -/
def accepted (mode : FlushMode) (store : Storage shards) :
    FramedConnection shards where
  state := ⟨store, .new⟩
  compression := none
  buffer := []
  closed := false
  reader := .header
  permits := perConnInflight
  services := []
  writer := .start mode
  arrived := []

section Reader

variable (crates : WireCrates)

/-- Answer a frame with an error from the reader itself. -/
def reject
    (framed : FramedConnection shards)
    (raw : RawFrame)
    (message : String)
    (compression : Option Compression)
    (last : Bool) :
    FramedConnection shards :=
  match
    Protocol.error crates.scylla raw.header.version raw.header.stream 0x000A
      message compression
  with
  | .ok response =>
      { framed with
        services := framed.services ++ [⟨raw, [], true, none, .sending response⟩]
        reader := .awaiting framed.services.length last }
  | .error _ =>
      { framed with
        services := framed.services ++ [⟨raw, [], true, none, .panicked⟩]
        reader := .stopped }

/-- Move on from a header. -/
def readHeader (framed : FramedConnection shards) (header : FrameHeader) :
    FramedConnection shards :=
  if header.version ≠ 0x04 then
    framed.reject crates ⟨header, []⟩
      "Unsupported protocol version; this server supports CQL v4" none true
  else if maxFrameLength < header.length then
    framed.reject crates ⟨header, []⟩ "Frame too large" framed.compression true
  else
    { framed with reader := .body header }

/-- Move on from a body. -/
def readBody (framed : FramedConnection shards) (raw : RawFrame) :
    FramedConnection shards :=
  if raw.header.flags &&& 0x01 ≠ 0 then
    match framed.compression with
    | some algorithm =>
        match crates.decompress raw.body algorithm with
        | some body =>
            { framed with reader := .dispatch raw body }
        | none =>
            -- the error closes the connection without an answer
            { framed with
              services := framed.services ++ [⟨raw, [], true, none, .dropped⟩]
              reader := .stopped }
    | none =>
        framed.reject crates raw
          "Received compressed frame without negotiated compression" none false
  else
    { framed with reader := .dispatch raw raw.body }

variable [NeZero shards]

/-- A frame that is about to be served. -/
def service (raw : RawFrame) (body : Bytes) (inline : Bool) : Service shards where
  raw := raw
  body := body
  inline := inline
  task :=
    match crates.tryFromOpcode raw.header.opcode with
    | some (.request opcode) =>
        let frame : Frame := ⟨opcode, body⟩
        some ⟨frame, handleRequest crates.toCrates frame, none, none, none⟩
    | _ =>
        none
  phase := .spawned

/-- Whether the reader serves a frame itself. -/
def servesInline (raw : RawFrame) (body : Bytes) : Bool :=
  (raw.header.opcode != crates.opcodeByte (.request .query) &&
    raw.header.opcode != crates.opcodeByte (.request .execute)) ||
  isSessionUse body

/-- Serve a frame on the reader, or hand it to a task if there is a permit. -/
def dispatch? (framed : FramedConnection shards) (raw : RawFrame) (body : Bytes) :
    Option (FramedConnection shards) :=
  if servesInline crates raw body then
    some { framed with
      services := framed.services ++ [service crates raw body true]
      reader := .awaiting framed.services.length false }
  else if 0 < framed.permits then
    some { framed with
      services := framed.services ++ [service crates raw body false]
      permits := framed.permits - 1
      reader := .header }
  else
    none

/-- The next step of the reader. -/
def read? (framed : FramedConnection shards) : Option (FramedConnection shards) :=
  match framed.reader with
  | .header =>
      if 9 ≤ framed.buffer.length then
        some ({ framed with buffer := framed.buffer.drop 9 }.readHeader crates
          (.parse (framed.buffer.take 9)))
      else if framed.closed then
        some { framed with reader := .stopped }
      else
        none
  | .body header =>
      if header.length ≤ framed.buffer.length then
        some ({ framed with
          buffer := framed.buffer.drop header.length }.readBody crates
            ⟨header, framed.buffer.take header.length⟩)
      else if framed.closed then
        some { framed with reader := .stopped }
      else
        none
  | .dispatch raw body =>
      framed.dispatch? crates raw body
  | .awaiting index last =>
      match framed.services[index]?.map Service.phase with
      | some (.answered _) | some .dropped =>
          some { framed with reader := if last then .stopped else .header }
      | some .panicked =>
          some { framed with reader := .stopped }
      | _ =>
          none
  | .stopped =>
      none

end Reader

/-- Whoever serves a frame has come to its end and releases its permit. -/
def conclude
    (framed : FramedConnection shards)
    (index : Nat)
    (service : Service shards)
    (phase : ServicePhase) :
    FramedConnection shards :=
  { framed with
    services := framed.services.set index { service with phase := phase }
    permits :=
      if service.inline then framed.permits else framed.permits + 1 }

/-- Whoever serves a frame goes on to its response, unless building it panics. -/
def ended
    (framed : FramedConnection shards)
    (index : Nat)
    (service : Service shards)
    (built : Outcome Bytes) :
    FramedConnection shards :=
  match built with
  | .ok response =>
      { framed with
        services :=
          framed.services.set index { service with phase := .sending response } }
  | .error _ =>
      framed.conclude index service .panicked

variable (crates : WireCrates)

/-- The next step of whoever serves a frame. -/
def serve?
    (framed : FramedConnection shards)
    (index : Nat)
    (service : Service shards) :
    Option (FramedConnection shards) :=
  match service.phase, service.task with
  | .spawned, some _ =>
      some { framed with
        services :=
          framed.services.set index
            { service with phase := .serving framed.compression } }
  | .spawned, none =>
      let opcode :=
        match crates.tryFromOpcode service.raw.header.opcode with
        | some (.control opcode) =>
            some opcode
        | _ =>
            none
      let (compression, built) :=
        serveControl crates service.raw.header.stream framed.compression opcode
          service.body
      some ({ framed with compression := compression }.ended index service built)
  | .serving agreed, some task =>
      match task.program with
      | .act action next =>
          if framed.state.ready action then
            some { framed with
              state := (framed.state.answer action).1
              services :=
                framed.services.set index
                  { service with
                    task :=
                      some (task.goOn action (framed.state.answer action).2
                        (next (framed.state.answer action).2)) } }
          else
            none
      | _ =>
          (task.response? crates service.raw.header.stream agreed
            framed.compression).map (framed.ended index service)
  | .sending response, _ =>
      match framed.writer.step? (.send response) with
      | some writer =>
          some ({ framed with writer := writer }.conclude index service
            (.answered response))
      | none =>
          if framed.writer.phase = .returned then
            some (framed.conclude index service .dropped)
          else
            none
  | _, _ =>
      none

/-- A step of the writer, which ends once nobody is left to send. -/
def write? (framed : FramedConnection shards) (label : WriterLabel) :
    Option (FramedConnection shards) :=
  let moved :=
    (framed.writer.step? label).map fun writer => { framed with writer := writer }
  match label with
  | .send _ =>
      none
  | .disconnect =>
      if framed.reader = .stopped ∧
          framed.services.all fun service => !service.phase.isActive then
        moved
      else
        none
  | _ =>
      moved

variable [NeZero shards]

/-- Take one step, if it is enabled. -/
def step? (framed : FramedConnection shards) :
    FramedLabel shards → Option (FramedConnection shards)
  | .arrive chunk =>
      if framed.closed then
        none
      else
        some { framed with
          buffer := framed.buffer ++ chunk
          arrived := framed.arrived ++ chunk }
  | .hangUp =>
      some { framed with closed := true }
  | .readFails =>
      match framed.reader with
      | .header | .body _ =>
          some { framed with reader := .stopped }
      | _ =>
          none
  | .read =>
      framed.read? crates
  | .serve index =>
      framed.services[index]?.bind (framed.serve? crates index)
  | .write label =>
      framed.write? label
  | .engine engine label =>
      if label.isThread then
        (framed.state.store.engineStep? engine label).map fun store =>
          { framed with state := { framed.state with store := store } }
      else
        none
  | .elsewhere action =>
      some { framed with
        state := { framed.state with
          store := (framed.state.store.answer action).1 } }

end FramedConnection

/-! ## Transitions -/

/-- A response frame for a stream of a client that speaks a version. -/
def Framed (version : UInt8) (stream : Int16) (response : Bytes) : Prop :=
  ∃ flags opcode payload,
    response =
      [version ||| 0x80, flags] ++ toBe 2 stream.toUInt16.toNat ++ [opcode] ++
        toBe 4 payload.length ++ payload

/-- What is built, if anything, is a response frame for the stream. -/
def BuildsFrame (version : UInt8) (stream : Int16) (built : Outcome Bytes) : Prop :=
  ∀ response, built = .ok response → Framed version stream response

section Built

variable
  {version : UInt8}
  {stream : Int16}
  {scylla : ScyllaCql}

/-- What is read on the way does not matter to the frame around it. -/
theorem BuildsFrame.bind
    {α : Type}
    {next : α → Outcome Bytes}
    (builds : ∀ value, BuildsFrame version stream (next value))
    (first : Outcome α) :
    BuildsFrame version stream (first >>= next) := by
  intro response built
  obtain ⟨value, _, last⟩ := Fallible.bind_eq_ok.mp built
  exact builds value response last

/-- A response frame is one. -/
theorem responseFrame_buildsFrame
    {opcode : ResponseOpcode}
    {body : Bytes}
    {compression : Option Compression} :
    BuildsFrame version stream
      (responseFrame scylla version stream opcode body compression) := by
  intro response built
  cases compression with
  | none =>
      cases built
      exact ⟨0x00, opcode.toUInt8, body, rfl⟩
  | some algorithm =>
      obtain ⟨compressed, _, last⟩ := Fallible.bind_eq_ok.mp built
      cases last
      exact ⟨0x01, opcode.toUInt8, compressed, rfl⟩

/-- An ERROR frame is a response frame. -/
theorem error_buildsFrame
    {code : Nat}
    {message : String}
    {compression : Option Compression} :
    BuildsFrame version stream
      (Protocol.error scylla version stream code message compression) :=
  .bind (fun _ => responseFrame_buildsFrame) _

/-- The response to a statement is a response frame. -/
theorem respond_buildsFrame
    {compression : Option Compression}
    {response : Response}
    {skipMetadata : Bool} :
    BuildsFrame version stream
      (respond scylla version stream compression response skipMetadata) := by
  cases response with
  | rows keyspace table cols rows sources pagingState =>
      exact .bind (fun _ => responseFrame_buildsFrame) _
  | void =>
      exact responseFrame_buildsFrame
  | setKeyspace keyspace =>
      exact .bind (fun _ => responseFrame_buildsFrame) _
  | schemaChange change target keyspace table =>
      exact .bind (fun _ => .bind (fun _ => .bind (fun _ =>
        .bind (fun _ => responseFrame_buildsFrame) _) _) _) _

/-- The answer to a PREPARE is a response frame. -/
theorem resultPrepared_buildsFrame
    {id : Bytes}
    {keyspace table : String}
    {bindSpecs : List (String × ColumnType)}
    {pkIndexes : List UInt16}
    {resultCols : List (String × ColumnType)}
    {compression : Option Compression} :
    BuildsFrame version stream
      (resultPrepared scylla version stream id keyspace table bindSpecs
        pkIndexes resultCols compression) :=
  .bind (fun _ => .bind (fun _ => .bind (fun _ =>
    responseFrame_buildsFrame) _) _) _

/-- The response to a request is a response frame. -/
theorem ConnTask.response?_buildsFrame
    {shards : Nat}
    {crates : WireCrates}
    {task : ConnTask shards}
    {agreed current : Option Compression}
    {built : Outcome Bytes}
    (responds : task.response? crates stream agreed current = some built) :
    BuildsFrame 0x04 stream built := by
  unfold ConnTask.response? at responds
  split at responds
  · cases responds
    exact respond_buildsFrame
  · cases responds
    exact resultPrepared_buildsFrame
  · cases responds
    exact error_buildsFrame
  · cases responds
    exact nofun
  · cases responds
  · cases responds

/-- A request that is responded to has come to its end. -/
theorem ConnTask.isDone_of_response?
    {shards : Nat}
    {crates : WireCrates}
    {task : ConnTask shards}
    {agreed current : Option Compression}
    {built : Outcome Bytes}
    (responds : task.response? crates stream agreed current = some built) :
    task.isDone = true := by
  unfold ConnTask.response? at responds
  unfold ConnTask.isDone
  cases program : task.program with
  | pure reply =>
      rfl
  | fail fault =>
      rfl
  | act action next =>
      simp [program] at responds

/-- The response to a control opcode is a response frame. -/
theorem serveControl_buildsFrame
    {crates : WireCrates}
    {compression : Option Compression}
    {opcode : Option ControlOpcode}
    {body : Bytes} :
    BuildsFrame 0x04 stream
      (serveControl crates stream compression opcode body).2 := by
  unfold serveControl Protocol.ready
  dsimp only
  split
  · exact error_buildsFrame
  · exact .bind (fun _ => responseFrame_buildsFrame) _
  · split
    · exact error_buildsFrame
    · split
      · dsimp only
        exact responseFrame_buildsFrame
      · dsimp only
        exact responseFrame_buildsFrame
      · exact error_buildsFrame
      · exact responseFrame_buildsFrame
  · exact responseFrame_buildsFrame
  · exact error_buildsFrame
  · exact error_buildsFrame

end Built

/-- The opcode of a frame that does not reach the query layer, if it is known. -/
def WireCrates.controlOpcode? (crates : WireCrates) (raw : RawFrame) :
    Option ControlOpcode :=
  match crates.tryFromOpcode raw.header.opcode with
  | some (.control opcode) =>
      some opcode
  | _ =>
      none

namespace FramedConnection

variable {shards : Nat}

/-- The response with which the reader refuses a frame. -/
inductive Refuses
    (crates : WireCrates)
    (framed : FramedConnection shards)
    (raw : RawFrame)
    (response : Bytes) :
    Prop where
  | version
      (other : raw.header.version ≠ 0x04)
      (built :
        Protocol.error crates.scylla raw.header.version raw.header.stream 0x000A
            "Unsupported protocol version; this server supports CQL v4" none =
          .ok response)
  | long
      (version : raw.header.version = 0x04)
      (tooLong : maxFrameLength < raw.header.length)
      (built :
        Protocol.error crates.scylla 0x04 raw.header.stream 0x000A
            "Frame too large" framed.compression =
          .ok response)
  | compressed
      (flagged : raw.header.flags &&& 0x01 ≠ 0)
      (unagreed : framed.compression = none)
      (built :
        Protocol.error crates.scylla raw.header.version raw.header.stream 0x000A
            "Received compressed frame without negotiated compression" none =
          .ok response)

/-- What is built for a frame in this state, if its response is due. -/
def built?
    (crates : WireCrates)
    (framed : FramedConnection shards)
    (service : Service shards) :
    Option (Outcome Bytes) :=
  match service.phase, service.task with
  | .spawned, none =>
      some (serveControl crates service.raw.header.stream framed.compression
        (crates.controlOpcode? service.raw) service.body).2
  | .serving agreed, some task =>
      task.response? crates service.raw.header.stream agreed framed.compression
  | _, _ =>
      none

/-- How the reader leaves a frame that it answers or gives up itself. -/
inductive Rejection
    (index : Nat)
    (raw : RawFrame)
    (last : Bool) :
    ServicePhase →
    ReaderPhase →
    Prop where
  | answered
      {response : Bytes}
      (frame : Framed raw.header.version raw.header.stream response) :
      Rejection index raw last (.sending response) (.awaiting index last)
  | panicked :
      Rejection index raw last .panicked .stopped
  | dropped :
      Rejection index raw last .dropped .stopped

variable [NeZero shards] (crates : WireCrates)

/-- What each enabled step does. -/
inductive Step :
    FramedConnection shards →
    FramedLabel shards →
    FramedConnection shards →
    Prop where
  | arrive
      {framed : FramedConnection shards}
      (chunk : Bytes) :
      Step framed (.arrive chunk)
        { framed with
          buffer := framed.buffer ++ chunk
          arrived := framed.arrived ++ chunk }
  | hangUp
      {framed : FramedConnection shards} :
      Step framed .hangUp { framed with closed := true }
  | stops
      {framed : FramedConnection shards}
      {label : FramedLabel shards}
      (reads : label = .read ∨ label = .readFails)
      (idle :
        framed.reader = .header ∨ ∃ header, framed.reader = .body header) :
      Step framed label { framed with reader := .stopped }
  | headed
      {framed : FramedConnection shards}
      {header : FrameHeader}
      {rest : Bytes}
      (phase : framed.reader = .header)
      (buffer : framed.buffer = header.bytes ++ rest)
      (taken : ¬ header.Refused) :
      Step framed .read { framed with buffer := rest, reader := .body header }
  | refuses
      {framed : FramedConnection shards}
      {header : FrameHeader}
      {rest : Bytes}
      {next : ServicePhase}
      {reader : ReaderPhase}
      (phase : framed.reader = .header)
      (buffer : framed.buffer = header.bytes ++ rest)
      (refused : header.Refused)
      (fits : header.length < 2 ^ 32)
      (rejection :
        Rejection framed.services.length ⟨header, []⟩ true next reader)
      (answer :
        ∀ response,
          next = .sending response →
          framed.Refuses crates ⟨header, []⟩ response) :
      Step framed .read
        { framed with
          buffer := rest
          services := framed.services ++ [⟨⟨header, []⟩, [], true, none, next⟩]
          reader := reader }
  | bodied
      {framed : FramedConnection shards}
      {raw : RawFrame}
      {rest body : Bytes}
      (phase : framed.reader = .body raw.header)
      (buffer : framed.buffer = raw.body ++ rest)
      (whole : raw.body.length = raw.header.length) :
      Step framed .read { framed with buffer := rest, reader := .dispatch raw body }
  | rejects
      {framed : FramedConnection shards}
      {raw : RawFrame}
      {rest : Bytes}
      {next : ServicePhase}
      {reader : ReaderPhase}
      (phase : framed.reader = .body raw.header)
      (buffer : framed.buffer = raw.body ++ rest)
      (whole : raw.body.length = raw.header.length)
      (rejection : Rejection framed.services.length raw false next reader)
      (answer :
        ∀ response,
          next = .sending response →
          framed.Refuses crates raw response) :
      Step framed .read
        { framed with
          buffer := rest
          services := framed.services ++ [⟨raw, [], true, none, next⟩]
          reader := reader }
  | inlines
      {framed : FramedConnection shards}
      {raw : RawFrame}
      {body : Bytes}
      (phase : framed.reader = .dispatch raw body)
      (inline : servesInline crates raw body = true) :
      Step framed .read
        { framed with
          services := framed.services ++ [service crates raw body true]
          reader := .awaiting framed.services.length false }
  | spawns
      {framed : FramedConnection shards}
      {raw : RawFrame}
      {body : Bytes}
      (phase : framed.reader = .dispatch raw body)
      (inline : servesInline crates raw body = false)
      (permitted : 0 < framed.permits) :
      Step framed .read
        { framed with
          services := framed.services ++ [service crates raw body false]
          permits := framed.permits - 1
          reader := .header }
  | awaited
      {framed : FramedConnection shards}
      {index : Nat}
      {last : Bool}
      {service : Service shards}
      {reader : ReaderPhase}
      (phase : framed.reader = .awaiting index last)
      (found : framed.services[index]? = some service)
      (concluded : service.phase.isActive = false)
      (moves : reader = .stopped ∨ last = false ∧ reader = .header) :
      Step framed .read { framed with reader := reader }
  | enters
      {framed : FramedConnection shards}
      {index : Nat}
      {service : Service shards}
      {task : ConnTask shards}
      (found : framed.services[index]? = some service)
      (phase : service.phase = .spawned)
      (queried : service.task = some task) :
      Step framed (.serve index)
        { framed with
          services :=
            framed.services.set index
              { service with phase := .serving framed.compression } }
  | accesses
      {framed : FramedConnection shards}
      {index : Nat}
      {service : Service shards}
      {agreed : Option Compression}
      {task : ConnTask shards}
      {action : ConnAction shards}
      {next : ConnResponse action → ConnProgram shards (Reply shards)}
      (found : framed.services[index]? = some service)
      (phase : service.phase = .serving agreed)
      (queried : service.task = some task)
      (program : task.program = .act action next)
      (ready : framed.state.ready action = true) :
      Step framed (.serve index)
        { framed with
          state := (framed.state.answer action).1
          services :=
            framed.services.set index
              { service with
                task :=
                  some (task.goOn action (framed.state.answer action).2
                    (next (framed.state.answer action).2)) } }
  | builds
      {framed : FramedConnection shards}
      {index : Nat}
      {service : Service shards}
      {compression : Option Compression}
      {response : Bytes}
      (found : framed.services[index]? = some service)
      (working : service.phase.IsWorking)
      (frame : Framed 0x04 service.raw.header.stream response)
      (result :
        ∀ task,
          service.task = some task →
          ∃ agreed current,
            task.response? crates service.raw.header.stream agreed current =
              some (.ok response))
      (built : framed.built? crates service = some (.ok response)) :
      Step framed (.serve index)
        { framed with
          compression := compression
          services :=
            framed.services.set index
              { service with phase := .sending response } }
  | panics
      {framed : FramedConnection shards}
      {index : Nat}
      {service : Service shards}
      {compression : Option Compression}
      (found : framed.services[index]? = some service)
      (working : service.phase.IsWorking)
      (finished :
        ∀ task,
          service.task = some task →
          task.isDone = true) :
      Step framed (.serve index)
        ({ framed with compression := compression }.conclude index service
          .panicked)
  | sends
      {framed : FramedConnection shards}
      {index : Nat}
      {service : Service shards}
      {response : Bytes}
      {writer : ResponseWriter}
      (found : framed.services[index]? = some service)
      (phase : service.phase = .sending response)
      (sent : framed.writer.step? (.send response) = some writer) :
      Step framed (.serve index)
        ({ framed with writer := writer }.conclude index service
          (.answered response))
  | drops
      {framed : FramedConnection shards}
      {index : Nat}
      {service : Service shards}
      {response : Bytes}
      (found : framed.services[index]? = some service)
      (phase : service.phase = .sending response) :
      Step framed (.serve index) (framed.conclude index service .dropped)
  | writes
      {framed : FramedConnection shards}
      {label : WriterLabel}
      {writer : ResponseWriter}
      (unsent : ∀ response, label ≠ .send response)
      (wrote : framed.writer.step? label = some writer) :
      Step framed (.write label) { framed with writer := writer }
  | engine
      {framed : FramedConnection shards}
      {engine : Fin shards}
      {label : PipelineLabel}
      {store : Storage shards}
      (thread : label.isThread = true)
      (taken : framed.state.store.engineStep? engine label = some store) :
      Step framed (.engine engine label)
        { framed with state := { framed.state with store := store } }
  | elsewhere
      {framed : FramedConnection shards}
      (action : StorageAction shards) :
      Step framed (.elsewhere action)
        { framed with
          state := { framed.state with
            store := (framed.state.store.answer action).1 } }

omit [NeZero shards] in
/-- An error of the reader leaves the frame as a rejection does. -/
theorem reject_rejection
    (framed : FramedConnection shards)
    (raw : RawFrame)
    (message : String)
    (compression : Option Compression)
    (last : Bool) :
    ∃ next reader,
      Rejection framed.services.length raw last next reader ∧
        (∀ response,
          next = .sending response →
          Protocol.error crates.scylla raw.header.version raw.header.stream
              0x000A message compression =
            .ok response) ∧
        framed.reject crates raw message compression last =
          { framed with
            services := framed.services ++ [⟨raw, [], true, none, next⟩]
            reader := reader } := by
  unfold reject
  split
  · rename_i response built
    refine ⟨_, _, .answered (error_buildsFrame response built), ?_, rfl⟩
    rintro _ ⟨⟩
    exact built
  · exact ⟨_, _, .panicked, nofun, rfl⟩

variable {crates}

/-- The reader takes only the transitions of `Step`. -/
theorem read?_sound
    {framed next : FramedConnection shards}
    (taken : framed.read? crates = some next) :
    Step crates framed .read next := by
  unfold read? at taken
  split at taken
  · rename_i phase
    split at taken
    · rename_i nine
      have split :
          framed.buffer =
            (FrameHeader.parse (framed.buffer.take 9)).bytes ++
              framed.buffer.drop 9 := by
        rw [FrameHeader.bytes_parse (by simpa using nine),
          List.take_append_drop]
      have fits := FrameHeader.length_parse_lt (framed.buffer.take 9)
      generalize FrameHeader.parse (framed.buffer.take 9) = header
        at taken split fits
      cases taken
      have refuses :
          ∀ message compression,
            header.Refused →
            (∀ response,
              Protocol.error crates.scylla header.version header.stream 0x000A
                  message compression =
                .ok response →
              framed.Refuses crates ⟨header, []⟩ response) →
            Step crates framed .read
              ({ framed with buffer := framed.buffer.drop 9 }.reject crates
                ⟨header, []⟩ message compression true) := by
        intro message compression refused answers
        obtain ⟨given, reader, rejection, built, moved⟩ :=
          reject_rejection crates
            { framed with buffer := framed.buffer.drop 9 } ⟨header, []⟩ message
            compression true
        rw [moved]
        exact .refuses phase split refused fits rejection
          fun response sending => answers response (built response sending)
      unfold readHeader
      split
      · rename_i version
        exact refuses _ _ (.inl version) fun _ built => .version version built
      · rename_i version
        have speaks : header.version = 0x04 := not_not.mp version
        split
        · rename_i long
          refine refuses _ _ (.inr long) fun _ built => ?_
          rw [speaks] at built
          exact .long speaks long built
        · rename_i short
          exact .headed phase split (not_or.mpr ⟨version, short⟩)
    · split at taken
      · cases taken
        exact .stops (.inl rfl) (.inl phase)
      · cases taken
  · rename_i header phase
    split at taken
    · rename_i enough
      cases taken
      let raw : RawFrame := ⟨header, framed.buffer.take header.length⟩
      have reads : framed.reader = .body raw.header := phase
      have split : framed.buffer = raw.body ++ framed.buffer.drop header.length :=
        (List.take_append_drop _ _).symm
      have whole : raw.body.length = raw.header.length :=
        List.length_take_of_le enough
      unfold readBody
      split
      · rename_i flagged
        split
        · split
          · exact .bodied reads split whole
          · exact .rejects reads split whole .dropped nofun
        · rename_i unagreed
          obtain ⟨given, reader, rejection, built, moved⟩ :=
            reject_rejection crates
              { framed with buffer := framed.buffer.drop header.length } raw
              "Received compressed frame without negotiated compression" none
              false
          rw [moved]
          exact .rejects reads split whole rejection fun response sending =>
            .compressed flagged unagreed (built response sending)
      · exact .bodied reads split whole
    · split at taken
      · cases taken
        exact .stops (.inl rfl) (.inr ⟨header, phase⟩)
      · cases taken
  · rename_i raw body phase
    unfold dispatch? at taken
    split at taken
    · rename_i inline
      cases taken
      exact .inlines phase inline
    · rename_i spawned
      split at taken
      · rename_i permitted
        cases taken
        exact .spawns phase (Bool.eq_false_iff.mpr spawned) permitted
      · cases taken
  · rename_i index last phase
    cases found : framed.services[index]? with
    | none =>
        simp [found] at taken
    | some service =>
        rw [found, Option.map_some] at taken
        have goesOn :
            (if last then ReaderPhase.stopped else .header) = .stopped ∨
              last = false ∧
                (if last then ReaderPhase.stopped else .header) = .header := by
          cases last with
          | false =>
              exact .inr ⟨rfl, rfl⟩
          | true =>
              exact .inl rfl
        cases concluded : service.phase with
        | answered response =>
            simp only [concluded] at taken
            cases taken
            exact .awaited phase found (by rw [concluded]; rfl) goesOn
        | dropped =>
            simp only [concluded] at taken
            cases taken
            exact .awaited phase found (by rw [concluded]; rfl) goesOn
        | panicked =>
            simp only [concluded] at taken
            cases taken
            exact .awaited phase found (by rw [concluded]; rfl) (.inl rfl)
        | spawned =>
            simp [concluded] at taken
        | serving agreed =>
            simp [concluded] at taken
        | sending response =>
            simp [concluded] at taken
  · cases taken

/-- Whoever has built a response, or failed to, takes only the transitions of `Step`. -/
theorem ended_sound
    {framed : FramedConnection shards}
    {index : Nat}
    {service : Service shards}
    (found : framed.services[index]? = some service)
    (working : service.phase.IsWorking)
    {built : Outcome Bytes}
    (frame : BuildsFrame 0x04 service.raw.header.stream built)
    (result :
      ∀ task,
        service.task = some task →
        ∃ agreed current,
          task.response? crates service.raw.header.stream agreed current =
            some built)
    (due : framed.built? crates service = some built)
    (compression : Option Compression) :
    Step crates framed (.serve index)
      ({ framed with compression := compression }.ended index service built) := by
  cases built with
  | ok response =>
      exact .builds found working (frame response rfl) result due
  | error fault =>
      refine .panics found working fun task queried => ?_
      obtain ⟨agreed, current, responds⟩ := result task queried
      exact task.isDone_of_response? responds

/-- Whoever serves a frame takes only the transitions of `Step`. -/
theorem serve?_sound
    {framed next : FramedConnection shards}
    {index : Nat}
    {service : Service shards}
    (found : framed.services[index]? = some service)
    (taken : framed.serve? crates index service = some next) :
    Step crates framed (.serve index) next := by
  unfold serve? at taken
  split at taken
  · rename_i phase queried
    cases taken
    exact .enters found phase queried
  · rename_i phase unqueried
    cases taken
    refine ended_sound found (.inl phase) (serveControl_buildsFrame) ?_ ?_ _
    · intro task queried
      cases unqueried.symm.trans queried
    · rw [built?, phase, unqueried]
      rfl
  · rename_i agreed task phase queried
    split at taken
    · rename_i action rest program
      split at taken
      · rename_i ready
        cases taken
        exact .accesses found phase queried program ready
      · cases taken
    · obtain ⟨built, done, rfl⟩ := Option.map_eq_some_iff.mp taken
      refine ended_sound found (.inr ⟨agreed, phase⟩)
        (ConnTask.response?_buildsFrame done) ?_ ?_ framed.compression
      · intro other same
        cases queried.symm.trans same
        exact ⟨agreed, framed.compression, done⟩
      · rw [built?, phase, queried]
        exact done
  · rename_i response _ phase
    split at taken
    · rename_i writer sent
      cases taken
      exact .sends found phase sent
    · split at taken
      · cases taken
        exact .drops found phase
      · cases taken
  · cases taken

/-- The writer takes only the transitions of `Step`. -/
theorem write?_sound
    {framed next : FramedConnection shards}
    {label : WriterLabel}
    (taken : framed.write? label = some next) :
    Step crates framed (.write label) next := by
  have moves :
      (∀ response, label ≠ .send response) →
      (framed.writer.step? label).map
          (fun writer => { framed with writer := writer }) =
        some next →
      Step crates framed (.write label) next := by
    intro unsent moved
    obtain ⟨writer, wrote, rfl⟩ := Option.map_eq_some_iff.mp moved
    exact .writes unsent wrote
  cases label with
  | send response =>
      cases taken
  | disconnect =>
      simp only [write?] at taken
      split at taken
      · exact moves nofun taken
      · cases taken
  | recv =>
      exact moves nofun taken
  | tryRecv =>
      exact moves nofun taken
  | stopDraining =>
      exact moves nofun taken
  | write outcome =>
      exact moves nofun taken
  | channelClosed =>
      exact moves nofun taken

/-- The step function takes only the transitions of `Step`. -/
theorem step?_sound
    {framed next : FramedConnection shards}
    {label : FramedLabel shards}
    (taken : framed.step? crates label = some next) :
    Step crates framed label next := by
  cases label with
  | arrive chunk =>
      simp only [step?] at taken
      split at taken
      · cases taken
      · cases taken
        exact .arrive chunk
  | hangUp =>
      cases taken
      exact .hangUp
  | readFails =>
      simp only [step?] at taken
      split at taken
      · rename_i phase
        cases taken
        exact .stops (.inr rfl) (.inl phase)
      · rename_i header phase
        cases taken
        exact .stops (.inr rfl) (.inr ⟨header, phase⟩)
      · cases taken
  | read =>
      exact read?_sound taken
  | serve index =>
      obtain ⟨service, found, served⟩ := Option.bind_eq_some_iff.mp taken
      exact serve?_sound found served
  | write label =>
      exact write?_sound taken
  | engine engine label =>
      simp only [step?] at taken
      split at taken
      · rename_i thread
        obtain ⟨store, moved, rfl⟩ := Option.map_eq_some_iff.mp taken
        exact .engine thread moved
      · cases taken
  | elsewhere action =>
      cases taken
      exact .elsewhere action

end FramedConnection

end RhydaDB
