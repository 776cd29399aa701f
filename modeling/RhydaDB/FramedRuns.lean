import RhydaDB.FramedConnection
import RhydaDB.PreparedMeaning
import RhydaDB.ResultFrames

namespace RhydaDB

open ByteStrings AtomicPrograms FiniteRuns Storage

/-!
# What a connection over bytes does

Two facts about every run of a connection, whatever chunks the bytes arrive in
and however requests, writer and pipeline threads interleave.  The reader takes
the frames of the byte stream, in order.  And the responses on the channel are
those of the frames that were answered, each with the stream of its frame.
-/

/-- Replacing an item changes nothing between the items before and after it. -/
theorem exists_split_set
    {α : Type}
    {items : List α}
    {index : Nat}
    {item : α}
    (found : items[index]? = some item)
    (other : α) :
    ∃ before after,
      items = before ++ item :: after ∧
        items.set index other = before ++ other :: after ∧
        before.length = index := by
  obtain ⟨inside, rfl⟩ := List.getElem?_eq_some_iff.mp found
  refine ⟨items.take index, items.drop (index + 1), ?_, ?_, ?_⟩
  · rw [List.getElem_cons_drop, List.take_append_drop]
  · rw [List.set_eq_take_append_cons_drop, if_pos inside]
  · simpa using inside.le

/-- Replacing an item by one with the same image keeps the images. -/
theorem map_set_of_eq
    {α β : Type}
    {items : List α}
    {index : Nat}
    {item other : α}
    {image : α → β}
    (found : items[index]? = some item)
    (same : image other = image item) :
    (items.set index other).map image = items.map image := by
  obtain ⟨before, after, whole, replaced, _⟩ := exists_split_set found other
  rw [replaced, whole, List.map_append, List.map_append, List.map_cons,
    List.map_cons, same]

namespace FramedConnection

variable
  {shards : Nat}
  {framed next : FramedConnection shards}
  {label : FramedLabel shards}

/-! ## The frames that are taken -/

/-- The bytes of a frame that is read and not taken yet. -/
def heldBytes : ReaderPhase → Bytes
  | .body header =>
      header.bytes
  | .dispatch raw _ =>
      raw.bytes
  | _ =>
      []

/-- The frame that the reader is at may be taken. -/
def MayTake : ReaderPhase → Prop
  | .body header =>
      ¬ header.Refused
  | .dispatch raw _ =>
      raw.Complete
  | _ =>
      True

/-- The reader does not go back to reading headers. -/
def IsOver : ReaderPhase → Prop
  | .awaiting _ last =>
      last = true
  | .stopped =>
      True
  | _ =>
      False

/-- The frames taken so far. -/
def frames (framed : FramedConnection shards) : List RawFrame :=
  framed.services.map Service.raw

/-- Complete frames, or these and a last one that was refused. -/
def Cut (frames : List RawFrame) (reader : ReaderPhase) : Prop :=
  (∀ frame ∈ frames, frame.Complete) ∨
    ∃ earlier header,
      frames = earlier ++ [⟨header, []⟩] ∧
        (∀ frame ∈ earlier, frame.Complete) ∧
        header.Refused ∧
        header.length < 2 ^ 32 ∧
        IsOver reader

/-- The frames taken are cut off the bytes that arrived. -/
structure Reading (framed : FramedConnection shards) : Prop where
  accounted :
    ∃ rest,
      framed.arrived = framed.frames.flatMap RawFrame.bytes ++ rest ∧
        (framed.reader ≠ .stopped →
          rest = heldBytes framed.reader ++ framed.buffer)
  mayTake : MayTake framed.reader
  cut : Cut framed.frames framed.reader

/-- A connection that was just accepted has read nothing. -/
theorem reading_accepted (mode : FlushMode) (store : Storage shards) :
    (accepted mode store).Reading where
  accounted := ⟨[], rfl, fun _ => rfl⟩
  mayTake := trivial
  cut := .inl nofun

/-- Whether the reader may go on depends on where it is. -/
theorem not_isOver
    {reader : ReaderPhase}
    (phase : framed.reader = reader)
    (goesOn : ¬ IsOver reader) :
    ¬ IsOver framed.reader :=
  phase ▸ goesOn

namespace Reading

/-- What does not concern the reader keeps what has been read. -/
theorem of_same
    (reading : framed.Reading)
    (frames : next.frames = framed.frames)
    (reader : next.reader = framed.reader)
    (buffer : next.buffer = framed.buffer)
    (arrived : next.arrived = framed.arrived) :
    next.Reading := by
  obtain ⟨accounted, mayTake, cut⟩ := reading
  refine ⟨?_, ?_, ?_⟩
  · rw [frames, reader, buffer, arrived]
    exact accounted
  · rw [reader]
    exact mayTake
  · rw [frames, reader]
    exact cut

/-- While the reader may go on, all frames are complete and all bytes are there. -/
theorem running
    (reading : framed.Reading)
    (goesOn : ¬ IsOver framed.reader) :
    (∀ frame ∈ framed.frames, frame.Complete) ∧
      framed.arrived =
        framed.frames.flatMap RawFrame.bytes ++
          (heldBytes framed.reader ++ framed.buffer) := by
  obtain ⟨rest, arrived, isRest⟩ := reading.accounted
  have moving : framed.reader ≠ .stopped := by
    intro stopped
    rw [stopped] at goesOn
    exact goesOn trivial
  refine ⟨?_, by rw [arrived, isRest moving]⟩
  rcases reading.cut with complete | ⟨_, _, _, _, _, _, isOver⟩
  · exact complete
  · exact absurd isOver goesOn

/-- Taking a complete frame. -/
theorem takes
    (reading : framed.Reading)
    (goesOn : ¬ IsOver framed.reader)
    {raw : RawFrame}
    (complete : raw.Complete)
    (bytes :
      heldBytes framed.reader ++ framed.buffer = raw.bytes ++ next.buffer)
    (nothingHeld : heldBytes next.reader = [])
    (mayTake : MayTake next.reader)
    (frames : next.frames = framed.frames ++ [raw])
    (arrived : next.arrived = framed.arrived) :
    next.Reading := by
  obtain ⟨earlier, whole⟩ := reading.running goesOn
  refine ⟨⟨next.buffer, ?_, ?_⟩, mayTake, .inl ?_⟩
  · rw [arrived, whole, bytes, frames]
    simp
  · intro _
    rw [nothingHeld, List.nil_append]
  · intro frame member
    rw [frames] at member
    rcases List.mem_append.mp member with old | new
    · exact earlier frame old
    · rw [List.mem_singleton.mp new]
      exact complete

end Reading

/-- The outcome of a rejection holds no bytes. -/
theorem Rejection.heldBytes_eq
    {index : Nat}
    {raw : RawFrame}
    {last : Bool}
    {phase : ServicePhase}
    {reader : ReaderPhase}
    (rejection : Rejection index raw last phase reader) :
    heldBytes reader = [] ∧ MayTake reader ∧ (last = true → IsOver reader) := by
  cases rejection with
  | answered frame =>
      exact ⟨rfl, trivial, id⟩
  | panicked =>
      exact ⟨rfl, trivial, fun _ => trivial⟩
  | dropped =>
      exact ⟨rfl, trivial, fun _ => trivial⟩

/-- The frames stay as they are while one is served. -/
theorem frames_set
    {index : Nat}
    {service other : Service shards}
    (found : framed.services[index]? = some service)
    (same : other.raw = service.raw) :
    (framed.services.set index other).map Service.raw = framed.frames :=
  map_set_of_eq found same

variable [NeZero shards] {crates : WireCrates}

/-- Every step keeps the frames taken cut off the bytes that arrived. -/
theorem Reading.step
    (reading : framed.Reading)
    (step : Step crates framed label next) :
    next.Reading := by
  cases step with
  | arrive chunk =>
      obtain ⟨rest, arrived, isRest⟩ := reading.accounted
      refine ⟨⟨rest ++ chunk, ?_, ?_⟩, reading.mayTake, reading.cut⟩
      · rw [arrived, List.append_assoc]
        rfl
      · intro moving
        rw [isRest moving, List.append_assoc]
  | hangUp =>
      exact reading.of_same rfl rfl rfl rfl
  | stops reads idle =>
      obtain ⟨rest, arrived, _⟩ := reading.accounted
      refine ⟨⟨rest, arrived, fun moving => (moving rfl).elim⟩, trivial, ?_⟩
      have goesOn : ¬ IsOver framed.reader := by
        rcases idle with phase | ⟨header, phase⟩
        · exact not_isOver phase id
        · exact not_isOver phase id
      exact .inl (reading.running goesOn).1
  | @headed header rest phase buffer taken =>
      have goesOn := not_isOver phase id
      obtain ⟨complete, whole⟩ := reading.running goesOn
      refine ⟨⟨header.bytes ++ rest, ?_, fun _ => rfl⟩, taken, .inl complete⟩
      rw [show framed.arrived = _ from whole, phase, buffer]
      rfl
  | @refuses header rest given reader phase buffer refused fits rejection answer =>
      have goesOn := not_isOver phase id
      obtain ⟨complete, whole⟩ := reading.running goesOn
      obtain ⟨nothingHeld, mayTake, isOver⟩ := rejection.heldBytes_eq
      refine ⟨⟨rest, ?_, ?_⟩, mayTake, .inr ⟨framed.frames, header, ?_, complete,
        refused, fits, isOver rfl⟩⟩
      · rw [show framed.arrived = _ from whole, phase, buffer]
        simp [frames, heldBytes, RawFrame.bytes]
      · intro _
        rw [nothingHeld, List.nil_append]
      · simp [frames]
  | @bodied raw rest body phase buffer whole =>
      have goesOn := not_isOver phase id
      have taken := reading.mayTake
      rw [phase] at taken
      obtain ⟨complete, arrived⟩ := reading.running goesOn
      refine ⟨⟨raw.bytes ++ rest, ?_, fun _ => rfl⟩, ⟨taken, whole⟩,
        .inl complete⟩
      rw [show framed.arrived = _ from arrived, phase, buffer]
      simp [frames, heldBytes, RawFrame.bytes]
  | @rejects raw rest given reader phase buffer whole rejection answer =>
      have goesOn := not_isOver phase id
      have taken := reading.mayTake
      rw [phase] at taken
      obtain ⟨nothingHeld, mayTake, _⟩ := rejection.heldBytes_eq
      refine reading.takes goesOn ⟨taken, whole⟩ ?_ nothingHeld mayTake ?_ rfl
      · rw [phase, buffer]
        simp [heldBytes, RawFrame.bytes]
      · simp [frames]
  | @inlines raw body phase inline =>
      have goesOn := not_isOver phase id
      have complete := reading.mayTake
      rw [phase] at complete
      have bytes :
          heldBytes framed.reader ++ framed.buffer =
            raw.bytes ++ framed.buffer := by
        rw [phase]
        rfl
      exact reading.takes goesOn complete bytes rfl trivial
        (by simp [frames, service]) rfl
  | @spawns raw body phase inline permitted =>
      have goesOn := not_isOver phase id
      have complete := reading.mayTake
      rw [phase] at complete
      have bytes :
          heldBytes framed.reader ++ framed.buffer =
            raw.bytes ++ framed.buffer := by
        rw [phase]
        rfl
      exact reading.takes goesOn complete bytes rfl trivial
        (by simp [frames, service]) rfl
  | @awaited index last service reader phase found concluded moves =>
      rcases moves with rfl | ⟨rfl, rfl⟩
      · obtain ⟨rest, arrived, _⟩ := reading.accounted
        refine ⟨⟨rest, arrived, fun moving => (moving rfl).elim⟩, trivial, ?_⟩
        rcases reading.cut with
          complete | ⟨earlier, header, shape, complete, refused, fits, _⟩
        · exact .inl complete
        · exact .inr ⟨earlier, header, shape, complete, refused, fits, trivial⟩
      · have goesOn := not_isOver phase Bool.false_ne_true
        obtain ⟨complete, arrived⟩ := reading.running goesOn
        rw [phase] at arrived
        exact ⟨⟨framed.buffer, arrived, fun _ => rfl⟩, trivial, .inl complete⟩
  | enters found phase queried =>
      exact reading.of_same (frames_set found rfl) rfl rfl rfl
  | accesses found phase queried program ready =>
      exact reading.of_same (frames_set found rfl) rfl rfl rfl
  | builds found working frame result built =>
      exact reading.of_same (frames_set found rfl) rfl rfl rfl
  | panics found working finished =>
      exact reading.of_same (frames_set found rfl) rfl rfl rfl
  | sends found phase sent =>
      exact reading.of_same (frames_set found rfl) rfl rfl rfl
  | drops found phase =>
      exact reading.of_same (frames_set found rfl) rfl rfl rfl
  | writes unsent wrote =>
      exact reading.of_same rfl rfl rfl rfl
  | engine thread taken =>
      exact reading.of_same rfl rfl rfl rfl
  | elsewhere action =>
      exact reading.of_same rfl rfl rfl rfl

/-- The bytes that arrive in a step. -/
def arrival : FramedLabel shards → Bytes
  | .arrive chunk =>
      chunk
  | _ =>
      []

/-- The bytes that arrive during a run. -/
def arrivals (labels : List (FramedLabel shards)) : Bytes :=
  labels.flatMap arrival

/-- The client's bytes are those of the chunks that arrive. -/
theorem arrived_run
    {allowed : FramedConnection shards → FramedLabel shards → Prop}
    {labels : List (FramedLabel shards)}
    (run : Run (step? crates) allowed framed labels next) :
    next.arrived = framed.arrived ++ arrivals labels := by
  induction run with
  | nil framed =>
      simp [arrivals]
  | @cons framed middle final label rest permitted first later
      inductionHypothesis =>
      have moved : middle.arrived = framed.arrived ++ arrival label := by
        cases step?_sound first with
        | stops reads idle =>
            rcases reads with rfl | rfl
            all_goals simp [arrival]
        | _ =>
            simp [arrival, conclude]
      rw [inductionHypothesis, moved, List.append_assoc, arrivals, arrivals,
        List.flatMap_cons]

omit [NeZero shards] in
/-- The frames taken are the first frames of the bytes that arrived. -/
theorem Reading.frames_prefix (reading : framed.Reading) :
    framed.frames <+: requestFrames framed.arrived := by
  obtain ⟨rest, arrived, _⟩ := reading.accounted
  rw [arrived]
  rcases reading.cut with
    complete | ⟨earlier, header, shape, complete, refused, fits, _⟩
  · rw [requestFrames_append complete]
    exact List.prefix_append _ _
  · rw [shape, List.flatMap_append, List.append_assoc,
      requestFrames_append complete]
    simp [RawFrame.bytes, requestFrames_header fits, refused]

/-- The reader waits for bytes that have not arrived yet. -/
def AwaitsBytes (crates : WireCrates) (framed : FramedConnection shards) : Prop :=
  (framed.reader = .header ∨ ∃ header, framed.reader = .body header) ∧
    framed.step? crates .read = none

/-- A reader that waits for bytes has taken every frame that arrived. -/
theorem Reading.frames_eq
    (reading : framed.Reading)
    (awaits : framed.AwaitsBytes crates) :
    framed.frames = requestFrames framed.arrived := by
  obtain ⟨phase, disabled⟩ := awaits
  rcases phase with phase | ⟨header, phase⟩
  · have short : framed.buffer.length < 9 := by
      by_contra enough
      simp [step?, read?, phase, not_lt.mp enough] at disabled
    obtain ⟨complete, arrived⟩ := reading.running (not_isOver phase id)
    have nothingHeld : heldBytes framed.reader = [] := by
      rw [phase]
      rfl
    rw [arrived, requestFrames_append complete, nothingHeld, List.nil_append,
      requestFrames_short short, List.append_nil]
  · have short : framed.buffer.length < header.length := by
      by_contra enough
      simp [step?, read?, phase, not_lt.mp enough] at disabled
    have taken := reading.mayTake
    rw [phase] at taken
    have fits : header.length < 2 ^ 32 := by
      have atMost : header.length ≤ maxFrameLength :=
        not_lt.mp fun long => taken (.inr long)
      exact atMost.trans_lt (by decide)
    obtain ⟨complete, arrived⟩ := reading.running (not_isOver phase id)
    rw [arrived, requestFrames_append complete, phase, heldBytes,
      requestFrames_header fits, if_neg taken, if_neg (not_le.mpr short),
      List.append_nil]

/-! ### A QUERY that OPTIONS overtakes -/

end FramedConnection

/-- Opcodes as the protocol numbers them. -/
def Opcode.number : Opcode → UInt8
  | .control .startup =>
      0x01
  | .control .options =>
      0x05
  | .request .query =>
      0x07
  | .request .prepare =>
      0x09
  | .request .execute =>
      0x0A
  | .control .register =>
      0x0B
  | .control .batch =>
      0x0D
  | .control .authResponse =>
      0x0F

/-- The opcodes of the protocol. -/
def Opcode.all : List Opcode :=
  [.control .startup, .control .options, .request .query, .request .prepare,
    .request .execute, .control .register, .control .batch,
    .control .authResponse]

/-- A string behind a 16-bit length. -/
def shortString (text : String) : Bytes :=
  toBe 2 (utf8 text).length ++ utf8 text

/-- `sessionCrates` over frames that are not compressed. -/
def sessionWireCrates : WireCrates where
  toCrates := sessionCrates
  scylla := plainScyllaCql
  opcodeByte := Opcode.number
  tryFromOpcode := fun byte => Opcode.all.find? fun opcode => opcode.number == byte
  decompress := fun _ _ => none
  readStartup := fun _ => none
  skipMetadata := fun parameters => parameters.getD 2 0 &&& 0x02 ≠ 0
  writeStringMultimap := fun entries =>
    some (toBe 2 entries.length ++ entries.flatMap fun entry =>
      shortString entry.1 ++ toBe 2 entry.2.length ++
        entry.2.flatMap shortString)
  toLowercase := fun text => String.ofList (text.toList.map Char.toLower)

/-- They number opcodes as they read them. -/
theorem sessionWireCrates_numbersOpcodes : sessionWireCrates.NumbersOpcodes := by
  intro byte opcode
  constructor
  · intro read
    have found := List.find?_some read
    exact beq_iff_eq.mp found
  · rintro rfl
    cases opcode with
    | control opcode =>
        cases opcode
        all_goals decide
    | request opcode =>
        cases opcode
        all_goals decide

/-- A frame of a client. -/
def clientFrame (stream : Int16) (opcode : Opcode) (body : Bytes) : RawFrame where
  header := ⟨0x04, 0x00, stream, opcode.number, body.length⟩
  body := body

/-- A USE that the reader hands to a task, and OPTIONS. -/
def useAndOptions : Bytes :=
  (clientFrame 1 (.request .query) (queryFrame "USE\tother").body).bytes ++
    (clientFrame 2 (.control .options) []).bytes

/-- The frames arrive in three chunks, and OPTIONS is answered first. -/
def overtakingOptions : List (FramedLabel 1) :=
  [.arrive (useAndOptions.take 4), .arrive ((useAndOptions.drop 4).take 24),
    .read, .read, .read, .arrive (useAndOptions.drop 28), .read, .read, .read,
    .serve 0, .serve 1, .serve 1, .read, .serve 0, .serve 0, .serve 0, .serve 0,
    .serve 0]

namespace FramedConnection

/-- The run ends with both frames taken and answered, in the other order. -/
theorem overtakingOptions_run :
    ∃ framed,
      Run (step? sessionWireCrates) (fun _ _ => True)
          (accepted .vectored twoKeyspaces) overtakingOptions framed ∧
        framed.frames.map (fun frame => frame.header.stream) = [1, 2] ∧
        framed.writer.frames.map (fun response => response.take 4) =
          [[0x84, 0x00, 0, 2], [0x84, 0x00, 0, 1]] ∧
        framed.AwaitsBytes sessionWireCrates := by
  have observed :
      (run? (step? sessionWireCrates) (accepted .vectored twoKeyspaces)
          overtakingOptions).map
          (fun framed =>
            (framed.frames.map (fun frame => frame.header.stream),
              framed.writer.frames.map (fun response => response.take 4),
              framed.reader, (framed.step? sessionWireCrates .read).isNone)) =
        some ([1, 2], [[0x84, 0x00, 0, 2], [0x84, 0x00, 0, 1]], .header,
          true) := by
    decide +kernel
  obtain ⟨framed, ran, seen⟩ := Option.map_eq_some_iff.mp observed
  simp only [Prod.mk.injEq, Option.isNone_iff_eq_none] at seen
  obtain ⟨frames, responses, reader, disabled⟩ := seen
  exact ⟨framed, .of_run? (permitted_of_forall (fun _ _ _ => trivial) _) ran,
    frames, responses, .inl reader, disabled⟩

variable
  {shards : Nat} [NeZero shards]
  {crates : WireCrates}
  {framed next : FramedConnection shards}
  {label : FramedLabel shards}

/--
However the client's bytes are cut into chunks, the frames that a connection
takes are the first frames of these bytes, and once its reader waits for more
bytes they are all of them.
-/
theorem frames_of_arrivals
    {mode : FlushMode}
    {store : Storage shards}
    {labels : List (FramedLabel shards)}
    (run :
      Run (step? crates) (fun _ _ => True) (accepted mode store) labels framed) :
    framed.frames <+: requestFrames (arrivals labels) ∧
      (framed.AwaitsBytes crates →
        framed.frames = requestFrames (arrivals labels)) := by
  have reading : framed.Reading :=
    run.invariant (fun _ taken holds => holds.step (step?_sound taken))
      (reading_accepted mode store)
  have arrived : framed.arrived = arrivals labels :=
    arrived_run run
  rw [← arrived]
  exact ⟨reading.frames_prefix, reading.frames_eq⟩

/-- Both frames are taken, although neither arrives in one chunk. -/
theorem frames_of_arrivals_two :
    ∃ framed : FramedConnection 1,
      framed.frames.map (fun frame => frame.header.stream) = [1, 2] ∧
        framed.frames <+: requestFrames (arrivals overtakingOptions) ∧
        framed.frames = requestFrames (arrivals overtakingOptions) := by
  obtain ⟨framed, run, frames, _, awaits⟩ := overtakingOptions_run
  obtain ⟨first, all⟩ := frames_of_arrivals run
  exact ⟨framed, frames, first, all awaits⟩

/-! ## The responses on the channel -/

end FramedConnection

/-- The response that was put on the channel for a frame. -/
def Service.response? {shards : Nat} (service : Service shards) : Option Bytes :=
  match service.phase with
  | .answered response =>
      some response
  | _ =>
      none

/-- Only a send adds to the responses on the channel. -/
theorem ResponseWriter.frames_step
    {writer next : ResponseWriter}
    {label : WriterLabel}
    (unsent : ∀ response, label ≠ .send response)
    (wrote : writer.step? label = some next) :
    next.frames = writer.frames := by
  cases ResponseWriter.step?_sound wrote with
  | send response =>
      exact absurd rfl (unsent response)
  | _ =>
      rfl

/-! ### Opcodes -/

/-- A response with one of these opcodes. -/
def AnsweredWith (opcodes : List ResponseOpcode) (response : Bytes) : Prop :=
  ∃ opcode ∈ opcodes, response[4]? = some opcode.toUInt8

/--
What a frame that does not reach the query layer may be answered with: OPTIONS
with SUPPORTED, REGISTER with READY, STARTUP with READY or an ERROR, and an
unknown opcode, BATCH and AUTH_RESPONSE with an ERROR.
-/
def controlAnswers : Option ControlOpcode → List ResponseOpcode
  | some .options =>
      [.supported]
  | some .register =>
      [.ready]
  | some .startup =>
      [.ready, .error]
  | some .batch =>
      [.error]
  | some .authResponse =>
      [.error]
  | none =>
      [.error]

/-- What is built, if anything, has one of these opcodes. -/
def BuildsAnswer (opcodes : List ResponseOpcode) (built : Outcome Bytes) : Prop :=
  ∀ response, built = .ok response → AnsweredWith opcodes response

section Opcodes

variable
  {version : UInt8}
  {stream : Int16}
  {scylla : ScyllaCql}
  {opcodes : List ResponseOpcode}
  {compression : Option Compression}

/-- What is read on the way does not matter to the opcode. -/
theorem BuildsAnswer.bind
    {α : Type}
    {next : α → Outcome Bytes}
    (builds : ∀ value, BuildsAnswer opcodes (next value))
    (first : Outcome α) :
    BuildsAnswer opcodes (first >>= next) := by
  intro response built
  obtain ⟨value, _, last⟩ := Fallible.bind_eq_ok.mp built
  exact builds value response last

/-- A response frame has the opcode it is built for. -/
theorem responseFrame_buildsAnswer
    {opcode : ResponseOpcode}
    {body : Bytes}
    (listed : opcode ∈ opcodes) :
    BuildsAnswer opcodes
      (responseFrame scylla version stream opcode body compression) := by
  have width : (toBe 2 stream.toUInt16.toNat).length = 2 :=
    length_toBe 2 _
  obtain ⟨high, low, bytes⟩ := List.length_eq_two.mp width
  intro response built
  refine ⟨opcode, listed, ?_⟩
  cases compression with
  | none =>
      cases built
      rw [bytes]
      rfl
  | some algorithm =>
      obtain ⟨compressed, _, last⟩ := Fallible.bind_eq_ok.mp built
      cases last
      rw [bytes]
      rfl

/-- An ERROR frame has the opcode of an error. -/
theorem error_buildsAnswer
    {code : Nat}
    {message : String}
    (listed : .error ∈ opcodes) :
    BuildsAnswer opcodes
      (Protocol.error scylla version stream code message compression) :=
  .bind (fun _ => responseFrame_buildsAnswer listed) _

/-- A response to a statement is a RESULT. -/
theorem respond_buildsAnswer
    {response : Response}
    {skipMetadata : Bool}
    (listed : .result ∈ opcodes) :
    BuildsAnswer opcodes
      (respond scylla version stream compression response skipMetadata) := by
  cases response with
  | rows keyspace table cols rows sources pagingState =>
      exact .bind (fun _ => responseFrame_buildsAnswer listed) _
  | void =>
      exact responseFrame_buildsAnswer listed
  | setKeyspace keyspace =>
      exact .bind (fun _ => responseFrame_buildsAnswer listed) _
  | schemaChange change target keyspace table =>
      exact .bind (fun _ => .bind (fun _ => .bind (fun _ =>
        .bind (fun _ => responseFrame_buildsAnswer listed) _) _) _) _

/-- A request is answered with a RESULT or an ERROR. -/
theorem ConnTask.response?_buildsAnswer
    {shards : Nat}
    {crates : WireCrates}
    {task : ConnTask shards}
    {agreed current : Option Compression}
    {built : Outcome Bytes}
    (responds : task.response? crates stream agreed current = some built) :
    BuildsAnswer [.result, .error] built := by
  unfold ConnTask.response? at responds
  split at responds
  · cases responds
    exact respond_buildsAnswer (by decide)
  · cases responds
    exact .bind (fun _ => .bind (fun _ => .bind (fun _ =>
      responseFrame_buildsAnswer (by decide)) _) _) _
  · cases responds
    exact error_buildsAnswer (by decide)
  · cases responds
    intro response panicked
    cases panicked
  · cases responds
  · cases responds

/-- A control opcode is answered as it should be. -/
theorem serveControl_buildsAnswer
    {crates : WireCrates}
    {opcode : Option ControlOpcode}
    {body : Bytes} :
    BuildsAnswer (controlAnswers opcode)
      (serveControl crates stream compression opcode body).2 := by
  unfold serveControl Protocol.ready
  dsimp only
  split
  · exact error_buildsAnswer (by decide)
  · exact .bind (fun _ => responseFrame_buildsAnswer (by decide)) _
  · split
    · exact error_buildsAnswer (by decide)
    · split
      · dsimp only
        exact responseFrame_buildsAnswer (by decide)
      · dsimp only
        exact responseFrame_buildsAnswer (by decide)
      · exact error_buildsAnswer (by decide)
      · exact responseFrame_buildsAnswer (by decide)
  · exact responseFrame_buildsAnswer (by decide)
  · exact error_buildsAnswer (by decide)
  · exact error_buildsAnswer (by decide)

/-- The reader refuses a frame with an ERROR. -/
theorem FramedConnection.Refuses.answered
    {shards : Nat}
    {crates : WireCrates}
    {framed : FramedConnection shards}
    {raw : RawFrame}
    {response : Bytes}
    (refused : framed.Refuses crates raw response) :
    AnsweredWith [.error] response := by
  cases refused with
  | version other built =>
      exact error_buildsAnswer (by decide) response built
  | long version tooLong built =>
      exact error_buildsAnswer (by decide) response built
  | compressed flagged unagreed built =>
      exact error_buildsAnswer (by decide) response built

end Opcodes

section Origins

variable
  {shards : Nat} [NeZero shards]
  (crates : WireCrates)
  (initial : FramedConnection shards)
  (labels : List (FramedLabel shards))
  (index : Nat)

/-- The frame as it was when nobody had begun to serve it. -/
def Service.fresh (service : Service shards) : Service shards :=
  FramedConnection.service crates service.raw service.body service.inline

/-- The frame was entered under this compression. -/
def Service.EnteredUnder
    (service : Service shards)
    (agreed : Option Compression) :
    Prop :=
  Passes (FramedConnection.step? crates) initial labels fun framed =>
    framed.compression = agreed ∧
      framed.services[index]? = some (service.fresh crates)

/--
Where the response to a frame comes from.  The reader refused the frame with it;
or the frame does not reach the query layer and it is the response to its
opcode, of a kind that this opcode may be answered with; or it is what the
frame's own request ended with, compressed as agreed on when the request was
entered, an error as agreed on when it was built.
-/
inductive Service.AnsweredBy
    (service : Service shards)
    (response : Bytes) :
    Prop where
  | refusal
      (unqueried : service.task = none)
      (opcode : AnsweredWith [.error] response)
      (moment :
        Passes (FramedConnection.step? crates) initial labels fun framed =>
          framed.services.length = index ∧
            framed.Refuses crates service.raw response)
  | control
      (unqueried : service.task = none)
      (opcode :
        AnsweredWith (controlAnswers (crates.controlOpcode? service.raw))
          response)
      (moment :
        Passes (FramedConnection.step? crates) initial labels fun framed =>
          framed.services[index]? = some (service.fresh crates) ∧
            (serveControl crates service.raw.header.stream framed.compression
                (crates.controlOpcode? service.raw) service.body).2 =
              .ok response)
  | request
      {task : ConnTask shards}
      {agreed : Option Compression}
      (queried : service.task = some task)
      (opcode : AnsweredWith [.result, .error] response)
      (entered : service.EnteredUnder crates initial labels index agreed)
      (moment :
        Passes (FramedConnection.step? crates) initial labels fun framed =>
          framed.services[index]? =
              some { service with phase := .serving agreed } ∧
            task.response? crates service.raw.header.stream agreed
                framed.compression =
              some (.ok response))

/-- What is known of a frame in each phase of serving it. -/
def Service.Consistent (service : Service shards) : Prop :=
  match service.phase with
  | .spawned =>
      service.raw.header.version = 0x04 ∧ service = service.fresh crates
  | .serving agreed =>
      service.raw.header.version = 0x04 ∧
        service.EnteredUnder crates initial labels index agreed
  | .sending response =>
      Framed service.raw.header.version service.raw.header.stream response ∧
        service.AnsweredBy crates initial labels index response
  | .answered response =>
      Framed service.raw.header.version service.raw.header.stream response ∧
        service.AnsweredBy crates initial labels index response
  | _ =>
      True

end Origins

namespace Service

variable
  {shards : Nat} [NeZero shards]
  {crates : WireCrates}
  {initial : FramedConnection shards}
  {labels : List (FramedLabel shards)}
  {index : Nat}
  {service : Service shards}

/-- Where a response comes from does not change as the run goes on. -/
theorem AnsweredBy.append
    {response : Bytes}
    (answered : service.AnsweredBy crates initial labels index response)
    (more : List (FramedLabel shards)) :
    service.AnsweredBy crates initial (labels ++ more) index response := by
  cases answered with
  | refusal unqueried opcode moment =>
      exact .refusal unqueried opcode (moment.append more)
  | control unqueried opcode moment =>
      exact .control unqueried opcode (moment.append more)
  | request queried opcode entered moment =>
      exact .request queried opcode (entered.append more) (moment.append more)

/-- Nor does it as the frame is served on. -/
theorem AnsweredBy.of_phase
    {response : Bytes}
    (answered : service.AnsweredBy crates initial labels index response)
    (phase : ServicePhase) :
    { service with phase := phase }.AnsweredBy crates initial labels index
      response := by
  cases answered with
  | refusal unqueried opcode moment =>
      exact .refusal unqueried opcode moment
  | control unqueried opcode moment =>
      exact .control unqueried opcode moment
  | request queried opcode entered moment =>
      exact .request queried opcode entered moment

/-- Nor does anything else that is known of a frame. -/
theorem Consistent.append
    (consistent : service.Consistent crates initial labels index)
    (more : List (FramedLabel shards)) :
    service.Consistent crates initial (labels ++ more) index := by
  unfold Consistent at consistent ⊢
  split
  · rename_i phase
    rw [phase] at consistent
    exact consistent
  · rename_i agreed phase
    rw [phase] at consistent
    exact ⟨consistent.1, consistent.2.append more⟩
  · rename_i response phase
    rw [phase] at consistent
    exact ⟨consistent.1, consistent.2.append more⟩
  · rename_i response phase
    rw [phase] at consistent
    exact ⟨consistent.1, consistent.2.append more⟩
  · trivial

/-- A frame that nobody has begun to serve speaks version 4. -/
theorem Consistent.spawned
    (consistent : service.Consistent crates initial labels index)
    (phase : service.phase = .spawned) :
    service.raw.header.version = 0x04 ∧ service = service.fresh crates := by
  unfold Consistent at consistent
  rw [phase] at consistent
  exact consistent

/-- So does a frame whose request is under way. -/
theorem Consistent.serving
    (consistent : service.Consistent crates initial labels index)
    {agreed : Option Compression}
    (phase : service.phase = .serving agreed) :
    service.raw.header.version = 0x04 ∧
      service.EnteredUnder crates initial labels index agreed := by
  unfold Consistent at consistent
  rw [phase] at consistent
  exact consistent

/-- The response that is being sent comes from the frame. -/
theorem Consistent.sending
    (consistent : service.Consistent crates initial labels index)
    {response : Bytes}
    (phase : service.phase = .sending response) :
    Framed service.raw.header.version service.raw.header.stream response ∧
      service.AnsweredBy crates initial labels index response := by
  unfold Consistent at consistent
  rw [phase] at consistent
  exact consistent

/-- And so does the response that was sent. -/
theorem Consistent.answered
    (consistent : service.Consistent crates initial labels index)
    {response : Bytes}
    (phase : service.phase = .answered response) :
    Framed service.raw.header.version service.raw.header.stream response ∧
      service.AnsweredBy crates initial labels index response := by
  unfold Consistent at consistent
  rw [phase] at consistent
  exact consistent

/-- A response that is built now comes from the frame. -/
theorem Consistent.builds
    {framed : FramedConnection shards}
    (reached :
      run? (FramedConnection.step? crates) initial labels = some framed)
    (found : framed.services[index]? = some service)
    (consistent : service.Consistent crates initial labels index)
    {response : Bytes}
    (built : framed.built? crates service = some (.ok response)) :
    service.raw.header.version = 0x04 ∧
      service.AnsweredBy crates initial labels index response := by
  unfold FramedConnection.built? at built
  split at built
  · rename_i phase unqueried
    obtain ⟨version, isFresh⟩ := consistent.spawned phase
    have answer := Option.some.inj built
    exact ⟨version, .control unqueried (serveControl_buildsAnswer response answer)
      (.here reached ⟨isFresh ▸ found, answer⟩)⟩
  · rename_i agreed task phase queried
    obtain ⟨version, entered⟩ := consistent.serving phase
    have asFound : { service with phase := .serving agreed } = service := by
      rw [← phase]
    exact ⟨version, .request queried
      (ConnTask.response?_buildsAnswer built response rfl) entered
      (.here reached ⟨by rw [asFound, found], built⟩)⟩
  · cases built

end Service

namespace FramedConnection

variable
  {shards : Nat} [NeZero shards]
  {crates : WireCrates}
  {initial framed next : FramedConnection shards}
  {labels : List (FramedLabel shards)}
  {label : FramedLabel shards}

/-- The channel holds the responses of the answered frames. -/
structure Answering
    (crates : WireCrates)
    (initial : FramedConnection shards)
    (labels : List (FramedLabel shards))
    (framed : FramedConnection shards) :
    Prop where
  consistent :
    ∀ (index : Nat) (service : Service shards),
      framed.services[index]? = some service →
      service.Consistent crates initial labels index
  channel :
    framed.writer.frames.Perm (framed.services.filterMap Service.response?)

/-- A connection that was just accepted has answered nothing. -/
theorem answering_accepted
    (crates : WireCrates)
    (mode : FlushMode)
    (store : Storage shards) :
    Answering crates initial labels (accepted mode store) where
  consistent := by
    intro index service found
    cases found
  channel := .refl []

/-- Replacing a frame by a consistent one keeps all of them consistent. -/
theorem consistent_set
    {services : List (Service shards)}
    {index place : Nat}
    {other member : Service shards}
    (each :
      ∀ (index : Nat) (service : Service shards),
        services[index]? = some service →
        service.Consistent crates initial labels index)
    (consistent : other.Consistent crates initial labels index)
    (found : (services.set index other)[place]? = some member) :
    member.Consistent crates initial labels place := by
  rw [List.getElem?_set] at found
  split at found
  · rename_i same
    subst same
    split at found
    · cases found
      exact consistent
    · cases found
  · exact each place member found

namespace Answering

/-- The run goes on. -/
theorem append
    (answering : Answering crates initial labels framed)
    (more : List (FramedLabel shards)) :
    Answering crates initial (labels ++ more) framed where
  consistent index service found :=
    (answering.consistent index service found).append more
  channel := answering.channel

/-- Taking up a frame that has no response on the channel yet. -/
theorem appends
    (answering : Answering crates initial labels framed)
    {service : Service shards}
    (services : next.services = framed.services ++ [service])
    (writer : next.writer = framed.writer)
    (consistent :
      service.Consistent crates initial labels framed.services.length)
    (silent : service.response? = none) :
    Answering crates initial labels next := by
  refine ⟨?_, ?_⟩
  · intro index other found
    rw [services] at found
    rcases lt_trichotomy index framed.services.length with old | new | beyond
    · rw [List.getElem?_append_left old] at found
      exact answering.consistent index other found
    · subst new
      rw [List.getElem?_concat_length] at found
      cases found
      exact consistent
    · rw [List.getElem?_eq_none (by simpa using beyond)] at found
      cases found
  · rw [services, writer]
    simpa [silent] using answering.channel

/-- Serving a frame without putting its response on the channel. -/
theorem sets
    (answering : Answering crates initial labels framed)
    {index : Nat}
    {service other : Service shards}
    (found : framed.services[index]? = some service)
    (services : next.services = framed.services.set index other)
    (writer : next.writer = framed.writer)
    (consistent : other.Consistent crates initial labels index)
    (silent : other.response? = service.response?) :
    Answering crates initial labels next := by
  obtain ⟨before, after, whole, replaced, _⟩ := exists_split_set found other
  refine ⟨?_, ?_⟩
  · intro place member isMember
    rw [services] at isMember
    exact consistent_set answering.consistent consistent isMember
  · rw [services, writer, replaced]
    have channel := answering.channel
    rw [whole] at channel
    simpa [List.filterMap_cons, silent] using channel

/-- What does not concern the frames keeps their answers. -/
theorem of_same
    (answering : Answering crates initial labels framed)
    (services : next.services = framed.services)
    (frames : next.writer.frames = framed.writer.frames) :
    Answering crates initial labels next := by
  obtain ⟨consistent, channel⟩ := answering
  refine ⟨?_, ?_⟩
  · rw [services]
    exact consistent
  · rw [services, frames]
    exact channel

end Answering

/-- What the reader answers itself is consistent. -/
theorem Rejection.consistent
    {raw : RawFrame}
    {last : Bool}
    {phase : ServicePhase}
    {reader : ReaderPhase}
    (reached : run? (step? crates) initial labels = some framed)
    (rejection : Rejection framed.services.length raw last phase reader)
    (answer :
      ∀ response,
        phase = .sending response →
        framed.Refuses crates raw response) :
    (⟨raw, [], true, none, phase⟩ : Service shards).Consistent crates initial
      labels framed.services.length := by
  cases rejection with
  | answered frame =>
      have refused := answer _ rfl
      exact ⟨frame,
        .refusal rfl refused.answered (.here reached ⟨rfl, refused⟩)⟩
  | panicked =>
      trivial
  | dropped =>
      trivial

omit [NeZero shards] in
/-- What the reader answers itself is not on the channel yet. -/
theorem Rejection.silent
    {index : Nat}
    {raw : RawFrame}
    {last : Bool}
    {phase : ServicePhase}
    {reader : ReaderPhase}
    (rejection : Rejection index raw last phase reader) :
    (⟨raw, [], true, none, phase⟩ : Service shards).response? = none := by
  cases rejection with
  | _ =>
      rfl

/-- Every step keeps the channel filled with the responses of the answered frames. -/
theorem Answering.step
    (reached : run? (step? crates) initial labels = some framed)
    (answering : Answering crates initial labels framed)
    (reading : framed.Reading)
    (step : Step crates framed label next) :
    Answering crates initial labels next := by
  cases step with
  | arrive chunk =>
      exact answering.of_same rfl rfl
  | hangUp =>
      exact answering.of_same rfl rfl
  | stops reads idle =>
      exact answering.of_same rfl rfl
  | headed phase buffer taken =>
      exact answering.of_same rfl rfl
  | refuses phase buffer refused fits rejection answer =>
      exact answering.appends rfl rfl (rejection.consistent reached answer)
        rejection.silent
  | bodied phase buffer whole =>
      exact answering.of_same rfl rfl
  | rejects phase buffer whole rejection answer =>
      exact answering.appends rfl rfl (rejection.consistent reached answer)
        rejection.silent
  | @inlines raw body phase inline =>
      have complete := reading.mayTake
      rw [phase] at complete
      exact answering.appends rfl rfl ⟨complete.version, rfl⟩ rfl
  | @spawns raw body phase inline permitted =>
      have complete := reading.mayTake
      rw [phase] at complete
      exact answering.appends rfl rfl ⟨complete.version, rfl⟩ rfl
  | awaited phase found concluded moves =>
      exact answering.of_same rfl rfl
  | @enters index service task found phase queried =>
      obtain ⟨version, isFresh⟩ :=
        (answering.consistent index service found).spawned phase
      have entered :
          service.EnteredUnder crates initial labels index framed.compression :=
        .here reached ⟨rfl, isFresh ▸ found⟩
      refine answering.sets found rfl rfl ⟨version, entered⟩ ?_
      simp [Service.response?, phase]
  | @accesses index service agreed task action rest found phase queried program
      ready =>
      have serving := (answering.consistent index service found).serving phase
      refine answering.sets found rfl rfl ?_ rfl
      unfold Service.Consistent
      simp only [phase]
      exact serving
  | @builds index service compression response found working frame result built =>
      obtain ⟨version, answered⟩ :=
        (answering.consistent index service found).builds reached found built
      have consistent :
          ({ service with phase := .sending response } :
            Service shards).Consistent crates initial labels index :=
        ⟨version ▸ frame, answered.of_phase _⟩
      refine answering.sets found rfl rfl consistent ?_
      rcases working with phase | ⟨agreed, phase⟩
      all_goals simp [Service.response?, phase]
  | @panics index service compression found working finished =>
      refine answering.sets found rfl rfl trivial ?_
      rcases working with phase | ⟨agreed, phase⟩
      all_goals simp [Service.response?, phase]
  | @sends index service response writer found phase sent =>
      obtain ⟨frame, answered⟩ :=
        (answering.consistent index service found).sending phase
      have consistent :
          ({ service with phase := .answered response } :
            Service shards).Consistent crates initial labels index :=
        ⟨frame, answered.of_phase _⟩
      obtain ⟨before, after, whole, replaced, _⟩ :=
        exists_split_set found { service with phase := .answered response }
      have frames : writer.frames = framed.writer.frames ++ [response] := by
        cases ResponseWriter.step?_sound sent with
        | send response =>
            rfl
      refine ⟨?_, ?_⟩
      · intro place member isMember
        exact consistent_set answering.consistent consistent isMember
      · have channel := answering.channel
        rw [whole] at channel
        have silent : service.response? = none := by
          simp [Service.response?, phase]
        rw [List.filterMap_append, List.filterMap_cons_none silent,
          ← List.filterMap_append] at channel
        simp only [conclude, frames, replaced, List.filterMap_append,
          List.filterMap_cons_some (show
            ({ service with phase := .answered response } :
              Service shards).response? = some response from rfl)]
        refine (channel.append_right [response]).trans ?_
        rw [List.filterMap_append, List.append_assoc]
        exact (List.perm_append_singleton _ _).append_left _
  | @drops index service response found phase =>
      refine answering.sets found rfl rfl trivial ?_
      simp [Service.response?, phase]
  | writes unsent wrote =>
      exact answering.of_same rfl (ResponseWriter.frames_step unsent wrote)
  | engine thread taken =>
      exact answering.of_same rfl rfl
  | elsewhere action =>
      exact answering.of_same rfl rfl

/--
The responses on the channel are those of the frames that were answered, one
each.  Every one is a response frame for the version and the stream of its
frame and comes from this frame: it is the reader's refusal, the response to
the frame's opcode, or what the frame's own request ended with.
-/
theorem responses_answer_frames
    {mode : FlushMode}
    {store : Storage shards}
    {labels : List (FramedLabel shards)}
    (run :
      Run (step? crates) (fun _ _ => True) (accepted mode store) labels framed) :
    framed.writer.frames.Perm (framed.services.filterMap Service.response?) ∧
      ∀ (index : Nat) (service : Service shards) (response : Bytes),
        framed.services[index]? = some service →
        service.phase = .answered response →
        Framed service.raw.header.version service.raw.header.stream response ∧
          service.AnsweredBy crates (accepted mode store) labels index
            response := by
  let holds : List (FramedLabel shards) → FramedConnection shards → Prop :=
    fun labels framed =>
      framed.Reading ∧ Answering crates (accepted mode store) labels framed
  have answering : holds labels framed := by
    refine run.history ?_ ?_
    · intro earlier state label next reached _ taken held
      have step := step?_sound taken
      exact ⟨held.1.step step, (held.2.step reached held.1 step).append [label]⟩
    · exact ⟨reading_accepted mode store,
        answering_accepted crates mode store⟩
  refine ⟨answering.2.channel, fun index service response found phase => ?_⟩
  exact (answering.2.consistent index service found).answered phase

/-- OPTIONS is answered on its stream before the QUERY in front of it. -/
theorem responses_answer_frames_two :
    ∃ framed : FramedConnection 1,
      framed.frames.map (fun frame => frame.header.stream) = [1, 2] ∧
        framed.writer.frames.map (fun response => response.take 4) =
          [[0x84, 0x00, 0, 2], [0x84, 0x00, 0, 1]] ∧
        framed.writer.frames.Perm
          (framed.services.filterMap Service.response?) ∧
        ∀ (index : Nat) (service : Service 1) (response : Bytes),
          framed.services[index]? = some service →
          service.phase = .answered response →
          Framed service.raw.header.version service.raw.header.stream response ∧
            service.AnsweredBy sessionWireCrates (accepted .vectored twoKeyspaces)
              overtakingOptions index response := by
  obtain ⟨framed, run, frames, responses, _⟩ := overtakingOptions_run
  exact ⟨framed, frames, responses, responses_answer_frames run⟩

end FramedConnection

end RhydaDB
