import RhydaDB.StoredRows

namespace RhydaDB

open ByteStrings

/-!
# Request frames

A client sends frames one after the other: nine bytes of header, which say how
long the body is, and the body.  The reader gives up at the first header that
it refuses.  `requestFrames` says which frames a stream of bytes holds, however
the stream is cut into the chunks that arrive.
-/

/-- The header of a request frame. -/
structure FrameHeader where
  version : UInt8
  flags : UInt8
  stream : Int16
  opcode : UInt8
  length : Nat
  deriving Repr, DecidableEq

/-- A frame as it stands on the wire; a refused one has no body. -/
structure RawFrame where
  header : FrameHeader
  body : Bytes
  deriving Repr, DecidableEq

namespace FrameHeader

/-- Read a header out of its nine bytes. -/
def parse (header : Bytes) : FrameHeader where
  version := header.getD 0 0
  flags := header.getD 1 0
  stream := (UInt16.ofNat (ofBe (slice header 2 2))).toInt16
  opcode := header.getD 4 0
  length := ofBe (slice header 5 4)

/-- The nine bytes of a header. -/
def bytes (header : FrameHeader) : Bytes :=
  [header.version, header.flags] ++ toBe 2 header.stream.toUInt16.toNat ++
    [header.opcode] ++ toBe 4 header.length

@[simp] theorem length_bytes (header : FrameHeader) :
    header.bytes.length = 9 := by
  simp [bytes]

/-- The bytes of a header that was read are those it was read from. -/
theorem bytes_parse
    {header : Bytes}
    (nine : header.length = 9) :
    (parse header).bytes = header := by
  rcases header with
    _ | ⟨version, _ | ⟨flags, _ | ⟨high, _ | ⟨low, _ | ⟨opcode, lengthField⟩⟩⟩⟩⟩
  all_goals simp only [List.length_cons, List.length_nil] at nine
  case cons.cons.cons.cons.cons =>
    have four : lengthField.length = 4 := by omega
    have stream :
        (UInt16.ofNat (ofBe [high, low])).toNat = ofBe [high, low] :=
      UInt16.toNat_ofNat_of_lt' ((ofBe_lt [high, low]).trans_eq (by norm_num))
    have streamBytes : toBe 2 (ofBe [high, low]) = [high, low] :=
      toBe_ofBe [high, low]
    have lengthBytes : toBe 4 (ofBe lengthField) = lengthField := by
      rw [← four, toBe_ofBe]
    have taken : lengthField.take 4 = lengthField :=
      List.take_of_length_le (by omega)
    simp [parse, bytes, slice, stream, streamBytes, lengthBytes, taken]
  all_goals omega

/-- Reading the bytes of a header gives it back. -/
theorem parse_bytes
    {header : FrameHeader}
    (fits : header.length < 2 ^ 32) :
    parse header.bytes = header := by
  have stream :
      ofBe (toBe 2 header.stream.toUInt16.toNat) =
        header.stream.toUInt16.toNat :=
    ofBe_toBe_of_lt (header.stream.toUInt16.toNat_lt.trans_eq (by norm_num))
  have length : ofBe (toBe 4 header.length) = header.length :=
    ofBe_toBe_of_lt (fits.trans_eq (by norm_num))
  obtain ⟨high, low, streamField⟩ :
      ∃ high low, toBe 2 header.stream.toUInt16.toNat = [high, low] :=
    ⟨_, _, rfl⟩
  rw [streamField] at stream
  have lengthField : (toBe 4 header.length).take 4 = toBe 4 header.length :=
    List.take_of_length_le (by simp)
  simp [parse, bytes, slice, streamField, stream, lengthField, length]

/-- A header that is answered with an error, after which the reader stops. -/
def Refused (header : FrameHeader) : Prop :=
  header.version ≠ 0x04 ∨ maxFrameLength < header.length

instance (header : FrameHeader) : Decidable header.Refused :=
  inferInstanceAs (Decidable (_ ∨ _))

/-- A header that was read says a length that fits its field. -/
theorem length_parse_lt (header : Bytes) :
    (parse header).length < 2 ^ 32 := by
  have short : (slice header 5 4).length ≤ 4 := by
    simp [slice]
  calc
    ofBe (slice header 5 4) < 256 ^ (slice header 5 4).length := ofBe_lt _
    _ ≤ 256 ^ 4 := Nat.pow_le_pow_right (by norm_num) short
    _ = 2 ^ 32 := by norm_num

end FrameHeader

namespace RawFrame

/-- The bytes of a frame. -/
def bytes (frame : RawFrame) : Bytes :=
  frame.header.bytes ++ frame.body

/-- A frame that the reader takes as a whole. -/
structure Complete (frame : RawFrame) : Prop where
  taken : ¬ frame.header.Refused
  whole : frame.body.length = frame.header.length

/-- A frame that is taken speaks version 4. -/
theorem Complete.version
    {frame : RawFrame}
    (complete : frame.Complete) :
    frame.header.version = 0x04 :=
  not_not.mp fun other => complete.taken (.inl other)

end RawFrame

/-- The frames in a stream of bytes, up to the first header that is refused. -/
def requestFrames (stream : Bytes) : List RawFrame :=
  if _headed : 9 ≤ stream.length then
    let header := FrameHeader.parse (stream.take 9)
    let rest := stream.drop 9
    if header.Refused then
      [⟨header, []⟩]
    else if header.length ≤ rest.length then
      ⟨header, rest.take header.length⟩ ::
        requestFrames (rest.drop header.length)
    else
      []
  else
    []
termination_by stream.length
decreasing_by
  simp only [List.length_drop]
  omega

/-- No frame starts without its nine bytes. -/
theorem requestFrames_short
    {stream : Bytes}
    (short : stream.length < 9) :
    requestFrames stream = [] := by
  rw [requestFrames, dif_neg (by omega)]

/-- A stream that starts with a header has the frame that the header describes. -/
theorem requestFrames_header
    {header : FrameHeader}
    (fits : header.length < 2 ^ 32)
    (rest : Bytes) :
    requestFrames (header.bytes ++ rest) =
      if header.Refused then
        [⟨header, []⟩]
      else if header.length ≤ rest.length then
        ⟨header, rest.take header.length⟩ ::
          requestFrames (rest.drop header.length)
      else
        [] := by
  have nine : 9 ≤ (header.bytes ++ rest).length := by
    simp
  have headed : (header.bytes ++ rest).take 9 = header.bytes := by
    simp
  have behind : (header.bytes ++ rest).drop 9 = rest := by
    simp
  rw [requestFrames, dif_pos nine]
  simp only [headed, behind, FrameHeader.parse_bytes fits]

/-- A complete frame at the front of a stream is its first frame. -/
theorem requestFrames_cons
    {frame : RawFrame}
    (complete : frame.Complete)
    (rest : Bytes) :
    requestFrames (frame.bytes ++ rest) = frame :: requestFrames rest := by
  have short : frame.header.length ≤ maxFrameLength :=
    not_lt.mp fun long => complete.taken (.inr long)
  have fits : frame.header.length < 2 ^ 32 :=
    short.trans_lt (by decide)
  have enough : frame.header.length ≤ (frame.body ++ rest).length := by
    simp [complete.whole]
  rw [RawFrame.bytes, List.append_assoc, requestFrames_header fits,
    if_neg complete.taken, if_pos enough, ← complete.whole,
    List.take_left, List.drop_left]

/-- Complete frames at the front of a stream are its first frames. -/
theorem requestFrames_append
    {frames : List RawFrame}
    (complete : ∀ frame ∈ frames, frame.Complete)
    (rest : Bytes) :
    requestFrames (frames.flatMap RawFrame.bytes ++ rest) =
      frames ++ requestFrames rest := by
  induction frames with
  | nil =>
      rfl
  | cons frame frames inductionHypothesis =>
      rw [List.flatMap_cons, List.append_assoc,
        requestFrames_cons (complete frame (by simp)),
        inductionHypothesis fun later member =>
          complete later (by simp [member]),
        List.cons_append]

end RhydaDB
