/-
Frames and their wire images. Reading undoes writing and writing undoes reading: a
decoder accepts exactly the images of the frames that can be sent, one image for each
frame, and takes nothing of what stands behind an image.
-/

import CqlDriver.Proofs.Wire.Decoding

namespace CqlDriver

namespace Wire

theorem uint16_ofBigEndian (high low : UInt8) :
    uint16 (UInt16.ofNat (ofBigEndian [high, low])) = [high, low] := by
  have fits : ofBigEndian [high, low] < 65536 := ofBigEndian_lt [high, low]
  unfold uint16
  rw [UInt16.toNat_ofNat_of_lt' fits]
  exact bigEndian_ofBigEndian rfl

theorem uint32_ofBigEndian (third second first zeroth : UInt8) :
    uint32 (UInt32.ofNat (ofBigEndian [third, second, first, zeroth])) =
      [third, second, first, zeroth] := by
  have fits : ofBigEndian [third, second, first, zeroth] < 4294967296 :=
    ofBigEndian_lt [third, second, first, zeroth]
  unfold uint32
  rw [UInt32.toNat_ofNat_of_lt' fits]
  exact bigEndian_ofBigEndian rfl

theorem ofBigEndian_uint16 (value : UInt16) :
    UInt16.ofNat (ofBigEndian (uint16 value)) = value := by
  have fits : value.toNat < capacity 2 := value.toNat_lt
  unfold uint16
  rw [ofBigEndian_bigEndian, Nat.mod_eq_of_lt fits, UInt16.ofNat_toNat]

theorem ofBigEndian_uint32 (value : UInt32) :
    UInt32.ofNat (ofBigEndian (uint32 value)) = value := by
  have fits : value.toNat < capacity 4 := value.toNat_lt
  unfold uint32
  rw [ofBigEndian_bigEndian, Nat.mod_eq_of_lt fits, UInt32.ofNat_toNat]

end Wire

namespace FrameHeader

def firstByte (version : UInt8) (isResponse : Bool) : UInt8 :=
  (version &&& 0x7F) ||| (if isResponse then responseBit else 0)

theorem firstByte_of_byte (byte : UInt8) :
    firstByte (byte &&& 0x7F) (byte &&& responseBit != 0) = byte := by
  have all : ∀ value : Fin 256,
      firstByte (UInt8.ofFin value &&& 0x7F) (UInt8.ofFin value &&& responseBit != 0) =
        UInt8.ofFin value := by decide +kernel
  exact all byte.toFin

theorem version_of_firstByte {version : UInt8} (small : version < 128) (isResponse : Bool) :
    firstByte version isResponse &&& 0x7F = version := by
  have all : ∀ value : Fin 128, ∀ isResponse : Bool,
      firstByte (UInt8.ofNat value) isResponse &&& 0x7F = UInt8.ofNat value := by decide +kernel
  have written := all ⟨version.toNat, small⟩ isResponse
  rwa [UInt8.ofNat_toNat] at written

theorem isResponse_of_firstByte (version : UInt8) (isResponse : Bool) :
    (firstByte version isResponse &&& responseBit != 0) = isResponse := by
  have all : ∀ value : Fin 256, ∀ isResponse : Bool,
      (firstByte (UInt8.ofFin value) isResponse &&& responseBit != 0) = isResponse := by
    decide +kernel
  exact all version.toFin isResponse

structure Canonical (header : FrameHeader) : Prop where
  version_lt : header.version < 128
  opcode_eq : Opcode.ofCode header.opcode.code = header.opcode

theorem peek_encode {header : FrameHeader} (canonical : header.Canonical)
    (behind : List UInt8) : peek (header.encode ++ behind) = some header := by
  have version := version_of_firstByte canonical.version_lt header.isResponse
  have isResponse := isResponse_of_firstByte header.version header.isResponse
  have stream : (UInt16.ofNat (Wire.ofBigEndian (Wire.int16 header.stream))).toInt16 =
      header.stream := by
    unfold Wire.int16
    rw [Wire.ofBigEndian_uint16, Int16.toInt16_toUInt16]
  have length := Wire.ofBigEndian_uint32 header.length
  have opcode := canonical.opcode_eq
  have shape : peek (header.encode ++ behind) = some
      { version := firstByte header.version header.isResponse &&& 0x7F
        isResponse := firstByte header.version header.isResponse &&& responseBit != 0
        flags := header.flags
        stream := (UInt16.ofNat (Wire.ofBigEndian (Wire.int16 header.stream))).toInt16
        opcode := Opcode.ofCode header.opcode.code
        length := UInt32.ofNat (Wire.ofBigEndian (Wire.uint32 header.length)) } := rfl
  rw [shape, version, isResponse, stream, opcode, length]

theorem canonical_of_peek {bytes : List UInt8} {header : FrameHeader}
    (peeked : peek bytes = some header) : header.Canonical := by
  unfold peek at peeked
  split at peeked
  · rename_i first flags streamHigh streamLow code l3 l2 l1 l0 behind
    cases peeked
    constructor
    · dsimp only
      have low : (first &&& 0x7F).toNat ≤ 0x7F := by
        rw [UInt8.toNat_and]
        exact Nat.and_le_right
      exact Nat.lt_succ_of_le low
    · dsimp only
      rw [Opcode.code_ofCode]
  · cases peeked

theorem encode_of_peek {bytes : List UInt8} {header : FrameHeader}
    (peeked : peek bytes = some header) : bytes = header.encode ++ bytes.drop size := by
  unfold peek at peeked
  split at peeked
  · rename_i first flags streamHigh streamLow code l3 l2 l1 l0 behind
    cases peeked
    have stream := Wire.uint16_ofBigEndian streamHigh streamLow
    have length := Wire.uint32_ofBigEndian l3 l2 l1 l0
    unfold encode Wire.int16
    dsimp only
    rw [UInt16.toUInt16_toInt16, stream, length, Opcode.code_ofCode]
    change _ = firstByte (first &&& 0x7F) (first &&& responseBit != 0) :: _
    rw [firstByte_of_byte]
    rfl
  · cases peeked

theorem length_encode (header : FrameHeader) : header.encode.length = size := rfl

end FrameHeader

namespace Frame

/-- A frame that can be sent: its version leaves room for the direction, its operation has
a meaning, and its body is not too long to be accepted. -/
structure Canonical (frame : Frame) : Prop where
  version_lt : frame.version < 128
  known : frame.opcode.isKnown = true
  fits : frame.body.length ≤ maxBodyLength

instance (frame : Frame) : Decidable frame.Canonical :=
  decidable_of_iff
    (frame.version < 128 ∧ frame.opcode.isKnown = true ∧ frame.body.length ≤ maxBodyLength)
    ⟨fun ⟨version_lt, known, fits⟩ => ⟨version_lt, known, fits⟩,
      fun canonical => ⟨canonical.version_lt, canonical.known, canonical.fits⟩⟩

structure Legible (frame : Frame) : Prop where
  version_lt : frame.version < 128
  opcode_eq : Opcode.ofCode frame.opcode.code = frame.opcode
  fits : frame.body.length ≤ maxBodyLength

theorem Canonical.legible {frame : Frame} (canonical : frame.Canonical) : frame.Legible :=
  ⟨canonical.version_lt, Opcode.ofCode_code canonical.known, canonical.fits⟩

theorem Legible.header {frame : Frame} (legible : frame.Legible) : frame.header.Canonical :=
  ⟨legible.version_lt, legible.opcode_eq⟩

theorem Legible.header_length {frame : Frame} (legible : frame.Legible) :
    frame.header.length.toNat = frame.body.length := by
  have fits := legible.fits
  have room : frame.body.length < UInt32.size := by
    unfold maxBodyLength at fits
    change frame.body.length < 4294967296
    omega
  exact UInt32.toNat_ofNat_of_lt' room

theorem decode_eq_frame_cases {bytes rest : List UInt8} {frame : Frame}
    (decoded : decode bytes = .frame frame rest) :
    ∃ header, FrameHeader.peek bytes = some header ∧ header.opcode.isKnown = true ∧
      header.length.toNat ≤ maxBodyLength ∧
      header.length.toNat ≤ (bytes.drop FrameHeader.size).length ∧
      frame = ⟨header.version, header.isResponse, header.flags, header.stream, header.opcode,
        (bytes.drop FrameHeader.size).take header.length.toNat⟩ ∧
      rest = (bytes.drop FrameHeader.size).drop header.length.toNat := by
  cases peeked : FrameHeader.peek bytes with
  | none =>
      unfold decode at decoded
      rw [peeked] at decoded
      cases decoded
  | some header =>
      unfold decode at decoded
      rw [peeked] at decoded
      dsimp only at decoded
      split at decoded
      · cases decoded
      · rename_i acceptable
        split at decoded
        · cases decoded
        · rename_i whole
          have arrived : Wire.holds header.length.toNat (bytes.drop FrameHeader.size) = true := by
            simpa using whole
          split at decoded
          · cases decoded
          · rename_i meant
            cases decoded
            have known : header.opcode.isKnown = true := by
              cases named : header.opcode with
              | unknown code => exact absurd named (meant code)
              | _ => rfl
            exact ⟨header, rfl, known, Nat.le_of_not_lt acceptable,
              (Wire.holds_iff _ _).mp arrived, rfl, rfl⟩

theorem length_encode (frame : Frame) : frame.encode.length = frame.wireSize := by
  unfold encode wireSize
  rw [List.length_append, FrameHeader.length_encode]

def asRead (frame : Frame) (behind : List UInt8) : Decoded :=
  match frame.opcode with
  | .unknown code => .unsupported code frame.stream behind
  | _ => .frame frame behind

theorem Legible.decode_encode {frame : Frame} (legible : frame.Legible) (behind : List UInt8) :
    decode (frame.encode ++ behind) = frame.asRead behind := by
  have image : frame.encode ++ behind = frame.header.encode ++ (frame.body ++ behind) :=
    List.append_assoc _ _ _
  have peeked := FrameHeader.peek_encode legible.header (frame.body ++ behind)
  have available : (frame.header.encode ++ (frame.body ++ behind)).drop FrameHeader.size =
      frame.body ++ behind :=
    List.drop_left' (FrameHeader.length_encode frame.header)
  have whole : Wire.holds frame.body.length (frame.body ++ behind) = true := by
    rw [Wire.holds_iff, List.length_append]
    omega
  rw [image]
  unfold decode
  rw [peeked]
  dsimp only
  rw [available, legible.header_length, if_neg (Nat.not_lt.mpr legible.fits), whole,
    List.take_left, List.drop_left]
  obtain ⟨version, isResponse, flags, stream, opcode, body⟩ := frame
  cases opcode <;> rfl

theorem decode_encode {frame : Frame} (canonical : frame.Canonical) (behind : List UInt8) :
    decode (frame.encode ++ behind) = .frame frame behind := by
  have known := canonical.known
  rw [canonical.legible.decode_encode]
  unfold asRead
  split
  · rename_i code named
    rw [named] at known
    cases known
  · rfl

/-- Only images of frames that can be sent are read as frames. -/
theorem encode_of_decode {bytes rest : List UInt8} {frame : Frame}
    (decoded : decode bytes = .frame frame rest) :
    frame.Canonical ∧ bytes = frame.encode ++ rest := by
  obtain ⟨header, peeked, known, acceptable, arrived, sameFrame, sameRest⟩ :=
    decode_eq_frame_cases decoded
  have announced : frame.body.length = header.length.toNat := by
    rw [sameFrame]
    exact List.length_take_of_le arrived
  have sameHeader : frame.header = header := by
    have length : UInt32.ofNat frame.body.length = header.length := by
      rw [announced, UInt32.ofNat_toNat]
    unfold Frame.header
    rw [length, sameFrame]
  have canonical : frame.Canonical := by
    refine ⟨?_, ?_, ?_⟩
    · rw [sameFrame]
      exact (FrameHeader.canonical_of_peek peeked).version_lt
    · rw [sameFrame]
      exact known
    · rw [announced]
      exact acceptable
  have body : frame.body ++ rest = bytes.drop FrameHeader.size := by
    rw [sameFrame, sameRest]
    exact List.take_append_drop _ _
  refine ⟨canonical, ?_⟩
  unfold encode
  rw [List.append_assoc, body, sameHeader]
  exact FrameHeader.encode_of_peek peeked

/-- A frame that can be sent is written as its image, behind what was written before. -/
theorem Canonical.write {frame : Frame} (canonical : frame.Canonical) (written : List UInt8) :
    Frame.write written frame = .ok (written ++ frame.encode) :=
  if_neg (Nat.not_lt.mpr canonical.fits)

theorem foldlM_write {frames : List Frame} (canonical : ∀ frame ∈ frames, frame.Canonical)
    (written : List UInt8) :
    frames.foldlM write written = .ok (written ++ frames.flatMap encode) := by
  induction frames generalizing written with
  | nil =>
      rw [List.flatMap_nil, List.append_nil]
      rfl
  | cons frame rest ih =>
      obtain ⟨first, later⟩ := List.forall_mem_cons.mp canonical
      have head := first.write written
      rw [List.foldlM_cons, head, List.flatMap_cons, ← List.append_assoc]
      exact ih later (written ++ frame.encode)

theorem found?_of_decode {bytes rest : List UInt8} {frame : Frame}
    (decoded : decode bytes = .frame frame rest) :
    (decode bytes).found? = some (.frame frame, rest) := by
  rw [decoded]
  rfl

/-- The induction is on the frames: each image is read off the front and the images of the
other frames are left, with the suffix behind them. -/
theorem decodeSome_images {frames : List Frame} (canonical : ∀ frame ∈ frames, frame.Canonical)
    (suffix : List UInt8) :
    decodeSome frames.length (frames.flatMap encode ++ suffix) =
      (frames.map .frame, .needMore 0 suffix) := by
  induction frames with
  | nil => rfl
  | cons frame rest ih =>
      obtain ⟨first, later⟩ := List.forall_mem_cons.mp canonical
      have found := found?_of_decode (decode_encode first (rest.flatMap encode ++ suffix))
      rw [List.flatMap_cons, List.append_assoc, List.length_cons, decodeSome_of_found found,
        ih later]
      rfl

theorem decodeAll_images {frames : List Frame} (canonical : ∀ frame ∈ frames, frame.Canonical)
    (suffix : List UInt8) :
    decodeAll (frames.flatMap encode ++ suffix) =
      (frames.map .frame ++ (decodeAll suffix).1, (decodeAll suffix).2) := by
  induction frames with
  | nil => rfl
  | cons frame rest ih =>
      obtain ⟨first, later⟩ := List.forall_mem_cons.mp canonical
      have found := found?_of_decode (decode_encode first (rest.flatMap encode ++ suffix))
      rw [List.flatMap_cons, List.append_assoc, decodeAll_of_found found, ih later]
      rfl

/-- The codec pairs the frames that can be sent with their wire images. Frames that are
written one behind the other, with any bytes behind them, are read as these frames in this
order, and the bytes behind them are left for what is read next. And what is read as a
frame is a frame that can be sent, behind which stands what is left, and its image is as long as
it says. -/
theorem decode_exactly_written :
    (∀ (frames : List Frame) (suffix : List UInt8), (∀ frame ∈ frames, frame.Canonical) →
      ∃ images, frames.foldlM write [] = .ok images ∧
        decodeSome frames.length (images ++ suffix) =
          (frames.map .frame, .needMore 0 suffix) ∧
        decodeAll (images ++ suffix) =
          (frames.map .frame ++ (decodeAll suffix).1, (decodeAll suffix).2)) ∧
    ∀ (bytes rest : List UInt8) (frame : Frame), decode bytes = .frame frame rest →
      frame.Canonical ∧ ∃ image, write [] frame = .ok image ∧ bytes = image ++ rest ∧
        image.length = frame.wireSize := by
  constructor
  · intro frames suffix canonical
    exact ⟨frames.flatMap encode, foldlM_write canonical [], decodeSome_images canonical suffix,
      decodeAll_images canonical suffix⟩
  · intro bytes rest frame decoded
    obtain ⟨canonical, image⟩ := encode_of_decode decoded
    exact ⟨canonical, frame.encode, canonical.write [], image, length_encode frame⟩

def requestAndEvent : List Frame :=
  [.request 4 513 .query [0xCA, 0xFE],
    { version := 127, isResponse := true, flags := warningFlag, stream := -2, opcode := .event,
      body := [] }]

/-- Both frames are read and the part of a header behind them is left. Bytes that are read
as the request are its image. -/
theorem requestAndEvent_decoded :
    (∀ frame ∈ requestAndEvent, frame.Canonical) ∧
      (∃ images, requestAndEvent.foldlM write [] = .ok images ∧
        decodeSome 2 (images ++ [0x04, 0x00]) =
          (requestAndEvent.map .frame, .needMore 0 [0x04, 0x00])) ∧
      ∃ image, write [] (.request 4 513 .query [0xCA, 0xFE]) = .ok image ∧
        [0x04, 0x00, 0x02, 0x01, 0x07, 0x00, 0x00, 0x00, 0x02, 0xCA, 0xFE, 0x84] =
          image ++ [0x84] := by
  have canonical : ∀ frame ∈ requestAndEvent, frame.Canonical := by decide
  obtain ⟨images, written, read, _⟩ :=
    decode_exactly_written.1 requestAndEvent [0x04, 0x00] canonical
  obtain ⟨_, image, written', whole, _⟩ :=
    decode_exactly_written.2
      [0x04, 0x00, 0x02, 0x01, 0x07, 0x00, 0x00, 0x00, 0x02, 0xCA, 0xFE, 0x84] [0x84]
      (.request 4 513 .query [0xCA, 0xFE]) (by decide)
  exact ⟨canonical, ⟨images, written, read⟩, image, written', whole⟩

end Frame

end CqlDriver
