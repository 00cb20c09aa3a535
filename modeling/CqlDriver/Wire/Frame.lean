/-
Protocol frames and their wire image: a header of nine bytes and a body whose
length the header announces. Decoding works on the bytes received so far and
tells a frame from a frame of unknown operation, from a beginning that needs
more bytes, and from a body that is too large to be accepted.
-/

import CqlDriver.Error.Fault
import CqlDriver.Wire.Octets
import CqlDriver.Wire.Opcode

namespace CqlDriver

structure Frame where
  version : UInt8
  isResponse : Bool
  flags : UInt8
  stream : Int16
  opcode : Opcode
  body : List UInt8
  deriving DecidableEq, Repr, Inhabited

structure FrameHeader where
  version : UInt8
  isResponse : Bool
  flags : UInt8
  stream : Int16
  opcode : Opcode
  length : UInt32
  deriving DecidableEq, Repr, Inhabited

namespace FrameHeader

def size : Nat := 9

def responseBit : UInt8 := 0x80

def peek : List UInt8 → Option FrameHeader
  | first :: flags :: streamHigh :: streamLow :: code :: l3 :: l2 :: l1 :: l0 :: _ =>
      some
        { version := first &&& 0x7F
          isResponse := first &&& responseBit != 0
          flags := flags
          stream := (UInt16.ofNat (Wire.ofBigEndian [streamHigh, streamLow])).toInt16
          opcode := Opcode.ofCode code
          length := UInt32.ofNat (Wire.ofBigEndian [l3, l2, l1, l0]) }
  | _ => none

/-- The nine bytes of a header. The version takes the lower seven bits of the
first byte. -/
def encode (header : FrameHeader) : List UInt8 :=
  ((header.version &&& 0x7F) ||| (if header.isResponse then responseBit else 0))
    :: header.flags :: Wire.int16 header.stream ++ header.opcode.code
    :: Wire.uint32 header.length

end FrameHeader

namespace Frame

/-- The longest body that is accepted: 256 MiB. -/
def maxBodyLength : Nat := 256 * 1024 * 1024

def compressionFlag : UInt8 := 0x01
def tracingFlag : UInt8 := 0x02
def customPayloadFlag : UInt8 := 0x04
def warningFlag : UInt8 := 0x08

def request (version : UInt8) (stream : Int16) (opcode : Opcode) (body : List UInt8) : Frame :=
  { version, isResponse := false, flags := 0, stream, opcode, body }

def response (version : UInt8) (stream : Int16) (opcode : Opcode) (body : List UInt8) : Frame :=
  { version, isResponse := true, flags := 0, stream, opcode, body }

def hasFlag (frame : Frame) (flag : UInt8) : Bool := frame.flags &&& flag != 0

def isCompressed (frame : Frame) : Bool := frame.hasFlag compressionFlag

def hasTracing (frame : Frame) : Bool := frame.hasFlag tracingFlag

def hasWarnings (frame : Frame) : Bool := frame.hasFlag warningFlag

def hasCustomPayload (frame : Frame) : Bool := frame.hasFlag customPayloadFlag

/-- Frames that the server sends unasked travel on negative streams. -/
def isPush (frame : Frame) : Bool := decide (frame.stream < 0)

def wireSize (frame : Frame) : Nat := FrameHeader.size + frame.body.length

def header (frame : Frame) : FrameHeader :=
  { version := frame.version
    isResponse := frame.isResponse
    flags := frame.flags
    stream := frame.stream
    opcode := frame.opcode
    length := UInt32.ofNat frame.body.length }

def encode (frame : Frame) : List UInt8 :=
  frame.header.encode ++ frame.body

/-- Writes a frame behind the bytes that were written before. A frame whose body is longer
than is accepted is not written. -/
def write (written : List UInt8) (frame : Frame) : Except ProtocolFault (List UInt8) :=
  if maxBodyLength < frame.body.length then
    .error (.oversizedBody frame.body.length maxBodyLength)
  else .ok (written ++ frame.encode)

inductive Decoded where
  | frame (frame : Frame) (rest : List UInt8)
  /-- A whole frame of unknown operation, and the bytes behind it. -/
  | unsupported (code : UInt8) (stream : Int16) (rest : List UInt8)
  /-- The beginning of a frame; so many bytes are still needed. -/
  | needMore (missing : Nat)
  | oversized (length : Nat)
  deriving DecidableEq, Repr

def decode (bytes : List UInt8) : Decoded :=
  match FrameHeader.peek bytes with
  | none => .needMore (FrameHeader.size - bytes.length)
  | some header =>
      let length := header.length.toNat
      let available := bytes.drop FrameHeader.size
      if maxBodyLength < length then .oversized length
      else if !Wire.holds length available then .needMore (length - available.length)
      else
        match header.opcode with
        | .unknown code => .unsupported code header.stream (available.drop length)
        | opcode =>
            .frame
              { version := header.version
                isResponse := header.isResponse
                flags := header.flags
                stream := header.stream
                opcode
                body := available.take length }
              (available.drop length)

inductive Received where
  | frame (frame : Frame)
  | unsupported (code : UInt8) (stream : Int16)
  deriving DecidableEq, Repr

def Received.frame? : Received → Option Frame
  | .frame received => some received
  | .unsupported .. => none

inductive Halt where
  /-- So many bytes are needed for the next frame, and these are there. -/
  | needMore (missing : Nat) (rest : List UInt8)
  | oversized (length : Nat) (rest : List UInt8)
  deriving DecidableEq, Repr

def Halt.rest : Halt → List UInt8
  | .needMore _ rest | .oversized _ rest => rest

def endedInside : String := "bytes remaining on stream"

def decodeSome : Nat → List UInt8 → List Received × Halt
  | 0, bytes => ([], .needMore 0 bytes)
  | fuel + 1, bytes =>
      match decode bytes with
      | .frame frame rest =>
          let (more, halt) := decodeSome fuel rest
          (.frame frame :: more, halt)
      | .unsupported code stream rest =>
          let (more, halt) := decodeSome fuel rest
          (.unsupported code stream :: more, halt)
      | .needMore missing => ([], .needMore missing bytes)
      | .oversized length => ([], .oversized length bytes)

/-- Decodes frames until more bytes are needed or a body is too large. A frame
takes at least nine bytes, so that there are fewer frames than bytes. -/
def decodeAll (bytes : List UInt8) : List Received × Halt :=
  decodeSome (bytes.length + 1) bytes

/-- Goes on with another chunk behind the bytes that are left. After a body that is
too large no more chunks are taken. -/
def feed (progress : List Received × Halt) (chunk : List UInt8) : List Received × Halt :=
  match progress.2 with
  | .needMore _ rest =>
      let (more, halt) := decodeAll (rest ++ chunk)
      (progress.1 ++ more, halt)
  | .oversized .. => progress

def decodeChunks (chunks : List (List UInt8)) : List Received × Halt :=
  chunks.foldl feed (decodeAll [])

end Frame

end CqlDriver
