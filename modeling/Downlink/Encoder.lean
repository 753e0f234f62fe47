import Downlink.Frame.Header
import Downlink.Frame.SymbolStream
import Downlink.Profile

/-!
# The encoder of a session

An encoder owns what goes on from frame to frame: the running disparity, the modulator and the
number of frames. A refused call gives its reason and leaves the encoder as it was.
-/

namespace Downlink

/-- The stages of one encoded frame. -/
structure EncodedFrame where
  header : List UInt8
  frame : InterleavedFrame
  symbols : List Symbol
  deriving DecidableEq, Repr

/-- A transmission session. -/
structure Encoder where
  profile : Profile
  disparity : Disparity
  modulator : Modulator
  /-- Frames encoded since the session started. -/
  frames : Nat

namespace Encoder

/-- A session at its start. -/
def start (p : Profile) : Encoder :=
  { profile := p, disparity := .negative, modulator := .start p.waveform, frames := 0 }

/-- A session for a profile that can be sent. -/
def ofProfile (p : Profile) : Except Error Encoder :=
  match p.validate with
  | .ok () => .ok (start p)
  | .error e => .error e

/-- Spreads a header and a payload over codewords. -/
def frameOf (e : Encoder) (header : Header) (payload : List UInt8) :
    Except Error (List UInt8 × InterleavedFrame) := do
  let bytes ← header.encode e.profile.layout
  let frame ← e.profile.layout.interleave bytes payload
  return (bytes, frame)

/-- Encodes a frame up to its symbols. -/
def build (e : Encoder) (header : Header) (payload : List UInt8) :
    Except Error EncodedFrame × Encoder :=
  match e.frameOf header payload with
  | .error fault => (.error fault, e)
  | .ok (bytes, frame) =>
    let stream := frame.symbols e.profile.layout.endFlag e.disparity
    (.ok ⟨bytes, frame, stream.symbols.toList⟩, { e with disparity := stream.disparity })

/-- Encodes a frame and adds its samples to a buffer. -/
def append (e : Encoder) (header : Header) (payload : List UInt8) (out : Array Int16) :
    Except Error EncodedFrame × Encoder × Array Int16 :=
  match e.build header payload with
  | (.error fault, e) => (.error fault, e, out)
  | (.ok encoded, e) =>
    let (modulator, out) := e.modulator.pushFrame e.profile.sync encoded.symbols out
    (.ok encoded, { e with modulator, frames := e.frames + 1 }, out)

/-- Encodes a frame into samples of its own. -/
def encode (e : Encoder) (header : Header) (payload : List UInt8) :
    Except Error (Array Int16) × Encoder :=
  match e.append header payload #[] with
  | (.error fault, e, _) => (.error fault, e)
  | (.ok _, e, out) => (.ok out, e)

end Encoder

end Downlink
