import Downlink.Console.Command
import Downlink.Console.Document
import Downlink.Console.Source

/-!
# Showing the stages of a frame

One frame of simulated telemetry is encoded, and everything between its header and its samples is
reported.
-/

namespace Downlink.Console

/-- What is to be shown. -/
structure InspectOptions where
  mode : Mode
  resetCount : UInt16
  uptime : UInt32
  /-- The number of the frame in its session. -/
  frame : Nat
  seed : UInt64

/-- A digit below 16. -/
def hexDigit (n : Nat) : Char := Nat.digitChar n

/-- Bytes in hexadecimal digits. -/
def hexText (bytes : List UInt8) : String :=
  String.ofList (bytes.flatMap fun b => [hexDigit (b.toNat / 16), hexDigit (b.toNat % 16)])

/-- Bits as zeros and ones. -/
def bitText (bits : List Bool) : String :=
  String.ofList (bits.map fun bit => if bit then '1' else '0')

/-- A number of nanoseconds in milliseconds. -/
def milliseconds (ns : Nat) : Float :=
  let whole := (ns / 1000000000).toUInt64.toFloat
  let rest := (ns % 1000000000).toUInt64.toFloat
  (whole + rest / 1000000000.0) * 1000.0

/-- A float with a point in any case. -/
def floatDigits (x : Float) : String :=
  let text := Decimal.shortest64 x
  if text.toList.contains '.' then text else text ++ ".0"

/-- The name of a disparity in reports. -/
def disparityName : Disparity → String
  | .negative => "Negative"
  | .positive => "Positive"

open Document in
/-- The header of a report. -/
def headerReport (h : Header) : Document :=
  .record [
    ("mode_id", count h.modeId.toNat),
    ("reset_count", count h.resetCount.toNat),
    ("uptime", count h.uptime.toNat),
    ("frame_type", count h.frameType.toNat)]

open Document in
/-- The sizes of a report. -/
def layoutReport (p : Profile) : Document :=
  .record [
    ("sub_frames", count p.layout.subFrames),
    ("columns", count p.layout.columns),
    ("header_len", count p.layout.headerLength),
    ("data_len", count p.layout.payloadLength),
    ("payload_copies", count p.layout.copies),
    ("logical_bytes", count p.layout.logicalLength),
    ("sync_bits", count p.sync.width),
    ("samples_per_bit", count p.waveform.samplesPerBit)]

open Document in
/-- The report on a frame: what went into it, its stages, and the encoder behind it. -/
def frameReport (mode : Mode) (header : Header) (payload : List UInt8) (frame : EncodedFrame)
    (after : Encoder) (samples : Nat) : Document :=
  .record [
    ("mode", .text mode.name),
    ("header", headerReport header),
    ("layout", layoutReport after.profile),
    ("header_bytes", .text (hexText frame.header)),
    ("payload", .text (hexText payload)),
    ("parity", .list (frame.frame.parity.map fun p => .text (hexText p.toList))),
    ("symbols", count frame.symbols.length),
    ("first_symbols", .list ((frame.symbols.take 8).map fun s => .text (bitText (Symbol.bits s)))),
    ("disparity_after", .text (disparityName after.disparity)),
    ("samples", count samples),
    ("duration_ms", .number (floatDigits (milliseconds (after.profile.airTime?.getD 0)))),
    ("phase_reversals", count after.modulator.reversals)]

/-- Encodes a frame and reports on it. -/
def inspectFrame (o : InspectOptions) : Command Unit := do
  match o.mode.modulation? with
  | none => throw (.noFrames o.mode)
  | some modulation =>
    let profile := Profile.ofModulation modulation
    let map := Board.standard.map
    let (readings, _) := (Simulation.ofSeed map o.seed).step 1.0
    let header : Header :=
      { modeId := profile.modeId
        resetCount := o.resetCount
        uptime := o.uptime
        frameType := (FrameKind.ofNumber modulation o.frame).code }
    let payload := Payload.encode modulation readings map .initial .stowed
      profile.layout.payloadLength
    let encoder ← orFail (Encoder.ofProfile profile)
    let (answer, encoder, samples) := encoder.append header payload #[]
    let frame ← orFail answer
    print ((frameReport o.mode header payload frame encoder samples.size).render 0)

end Downlink.Console
