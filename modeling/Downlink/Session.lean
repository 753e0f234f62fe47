import Downlink.Battery
import Downlink.Encoder
import Downlink.Morse.Keyer
import Downlink.Packet
import Downlink.Station
import Downlink.Telemetry.Extremes
import Downlink.Telemetry.Payload

/-!
# Sessions

A session runs in cycles. Each frame of a cycle polls the sensors, checks the battery, folds the
readings into the extremes and is encoded or written as text; at the end of the cycle the samples
are delivered. A failed poll reuses the last readings and a failed delivery is only noted; a low
battery ends the cycle.

A session is a value. What the sensors and the receiver answer is given to it by number, and it
gives back what it did to lamps and receiver. What is drawn for text packets may come from any
generator.
-/

namespace Downlink

/-- What a session transmits. -/
inductive Mode where
  | fsk
  | bpsk
  | afsk
  | cw
  deriving DecidableEq, Repr

namespace Mode

/-- The mode of a selector's first letter; frequency-shift frames for any other. -/
def ofSelector (selector : String) : Mode :=
  match selector.toList with
  | 'b' :: _ => bpsk
  | 'a' :: _ => afsk
  | 'c' :: _ => cw
  | _ => fsk

/-- The modulation of a mode that sends frames. -/
def modulation? : Mode → Option Modulation
  | fsk => some .fsk
  | bpsk => some .bpsk
  | afsk => none
  | cw => none

def name : Mode → String
  | fsk => "FSK"
  | bpsk => "BPSK"
  | afsk => "AFSK"
  | cw => "CW"

/-- Seconds until the transmitter has sent what a number of cycles left in its queue. -/
def drainSeconds (mode : Mode) (cycles : Nat) : Nat :=
  match mode with
  | fsk => cycles
  | bpsk => 5 * cycles
  | afsk => 0
  | cw => 0

end Mode

/-- The settings of a session. -/
structure SessionOptions where
  mode : Mode
  board : BoardSettings
  station : Station
  framesPerCycle : Nat
  /-- Whether the callsign is sent in Morse code before the first cycle. -/
  identifies : Bool
  /-- Whether a low battery ends a cycle. -/
  checksBattery : Bool

/-- What the sensors answer for one frame. -/
structure FrameInput where
  poll : Except Error Readings
  /-- Seconds since the onboard computer started. -/
  uptime : Except Error UInt32
  /-- Seconds since the session started. -/
  elapsed : UInt32

/-- What the world answers to a session: the sensors to the `k`-th poll, the receiver to the `k`-th
delivery, both counted from zero. -/
structure Surroundings where
  frame : Nat → FrameInput
  accepts : Nat → Bool

/-- Something a session does to the world. -/
inductive SessionEvent where
  | lamp (change : Lamp)
  | send (samples : Array Int16) (accepted : Bool)
  deriving DecidableEq, Repr

/-- What a cycle produced. -/
structure CycleReport where
  cycle : Nat
  headers : List Header
  packets : List String
  samples : Array Int16
  batteryVolts : Float32
  delivered : Bool

/-- A session between two calls. -/
structure Session (γ : Type) where
  options : SessionOptions
  /-- The encoder, in modes that send frames. -/
  encoder : Option Encoder
  keyer : Keyer
  extremes : Extremes
  health : Health
  antennas : Antennas
  /-- The readings of the last successful poll. -/
  last : Readings
  /-- Where the values drawn for text packets come from. -/
  stream : γ
  cycles : Nat
  polls : Nat
  deliveries : Nat

/-- The answer to a call, what was done to the world, and the session behind the call. -/
structure SessionStep (γ α : Type) where
  answer : α
  events : List SessionEvent
  session : Session γ

namespace Session

variable {γ : Type} [Generator γ]

/-- The encoder of a mode that sends frames. -/
def encoderOf (mode : Mode) : Except Error (Option Encoder) :=
  match mode.modulation? with
  | none => .ok none
  | some modulation => (Encoder.ofProfile (.ofModulation modulation)).map some

/-- A session at its start. A cycle has to have a frame. -/
def start (options : SessionOptions) (stream : γ) : Except Error (Session γ) := do
  if options.framesPerCycle = 0 then throw (.argument .emptyCycle)
  let encoder ← encoderOf options.mode
  return {
    options
    encoder
    keyer := .standard
    extremes := .unseen
    health := .initial
    antennas := .stowed
    last := .zero
    stream
    cycles := 0
    polls := 0
    deliveries := 0 }

/-- Frames encoded so far. -/
def framesSent (s : Session γ) : Nat := s.encoder.elim 0 Encoder.frames

/-- Nanoseconds of a frame on air, in modes that send frames. -/
def frameTime? (s : Session γ) : Option Nat := s.encoder.bind fun e => e.profile.airTime?

/-! ### Delivery -/

/-- Delivers samples between transmit lamp on and transmit lamp off. No samples, no delivery. -/
def deliver (s : Session γ) (w : Surroundings) (samples : Array Int16) : SessionStep γ Bool :=
  if samples.isEmpty then ⟨false, [], s⟩
  else
    let accepted := w.accepts s.deliveries
    ⟨accepted,
      [.lamp (.transmit true), .send samples accepted, .lamp (.transmit false)],
      { s with deliveries := s.deliveries + 1 }⟩

/-- The callsign in Morse code, if the session identifies itself. -/
def identification? (s : Session γ) : Option (Array Int16) :=
  if s.options.identifies then some (s.keyer.key ("de " ++ s.options.station.callsign)) else none

/-- Delivers the callsign, if the session identifies itself. -/
def identify (s : Session γ) (w : Surroundings) : SessionStep γ (Option (Array Int16)) :=
  match s.identification? with
  | none => ⟨none, [], s⟩
  | some samples =>
    let step := s.deliver w samples
    ⟨some samples, step.events, step.session⟩

/-! ### Frames -/

/-- Polls the sensors. A failed poll gives the last readings again. -/
def poll (s : Session γ) (input : FrameInput) : Readings × Session γ :=
  let s := { s with polls := s.polls + 1 }
  match input.poll with
  | .ok readings => (readings, { s with last := readings })
  | .error _ => (s.last, s)

/-- The battery check of a session that makes one. -/
def checkBattery (s : Session γ) (volts : Float32) : Except Error Unit × List Lamp :=
  if s.options.checksBattery then Battery.check volts s.options.board.threshold else (.ok (), [])

/-- Notes what readings say about the spacecraft. -/
def note (s : Session γ) (r : Readings) : Session γ :=
  { s with
    extremes := s.extremes.fold r
    health := { s.health with
      normalModeFailure := r.safeMode, stemBoardFailure := !r.payloadValid } }

/-- The values that the next frame carries. -/
def frameReadings (s : Session γ) (kind : FrameKind) (r : Readings) : Readings :=
  match kind with
  | .least => s.extremes.leastReadings r
  | .greatest => s.extremes.greatestReadings r
  | .realtime => r

/-- The header of the next frame. -/
def frameHeader (s : Session γ) (e : Encoder) (kind : FrameKind) (input : FrameInput) : Header :=
  { modeId := e.profile.modeId
    resetCount := s.options.station.resetCount
    uptime := match input.uptime with
      | .ok seconds => seconds
      | .error _ => input.elapsed
    frameType := kind.code }

/-- The payload of the next frame. -/
def framePayload (s : Session γ) (e : Encoder) (modulation : Modulation) (kind : FrameKind)
    (r : Readings) : List UInt8 :=
  Payload.encode modulation (s.frameReadings kind r) s.options.board.map s.health s.antennas
    e.profile.layout.payloadLength

/-- Encodes a frame behind the samples of a report. The first frame puts out the transmit
antenna. -/
def sendFrame (s : Session γ) (modulation : Modulation) (input : FrameInput) (r : Readings)
    (report : CycleReport) : Except Error CycleReport × Session γ :=
  match s.encoder with
  | none => (.error (.argument .noFrames), s)
  | some e =>
    let kind := FrameKind.ofNumber modulation (e.frames + 1)
    let header := s.frameHeader e kind input
    let payload := s.framePayload e modulation kind r
    let samples := report.samples
    let report := { report with samples := #[] }
    match e.append header payload samples with
    | (.error fault, e, _) => (.error fault, { s with encoder := some e })
    | (.ok _, e, samples) =>
      (.ok { report with samples, headers := report.headers ++ [header] },
        { s with encoder := some e, antennas := { s.antennas with transmit := true } })

/-- Adds the packets for readings to a report. -/
def sendText (s : Session γ) (r : Readings) (report : CycleReport) : CycleReport × Session γ :=
  let station := s.options.station
  let (t, stream) :=
    (TextTelemetry.ofReadings r s.options.board.map r.computerTemperature).run s.stream
  let packets :=
    match s.options.mode with
    | .cw => [Packet.message t]
    | _ =>
      [Packet.report station.callsign station.position.1 station.position.2 t
          (Packet.payloadText r),
        Packet.beacon station.callsign]
  ({ report with packets := report.packets ++ packets }, { s with stream })

/-- One frame of a cycle. -/
def frame (s : Session γ) (w : Surroundings) (report : CycleReport) :
    SessionStep γ (Except Error CycleReport) :=
  let input := w.frame s.polls
  let (r, s) := s.poll input
  let volts := r.batteryVoltage s.options.board.map
  match s.checkBattery volts with
  | (.error fault, lamps) => ⟨.error fault, lamps.map .lamp, s⟩
  | (.ok (), lamps) =>
    let report := { report with batteryVolts := volts }
    let s := s.note r
    match s.options.mode.modulation? with
    | some modulation =>
      let (answer, s) := s.sendFrame modulation input r report
      ⟨answer, lamps.map .lamp, s⟩
    | none =>
      let (report, s) := s.sendText r report
      ⟨.ok report, lamps.map .lamp, s⟩

/-- The next `n` frames of a cycle, up to the first that fails. -/
def frames (w : Surroundings) : Nat → Session γ → CycleReport →
    SessionStep γ (Except Error CycleReport)
  | 0, s, report => ⟨.ok report, [], s⟩
  | n + 1, s, report =>
    match s.frame w report with
    | ⟨.error fault, events, s⟩ => ⟨.error fault, events, s⟩
    | ⟨.ok report, events, s⟩ =>
      let step := frames w n s report
      { step with events := events ++ step.events }

/-! ### Cycles -/

/-- A report before the first frame of a cycle. -/
def CycleReport.blank (cycle : Nat) : CycleReport :=
  { cycle, headers := [], packets := [], samples := #[], batteryVolts := 0.0, delivered := false }

/-- The samples of a cycle: those of its frames, or its packets in Morse code. -/
def cycleSamples (s : Session γ) (report : CycleReport) : Array Int16 :=
  if s.options.mode = .cw then s.keyer.key (" ".intercalate report.packets) else report.samples

/-- The frames of the next cycle, with the samples to deliver. -/
def collect (s : Session γ) (w : Surroundings) : SessionStep γ (Except Error CycleReport) :=
  let s := { s with cycles := s.cycles + 1 }
  match frames w s.options.framesPerCycle s (CycleReport.blank s.cycles) with
  | ⟨.error fault, events, s⟩ => ⟨.error fault, events, s⟩
  | ⟨.ok report, events, s⟩ =>
    ⟨.ok { report with samples := s.cycleSamples report }, events, s⟩

/-- Delivers what was collected. -/
def complete (w : Surroundings) (step : SessionStep γ (Except Error CycleReport)) :
    SessionStep γ (Except Error CycleReport) :=
  match step with
  | ⟨.error fault, events, s⟩ => ⟨.error fault, events, s⟩
  | ⟨.ok report, events, s⟩ =>
    let step := s.deliver w report.samples
    ⟨.ok { report with delivered := step.answer }, events ++ step.events, step.session⟩

/-- Runs one cycle. -/
def cycle (s : Session γ) (w : Surroundings) : SessionStep γ (Except Error CycleReport) :=
  complete w (s.collect w)

end Session

end Downlink
