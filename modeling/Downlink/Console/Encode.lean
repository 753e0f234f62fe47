import Downlink.Console.Command
import Downlink.Console.Source
import Downlink.Wave

/-!
# Encoding into a file

Cycles of simulated telemetry are encoded as they would be sent, into a wave file.
-/

namespace Downlink.Console

/-- What is to be encoded. -/
structure EncodeOptions where
  mode : Mode
  output : String
  cycles : Nat
  identifies : Bool
  callsign : Option String
  seed : Option UInt64

namespace EncodeOptions

/-- The station that is named in what is encoded. -/
def station (o : EncodeOptions) : Station :=
  match o.callsign with
  | some callsign => { Station.initial with callsign }
  | none => .initial

/-- The settings of the session. -/
def settings (o : EncodeOptions) : SessionOptions :=
  { mode := o.mode
    board := Board.standard
    station := o.station
    framesPerCycle := 1
    identifies := o.identifies
    checksBattery := false }

end EncodeOptions

/-- The samples sent in the course of events. -/
def sentSamples (events : List SessionEvent) : Array Int16 :=
  events.foldl (fun out event =>
    match event with
    | .send samples _ => out ++ samples
    | .lamp _ => out) #[]

/-- Encodes the next `n` cycles behind samples. -/
def encodeCycles (c : Conditions) :
    Nat → Source → Session RandomStream → Array Int16 → Command (Array Int16)
  | 0, _, _, samples => return samples
  | n + 1, source, session, samples => do
    let (frame, source) := source.polls c session.polls session.options.framesPerCycle
    let step := session.cycle { frame, accepts := fun _ => true }
    let _ ← orFail step.answer
    encodeCycles c n source step.session (samples ++ sentSamples step.events)

/-- Encodes cycles into a wave file. -/
def encodeToFile (o : EncodeOptions) (c : Conditions) : Command Unit := do
  if o.mode = .afsk then throw .externalSound
  let seed := o.seed.getD c.entropy
  let session ← orFail (Session.start o.settings (RandomStream.ofSeed seed))
  let step := session.identify { frame := fun k => c.frame k (.ok .zero), accepts := fun _ => true }
  let samples ← encodeCycles c o.cycles (.simulated (.ofSeed Board.standard.map seed)) step.session
    (sentSamples step.events)
  print s!"Encoded {o.cycles} cycle(s) in {o.mode.name} mode"
  onFile o.output fun e => e.write (Wave.file samples)
  let seconds := (Decimal.ofFloat (Wave.seconds samples)).fixed 2
  print (s!"Wrote {samples.size} samples ({seconds} s) to " ++ o.output)

end Downlink.Console
