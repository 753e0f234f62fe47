import Downlink.Console.Command
import Downlink.Console.Source
import Downlink.Link
import Downlink.Station.File

/-!
# Transmitting

A run counts a start in the station file, opens a session and transmits cycle after cycle, a given
number of them or without end. Text packets are printed and, if asked for, written to a file that
every cycle replaces.
-/

namespace Downlink.Console

/-- What a run is asked for. -/
structure RunOptions where
  mode : Mode
  /-- The number of cycles; a negative number is without end. -/
  loops : Int
  identifies : Bool
  stationFile : String
  board : Board
  powerCommand : Option String
  payloadCommand : Option String
  address : String
  framesPerCycle : Nat
  packetFile : Option String
  seed : Option UInt64

/-- A run between two cycles. -/
structure Run where
  options : RunOptions
  session : Session RandomStream
  source : Source
  link : Link
  /-- Whether a callsign was keyed or the receiver took a cycle. -/
  transmitted : Bool

/-- The frames of a cycle before they are delivered. -/
structure Collected where
  world : Surroundings
  step : SessionStep RandomStream (Except Error CycleReport)
  source : Source

namespace Run

/-- The source of readings that a run is asked for. -/
def sourceOf (o : RunOptions) (c : Conditions) : Command Source :=
  match o.powerCommand with
  | none => do
    print "Simulated telemetry mode"
    return .simulated (.ofSeed o.board.map (o.seed.getD c.entropy))
  | some line =>
    match ReaderCommand.ofLine line with
    | none => throw .noReader
    | some power => return .readers o.board power (o.payloadCommand.bind ReaderCommand.ofLine)

/-- The settings of a session. -/
def settings (o : RunOptions) (station : Station) : SessionOptions :=
  { mode := o.mode
    board := o.board
    station
    framesPerCycle := o.framesPerCycle
    identifies := o.identifies
    checksBattery := o.powerCommand.isSome }

/-- Opens a run. -/
def start (o : RunOptions) (c : Conditions) : Command Run := do
  let station ← onFile o.stationFile Station.recordReset
  print s!"Mode {o.mode.name} callsign {station.callsign} reset count {station.resetCount.toNat}"
  let source ← sourceOf o c
  let stream := RandomStream.ofSeed (o.seed.getD c.entropy)
  let session ← orFail (Session.start (settings o station) stream)
  return { options := o, session, source, link := .closed o.address, transmitted := false }

/-- The link after an attempt to send. -/
def sending (r : Run) (c : Conditions) : Except Error Unit × Link := r.link.send c.dialled c.sent

/-- Whether the receiver takes what is sent next. -/
def accepts (r : Run) (c : Conditions) : Bool := (r.sending c).1.isOk

/-- The link behind a call that may have sent something. -/
def linkAfter (r : Run) (c : Conditions) (events : List SessionEvent) : Link :=
  if events.isEmpty then r.link else (r.sending c).2

/-- Sends the callsign, if the run does so. -/
def identify (r : Run) (c : Conditions) : Run :=
  let world : Surroundings :=
    { frame := fun k => c.frame k (.ok .zero), accepts := fun _ => r.accepts c }
  let step := r.session.identify world
  { r with
    session := step.session
    link := r.linkAfter c step.events
    transmitted := step.answer.any fun samples => !samples.isEmpty }

/-- Polls and encodes the frames of the next cycle. -/
def collect (r : Run) (c : Conditions) : Collected :=
  let (frame, source) := r.source.polls c r.session.polls r.options.framesPerCycle
  let world : Surroundings := { frame, accepts := fun _ => r.accepts c }
  { world, step := r.session.collect world, source }

/-- Prints packets and writes them to the packet file. -/
def publish (r : Run) (packets : List String) : Command Unit := do
  if packets.isEmpty then return
  packets.forM print
  match r.options.packetFile with
  | none => return
  | some path =>
    let text := String.join (packets.map fun packet => packet ++ "\n")
    onFile path fun e => e.writeText text

/-- The line that sums up a cycle. -/
def summary (report : CycleReport) : String :=
  s!"Cycle {report.cycle}: {report.headers.length} frame(s), {report.samples.size} samples" ++
    if report.delivered then "" else " (not sent)"

/-- Delivers what was collected and reports on it. -/
def finish (r : Run) (c : Conditions) (collected : Collected) : Command (CycleReport × Run) := do
  let step := Session.complete
    { collected.world with accepts := fun _ => r.accepts c } collected.step
  let report ← orFail step.answer
  r.publish report.packets
  print (summary report)
  return (report, { r with
    session := step.session
    source := collected.source
    link := r.linkAfter c step.events
    transmitted := r.transmitted || report.delivered })

/-- One cycle. -/
def cycle (r : Run) (c : Conditions) : Command Run := do
  return (← r.finish c (r.collect c)).2

/-- The next `n` cycles. -/
def cycles (c : Conditions) : Nat → Run → Command Run
  | 0, r => return r
  | n + 1, r => do cycles c n (← r.cycle c)

/-- Seconds to wait at the end until the receiver has sent everything. -/
def drain (r : Run) : Nat :=
  if r.transmitted ∧ 0 < r.options.loops then
    r.options.mode.drainSeconds r.options.loops.toNat
  else 0

/-- Ends a run. -/
def close (r : Run) : Command Unit :=
  if r.drain = 0 then pure ()
  else print s!"Sleeping {r.drain}s to allow {r.options.mode.name} transmission to finish"

end Run

/-- Transmits; a run without end is followed for `limit` cycles. -/
def transmit (limit : Nat) (o : RunOptions) (c : Conditions) : Command Unit := do
  let r := (← Run.start o c).identify c
  let r ← r.cycles c (if o.loops < 0 then limit else o.loops.toNat)
  r.close

end Downlink.Console
