import Downlink.Console.Program
import Downlink.Sensor.Builtin
import Std.Async.DNS
import Std.Async.TCP

/-!
# The program on a machine

Everything that a command decides is decided by the functions that this module calls. What is left
here is to look at files, to print, to write, to wait and to send.
-/

namespace Downlink.Machine

open Console Std.Async Std.Net

/-! ### Files -/

/-- The fault behind an error of the system. -/
def faultOf (e : IO.Error) : SystemFault :=
  match e with
  | .noFileOrDirectory _ _ _ => .notFound
  | .permissionDenied _ _ _ => .denied
  | .inappropriateType _ code _ =>
    if code = 21 then .isDirectory else if code = 20 then .notDirectory else .other (toString e)
  | _ => if (toString e).splitOn "refused" = [toString e] then .other (toString e) else .refused

/-- What reading a path gives. -/
def readPath (path : String) : IO (Except SystemFault ByteArray) := do
  try
    return .ok (← IO.FS.readBinFile path)
  catch e => return .error (faultOf e)

/-- The directory that a path lies in. -/
def directoryOf (path : String) : String :=
  match (path.splitOn "/").reverse with
  | _ :: [] => "."
  | _ :: rest => "/".intercalate rest.reverse ++ "/"
  | [] => "."

/-- What a path leads to. -/
def look (path : String) : IO Entry := do
  match ← readPath path with
  | .ok bytes => return .file bytes
  | .error .isDirectory => return .directory
  | .error .notFound =>
    match ← readPath (directoryOf path) with
    | .error .isDirectory => return .absent
    | _ => return .unreachable .notFound .notFound
  | .error fault => return .unreachable fault fault

/-- What paths and the directories on their way lead to. -/
def lookAll (paths : List String) : IO Files :=
  (paths.flatMap Files.starts).foldlM (fun files path => return files.put path (← look path)) .empty

/-- Does what a command decided to do. -/
def carryOut : Deed → IO Unit
  | .print line => IO.println line
  | .write path bytes => IO.FS.writeBinFile path bytes

/-- Runs a computation and does what it decided to do. -/
def act {α : Type} (desk : IO.Ref Desk) (action : Command α) : IO α := do
  let (answer, after) := action.run.run (← desk.get)
  after.deeds.reverse.forM carryOut
  desk.set { after with deeds := [] }
  match answer with
  | .ok x => return x
  | .error complaint => throw (.userError complaint.message)

/-! ### The receiver -/

/-- A connection that is opened when it is needed. -/
abbrev Wire := IO.Ref (Option TCP.Socket.Client)

/-- The address of a host. -/
def resolve (host : String) (port : UInt16) : IO SocketAddress := do
  match IPv4Addr.ofString host with
  | some a => return .v4 ⟨a, port⟩
  | none =>
    match (← (DNS.getAddrInfo host (toString port)).block).toList with
    | .v4 a :: _ => return .v4 ⟨a, port⟩
    | .v6 a :: _ => return .v6 ⟨a, port⟩
    | [] => throw (.userError "unknown host")

/-- Opens a connection. -/
def dial (address : Address) : IO TCP.Socket.Client := do
  let client ← TCP.Socket.Client.mk
  (client.connect (← resolve (String.ofList address.host) (UInt16.ofNat address.port))).block
  client.noDelay
  return client

/-- The open connection, or a new one. -/
def connection (wire : Wire) (address : Address) : IO (Except SystemFault TCP.Socket.Client) := do
  match ← wire.get with
  | some client => return .ok client
  | none =>
    try
      let client ← dial address
      wire.set (some client)
      return .ok client
    catch e => return .error (faultOf e)

/-- Sends samples; what became of the attempts to reach the receiver and to send to it. -/
def deliver (wire : Wire) (address : String) (samples : Array Int16) :
    IO (Option SystemFault × Option SystemFault) := do
  let some address := (Address.ofText address).toOption | return (none, none)
  if samples.isEmpty then return (none, none)
  match ← connection wire address with
  | .error fault => return (some fault, none)
  | .ok client =>
    try
      (client.send (pcmBytes samples)).block
      return (none, none)
    catch e =>
      wire.set none
      return (none, some (faultOf e))

/-! ### Commands -/

/-- Seconds since a time in nanoseconds. -/
def secondsSince (start : Nat) : IO Float := do
  return ((← IO.monoNanosNow) - start).toUInt64.toFloat / 1000000000.0

/-- The conditions of this moment. -/
def conditions (start : Nat) (entropy : UInt64) : IO Conditions := do
  let now ← secondsSince start
  return {
    clock := fun _ => now
    temperature := ← look "/sys/class/thermal/thermal_zone0/temp"
    uptime := ← look "/proc/uptime"
    entropy
    reader := Sensor.Builtin.run
    dialled := none
    sent := none }

/-- A seed from the machine. -/
def entropy : IO UInt64 := do
  return UInt64.ofNat (LittleEndian.value (← IO.getRandomBytes 8).toList)

/-- The conditions of this moment after an attempt to send samples. -/
def delivered (wire : Wire) (r : Run) (c : Conditions) (samples : Array Int16) : IO Conditions := do
  let (dialled, sent) ← deliver wire r.options.address samples
  return { c with dialled, sent }

/-- Waits for what is left of a time in nanoseconds that began at a moment. -/
def waitRest (began time : Nat) : IO Unit := do
  let passed := (← IO.monoNanosNow) - began
  IO.sleep (UInt32.ofNat ((time - passed) / 1000000))

/-- Transmits cycles, without end if no number is given. -/
partial def cycles (desk : IO.Ref Desk) (wire : Wire) (start : Nat) (seed : UInt64)
    (left : Option Nat) (r : Run) : IO Run := do
  if left = some 0 then return r
  let began ← IO.monoNanosNow
  let c ← conditions start seed
  let collected := r.collect c
  let samples := match collected.step.answer with
    | .ok report => report.samples
    | .error _ => #[]
  let c ← delivered wire r c samples
  let (report, r) ← act desk (r.finish c collected)
  match r.session.frameTime? with
  | some time => if report.delivered then waitRest began (time * report.headers.length)
  | none => pure ()
  cycles desk wire start seed (left.map (· - 1)) r

/-- Transmits as asked for. -/
def transmit (o : RunOptions) : IO Unit := do
  let desk ← IO.mkRef { files := ← lookAll (o.stationFile :: o.packetFile.toList), deeds := [] }
  let wire ← IO.mkRef none
  let start ← IO.monoNanosNow
  let seed ← entropy
  let c ← conditions start seed
  let r ← act desk (Run.start o c)
  let c ← delivered wire r c (r.session.identification?.getD #[])
  let r ← cycles desk wire start seed (if o.loops < 0 then none else some o.loops.toNat)
    (r.identify c)
  act desk r.close
  IO.sleep (UInt32.ofNat (1000 * r.drain))

/-- Does what was asked for. -/
def perform (request : Request) : IO Unit := do
  match request with
  | .run o => transmit o
  | .encode o =>
    let desk ← IO.mkRef { files := ← lookAll [o.output], deeds := [] }
    let c ← conditions (← IO.monoNanosNow) (← entropy)
    act desk (encodeToFile o c)
  | other =>
    let desk ← IO.mkRef { files := .empty, deeds := [] }
    let c ← conditions (← IO.monoNanosNow) 0
    act desk (other.perform 0 c)

/-- Runs the program on its arguments and gives its code. -/
def start (arguments : List String) : IO UInt32 := do
  let program := (← IO.appPath).fileName.getD "downlink"
  match Request.ofArguments program arguments with
  | .misuse =>
    (Help.overview program).forM fun line => IO.eprintln line
    return 2
  | request =>
    try
      perform request
      return 0
    catch e =>
      IO.eprintln s!"Error: {e}"
      return 1

end Downlink.Machine

/-- Runs the program on its arguments. -/
def main (arguments : List String) : IO UInt32 := Downlink.Machine.start arguments
