import Downlink.Decimal.Fixed
import Downlink.Decimal.Shortest

/-!
# Errors

Each refusal is a cause with the values that led to it. The wording lives in the `message`
functions alone, so that the rest of the library speaks of causes.
-/

namespace Downlink

/-- A fault reported by the operating system or the file layer. -/
inductive SystemFault where
  | notFound
  | denied
  | notDirectory
  | isDirectory
  /-- A device takes no more bytes. -/
  | noRoom
  | refused
  /-- No network leads to a host. -/
  | noNetwork
  /-- The machine has no address of its own in the network of a host. -/
  | noOwnAddress
  | badArgument
  /-- No host can have a name. -/
  | unknownName
  /-- Nobody could be asked about the name of a host. -/
  | unresolvedName
  /-- The bytes of a file are no text. -/
  | notText
  /-- A name in a path, or a whole path, is longer than the system takes. -/
  | longName
  /-- A path has a character that no name has. -/
  | nulInName
  /-- A command has a character that no argument has. -/
  | nulInCommand
  /-- An argument of a command is longer than the system takes. -/
  | longArgument
  /-- Any other fault, in the words of the system. -/
  | other (text : String)
  deriving DecidableEq, Repr

def SystemFault.message : SystemFault → String
  | .notFound => "No such file or directory (os error 2)"
  | .denied => "Permission denied (os error 13)"
  | .notDirectory => "Not a directory (os error 20)"
  | .isDirectory => "Is a directory (os error 21)"
  | .noRoom => "No space left on device (os error 28)"
  | .refused => "Connection refused (os error 111)"
  | .noNetwork => "Network is unreachable (os error 101)"
  | .noOwnAddress => "Cannot assign requested address (os error 99)"
  | .badArgument => "Invalid argument (os error 22)"
  | .unknownName => "failed to lookup address information: Name or service not known"
  | .unresolvedName =>
    "failed to lookup address information: Temporary failure in name resolution"
  | .notText => "stream did not contain valid UTF-8"
  | .longName => "File name too long (os error 36)"
  | .nulInName => "file name contained an unexpected NUL byte"
  | .nulInCommand => "nul byte found in provided data"
  | .longArgument => "Argument list too long (os error 7)"
  | .other text => text

/-- An argument outside the domain of a call. -/
inductive ArgumentFault where
  | lineInput (value : Int)
  | modeId (id : Nat)
  | frameType (code : Nat)
  | shortHeader (length required : Nat)
  | headerLength (length expected : Nat)
  | payloadLength (length expected : Nat)
  | bitRate (rate sampleRate : Nat)
  | carrier (frequency : Float32) (sampleRate : Nat)
  | noRamp
  | amplitude (level : Float32)
  | syncBits (bits : Nat)
  | keying (wordsPerMinute : Nat) (tone : Float)
  | emptyCycle
  | noFrames

def ArgumentFault.message : ArgumentFault → String
  | .lineInput value => s!"8b10b input {value} is neither a byte nor the end-of-frame marker"
  | .modeId id => s!"mode id {id} does not fit in 3 bits"
  | .frameType code => s!"frame type {code} does not fit in 4 bits"
  | .shortHeader length required => s!"header needs {required} bytes, got {length}"
  | .headerLength length expected => s!"header is {length} bytes, layout expects {expected}"
  | .payloadLength length expected => s!"payload is {length} bytes, layout expects {expected}"
  | .bitRate rate sampleRate => s!"bit rate {rate} must divide sample rate {sampleRate}"
  | .carrier frequency sampleRate =>
    "carrier " ++ Decimal.shortest32 frequency ++ " Hz outside (0, " ++ toString (sampleRate / 2) ++
      ") Hz"
  | .noRamp => "carrier too high for an edge ramp"
  | .amplitude level =>
    "amplitude " ++ Decimal.shortest32 level ++ " outside (0, 32767]"
  | .syncBits bits => s!"sync word of {bits} bits"
  | .keying wordsPerMinute tone =>
    s!"Morse keyer needs a positive speed and an audible tone, got {wordsPerMinute} WPM at " ++
      Decimal.shortest64 tone ++ " Hz"
  | .emptyCycle => "a cycle needs at least one frame"
  | .noFrames => "mode sends no frames"

/-- A frame layout that contradicts itself. -/
inductive LayoutFault where
  | emptyGrid
  | longSubFrame (columns limit : Nat)
  | shortHeader (required : Nat)
  | emptyPayload
  | skippedSlot (column subFrame columns subFrames : Nat)
  | markerIndex (index : Nat)
  | slotCount (slots logical : Nat)
  deriving DecidableEq, Repr

def LayoutFault.message : LayoutFault → String
  | .emptyGrid => "at least one non-empty sub-frame is required"
  | .longSubFrame columns limit =>
    s!"sub-frame length {columns} exceeds {limit} information bytes"
  | .shortHeader required => s!"header needs at least {required} bytes"
  | .emptyPayload => "payload copies of an empty payload"
  | .skippedSlot column subFrame columns subFrames =>
    s!"skipped slot ({column}, {subFrame}) outside {columns}x{subFrames} grid"
  | .markerIndex index =>
    s!"header marker index {index} overlaps packed fields or exceeds header"
  | .slotCount slots logical => s!"{slots} codeword slots for {logical} logical bytes"

/-- A station description that cannot be read. -/
inductive StationFault where
  | blank
  | resetCount (text : String)
  | latitude (text : String)
  | longitude (text : String)
  deriving DecidableEq, Repr

def StationFault.message : StationFault → String
  | .blank => "empty configuration"
  | .resetCount text => "invalid reset count '" ++ text ++ "'"
  | .latitude text => "invalid latitude '" ++ text ++ "'"
  | .longitude text => "invalid longitude '" ++ text ++ "'"

/-- How a reader command ended when it did not succeed. -/
inductive ExitStatus where
  | code (number : Nat)
  | signal (number : Nat) (name : String) (dumped : Bool)
  deriving DecidableEq, Repr

def ExitStatus.message : ExitStatus → String
  | .code number => s!"exit status: {number}"
  | .signal number name dumped =>
    s!"signal: {number}" ++ (if name.isEmpty then "" else " (" ++ name ++ ")") ++
      (if dumped then " (core dumped)" else "")

/-- A sensor that gave no readings. -/
inductive SensorFault where
  | temperature (file : String)
  | uptime (file : String)
  | notStarted (program : String) (fault : SystemFault)
  | exited (program : String) (status : ExitStatus)
  | unfinished (program : String)
  deriving DecidableEq, Repr

def SensorFault.message : SensorFault → String
  | .temperature file => "bad temperature in " ++ file
  | .uptime file => "bad uptime in " ++ file
  | .notStarted program fault => "failed to run " ++ program ++ ": " ++ fault.message
  | .exited program status => program ++ " exited with " ++ status.message
  | .unfinished program => program ++ " did not end"

/-- A fault on the way to the receiver of the samples. -/
inductive LinkFault where
  /-- The address has no port. -/
  | noPort (address : String)
  /-- The port of the address is no number below 65536. -/
  | badPort (address : String)
  | connect (address : String) (fault : SystemFault)
  | send (address : String) (fault : SystemFault)
  deriving DecidableEq, Repr

def LinkFault.message : LinkFault → String
  | .noPort address => "connect " ++ address ++ ": invalid socket address"
  | .badPort address => "connect " ++ address ++ ": invalid port value"
  | .connect address fault => "connect " ++ address ++ ": " ++ fault.message
  | .send address fault => "send to " ++ address ++ ": " ++ fault.message

/-- Why a call was refused. -/
inductive Error where
  /-- A codeword already holds all its information bytes. -/
  | codewordOverflow (held : Nat)
  | argument (fault : ArgumentFault)
  | layout (fault : LayoutFault)
  | station (fault : StationFault)
  | sensor (fault : SensorFault)
  | link (fault : LinkFault)
  | batteryLow (volts threshold : Float32)
  | storage (fault : SystemFault)

/-- Volts with two places. -/
def voltsText (x : Float32) : String := (Decimal.ofFloat32 x).fixed 2

def Error.message : Error → String
  | .codewordOverflow held => s!"Codeword already holds {held} information bytes"
  | .argument fault => "Invalid argument: " ++ fault.message
  | .layout fault => "Invalid frame layout: " ++ fault.message
  | .station fault => "Invalid configuration: " ++ fault.message
  | .sensor fault => "Sensor read failed: " ++ fault.message
  | .link fault => "Transport error: " ++ fault.message
  | .batteryLow volts threshold =>
    "Battery voltage too low: " ++ voltsText volts ++ " V (threshold " ++ voltsText threshold ++
      " V)"
  | .storage fault => "I/O error: " ++ fault.message

end Downlink
