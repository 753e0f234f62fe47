import Downlink.Link.Address

/-!
# The link to the transmitter

Samples are sent as bytes, the low byte of each in front, over a connection that is opened when it
is needed and given up after a fault.
-/

namespace Downlink

/-- The low byte of a sample. -/
def lowByte (s : Int16) : UInt8 := s.toUInt16.toUInt8

/-- The high byte of a sample. -/
def highByte (s : Int16) : UInt8 :=
  let bits := s.toUInt16 >>> 8
  bits.toUInt8

/-- The bytes of a sample, the low one in front. -/
def sampleBytes (s : Int16) : List UInt8 := [lowByte s, highByte s]

/-- Adds the bytes of a sample. -/
def pushSample (out : ByteArray) (s : Int16) : ByteArray := (out.push (lowByte s)).push (highByte s)

/-- The bytes of samples. -/
def pcmBytes (samples : Array Int16) : ByteArray :=
  samples.foldl pushSample (ByteArray.emptyWithCapacity (2 * samples.size))

theorem foldl_pushSample (samples : List Int16) (out : ByteArray) :
    (samples.foldl pushSample out).data.toList =
      out.data.toList ++ samples.flatMap sampleBytes := by
  induction samples generalizing out with
  | nil => simp
  | cons s samples ih => simp [ih, pushSample, sampleBytes]

theorem pcmBytes_eq (samples : Array Int16) :
    (pcmBytes samples).data.toList = samples.toList.flatMap sampleBytes := by
  rw [pcmBytes, ← Array.foldl_toList, foldl_pushSample]
  rfl

/-- A connection to the receiver of samples. -/
structure Link where
  address : String
  connected : Bool
  deriving DecidableEq, Repr

namespace Link

/-- Where the transmitter listens unless told otherwise. -/
def defaultAddress : String := "127.0.0.1:8080"

/-- A link that has not been opened. -/
def closed (address : String) : Link := ⟨address, false⟩

/-- Opens a link; `dialled` says what became of the attempt. -/
def opened (l : Link) (dialled : Option SystemFault) : Except Error Unit :=
  if l.connected then .ok ()
  else
    match Address.ofText l.address with
    | .error fault => .error (.link fault)
    | .ok _ =>
      match dialled with
      | some fault => .error (.link (.connect l.address fault))
      | none => .ok ()

/-- Sends over a link, opening it first if need be. `dialled` and `written` say what became of the
attempts to open it and to write. -/
def send (l : Link) (dialled written : Option SystemFault) : Except Error Unit × Link :=
  match l.opened dialled with
  | .error e => (.error e, { l with connected := false })
  | .ok () =>
    match written with
    | some fault => (.error (.link (.send l.address fault)), { l with connected := false })
    | none => (.ok (), { l with connected := true })

end Link

end Downlink
