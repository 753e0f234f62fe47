import Downlink.Frame.PackedField
import Downlink.Telemetry.Health
import Downlink.Telemetry.Readings
import Downlink.Truncation

/-!
# The payload of a frame

Readings are scaled to integers and written as twelve-bit fields, a front and a back field to every
three bytes. Values that can be negative are offset by half the range. Panels are grouped by axis in
frequency-shift frames and by sign in phase-shift frames; long phase-shift payloads also carry two
marker fields.
-/

namespace Downlink

/-- Which of the two fields of a byte triple. -/
inductive FieldForm where
  | front
  | back
  deriving DecidableEq, Repr

/-- A field with its place and value. -/
structure PayloadField where
  form : FieldForm
  /-- Index of the field's first byte. -/
  index : Nat
  value : Int32
  deriving DecidableEq, Repr

namespace PayloadField

/-- Writes a field. -/
def write (buffer : List UInt8) (f : PayloadField) : List UInt8 :=
  match f.form with
  | .front => PackedField.writeFront buffer f.index f.value
  | .back => PackedField.writeBack buffer f.index f.value

@[simp] theorem length_write (buffer : List UInt8) (f : PayloadField) :
    (write buffer f).length = buffer.length := by
  cases h : f.form <;> simp [write, h]

/-- The `k`-th field of a run that starts at a byte triple. -/
def nth (start k : Nat) (value : Int32) : PayloadField :=
  { form := if k % 2 = 0 then .front else .back
    index := start + k / 2 * 3 + k % 2
    value }

end PayloadField

namespace Payload

/-- The middle of a twelve-bit range. -/
def offset : Int32 := 2048

/-- A value times a scale, without rounding. -/
def scaledBy (scale x : Float32) : Int32 := Truncation.number32 (x * scale)

/-- A value times a scale, a half added. -/
def roundedBy (scale x : Float32) : Int32 := Truncation.number32 (x * scale + 0.5)

/-- A value with a half added. -/
def rounded (x : Float32) : Int32 := Truncation.number32 (x + 0.5)

/-- Volts as hundredths. -/
def centivolts (x : Float32) : Int32 := scaledBy 100.0 x

/-- Milliamperes around the middle of the range. -/
def offsetCurrent (x : Float32) : Int32 := rounded x + offset

/-- The panels in the order of the payload. -/
def panels : Modulation → List Channel
  | .fsk => [.plusX, .minusX, .plusY, .minusY, .plusZ, .minusZ]
  | .bpsk => [.plusX, .plusY, .plusZ, .minusX, .minusY, .minusZ]

/-- A run of fields from a byte triple on. -/
def run (start : Nat) (values : List Int32) : List PayloadField :=
  values.zipIdx.map fun (value, k) => .nth start k value

/-- The fields that every payload carries, in the order of writing. -/
def fields (modulation : Modulation) (r : Readings) (m : ChannelMap) (health : Health)
    (antennas : Antennas) : List PayloadField :=
  let volts := fun c => centivolts (r.voltageOf m c)
  let amps := fun c => offsetCurrent (r.currentOf m c)
  [⟨.front, 0, 0⟩, ⟨.back, 1, 0⟩, ⟨.front, 3, volts .battery⟩,
    ⟨.back, 4, roundedBy 100.0 r.accelX + offset⟩, ⟨.front, 6, roundedBy 100.0 r.accelY + offset⟩,
    ⟨.back, 7, roundedBy 100.0 r.accelZ + offset⟩,
    ⟨.front, 9, amps .battery⟩, ⟨.back, 10, roundedBy 10.0 r.temperature⟩] ++
  run 12 ((panels modulation).map volts) ++
  run 21 ((panels modulation).map amps) ++
  [⟨.front, 30, volts .bus⟩, ⟨.back, 31, scaledBy 10.0 r.spin + offset⟩,
    ⟨.front, 33, rounded r.pressure⟩, ⟨.back, 34, roundedBy 10.0 r.altitude⟩,
    ⟨.front, 36, 0⟩, ⟨.back, 37, rounded r.signalStrength + offset⟩,
    ⟨.front, 39, roundedBy 10.0 r.computerTemperature⟩,
    ⟨.back, 40, rounded r.gyroX + offset⟩, ⟨.front, 42, rounded r.gyroY + offset⟩,
    ⟨.back, 43, rounded r.gyroZ + offset⟩,
    ⟨.front, 45, rounded r.humidity⟩, ⟨.back, 46, amps .bus⟩,
    ⟨.front, 48, Truncation.number32 r.experimentTwo + offset⟩,
    ⟨.back, 49, roundedBy 100.0 r.experimentThree + offset⟩,
    ⟨.front, 51, Int32.ofNat health.word⟩, ⟨.back, 52, Int32.ofNat antennas.word⟩]

/-- The marker fields of a phase-shift payload that reaches far enough. -/
def markers (modulation : Modulation) (size : Nat) : List PayloadField :=
  if modulation = .bpsk ∧ 76 ≤ size then [⟨.front, 63, 0xFF⟩, ⟨.back, 74, 0xFF⟩] else []

/-- Bytes that the fields of every payload take. -/
def fieldBytes : Nat := 54

/-- The payload bytes for readings, cut to a length. -/
def encode (modulation : Modulation) (r : Readings) (m : ChannelMap) (health : Health)
    (antennas : Antennas) (length : Nat) : List UInt8 :=
  let size := max length fieldBytes
  let all := fields modulation r m health antennas ++ markers modulation size
  (all.foldl PayloadField.write (List.replicate size 0)).take length

theorem length_foldl_write (fields : List PayloadField) (buffer : List UInt8) :
    (fields.foldl PayloadField.write buffer).length = buffer.length := by
  induction fields generalizing buffer with
  | nil => rfl
  | cons f fields ih => simp [ih]

@[simp] theorem length_encode (modulation : Modulation) (r : Readings) (m : ChannelMap)
    (health : Health) (antennas : Antennas) (length : Nat) :
    (encode modulation r m health antennas length).length = length := by
  simp only [encode, List.length_take, length_foldl_write, List.length_replicate]
  omega

end Payload

end Downlink
