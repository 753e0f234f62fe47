import Downlink.LineCode
import Downlink.Sync
import Downlink.Waveform

/-!
# The modulator

A modulator turns bits into samples behind those that a buffer already holds. Phase, carrier clock
and the count of reversals go on through a session, whatever buffers it uses. The place of the last
edge belongs to the buffer, and moves to its end when the buffer turns out to be shorter.
-/

namespace Downlink

/-- What a modulation session carries from bit to bit. -/
structure Modulator where
  waveform : Waveform
  polarity : Polarity
  /-- Samples made since the session started. -/
  clock : Nat
  /-- Where in the buffer the last edge lies. -/
  edge : Nat
  /-- Phase reversals since the session started. -/
  reversals : Nat

namespace Modulator

/-- A session at its start. -/
def start (w : Waveform) : Modulator :=
  { waveform := w, polarity := .plus, clock := 0, edge := 0, reversals := 0 }

/-- A session for a waveform that can be sent. -/
def ofWaveform (w : Waveform) : Except Error Modulator :=
  match w.validate with
  | .ok () => .ok (start w)
  | .error e => .error e

/-- Fades the last `n` samples of a buffer toward its end. -/
def fadeLast (w : Waveform) : Nat → Array Int16 → Array Int16
  | 0, out => out
  | n + 1, out => fadeLast w n (out.modify (out.size - (n + 1)) (w.faded (n + 1)))

@[simp] theorem size_fadeLast (w : Waveform) (n : Nat) (out : Array Int16) :
    (fadeLast w n out).size = out.size := by
  induction n generalizing out with
  | zero => rfl
  | succ n ih => simp [fadeLast, ih]

/-- Turns the phase at the end of a buffer. A buffer longer than an edge is faded toward it. -/
def reverse (m : Modulator) (out : Array Int16) : Modulator × Array Int16 :=
  let size := out.size
  let out := if m.waveform.ramp < size then fadeLast m.waveform m.waveform.ramp out else out
  ({ m with polarity := m.polarity.flip, reversals := m.reversals + 1, edge := size }, out)

/-- Shows a bit: the level takes its value, or a zero turns the phase. -/
def turn (m : Modulator) (bit : Bool) (out : Array Int16) : Modulator × Array Int16 :=
  match m.waveform.modulation with
  | .fsk => ({ m with polarity := .ofBit bit }, out)
  | .bpsk => if bit then (m, out) else m.reverse out

/-- Adds `n` samples, the first at a clock tick. -/
def emit (m : Modulator) : Nat → Nat → Array Int16 → Array Int16
  | 0, _, out => out
  | n + 1, clock, out =>
    let sample := m.waveform.sampleAt m.polarity clock (out.size - m.edge)
    emit m n (clock + 1) (out.push sample)

@[simp] theorem size_emit (m : Modulator) (n clock : Nat) (out : Array Int16) :
    (m.emit n clock out).size = out.size + n := by
  induction n generalizing clock out with
  | zero => rfl
  | succ n ih => simp [emit, ih]; omega

/-- Adds one bit to a buffer. -/
def pushBit (m : Modulator) (bit : Bool) (out : Array Int16) : Modulator × Array Int16 :=
  let m := { m with edge := min m.edge out.size }
  let (m, out) := m.turn bit out
  let n := m.waveform.samplesPerBit
  let out := m.emit n m.clock out
  ({ m with clock := m.clock + n }, out)

/-- Adds bits to a buffer. -/
def pushBits (m : Modulator) (bits : List Bool) (out : Array Int16) : Modulator × Array Int16 :=
  bits.foldl (fun (m, out) bit => m.pushBit bit out) (m, out)

@[simp] theorem pushBits_nil (m : Modulator) (out : Array Int16) : m.pushBits [] out = (m, out) :=
  rfl

theorem pushBits_cons (m : Modulator) (bit : Bool) (bits : List Bool) (out : Array Int16) :
    m.pushBits (bit :: bits) out =
      (m.pushBit bit out).1.pushBits bits (m.pushBit bit out).2 := rfl

theorem pushBits_append (m : Modulator) (xs ys : List Bool) (out : Array Int16) :
    m.pushBits (xs ++ ys) out =
      (m.pushBits xs out).1.pushBits ys (m.pushBits xs out).2 := by
  simp [pushBits, List.foldl_append]

end Modulator

/-- The bits of a frame on air: the sync word, then ten bits for every symbol. -/
def airBits (sync : SyncWord) (symbols : List Symbol) : List Bool :=
  sync.bits ++ symbols.flatMap Symbol.bits

/-- Adds a frame to a buffer. -/
def Modulator.pushFrame (m : Modulator) (sync : SyncWord) (symbols : List Symbol)
    (out : Array Int16) : Modulator × Array Int16 :=
  m.pushBits (airBits sync symbols) out

end Downlink
