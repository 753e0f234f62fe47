import Mathlib
import Downlink.Proofs.Modulator.Samples

/-!
# Buffers that change from bit to bit

Between two bits a buffer may be cut, grown or replaced by any other. Whatever a bit is given, all
places that it touches lie in the buffer. It adds its samples, and of those that were there it
changes the last ones at most, as many as an edge has. What goes on from buffer to buffer follows
from the bits alone.
-/

namespace Downlink

/-- The polarity behind the bits of a session. -/
def Waveform.polarityOf (w : Waveform) (bits : List Bool) : Polarity :=
  match w.modulation with
  | .fsk => (bits.getLast?.map Polarity.ofBit).getD .plus
  | .bpsk => if bits.count false % 2 = 0 then .plus else .minus

namespace Modulator

/-- Takes bits, each with the buffer that it is given. -/
def takeBits (m : Modulator) (given : List (Bool × Array Int16)) : Modulator :=
  given.foldl (fun m (bit, out) => (m.pushBit bit out).1) m

/-! ### What the bits determine -/

/-- What a session carries behind bits. -/
def behind (w : Waveform) (bits : List Bool) : Modulator :=
  { waveform := w, polarity := w.polarityOf bits, clock := bits.length * w.samplesPerBit, edge := 0
    reversals := w.reversalsOf bits }

theorem behind_nil (w : Waveform) : behind w [] = (start w).carried := by
  rw [behind, Waveform.polarityOf, Waveform.reversalsOf_nil, List.length_nil, Nat.zero_mul]
  cases w.modulation with
  | fsk => rfl
  | bpsk => rfl

theorem polarity_turn (m : Modulator) (bits : List Bool) (bit : Bool) (out : Array Int16)
    (h : m.polarity = m.waveform.polarityOf bits) :
    (m.turn bit out).1.polarity = m.waveform.polarityOf (bits ++ [bit]) := by
  unfold Waveform.polarityOf at h ⊢
  unfold turn
  cases hmodulation : m.waveform.modulation with
  | fsk =>
    show Polarity.ofBit bit = ((bits ++ [bit]).getLast?.map Polarity.ofBit).getD .plus
    rw [List.getLast?_concat]
    rfl
  | bpsk =>
    rw [hmodulation] at h
    simp only [List.count_append] at h ⊢
    cases bit with
    | true => exact h
    | false =>
      show m.polarity.flip = if (bits.count false + 1) % 2 = 0 then .plus else .minus
      rw [h]
      rcases Nat.mod_two_eq_zero_or_one (bits.count false) with heven | hodd
      · rw [if_pos heven, if_neg (by omega)]
        rfl
      · rw [if_neg (by omega), if_pos (by omega)]
        rfl

theorem carried_pushBit_of_behind (m : Modulator) (w : Waveform) (bits : List Bool) (bit : Bool)
    (out : Array Int16) (h : m.carried = behind w bits) :
    (m.pushBit bit out).1.carried = behind w (bits ++ [bit]) := by
  obtain ⟨rfl, hpolarity, hclock, hreversals⟩ := (carried_eq_iff m (behind w bits)).mp h
  refine (carried_eq_iff _ (behind m.waveform (bits ++ [bit]))).mpr
    ⟨waveform_pushBit m bit out, ?_, ?_, ?_⟩
  · rw [pushBit_eq]
    exact polarity_turn (m.seated out) bits bit out hpolarity
  · rw [pushBit_eq]
    show m.clock + m.waveform.samplesPerBit = (bits ++ [bit]).length * m.waveform.samplesPerBit
    rw [hclock, List.length_append, Nat.add_mul, List.length_singleton, Nat.one_mul]
    rfl
  · rw [reversals_pushBit, hreversals]
    exact (m.waveform.reversalsOf_append bits [bit]).symm

theorem carried_takeBits (w : Waveform) (m : Modulator) (bits : List Bool)
    (given : List (Bool × Array Int16)) (h : m.carried = behind w bits) :
    (m.takeBits given).carried = behind w (bits ++ given.map Prod.fst) := by
  induction given generalizing m bits with
  | nil => rw [List.map_nil, List.append_nil]; exact h
  | cons first rest ih =>
    have hfirst := m.carried_pushBit_of_behind w bits first.1 first.2 h
    rw [List.map_cons, List.append_cons]
    exact ih _ _ hfirst

/-! ### Places that a bit touches -/

/-- Changes the sample at a place, unless it lies outside of the buffer. -/
def modify? (out : Array Int16) (i : Nat) (f : Int16 → Int16) : Option (Array Int16) :=
  if h : i < out.size then some (out.set i (f out[i]) h) else none

/-- Fades the last `n` samples of a buffer, unless one of them lies in front of it or behind. -/
def fadeLast? (w : Waveform) : Nat → Array Int16 → Option (Array Int16)
  | 0, out => some out
  | n + 1, out =>
    if out.size < n + 1 then none
    else (modify? out (out.size - (n + 1)) (w.faded (n + 1))).bind (fadeLast? w n)

/-- Turns the phase at the end of a buffer, unless a place that is touched lies outside. -/
def reverse? (m : Modulator) (out : Array Int16) : Option (Modulator × Array Int16) := do
  let size := out.size
  let out ← if m.waveform.ramp < size then fadeLast? m.waveform m.waveform.ramp out else some out
  return ({ m with polarity := m.polarity.flip, reversals := m.reversals + 1, edge := size }, out)

/-- Shows a bit, unless a place that is touched lies outside. -/
def turn? (m : Modulator) (bit : Bool) (out : Array Int16) : Option (Modulator × Array Int16) :=
  match m.waveform.modulation with
  | .fsk => some ({ m with polarity := .ofBit bit }, out)
  | .bpsk => if bit then some (m, out) else m.reverse? out

/-- Adds one bit to a buffer, unless a place that is touched lies outside. -/
def pushBit? (m : Modulator) (bit : Bool) (out : Array Int16) : Option (Modulator × Array Int16) := do
  let (m, out) ← turn? { m with edge := min m.edge out.size } bit out
  let n := m.waveform.samplesPerBit
  let out := m.emit n m.clock out
  return ({ m with clock := m.clock + n }, out)

theorem modify?_eq_some (out : Array Int16) (i : Nat) (f : Int16 → Int16) (h : i < out.size) :
    modify? out i f = some (out.modify i f) := by
  rw [modify?, dif_pos h]
  congr 1
  apply Array.ext_getElem?
  intro j
  rw [Array.getElem?_set, Array.getElem?_modify]
  by_cases hj : i = j
  · subst hj
    rw [if_pos rfl, if_pos rfl, Array.getElem?_eq_getElem h, Option.map_some]
  · rw [if_neg hj, if_neg hj]

theorem fadeLast?_eq_some (w : Waveform) (n : Nat) (out : Array Int16) (h : n ≤ out.size) :
    fadeLast? w n out = some (fadeLast w n out) := by
  induction n generalizing out with
  | zero => rfl
  | succ n ih =>
    rw [fadeLast?, if_neg (Nat.not_lt.mpr h), modify?_eq_some _ _ _ (by omega), Option.bind_some,
      fadeLast]
    exact ih _ (by rw [Array.size_modify]; omega)

theorem reverse?_eq_some (m : Modulator) (out : Array Int16) :
    m.reverse? out = some (m.reverse out) := by
  unfold reverse? reverse
  by_cases hlong : m.waveform.ramp < out.size
  · simp only [if_pos hlong, fadeLast?_eq_some _ _ _ (Nat.le_of_lt hlong)]
    rfl
  · simp only [if_neg hlong]
    rfl

theorem turn?_eq_some (m : Modulator) (bit : Bool) (out : Array Int16) :
    m.turn? bit out = some (m.turn bit out) := by
  unfold turn? turn
  cases m.waveform.modulation with
  | fsk => rfl
  | bpsk =>
    cases bit with
    | true => rfl
    | false => exact m.reverse?_eq_some out

/-- The guard of a reversal is enough: no bit meets a place outside of its buffer. -/
theorem pushBit?_eq_some (m : Modulator) (bit : Bool) (out : Array Int16) :
    m.pushBit? bit out = some (m.pushBit bit out) := by
  unfold pushBit?
  rw [turn?_eq_some]
  rfl

/-! ### Samples that were there -/

/-- A zero of a phase-shift waveform fades the last samples of a buffer that is longer than an edge.
No other sample is changed, and no other bit changes any. -/
theorem getElem?_pushBit_of_lt (m : Modulator) (bit : Bool) (out : Array Int16) (i : Nat)
    (hi : i < out.size) :
    (m.pushBit bit out).2[i]? =
      if (m.waveform.modulation = .bpsk ∧ bit = false) ∧ m.waveform.ramp < out.size ∧
          out.size ≤ i + m.waveform.ramp then
        out[i]?.map (m.waveform.faded (out.size - i))
      else out[i]? := by
  rw [getElem?_pushBit, if_pos hi]
  by_cases hturns : m.waveform.modulation = .bpsk ∧ bit = false
  · rw [turn_of_turns (m.seated out) bit out hturns, getElem?_reverse]
    simp only [hturns, true_and]
    rfl
  · rw [(turn_of_not_turns (m.seated out) bit out hturns).1, if_neg fun h => hturns h.1]

/-- Whatever buffers the bits of a session were given, and whatever buffer is given to the next bit:
all places that the bit touches lie in the buffer, and it adds the samples of one bit. Those that
were there stay as they were, but for the last ones, as many as an edge has, which a zero of a
phase-shift waveform fades in a buffer that is longer than that. Phase, clock and count of reversals
follow from the bits alone. -/
theorem bit_changes_last_edge_only (w : Waveform) (given : List (Bool × Array Int16)) (bit : Bool)
    (out : Array Int16) :
    let m := (start w).takeBits given
    let next := m.pushBit bit out
    let bits := given.map Prod.fst ++ [bit]
    m.pushBit? bit out = some next ∧
    next.2.size = out.size + w.samplesPerBit ∧
    (∀ i < out.size, next.2[i]? =
      if (w.modulation = .bpsk ∧ bit = false) ∧ w.ramp < out.size ∧ out.size ≤ i + w.ramp then
        out[i]?.map (w.faded (out.size - i))
      else out[i]?) ∧
    next.1.polarity = w.polarityOf bits ∧
    next.1.clock = bits.length * w.samplesPerBit ∧
    next.1.reversals = w.reversalsOf bits := by
  intro m next bits
  have hm : m.carried = behind w (given.map Prod.fst) :=
    carried_takeBits w (start w) [] given (behind_nil w).symm
  have hwaveform : m.waveform = w := ((carried_eq_iff m (behind w _)).mp hm).1
  have hnext : next.1.carried = behind w bits := m.carried_pushBit_of_behind w _ bit out hm
  obtain ⟨-, hpolarity, hclock, hreversals⟩ := (carried_eq_iff next.1 (behind w bits)).mp hnext
  have hsize := m.size_pushBit bit out
  have hold := m.getElem?_pushBit_of_lt bit out
  rw [hwaveform] at hsize hold
  exact ⟨m.pushBit?_eq_some bit out, hsize, hold, hpolarity, hclock, hreversals⟩

theorem bit_changes_last_edge_only_replaced :
    let given : List (Bool × Array Int16) := [(true, #[]), (false, Array.replicate 100 7)]
    let out : Array Int16 := #[1, 2, 3, 4, 5, 6, 7, 8, 9, 10]
    let next := ((start .bpsk).takeBits given).pushBit false out
    1 < out.size ∧ ((start .bpsk).takeBits given).pushBit? false out = some next ∧
      next.2.size = 50 ∧ next.2[1]? = some 2 ∧ next.2[2]? = some (Waveform.bpsk.faded 8 3) ∧
      next.1.polarity = .plus ∧ next.1.clock = 120 ∧ next.1.reversals = 2 := by
  intro given out next
  have hramp : Waveform.bpsk.ramp = 8 := by decide +kernel
  obtain ⟨hplaces, hsize, hold, hpolarity, hclock, hreversals⟩ :=
    bit_changes_last_edge_only .bpsk given false out
  have hkept := hold 1 (by decide)
  have hfaded := hold 2 (by decide)
  rw [hramp, if_neg (by decide)] at hkept
  rw [hramp, if_pos (by decide)] at hfaded
  exact ⟨by decide, hplaces, hsize, hkept, hfaded, hpolarity.trans (by decide), hclock, hreversals⟩

end Modulator

end Downlink
