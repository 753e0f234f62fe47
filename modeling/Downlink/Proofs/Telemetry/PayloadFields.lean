import Mathlib
import Downlink.Telemetry.Payload
import Downlink.Proofs.Frame.PackedFields

/-!
# Fields of a payload

The fields of a payload follow each other without gaps and without overlap, so writing one leaves
the others alone. Each is read back as the low twelve bits of its value, and nothing is written
anywhere else.
-/

namespace Downlink

open PackedField

namespace PayloadField

/-- The first half byte of a field. -/
def place (f : PayloadField) : Nat :=
  match f.form with
  | .front => 2 * f.index
  | .back => 2 * f.index + 1

/-- Reads a field. -/
def read? (f : PayloadField) (buffer : List UInt8) : Option Nat :=
  match f.form with
  | .front => readFront? buffer f.index
  | .back => readBack? buffer f.index

theorem half?_write (buffer : List UInt8) (f : PayloadField) (n : Nat)
    (h : n < 2 * buffer.length) :
    half? (write buffer f) n =
      if Covers f.place n then some (digit f.value (n - f.place)) else half? buffer n := by
  obtain ⟨form, k, value⟩ := f
  cases form with
  | front => exact half?_writeFront buffer k value n h
  | back => exact half?_writeBack buffer k value n h

theorem read?_of_holds (buffer : List UInt8) (f : PayloadField)
    (h : Holds buffer f.place f.value) : f.read? buffer = some (lowBits f.value) := by
  obtain ⟨form, k, value⟩ := f
  cases form with
  | front => exact readFront?_of_holds buffer k value h
  | back => exact readBack?_of_holds buffer k value h

end PayloadField

namespace Payload

/-! ### Fields in order -/

/-- Fields that follow each other without overlap. -/
def Ordered (fields : List PayloadField) : Prop :=
  fields.Pairwise fun f g => f.place + 3 ≤ g.place

theorem half?_foldl_write_of_not_covers (fields : List PayloadField) (buffer : List UInt8) (n : Nat)
    (h : n < 2 * buffer.length) (hout : ∀ f ∈ fields, ¬Covers f.place n) :
    half? (fields.foldl PayloadField.write buffer) n = half? buffer n := by
  induction fields generalizing buffer with
  | nil => rfl
  | cons f fields ih =>
    have hlen : n < 2 * (PayloadField.write buffer f).length := by
      rw [PayloadField.length_write]
      exact h
    rw [List.foldl_cons, ih _ hlen fun g hg => hout g (List.mem_cons_of_mem _ hg),
      PayloadField.half?_write _ _ _ h, if_neg (hout f List.mem_cons_self)]

/-- What is written behind a field leaves it alone. -/
theorem half?_foldl_write_of_covers (fields : List PayloadField) (buffer : List UInt8) (n : Nat)
    (h : n < 2 * buffer.length) (hordered : Ordered fields) (f : PayloadField) (hf : f ∈ fields)
    (hin : Covers f.place n) :
    half? (fields.foldl PayloadField.write buffer) n = some (digit f.value (n - f.place)) := by
  induction fields generalizing buffer with
  | nil => exact absurd hf (by simp)
  | cons g fields ih =>
    obtain ⟨hbehind, hrest⟩ := List.pairwise_cons.mp hordered
    have hlen : n < 2 * (PayloadField.write buffer g).length := by
      rw [PayloadField.length_write]
      exact h
    rw [List.foldl_cons]
    rcases List.mem_cons.mp hf with rfl | hf
    · have hout : ∀ g ∈ fields, ¬Covers g.place n := by
        intro g hg hcovers
        have hnext := hbehind g hg
        omega
      rw [half?_foldl_write_of_not_covers _ _ _ hlen hout, PayloadField.half?_write _ _ _ h,
        if_pos hin]
    · exact ih _ hlen hrest hf

/-- A payload that carries fields and nothing else: each is read back as the low twelve bits of its
value, and every bit outside of them is zero. -/
structure Carries (payload : List UInt8) (fields : List PayloadField) : Prop where
  read_eq : ∀ f ∈ fields, f.read? payload = some (lowBits f.value)
  bit_eq : ∀ n b, payload[n / 8]? = some b →
    (∀ f ∈ fields, ¬(4 * f.place ≤ n ∧ n < 4 * f.place + 12)) → b.toNat.testBit (n % 8) = false

theorem carries_foldl_write (fields : List PayloadField) (size : Nat) (hordered : Ordered fields)
    (hfits : ∀ f ∈ fields, f.place + 3 ≤ 2 * size) :
    Carries (fields.foldl PayloadField.write (List.replicate size 0)) fields := by
  have hsize : (List.replicate size (0 : UInt8)).length = size := List.length_replicate
  constructor
  · intro f hf
    apply PayloadField.read?_of_holds
    intro n hin
    have hroom := hfits f hf
    exact half?_foldl_write_of_covers fields _ n (by omega) hordered f hf hin
  · intro n b hb hout
    obtain ⟨hlt, -⟩ := List.getElem?_eq_some_iff.mp hb
    rw [length_foldl_write, hsize] at hlt
    have hnone : ∀ f ∈ fields, ¬Covers f.place (n / 4) := by
      intro f hf hin
      exact hout f hf ⟨by omega, by omega⟩
    apply testBit_of_half?_eq_zero _ n b hb
    rw [half?_foldl_write_of_not_covers fields _ _ (by omega) hnone, half?_zeros _ _ (by omega)]

/-! ### The places of the fields -/

section Fields

variable (modulation : Modulation) (r : Readings) (m : ChannelMap) (health : Health)
  (antennas : Antennas)

/-- The fields fill the first 54 bytes. -/
theorem map_place_fields :
    (fields modulation r m health antennas).map PayloadField.place =
      (List.range 36).map (3 * ·) := by
  cases modulation with
  | fsk => rfl
  | bpsk => rfl

theorem place_fields_le (f : PayloadField) (hf : f ∈ fields modulation r m health antennas) :
    f.place + 3 ≤ 108 := by
  have hmem := List.mem_map_of_mem (f := PayloadField.place) hf
  rw [map_place_fields, List.mem_map] at hmem
  obtain ⟨i, hi, hplace⟩ := hmem
  have hlt := List.mem_range.mp hi
  omega

theorem ordered_fields : Ordered (fields modulation r m health antennas) := by
  have hplaces : ((fields modulation r m health antennas).map PayloadField.place).Pairwise
      fun a b => a + 3 ≤ b := by
    rw [map_place_fields, List.pairwise_map]
    exact List.pairwise_lt_range.imp fun h => by omega
  exact List.pairwise_map.mp hplaces

theorem place_markers (size : Nat) (f : PayloadField) (hf : f ∈ markers modulation size) :
    modulation = .bpsk ∧ 76 ≤ size ∧ (f.place = 126 ∨ f.place = 149) := by
  rw [markers] at hf
  split_ifs at hf with h
  · refine ⟨h.1, h.2, ?_⟩
    rcases List.mem_pair.mp hf with rfl | rfl
    · exact Or.inl rfl
    · exact Or.inr rfl
  · exact absurd hf (by simp)

theorem ordered_markers (size : Nat) : Ordered (markers modulation size) := by
  rw [markers]
  split_ifs
  · exact List.pairwise_pair.mpr (by decide)
  · exact List.Pairwise.nil

theorem ordered_fields_markers (size : Nat) :
    Ordered (fields modulation r m health antennas ++ markers modulation size) := by
  refine List.pairwise_append.mpr
    ⟨ordered_fields modulation r m health antennas, ordered_markers modulation size, ?_⟩
  intro f hf g hg
  have hfield := place_fields_le modulation r m health antennas f hf
  obtain ⟨-, -, hmarker⟩ := place_markers modulation size g hg
  omega

theorem encode_eq_foldl (length : Nat) (h : 54 ≤ length) :
    encode modulation r m health antennas length =
      (fields modulation r m health antennas ++ markers modulation length).foldl
        PayloadField.write (List.replicate length 0) := by
  have hsize : max length fieldBytes = length := Nat.max_eq_left h
  simp only [encode, hsize]
  exact List.take_of_length_le (by rw [length_foldl_write, List.length_replicate])

theorem carries_encode (length : Nat) (h : 54 ≤ length) :
    Carries (encode modulation r m health antennas length)
      (fields modulation r m health antennas ++ markers modulation length) := by
  rw [encode_eq_foldl modulation r m health antennas length h]
  apply carries_foldl_write _ _ (ordered_fields_markers modulation r m health antennas length)
  intro f hf
  rcases List.mem_append.mp hf with hfield | hmarker
  · have hplace := place_fields_le modulation r m health antennas f hfield
    omega
  · obtain ⟨-, hlen, hplace⟩ := place_markers modulation length f hmarker
    omega

/-- A payload that is too short for the fields is the front of one that is not. -/
theorem encode_eq_take (length : Nat) (h : length < 54) :
    encode modulation r m health antennas length =
      (encode modulation r m health antennas 54).take length := by
  have hsize : max length fieldBytes = 54 := Nat.max_eq_right h.le
  have hfull : max 54 fieldBytes = 54 := rfl
  simp only [encode, hsize, hfull, List.take_take, Nat.min_eq_left h.le]

/-! ### Panels -/

theorem nth_mem_run (start k : Nat) (values : List Int32) (value : Int32)
    (h : values[k]? = some value) : PayloadField.nth start k value ∈ run start values :=
  List.mem_map_of_mem (f := fun p => PayloadField.nth start p.2 p.1)
    (List.mk_mem_zipIdx_iff_getElem?.mpr h)

theorem mem_fields_volts (k : Nat) (c : Channel) (h : (panels modulation)[k]? = some c) :
    PayloadField.nth 12 k (centivolts (r.voltageOf m c)) ∈
      fields modulation r m health antennas := by
  have hmem := nth_mem_run 12 k ((panels modulation).map fun c => centivolts (r.voltageOf m c))
    (centivolts (r.voltageOf m c)) (by rw [List.getElem?_map, h, Option.map_some])
  simp only [fields, List.mem_append]
  exact Or.inl (Or.inl (Or.inr hmem))

theorem mem_fields_amps (k : Nat) (c : Channel) (h : (panels modulation)[k]? = some c) :
    PayloadField.nth 21 k (offsetCurrent (r.currentOf m c)) ∈
      fields modulation r m health antennas := by
  have hmem := nth_mem_run 21 k ((panels modulation).map fun c => offsetCurrent (r.currentOf m c))
    (offsetCurrent (r.currentOf m c)) (by rw [List.getElem?_map, h, Option.map_some])
  simp only [fields, List.mem_append]
  exact Or.inl (Or.inr hmem)

theorem read?_nth_even (payload : List UInt8) (start k : Nat) (value : Int32) :
    (PayloadField.nth start (2 * k) value).read? payload = readFront? payload (start + 3 * k) := by
  have heven : 2 * k % 2 = 0 := by omega
  have hindex : start + 2 * k / 2 * 3 + 2 * k % 2 = start + 3 * k := by omega
  rw [PayloadField.nth, if_pos heven, hindex]
  rfl

theorem read?_nth_odd (payload : List UInt8) (start k : Nat) (value : Int32) :
    (PayloadField.nth start (2 * k + 1) value).read? payload =
      readBack? payload (start + 1 + 3 * k) := by
  have hodd : ¬(2 * k + 1) % 2 = 0 := by omega
  have hindex : start + (2 * k + 1) / 2 * 3 + (2 * k + 1) % 2 = start + 1 + 3 * k := by omega
  rw [PayloadField.nth, if_neg hodd, hindex]
  rfl

end Fields

end Payload

end Downlink
