import Mathlib
import Downlink.Proofs.Parity.Codeword

/-!
# Calls on a register

A register is fed byte by byte or in runs of any size, is cleared, and is used again. Whatever the
calls were, it holds the bytes it took since it was last cleared, at most as many as fit in a
codeword, and its parity is theirs. A call is refused exactly if it offers too many.
-/

namespace Downlink

namespace ParityRegister

/-- A call on a register. -/
inductive Call where
  | feed (byte : UInt8)
  | feedAll (bytes : List UInt8)
  | reset
  deriving DecidableEq, Repr

/-- The bytes that a call offers. -/
def Call.offered : Call → List UInt8
  | .feed byte => [byte]
  | .feedAll bytes => bytes
  | .reset => []

/-- The answer to a call and the register it leaves. -/
def run (r : ParityRegister) : Call → Except Error Unit × ParityRegister
  | .feed byte =>
    match r.feed byte with
    | .ok next => (.ok (), next)
    | .error e => (.error e, r)
  | .feedAll bytes => r.feedAll bytes
  | .reset => (.ok (), .empty)

/-- The register that calls leave of an empty one. -/
def after (calls : List Call) : ParityRegister :=
  calls.foldl (fun r call => (r.run call).2) .empty

/-- What is held after a call: nothing after a reset, else as much of what was held and of what is
offered as fits. -/
def accept (held : List UInt8) : Call → List UInt8
  | .feed byte => (held ++ [byte]).take informationBytes
  | .feedAll bytes => (held ++ bytes).take informationBytes
  | .reset => []

/-- The bytes accepted since the last reset. -/
def heldAfter (calls : List Call) : List UInt8 := calls.foldl accept []

/-- The register that holds given bytes. -/
def holding (held : List UInt8) : ParityRegister := ⟨remainder held, held.length⟩

/-! ### One call -/

theorem feedAll_holding (held bytes : List UInt8)
    (h : held.length + bytes.length ≤ informationBytes) :
    (holding held).feedAll bytes = (.ok (), holding (held ++ bytes)) := by
  rw [feedAll_eq_ok _ _ h]
  simp [holding, remainder]

theorem feed_holding (held : List UInt8) (byte : UInt8) (h : held.length < informationBytes) :
    (holding held).feed byte = .ok (holding (held ++ [byte])) := by
  have hroom : ¬informationBytes ≤ (holding held).count := Nat.not_le.mpr h
  rw [feed, if_neg hroom]
  simp [holding, remainder]

theorem feed_holding_full (held : List UInt8) (byte : UInt8) (h : held.length = informationBytes) :
    (holding held).feed byte = .error (.codewordOverflow informationBytes) := by
  have hfull : (holding held).count = informationBytes := h
  rw [feed, if_pos hfull.ge, hfull]

/-- Of too many bytes those are taken that fit. -/
theorem feedAll_holding_overflow (held bytes : List UInt8) (hle : held.length ≤ informationBytes)
    (h : informationBytes < held.length + bytes.length) :
    (holding held).feedAll bytes =
      (.error (.codewordOverflow informationBytes),
        holding ((held ++ bytes).take informationBytes)) := by
  induction bytes generalizing held with
  | nil =>
    rw [List.length_nil] at h
    omega
  | cons byte rest ih =>
    rw [List.length_cons] at h
    by_cases hfull : held.length = informationBytes
    · rw [feedAll, feed_holding_full held byte hfull, List.take_left' hfull]
    · have hroom : held.length < informationBytes := by omega
      have hlen : (held ++ [byte]).length = held.length + 1 := by simp
      have hrest := ih (held ++ [byte]) (by omega) (by omega)
      rw [List.append_assoc, List.singleton_append] at hrest
      rw [feedAll, feed_holding held byte hroom]
      exact hrest

theorem run_holding_ok (held : List UInt8) (call : Call)
    (h : held.length + call.offered.length ≤ informationBytes) :
    (holding held).run call = (.ok (), holding (accept held call)) := by
  have htake : (held ++ call.offered).take informationBytes = held ++ call.offered :=
    List.take_of_length_le (by rw [List.length_append]; exact h)
  cases call with
  | feed byte =>
    simp only [Call.offered, List.length_singleton] at h htake
    rw [run, feed_holding held byte (by omega), accept, htake]
  | feedAll bytes =>
    rw [Call.offered] at h htake
    rw [run, feedAll_holding held bytes h, accept, htake]
  | reset => rfl

theorem run_holding_error (held : List UInt8) (call : Call) (hle : held.length ≤ informationBytes)
    (h : informationBytes < held.length + call.offered.length) :
    (holding held).run call =
      (.error (.codewordOverflow informationBytes), holding (accept held call)) := by
  cases call with
  | feed byte =>
    simp only [Call.offered, List.length_singleton] at h
    have hfull : held.length = informationBytes := by omega
    rw [run, feed_holding_full held byte hfull, accept, List.take_left' hfull]
  | feedAll bytes =>
    rw [run, feedAll_holding_overflow held bytes hle h, accept]
  | reset =>
    simp only [Call.offered, List.length_nil] at h
    omega

theorem run_holding (held : List UInt8) (call : Call) (hle : held.length ≤ informationBytes) :
    ((holding held).run call).2 = holding (accept held call) := by
  by_cases h : held.length + call.offered.length ≤ informationBytes
  · rw [run_holding_ok held call h]
  · rw [run_holding_error held call hle (by omega)]

theorem answer_eq_error_iff (held : List UInt8) (call : Call)
    (hle : held.length ≤ informationBytes) (e : Error) :
    ((holding held).run call).1 = .error e ↔
      informationBytes < held.length + call.offered.length ∧
        e = .codewordOverflow informationBytes := by
  by_cases h : held.length + call.offered.length ≤ informationBytes
  · rw [run_holding_ok held call h]
    simp only [reduceCtorEq, false_iff, not_and]
    omega
  · rw [run_holding_error held call hle (by omega), Except.error.injEq]
    constructor
    · intro he
      exact ⟨by omega, he.symm⟩
    · intro he
      exact he.2.symm

theorem length_accept_le (held : List UInt8) (call : Call) :
    (accept held call).length ≤ informationBytes := by
  cases call with
  | feed byte => exact List.length_take_le _ _
  | feedAll bytes => exact List.length_take_le _ _
  | reset => exact Nat.zero_le _

/-- A refused run leaves what the longest part of it that is taken would have left. -/
theorem exists_longest_front (held bytes : List UInt8) (hle : held.length ≤ informationBytes)
    (h : informationBytes < held.length + bytes.length) :
    ∃ front, front <+: bytes ∧
      (holding held).feedAll front = (.ok (), ((holding held).feedAll bytes).2) ∧
      ∀ more, more <+: bytes → ((holding held).feedAll more).1 = .ok () →
        more.length ≤ front.length := by
  have htake : (held ++ bytes).take informationBytes =
      held ++ bytes.take (informationBytes - held.length) := by
    rw [List.take_append, List.take_of_length_le hle]
  have hlen : (bytes.take (informationBytes - held.length)).length =
      informationBytes - held.length := by
    rw [List.length_take]
    omega
  refine ⟨bytes.take (informationBytes - held.length), List.take_prefix _ _, ?_, ?_⟩
  · rw [feedAll_holding_overflow held bytes hle h, htake, feedAll_holding _ _ (by omega)]
  · intro more _ hmore
    by_contra hlong
    rw [feedAll_holding_overflow held more hle (by omega)] at hmore
    exact absurd hmore (by simp)

/-! ### Runs of calls -/

theorem after_append (calls : List Call) (call : Call) :
    after (calls ++ [call]) = ((after calls).run call).2 := by
  simp [after]

theorem heldAfter_append (calls : List Call) (call : Call) :
    heldAfter (calls ++ [call]) = accept (heldAfter calls) call := by
  simp [heldAfter]

theorem length_heldAfter_le (calls : List Call) : (heldAfter calls).length ≤ informationBytes := by
  induction calls using List.reverseRecOn with
  | nil => exact Nat.zero_le _
  | append_singleton calls call _ =>
    rw [heldAfter_append]
    exact length_accept_le _ _

theorem after_eq_holding (calls : List Call) : after calls = holding (heldAfter calls) := by
  induction calls using List.reverseRecOn with
  | nil => rfl
  | append_singleton calls call ih =>
    rw [after_append, heldAfter_append, ih, run_holding _ _ (length_heldAfter_le calls)]

/-- After any calls a register counts the bytes it accepted since the last reset, never more than
223, and has their parity, in whatever portions they came. The next call is refused exactly if it
would push the count past 223. A refused byte then changes nothing, and a refused run leaves what
the longest part of it that fits would have left. -/
theorem calls_hold_accepted (calls : List Call) :
    (after calls).count = (heldAfter calls).length ∧ (after calls).count ≤ 223 ∧
    parityOf (heldAfter calls) = .ok (after calls).parity ∧
    (∀ call e, ((after calls).run call).1 = .error e ↔
      223 < (after calls).count + call.offered.length ∧ e = .codewordOverflow 223) ∧
    (∀ byte e, ((after calls).run (.feed byte)).1 = .error e →
      ((after calls).run (.feed byte)).2 = after calls) ∧
    ∀ bytes e, ((after calls).run (.feedAll bytes)).1 = .error e →
      ∃ front, front <+: bytes ∧
        (after calls).run (.feedAll front) = (.ok (), ((after calls).run (.feedAll bytes)).2) ∧
        ∀ more, more <+: bytes → ((after calls).run (.feedAll more)).1 = .ok () →
          more.length ≤ front.length := by
  have hle := length_heldAfter_le calls
  rw [after_eq_holding]
  generalize heldAfter calls = held at hle
  refine ⟨rfl, hle, parityOf_eq_ok held hle, ?_, ?_, ?_⟩
  · intro call e
    exact answer_eq_error_iff held call hle e
  · intro byte e he
    obtain ⟨hover, -⟩ := (answer_eq_error_iff held (.feed byte) hle e).mp he
    simp only [Call.offered, List.length_singleton] at hover
    rw [run_holding held (.feed byte) hle, accept, List.take_left' (by omega)]
  · intro bytes e he
    obtain ⟨hover, -⟩ := (answer_eq_error_iff held (.feedAll bytes) hle e).mp he
    exact exists_longest_front held bytes hle hover

/-- A full register refuses a run after its first three bytes and a byte behind them, and takes
bytes again once it is cleared. -/
theorem calls_hold_accepted_overflow :
    let calls : List Call := [.feedAll (List.replicate 220 7), .feedAll [1, 2, 3, 4, 5], .feed 6]
    (after calls).count = 223 ∧
      parityOf (List.replicate 220 7 ++ [1, 2, 3]) = .ok (after calls).parity ∧
      ((after calls).run (.feed 6)).1 = .error (.codewordOverflow 223) ∧
      ((after calls).run (.feed 6)).2 = after calls ∧
      parityOf [9] = .ok (after (calls ++ [.reset, .feed 9])).parity := by
  intro calls
  have hheld : heldAfter calls = List.replicate 220 7 ++ [1, 2, 3] := by decide +kernel
  have hagain : heldAfter (calls ++ [.reset, .feed 9]) = [9] := by decide +kernel
  obtain ⟨hcount, -, hparity, hrefused, hkept, -⟩ := calls_hold_accepted calls
  obtain ⟨-, -, hparityAgain, -⟩ := calls_hold_accepted (calls ++ [.reset, .feed 9])
  rw [hheld] at hcount hparity
  rw [hagain] at hparityAgain
  have hfull : (after calls).count = 223 := by
    rw [hcount, List.length_append, List.length_replicate]
    rfl
  have hover := (hrefused (.feed 6) (.codewordOverflow 223)).mpr ⟨by rw [hfull]; decide, rfl⟩
  exact ⟨hfull, hparity, hover, hkept 6 _ hover, hparityAgain⟩

end ParityRegister

end Downlink
