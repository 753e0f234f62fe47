import Mathlib
import Downlink.Proofs.Encoder.Session

/-!
# Refused calls

A call is refused for its mode number, its frame type or the length of its payload and for nothing
else. All checks come before the first bit is coded, so a refused call leaves the encoder and the
buffer as they were, and a session goes on as if it had not been made.
-/

namespace Downlink.Encoder

/-- The first of a frame's parts that does not fit a layout, if there is one. -/
def misfit? (l : Layout) (header : Header) (payload : List UInt8) : Option ArgumentFault :=
  if 7 < header.modeId.toNat then some (.modeId header.modeId.toNat)
  else if 15 < header.frameType.toNat then some (.frameType header.frameType.toNat)
  else if payload.length ≠ l.payloadLength then
    some (.payloadLength payload.length l.payloadLength)
  else none

theorem misfit?_eq_none_iff (l : Layout) (header : Header) (payload : List UInt8) :
    misfit? l header payload = none ↔
      header.modeId ≤ 7 ∧ header.frameType ≤ 15 ∧ payload.length = l.payloadLength := by
  simp only [misfit?, UInt8.le_iff_toNat_le, UInt8.reduceToNat]
  by_cases hmode : 7 < header.modeId.toNat
  · rw [if_pos hmode]
    exact iff_of_false (by simp) fun h => absurd h.1 (Nat.not_le_of_lt hmode)
  · by_cases htype : 15 < header.frameType.toNat
    · rw [if_neg hmode, if_pos htype]
      exact iff_of_false (by simp) fun h => absurd h.2.1 (Nat.not_le_of_lt htype)
    · by_cases hlen : payload.length = l.payloadLength
      · rw [if_neg hmode, if_neg htype, if_neg (not_not.mpr hlen)]
        exact iff_of_true rfl ⟨Nat.le_of_not_lt hmode, Nat.le_of_not_lt htype, hlen⟩
      · rw [if_neg hmode, if_neg htype, if_pos hlen]
        exact iff_of_false (by simp) fun h => hlen h.2.2

theorem frameOf_of_misfit (e : Encoder) (header : Header) (payload : List UInt8)
    (fault : ArgumentFault) (hlayout : e.profile.layout.Consistent)
    (h : misfit? e.profile.layout header payload = some fault) :
    e.frameOf header payload = .error (.argument fault) := by
  -- The header is checked first, so the length of the payload counts only behind a sound header.
  unfold misfit? at h
  by_cases hmode : 7 < header.modeId.toNat
  · rw [if_pos hmode] at h
    obtain rfl := Option.some.inj h
    rw [frameOf, Header.encode, if_pos hmode]
    rfl
  · by_cases htype : 15 < header.frameType.toNat
    · rw [if_neg hmode, if_pos htype] at h
      obtain rfl := Option.some.inj h
      rw [frameOf, Header.encode, if_neg hmode, if_pos htype]
      rfl
    · rw [if_neg hmode, if_neg htype] at h
      by_cases hlen : payload.length = e.profile.layout.payloadLength
      · rw [if_neg (not_not.mpr hlen)] at h
        exact absurd h (by simp)
      · rw [if_pos hlen] at h
        obtain rfl := Option.some.inj h
        have hmode : header.modeId ≤ 7 := UInt8.le_iff_toNat_le.mpr (Nat.le_of_not_lt hmode)
        have htype : header.frameType ≤ 15 := UInt8.le_iff_toNat_le.mpr (Nat.le_of_not_lt htype)
        obtain ⟨bytes, hencode, hheader, -⟩ :=
          header.exists_encode_eq_ok e.profile.layout hlayout hmode htype
        have hvalid := e.profile.layout.validate_eq_ok_iff.mpr hlayout
        rw [frameOf, hencode]
        simp only [bind, Except.bind, Layout.interleave, hvalid, hheader, ne_eq, not_true_eq_false,
          if_false, hlen, not_false_eq_true, if_true]
        rfl

theorem frameOf_cases (e : Encoder) (header : Header) (payload : List UInt8)
    (hlayout : e.profile.layout.Consistent) :
    (misfit? e.profile.layout header payload = none ∧
      ∃ bytes frame, e.frameOf header payload = .ok (bytes, frame) ∧
        frame.Carries e.profile.layout bytes payload) ∨
    ∃ fault, misfit? e.profile.layout header payload = some fault ∧
      e.frameOf header payload = .error (.argument fault) := by
  cases hmisfit : misfit? e.profile.layout header payload with
  | none =>
    obtain ⟨hmode, htype, hlen⟩ := (misfit?_eq_none_iff _ _ _).mp hmisfit
    obtain ⟨bytes, frame, hframe, -, -, hcarries⟩ :=
      e.frameOf_eq_ok header payload hlayout hmode htype hlen
    exact Or.inl ⟨rfl, bytes, frame, hframe, hcarries⟩
  | some fault =>
    exact Or.inr ⟨fault, rfl, e.frameOf_of_misfit header payload fault hlayout hmisfit⟩

/-! ### Calls -/

theorem build_of_error (e : Encoder) (header : Header) (payload : List UInt8) (fault : Error)
    (h : e.frameOf header payload = .error fault) : e.build header payload = (.error fault, e) := by
  rw [build, h]

theorem append_of_error (e : Encoder) (header : Header) (payload : List UInt8) (fault : Error)
    (h : e.frameOf header payload = .error fault) (out : Array Int16) :
    e.append header payload out = (.error fault, e, out) := by
  rw [append, e.build_of_error header payload fault h]

theorem encode_of_error (e : Encoder) (header : Header) (payload : List UInt8) (fault : Error)
    (h : e.frameOf header payload = .error fault) :
    e.encode header payload = (.error fault, e) := by
  rw [encode, e.append_of_error header payload fault h]

theorem build_of_frameOf (e : Encoder) (header : Header) (payload : List UInt8)
    (bytes : List UInt8) (frame : InterleavedFrame)
    (h : e.frameOf header payload = .ok (bytes, frame)) :
    let stream := frame.symbols e.profile.layout.endFlag e.disparity
    e.build header payload =
      (.ok ⟨bytes, frame, stream.symbols.toList⟩, { e with disparity := stream.disparity }) := by
  rw [build, h]

theorem encode_of_frameOf (e : Encoder) (header : Header) (payload : List UInt8)
    (bytes : List UInt8) (frame : InterleavedFrame)
    (h : e.frameOf header payload = .ok (bytes, frame)) :
    e.encode header payload =
      (.ok (e.append header payload #[]).2.2, (e.append header payload #[]).2.1) := by
  rw [encode, e.append_of_frameOf header payload #[] bytes frame h]

/-- What a call gives: a frame, a frame and the buffer that it went into, or samples alone. -/
inductive Reply where
  | built (result : Except Error EncodedFrame)
  | appended (result : Except Error EncodedFrame) (out : Array Int16)
  | encoded (result : Except Error (Array Int16))

/-- What the next call gives. -/
def reply (e : Encoder) : Call → Reply
  | .build header payload => .built (e.build header payload).1
  | .append header payload out =>
    let (result, _, out) := e.append header payload out
    .appended result out
  | .encode header payload => .encoded (e.encode header payload).1

/-- What the calls of a session give, one by one. -/
def replies (e : Encoder) : List Call → List Reply
  | [] => []
  | call :: rest => e.reply call :: (e.after call).replies rest

theorem length_replies (e : Encoder) (calls : List Call) :
    (e.replies calls).length = calls.length := by
  induction calls generalizing e with
  | nil => rfl
  | cons call rest ih => rw [replies, List.length_cons, List.length_cons, ih]

theorem afterAll_cons (e : Encoder) (call : Call) (rest : List Call) :
    e.afterAll (call :: rest) = (e.after call).afterAll rest := rfl

theorem afterAll_append (e : Encoder) (xs ys : List Call) :
    e.afterAll (xs ++ ys) = (e.afterAll xs).afterAll ys := List.foldl_append

theorem replies_append (e : Encoder) (xs ys : List Call) :
    e.replies (xs ++ ys) = e.replies xs ++ (e.afterAll xs).replies ys := by
  induction xs generalizing e with
  | nil => rfl
  | cons call rest ih =>
    rw [List.cons_append, replies, ih, replies, afterAll_cons, List.cons_append]

/-- A session goes on behind a call that changed nothing as if it had not been made. -/
theorem session_without_call (e : Encoder) (calls : List Call) (call : Call) (rest : List Call)
    (h : (e.afterAll calls).after call = e.afterAll calls) :
    (e.replies (calls ++ call :: rest)).eraseIdx calls.length = e.replies (calls ++ rest) ∧
      e.afterAll (calls ++ call :: rest) = e.afterAll (calls ++ rest) := by
  constructor
  · rw [replies_append, replies_append, replies, h,
      List.eraseIdx_append_of_length_le (length_replies e calls).le, length_replies, Nat.sub_self,
      List.eraseIdx_cons_zero]
  · rw [afterAll_append, afterAll_append, afterAll_cons, h]

/-- After any calls, each kind of call is refused exactly for a mode number above 7, a frame type
above 15 or a payload that is not as long as the layout asks for. The encoder and the buffer are
then as before, and whatever follows gives what it would give without the call. -/
theorem refused_call_changes_nothing (p : Profile) (start : Encoder) (calls : List Call)
    (header : Header) (payload : List UInt8) (out : Array Int16)
    (hstart : ofProfile p = .ok start) :
    let e := start.afterAll calls
    let refused : Prop :=
      7 < header.modeId ∨ 15 < header.frameType ∨ payload.length ≠ p.layout.payloadLength
    ((∃ fault, (e.build header payload).1 = .error fault) ↔ refused) ∧
    ((∃ fault, (e.append header payload out).1 = .error fault) ↔ refused) ∧
    ((∃ fault, (e.encode header payload).1 = .error fault) ↔ refused) ∧
    (refused →
      (e.build header payload).2 = e ∧
      (e.append header payload out).2 = (e, out) ∧
      (e.encode header payload).2 = e ∧
      ∀ call ∈ [.build header payload, .append header payload out, .encode header payload],
        ∀ rest,
          (start.replies (calls ++ call :: rest)).eraseIdx calls.length =
            start.replies (calls ++ rest) ∧
          start.afterAll (calls ++ call :: rest) = start.afterAll (calls ++ rest)) := by
  intro e refused
  obtain ⟨hprofile, hlayout⟩ := ofProfile_eq_ok p start hstart
  have hp : e.profile = p := by rw [profile_afterAll, hprofile]
  have hrefused : refused ↔ ¬misfit? p.layout header payload = none := by
    rw [misfit?_eq_none_iff, not_and_or, not_and_or, UInt8.not_le, UInt8.not_le]
  have hcases := e.frameOf_cases header payload (hp ▸ hlayout)
  rw [hp] at hcases
  rcases hcases with ⟨hfits, bytes, frame, hframe, -⟩ | ⟨fault, hmisfit, herror⟩
  · have hfits : ¬refused := by rw [hrefused, not_not, hfits]
    have hno : ∀ {α : Type} (result : α), ¬∃ fault : Error, Except.ok result = .error fault := by
      rintro α result ⟨fault, h⟩
      exact absurd h (by simp)
    rw [e.build_of_frameOf header payload bytes frame hframe,
      e.encode_of_frameOf header payload bytes frame hframe,
      e.append_of_frameOf header payload out bytes frame hframe]
    exact ⟨iff_of_false (hno _) hfits, iff_of_false (hno _) hfits, iff_of_false (hno _) hfits,
      fun h => absurd h hfits⟩
  · have hrefused : refused := by
      rw [hrefused, hmisfit]
      exact Option.some_ne_none fault
    have hbuild := e.build_of_error header payload _ herror
    have happend := e.append_of_error header payload _ herror out
    have hencode := e.encode_of_error header payload _ herror
    rw [hbuild, happend, hencode]
    refine ⟨iff_of_true ⟨_, rfl⟩ hrefused, iff_of_true ⟨_, rfl⟩ hrefused,
      iff_of_true ⟨_, rfl⟩ hrefused, fun _ => ⟨rfl, rfl, rfl, fun call hcall rest => ?_⟩⟩
    have hafter : e.after call = e := by
      simp only [List.mem_cons, List.not_mem_nil, or_false] at hcall
      rcases hcall with rfl | rfl | rfl
      · exact congrArg Prod.snd hbuild
      · exact congrArg (fun r => r.2.1) happend
      · exact congrArg Prod.snd hencode
    exact start.session_without_call calls call rest hafter

theorem refused_call_changes_nothing_frame_type :
    let calls : List Call := [.encode ⟨7, 1, 2, 1⟩ (List.replicate 58 7)]
    let header : Header := ⟨7, 1, 3, 16⟩
    let payload : List UInt8 := List.replicate 58 0
    let out : Array Int16 := #[1, 2, 3]
    let e := (start .fsk).afterAll calls
    ofProfile .fsk = .ok (start .fsk) ∧ 15 < header.frameType ∧
      (∃ fault, (e.append header payload out).1 = .error fault) ∧
      (e.append header payload out).2 = (e, out) ∧
      (start .fsk).afterAll (calls ++ [.append header payload out, .build header []]) =
        (start .fsk).afterAll (calls ++ [.build header []]) := by
  intro calls header payload out e
  have hstart : ofProfile .fsk = .ok (start .fsk) := ofProfile_ofModulation .fsk
  have htype : 15 < header.frameType := by decide
  obtain ⟨-, hiff, -, hunchanged⟩ :=
    refused_call_changes_nothing .fsk (start .fsk) calls header payload out hstart
  obtain ⟨-, happend, -, hsession⟩ := hunchanged (Or.inr (Or.inl htype))
  refine ⟨hstart, htype, hiff.mpr (Or.inr (Or.inl htype)), happend, ?_⟩
  exact (hsession (.append header payload out) (by simp) [.build header []]).2

end Downlink.Encoder
