import Mathlib
import Downlink.Proofs.Encoder.Log
import Downlink.Proofs.LineCode.Decoding

/-!
# The counters of a session

The frame counter, the sizes of the buffers, the symbols and the reversals of a session are those of
its log, though each of them moves at its own point of a call. The size of a frame is known from the
profile before anything is sent.
-/

namespace Downlink

/-! ### Sizes -/

theorem length_airBits (sync : SyncWord) (symbols : List Symbol) :
    (airBits sync symbols).length = sync.width + 10 * symbols.length := by
  rw [airBits, List.length_append, SyncWord.length_bits, length_flatMap_bits]

theorem InterleavedFrame.length_lineInputs (frame : InterleavedFrame) (l : Layout)
    (hwritten : frame.written.length = l.logicalLength)
    (hparity : frame.parity.length = l.subFrames) :
    (frame.lineInputs l.endFlag).length = l.symbolCount := by
  rw [lineInputs, List.length_append, List.length_map, length_bytes, hwritten, hparity,
    Nat.mul_comm parityBytes, Layout.symbolCount, Layout.parityLength]
  cases l.endFlag with
  | true => rfl
  | false => rfl

namespace Encoder

theorem size_append (e : Encoder) (header : Header) (payload bytes : List UInt8)
    (frame : InterleavedFrame) (out : Array Int16) (hlayout : e.profile.layout.Consistent)
    (hwaveform : e.modulator.waveform = e.profile.waveform)
    (hframe : e.frameOf header payload = .ok (bytes, frame))
    (hcarries : frame.Carries e.profile.layout bytes payload) :
    (e.append header payload out).2.2.size = out.size + e.profile.frameSamples := by
  have hinputs := frame.length_lineInputs e.profile.layout
    (e.profile.layout.length_written bytes payload frame hlayout hcarries) hcarries.length_parity
  have hair : (airBits e.profile.sync (frame.symbols e.profile.layout.endFlag
      e.disparity).symbols.toList).length = e.profile.frameBits := by
    rw [length_airBits, frame.symbols_eq, LineCode.length_encodeAll, hinputs, Profile.frameBits,
      Nat.mul_comm]
  have happend := e.append_of_frameOf header payload out bytes frame hframe
  rw [happend, Modulator.size_pushBits, hair, hwaveform, Profile.frameSamples]

/-- The buffer that a call is given. -/
def Call.buffer : Call → Array Int16
  | .append _ _ out => out
  | _ => #[]

/-- The buffer that a call gives back. -/
def Reply.buffer : Reply → Array Int16
  | .appended _ out => out
  | .encoded (.ok out) => out
  | _ => #[]

/-- Whether a reply is that of a call whose frame went on air. -/
def Reply.sent : Reply → Bool
  | .built _ => false
  | .appended result _ => result.isOk
  | .encoded result => result.isOk

theorem sent_reply (e : Encoder) (call : Call) :
    (e.reply call).sent = (call.sends && (e.reply call).succeeds) := by
  cases call with
  | build header payload => rfl
  | append header payload out => rfl
  | encode header payload => rfl

/-- A frame that goes on air adds its samples to the buffer, and nothing else adds any. -/
theorem size_buffer_reply (e : Encoder) (call : Call) (hlayout : e.profile.layout.Consistent)
    (hwaveform : e.modulator.waveform = e.profile.waveform) :
    (e.reply call).buffer.size =
      call.buffer.size + if (e.reply call).sent then e.profile.frameSamples else 0 := by
  cases call with
  | build header payload => rfl
  | append header payload out =>
    rcases e.frameOf_cases header payload hlayout with
      ⟨-, bytes, frame, hframe, hcarries⟩ | ⟨fault, -, herror⟩
    · have hsize := e.size_append header payload bytes frame out hlayout hwaveform hframe hcarries
      rw [e.append_of_frameOf header payload out bytes frame hframe] at hsize
      rw [reply, e.append_of_frameOf header payload out bytes frame hframe]
      exact hsize
    · rw [reply, e.append_of_error header payload _ herror out]
      rfl
  | encode header payload =>
    rcases e.frameOf_cases header payload hlayout with
      ⟨-, bytes, frame, hframe, hcarries⟩ | ⟨fault, -, herror⟩
    · have hsize := e.size_append header payload bytes frame #[] hlayout hwaveform hframe hcarries
      rw [reply, e.encode_of_frameOf header payload bytes frame hframe]
      exact hsize
    · rw [reply, e.encode_of_error header payload _ herror]
      rfl

/-! ### Sessions -/

theorem getElem?_replies (e : Encoder) (calls : List Call) (i : Nat) :
    (e.replies calls)[i]? = calls[i]?.map (e.afterAll (calls.take i)).reply := by
  induction calls generalizing e i with
  | nil => rfl
  | cons call rest ih =>
    cases i with
    | zero => rfl
    | succ i => exact ih (e.after call) i

theorem length_made_log (e : Encoder) (calls : List Call) :
    (made (e.log calls)).length = (e.replies calls).countP Reply.succeeds := by
  induction calls generalizing e with
  | nil => rfl
  | cons call rest ih =>
    rcases e.after_cases call with ⟨hnone, hrefused, -⟩ | ⟨encoded, hsome, hsucceeds, -⟩
    · rw [log_cons_of_none e call rest hnone, replies, List.countP_cons, hrefused]
      exact ih (e.after call)
    · rw [log_cons_of_some e call rest encoded hsome, replies, List.countP_cons, hsucceeds,
        made_append, List.length_append, ih, Nat.add_comm]
      rfl

theorem length_sent_log (e : Encoder) (calls : List Call) :
    (sent (e.log calls)).length = (e.replies calls).countP Reply.sent := by
  induction calls generalizing e with
  | nil => rfl
  | cons call rest ih =>
    rw [replies, List.countP_cons, sent_reply]
    rcases e.after_cases call with ⟨hnone, hrefused, -⟩ | ⟨encoded, hsome, hsucceeds, -⟩
    · rw [log_cons_of_none e call rest hnone, ih, hrefused, Bool.and_false]
      rfl
    · rw [log_cons_of_some e call rest encoded hsome, sent_append, sent_singleton,
        List.length_append, ih, hsucceeds, Bool.and_true, Nat.add_comm]
      cases call.sends with
      | true => rfl
      | false => rfl

theorem countP_sent_replies (e : Encoder) (calls : List Call)
    (hlayout : e.profile.layout.Consistent) :
    (e.replies calls).countP Reply.sent =
      calls.countP fun call => call.sends && call.fits e.profile.layout := by
  induction calls generalizing e with
  | nil => rfl
  | cons call rest ih =>
    have hprofile := e.profile_after call
    rw [replies, List.countP_cons, List.countP_cons, sent_reply, e.succeeds_reply call hlayout,
      ih (e.after call) (by rw [hprofile]; exact hlayout), hprofile]

/-- After any calls the frame counter is the number of frames that went on air. Each of them adds
the samples of one frame to the buffer of its call, and no other call adds any. The symbols of all
frames, those that were only built included, are the line code of their bytes, parity and flags,
started once. A phase-shift session has reversed its phase at every zero on air, any other never. -/
theorem counters_follow_log (p : Profile) (start : Encoder) (calls : List Call)
    (hstart : ofProfile p = .ok start) :
    let done := start.afterAll calls
    let replies := start.replies calls
    let log := start.log calls
    (made log).length = replies.countP Reply.succeeds ∧
    (sent log).length = replies.countP Reply.sent ∧
    done.frames = replies.countP Reply.sent ∧
    (∀ (i : Nat) (call : Call) (reply : Reply),
      calls[i]? = some call → replies[i]? = some reply →
      reply.buffer.size = call.buffer.size + if reply.sent then p.frameSamples else 0) ∧
    (made log).flatMap EncodedFrame.symbols =
      (LineCode.encodeAll .negative ((made log).flatMap (EncodedFrame.inputs p))).1 ∧
    (∀ encoded ∈ made log, encoded.symbols.length = (encoded.inputs p).length) ∧
    done.modulator.reversals =
      match p.waveform.modulation with
      | .fsk => 0
      | .bpsk => ((sent log).flatMap (EncodedFrame.air p)).count false := by
  intro done replies log
  obtain ⟨-, hlayout⟩ := ofProfile_eq_ok p start hstart
  obtain ⟨-, rfl⟩ := (ofProfile_eq_ok_iff p start).mp hstart
  have hrun := (Encoder.start p).run_afterAll calls
  have hsent := (Encoder.start p).length_sent_log calls
  refine ⟨length_made_log _ calls, hsent, ?_, ?_, hrun.symbols_eq, ?_, ?_⟩
  · rw [← hsent]
    exact hrun.frames_eq.trans (Nat.zero_add _)
  · intro i call reply hcall hreply
    -- The call meets the encoder that those in front of it left, a run from the start.
    have hfront := (Encoder.start p).run_afterAll (calls.take i)
    rw [getElem?_replies, hcall] at hreply
    obtain rfl := Option.some.inj hreply
    have hsize := ((Encoder.start p).afterAll (calls.take i)).size_buffer_reply call
      (by rw [hfront.profile_eq]; exact hlayout)
      (by rw [hfront.profile_eq, hfront.waveform_eq]; rfl)
    rw [hfront.profile_eq] at hsize
    exact hsize
  · intro encoded hmem
    obtain ⟨rd, hcoded⟩ := hrun.coded encoded hmem
    rw [hcoded, LineCode.length_encodeAll]
    rfl
  · exact hrun.reversals_eq.trans (Nat.zero_add _)

theorem counters_follow_log_refused_between :
    let header : Header := ⟨0, 7, 3, 4⟩
    let payload : List UInt8 := List.replicate 78 0x55
    let calls : List Call :=
      [.build header payload, .append ⟨8, 7, 3, 4⟩ payload #[1], .append header payload #[5, 6]]
    let replies := (start .bpsk).replies calls
    let log := (start .bpsk).log calls
    ofProfile .bpsk = .ok (start .bpsk) ∧
      (∃ reply, replies[2]? = some reply ∧ reply.sent = true ∧ reply.buffer.size = 2 + 230040) ∧
      ((start .bpsk).afterAll calls).frames = 1 ∧
      (made log).flatMap EncodedFrame.symbols =
        (LineCode.encodeAll .negative ((made log).flatMap (EncodedFrame.inputs .bpsk))).1 ∧
      ((start .bpsk).afterAll calls).modulator.reversals =
        ((sent log).flatMap (EncodedFrame.air .bpsk)).count false := by
  intro header payload calls replies log
  have hstart : ofProfile .bpsk = .ok (start .bpsk) := ofProfile_ofModulation .bpsk
  obtain ⟨-, hlayout⟩ := ofProfile_eq_ok .bpsk (start .bpsk) hstart
  obtain ⟨-, -, hframes, hsizes, hsymbols, -, hreversals⟩ :=
    counters_follow_log .bpsk (start .bpsk) calls hstart
  have hcount := (start .bpsk).countP_sent_replies calls hlayout
  have hreply : ∃ reply, replies[2]? = some reply ∧ reply.sent = true := by
    have hprofile : ((start .bpsk).afterAll (calls.take 2)).profile = .bpsk := profile_afterAll _ _
    refine ⟨_, (start .bpsk).getElem?_replies calls 2, ?_⟩
    rw [sent_reply, succeeds_reply _ _ (by rw [hprofile]; exact hlayout), hprofile]
    decide
  obtain ⟨reply, hreply, hsent⟩ := hreply
  have hsize : reply.buffer.size = 2 + if reply.sent then Profile.bpsk.frameSamples else 0 :=
    hsizes 2 _ reply rfl hreply
  rw [if_pos hsent] at hsize
  exact ⟨hstart, ⟨reply, hreply, hsent, hsize⟩, hframes.trans (hcount.trans (by decide)), hsymbols,
    hreversals⟩

end Encoder

end Downlink
