import Mathlib
import Downlink.Proofs.Encoder.Refusal
import Downlink.Proofs.Modulator.Counters

/-!
# The log of a session

The log holds the calls of a session that are not refused, each with the frame it made. What a
stretch of a session does to the encoder is a `Run`: its frames are coded one behind the other from
the running disparity on, and the bits of those that go on air pass through the modulator. A call is
a run of one frame or of none, and runs compose, so a session is a run of its log.
-/

namespace Downlink

/-- The line inputs that the symbols of a frame stand for. -/
def EncodedFrame.inputs (p : Profile) (encoded : EncodedFrame) : List LineInput :=
  encoded.frame.lineInputs p.layout.endFlag

/-- The bits of a frame on air, behind the sync word of a profile. -/
def EncodedFrame.air (p : Profile) (encoded : EncodedFrame) : List Bool :=
  airBits p.sync encoded.symbols

namespace Encoder

/-- The frame that a call makes unless it is refused. Of `encode` only the samples come out, but the
frame is the one that it would have put into a buffer. -/
def frame? (e : Encoder) : Call → Option EncodedFrame
  | .build header payload => (e.build header payload).1.toOption
  | .append header payload out => (e.append header payload out).1.toOption
  | .encode header payload => (e.append header payload #[]).1.toOption

/-- The header that a call is made with. -/
def Call.header : Call → Header
  | .build header _ => header
  | .append header _ _ => header
  | .encode header _ => header

/-- The payload that a call is made with. -/
def Call.payload : Call → List UInt8
  | .build _ payload => payload
  | .append _ payload _ => payload
  | .encode _ payload => payload

/-- Whether the frame of a call fits a layout. -/
def Call.fits (l : Layout) (call : Call) : Bool := (misfit? l call.header call.payload).isNone

/-- Whether the frame of a call goes on air. -/
def Call.sends : Call → Bool
  | .build _ _ => false
  | .append _ _ _ => true
  | .encode _ _ => true

/-- Whether a reply is that of a call that was not refused. -/
def Reply.succeeds : Reply → Bool
  | .built result => result.isOk
  | .appended result _ => result.isOk
  | .encoded result => result.isOk

/-- The calls that are not refused, each with its frame. -/
abbrev Log := List (Call × EncodedFrame)

/-- Makes calls and logs those that are not refused. -/
def log (e : Encoder) : List Call → Log
  | [] => []
  | call :: rest =>
    match e.frame? call with
    | some encoded => (call, encoded) :: (e.after call).log rest
    | none => (e.after call).log rest

theorem log_cons_of_none (e : Encoder) (call : Call) (rest : List Call) (h : e.frame? call = none) :
    e.log (call :: rest) = (e.after call).log rest := by
  rw [log, h]

theorem log_cons_of_some (e : Encoder) (call : Call) (rest : List Call) (encoded : EncodedFrame)
    (h : e.frame? call = some encoded) :
    e.log (call :: rest) = [(call, encoded)] ++ (e.after call).log rest := by
  rw [log, h, List.singleton_append]

/-- The frames of a log, those that were only built included. -/
def made (log : Log) : List EncodedFrame := log.map Prod.snd

/-- The frames of a log that went on air. -/
def sent (log : Log) : List EncodedFrame :=
  (log.filter fun entry => entry.1.sends).map Prod.snd

theorem made_append (xs ys : Log) : made (xs ++ ys) = made xs ++ made ys :=
  List.map_append

theorem sent_append (xs ys : Log) : sent (xs ++ ys) = sent xs ++ sent ys := by
  rw [sent, List.filter_append, List.map_append]
  rfl

theorem mem_made_of_mem_sent (log : Log) (encoded : EncodedFrame)
    (h : encoded ∈ sent log) : encoded ∈ made log :=
  (List.filter_sublist.map Prod.snd).subset h

/-! ### Runs -/

/-- A stretch of a session with a log takes an encoder to the next. -/
structure Run (e next : Encoder) (log : Log) : Prop where
  profile_eq : next.profile = e.profile
  symbols_eq : (made log).flatMap EncodedFrame.symbols =
    (LineCode.encodeAll e.disparity ((made log).flatMap (EncodedFrame.inputs e.profile))).1
  disparity_eq : next.disparity =
    (LineCode.encodeAll e.disparity ((made log).flatMap (EncodedFrame.inputs e.profile))).2
  coded : ∀ encoded ∈ made log, ∃ rd,
    encoded.symbols = (LineCode.encodeAll rd (encoded.inputs e.profile)).1
  frames_eq : next.frames = e.frames + (sent log).length
  waveform_eq : next.modulator.waveform = e.modulator.waveform
  reversals_eq : next.modulator.reversals = e.modulator.reversals +
    e.modulator.waveform.reversalsOf ((sent log).flatMap (EncodedFrame.air e.profile))

theorem Run.refl (e : Encoder) : Run e e [] where
  profile_eq := rfl
  symbols_eq := rfl
  disparity_eq := rfl
  coded := by
    rintro encoded h
    exact absurd h List.not_mem_nil
  frames_eq := rfl
  waveform_eq := rfl
  reversals_eq := by
    have hnone : e.modulator.waveform.reversalsOf [] = 0 := Waveform.reversalsOf_nil _
    show e.modulator.reversals = e.modulator.reversals + e.modulator.waveform.reversalsOf []
    rw [hnone, Nat.add_zero]

theorem Run.trans {e mid next : Encoder} {xs ys : Log} (hx : Run e mid xs)
    (hy : Run mid next ys) : Run e next (xs ++ ys) := by
  have hsymbols := hy.symbols_eq
  have hdisparity := hy.disparity_eq
  have hcoded := hy.coded
  have hreversals := hy.reversals_eq
  -- What the second run says of the encoder in the middle is put in terms of the first encoder.
  rw [hx.profile_eq, hx.disparity_eq] at hsymbols hdisparity
  rw [hx.profile_eq] at hcoded
  rw [hx.profile_eq, hx.waveform_eq, hx.reversals_eq] at hreversals
  constructor
  · exact hy.profile_eq.trans hx.profile_eq
  · rw [made_append, List.flatMap_append, List.flatMap_append, LineCode.encodeAll_append,
      hx.symbols_eq, hsymbols]
  · rw [made_append, List.flatMap_append, LineCode.encodeAll_append, hdisparity]
  · intro encoded hmem
    rw [made_append, List.mem_append] at hmem
    rcases hmem with hfront | hback
    · exact hx.coded encoded hfront
    · exact hcoded encoded hback
  · rw [hy.frames_eq, hx.frames_eq, sent_append, List.length_append, Nat.add_assoc]
  · exact hy.waveform_eq.trans hx.waveform_eq
  · rw [hreversals, sent_append, List.flatMap_append, Waveform.reversalsOf_append, Nat.add_assoc]

/-! ### Calls -/

theorem made_singleton (call : Call) (encoded : EncodedFrame) :
    made [(call, encoded)] = [encoded] := rfl

theorem sent_singleton (call : Call) (encoded : EncodedFrame) :
    sent [(call, encoded)] = if call.sends then [encoded] else [] := by
  rw [sent, List.filter_singleton]
  cases call.sends with
  | true => rfl
  | false => rfl

/-- A frame is a run of itself if the encoder takes its disparity on, and counts and modulates it
exactly if it goes on air. -/
theorem Run.single {e next : Encoder} (call : Call) (bytes : List UInt8) (frame : InterleavedFrame)
    (out : Array Int16) :
    let stream := frame.symbols e.profile.layout.endFlag e.disparity
    let air := airBits e.profile.sync stream.symbols.toList
    next.profile = e.profile → next.disparity = stream.disparity →
    next.frames = e.frames + (if call.sends then 1 else 0) →
    next.modulator = (if call.sends then (e.modulator.pushBits air out).1 else e.modulator) →
    Run e next [(call, ⟨bytes, frame, stream.symbols.toList⟩)] := by
  intro stream air hprofile hdisparity hframes hmodulator
  have hstream := frame.symbols_eq e.profile.layout.endFlag e.disparity
  have hcoded : stream.symbols.toList =
      (LineCode.encodeAll e.disparity (frame.lineInputs e.profile.layout.endFlag)).1 :=
    congrArg (fun s => s.symbols.toList) hstream
  constructor
  · exact hprofile
  · rw [made_singleton, List.flatMap_singleton, List.flatMap_singleton]
    exact hcoded
  · rw [made_singleton, List.flatMap_singleton]
    exact hdisparity.trans (congrArg SymbolStream.disparity hstream)
  · rintro encoded hmem
    obtain rfl := List.mem_singleton.mp hmem
    exact ⟨e.disparity, hcoded⟩
  · rw [hframes, sent_singleton]
    cases call.sends with
    | true => rfl
    | false => rfl
  · rw [hmodulator]
    cases call.sends with
    | true => exact Modulator.waveform_pushBits _ _ _
    | false => rfl
  · rw [hmodulator, sent_singleton]
    cases call.sends with
    | true =>
      rw [if_pos rfl, if_pos rfl, List.flatMap_singleton]
      exact Modulator.reversals_pushBits _ _ _
    | false => exact (Run.refl e).reversals_eq

theorem refused_of_error (e : Encoder) (call : Call) (fault : Error)
    (h : e.frameOf call.header call.payload = .error fault) :
    e.frame? call = none ∧ (e.reply call).succeeds = false ∧ e.after call = e := by
  cases call with
  | build header payload =>
    rw [frame?, reply, after, e.build_of_error header payload fault h]
    exact ⟨rfl, rfl, rfl⟩
  | append header payload out =>
    rw [frame?, reply, after, e.append_of_error header payload fault h out]
    exact ⟨rfl, rfl, rfl⟩
  | encode header payload =>
    rw [frame?, reply, after, e.encode_of_error header payload fault h,
      e.append_of_error header payload fault h #[]]
    exact ⟨rfl, rfl, rfl⟩

theorem made_of_frameOf (e : Encoder) (call : Call) (bytes : List UInt8) (frame : InterleavedFrame)
    (h : e.frameOf call.header call.payload = .ok (bytes, frame)) :
    ∃ encoded, e.frame? call = some encoded ∧ (e.reply call).succeeds = true ∧
      Run e (e.after call) [(call, encoded)] := by
  cases call with
  | build header payload =>
    rw [frame?, reply, after, e.build_of_frameOf header payload bytes frame h]
    exact ⟨_, rfl, rfl, Run.single _ bytes frame #[] rfl rfl rfl rfl⟩
  | append header payload out =>
    rw [frame?, reply, after, e.append_of_frameOf header payload out bytes frame h]
    exact ⟨_, rfl, rfl, Run.single _ bytes frame out rfl rfl rfl rfl⟩
  | encode header payload =>
    rw [frame?, reply, after, e.encode_of_frameOf header payload bytes frame h,
      e.append_of_frameOf header payload #[] bytes frame h]
    exact ⟨_, rfl, rfl, Run.single _ bytes frame #[] rfl rfl rfl rfl⟩

/-- A refused call is not in the log and moves nothing; any other is a run of its frame. -/
theorem after_cases (e : Encoder) (call : Call) :
    (e.frame? call = none ∧ (e.reply call).succeeds = false ∧ e.after call = e) ∨
    ∃ encoded, e.frame? call = some encoded ∧ (e.reply call).succeeds = true ∧
      Run e (e.after call) [(call, encoded)] := by
  rcases hframe : e.frameOf call.header call.payload with fault | ⟨bytes, frame⟩
  · exact Or.inl (e.refused_of_error call fault hframe)
  · exact Or.inr (e.made_of_frameOf call bytes frame hframe)

theorem succeeds_reply (e : Encoder) (call : Call) (hlayout : e.profile.layout.Consistent) :
    (e.reply call).succeeds = call.fits e.profile.layout := by
  rcases e.frameOf_cases call.header call.payload hlayout with
    ⟨hfits, bytes, frame, hframe, -⟩ | ⟨fault, hmisfit, herror⟩
  · obtain ⟨-, -, hsucceeds, -⟩ := e.made_of_frameOf call bytes frame hframe
    rw [hsucceeds, Call.fits, hfits]
    rfl
  · rw [(e.refused_of_error call _ herror).2.1, Call.fits, hmisfit]
    rfl

theorem run_afterAll (e : Encoder) (calls : List Call) :
    Run e (e.afterAll calls) (e.log calls) := by
  -- A refused call drops out of the log and of the session; any other puts its run in front.
  induction calls generalizing e with
  | nil => exact Run.refl e
  | cons call rest ih =>
    rcases e.after_cases call with ⟨hnone, -, hsame⟩ | ⟨encoded, hsome, -, hrun⟩
    · rw [log_cons_of_none e call rest hnone, afterAll_cons, hsame]
      exact ih e
    · rw [log_cons_of_some e call rest encoded hsome, afterAll_cons]
      exact hrun.trans (ih (e.after call))

end Encoder

end Downlink
