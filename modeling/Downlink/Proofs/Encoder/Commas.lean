import Mathlib
import Downlink.Proofs.Encoder.Counters
import Downlink.Proofs.LineCode.Comma

/-!
# Finding the frames of a session

A frequency-shift session sends its frames one behind the other. What is only built in between moves
the disparity and sends nothing, so a frame can start at either disparity, and the seam of two
frames can join any two. A receiver still finds the first bit of each frame by the comma and finds
nothing else.
-/

namespace Downlink.Encoder

theorem onAir_symbols (p : Profile) (hsync : p.sync = .fsk) (frames : List EncodedFrame) :
    LineCode.onAir (frames.map EncodedFrame.symbols) = frames.flatMap (EncodedFrame.air p) := by
  have hair : ∀ encoded ∈ frames, airBits .fsk encoded.symbols = encoded.air p := by
    intro encoded _
    rw [EncodedFrame.air, hsync]
  rw [LineCode.onAir, List.flatMap_map]
  exact List.flatMap_congr hair

theorem carriesData_of_run {e next : Encoder} {log : Log} (h : Run e next log)
    (hflag : e.profile.layout.endFlag = false) (encoded : EncodedFrame)
    (hmem : encoded ∈ sent log) : LineCode.CarriesData encoded.symbols := by
  obtain ⟨rd, hcoded⟩ := h.coded encoded (mem_made_of_mem_sent log encoded hmem)
  have hinputs : encoded.inputs e.profile = encoded.frame.bytes.map .data := by
    rw [EncodedFrame.inputs, InterleavedFrame.lineInputs, hflag, if_neg Bool.false_ne_true,
      List.append_nil]
  exact ⟨rd, encoded.frame.bytes, by rw [← hinputs]; exact hcoded⟩

/-- On air, in a session with the frequency-shift sync word and without flags, a comma starts
exactly at the first bit of each frame. There is no inverse comma and no run of more than five equal
bits. -/
theorem commas_mark_frames (p : Profile) (start : Encoder) (calls : List Call)
    (hstart : ofProfile p = .ok start) (hsync : p.sync = .fsk)
    (hflag : p.layout.endFlag = false) :
    let frames := sent (start.log calls)
    let stream := frames.flatMap (EncodedFrame.air p)
    (∀ i, StartsAt [false, false, true, true, true, true, true] stream i ↔
      ∃ k < frames.length, i = ((frames.take k).flatMap (EncodedFrame.air p)).length) ∧
    (∀ i, ¬StartsAt [true, true, false, false, false, false, false] stream i) ∧
    ∀ i b, ¬StartsAt (List.replicate 6 b) stream i := by
  intro frames stream
  obtain ⟨hprofile, -⟩ := ofProfile_eq_ok p start hstart
  have hdata : ∀ symbols ∈ frames.map EncodedFrame.symbols, LineCode.CarriesData symbols := by
    intro symbols hmem
    obtain ⟨encoded, hsent, rfl⟩ := List.mem_map.mp hmem
    have hrun := start.run_afterAll calls
    exact carriesData_of_run hrun (by rw [hprofile]; exact hflag) encoded hsent
  obtain ⟨hcomma, hinverse, hequal⟩ :=
    LineCode.commas_onAir (frames.map EncodedFrame.symbols) hdata
  rw [onAir_symbols p hsync] at hcomma hinverse hequal
  refine ⟨fun i => (hcomma i).trans ?_, hinverse, hequal⟩
  simp only [List.length_map, ← List.map_take, onAir_symbols p hsync]

theorem commas_mark_frames_built_between :
    let header : Header := ⟨7, 65535, 33554431, 15⟩
    let payload : List UInt8 := List.replicate 58 0xF1
    let calls : List Call :=
      [.encode header payload, .build header payload, .encode ⟨8, 0, 0, 0⟩ payload,
        .append header payload #[3]]
    let frames := sent ((start .fsk).log calls)
    ofProfile .fsk = .ok (start .fsk) ∧ Profile.fsk.sync = .fsk ∧
      Profile.fsk.layout.endFlag = false ∧ frames.length = 2 ∧
      StartsAt [false, false, true, true, true, true, true]
        (frames.flatMap (EncodedFrame.air .fsk))
        ((frames.take 1).flatMap (EncodedFrame.air .fsk)).length ∧
      ¬StartsAt (List.replicate 6 true) (frames.flatMap (EncodedFrame.air .fsk)) 970 := by
  intro header payload calls frames
  have hstart : ofProfile .fsk = .ok (start .fsk) := ofProfile_ofModulation .fsk
  obtain ⟨-, hlayout⟩ := ofProfile_eq_ok .fsk (start .fsk) hstart
  have hlength : frames.length = 2 := by
    have hcount := (start .fsk).countP_sent_replies calls hlayout
    rw [← length_sent_log] at hcount
    exact hcount.trans (by decide)
  obtain ⟨hcomma, -, hequal⟩ := commas_mark_frames .fsk (start .fsk) calls hstart rfl rfl
  exact ⟨hstart, rfl, rfl, hlength,
    (hcomma _).mpr ⟨1, by rw [hlength]; exact Nat.one_lt_two, rfl⟩, hequal 970 true⟩

end Downlink.Encoder
