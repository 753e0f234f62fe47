import Mathlib
import Downlink.Proofs.Decimal.Written
import Downlink.Station

/-!
# Descriptions that are read back

Whatever form a description has, the station that is read from it can be written as four words, and
these read as a station with the same callsign and the same count.
-/

namespace Downlink.Station

theorem bind_eq_ok {ε α β : Type} {x : Except ε α} {f : α → Except ε β} {b : β}
    (h : x >>= f = .ok b) : ∃ a, x = .ok a ∧ f a = .ok b := by
  cases x with
  | error fault => exact absurd h (by simp [bind, Except.bind])
  | ok a => exact ⟨a, rfl, h⟩

/-- A station whose description as four words is read as four words. An equals sign makes a line one
of a key and a value, unless the line is a comment. -/
structure Writable (s : Station) : Prop where
  word : Text.IsWord s.callsign.toList
  comment : '=' ∈ s.callsign.toList → s.callsign.toList.head? = some '#'
  count : s.resetCount.toNat < resetModulus

/-! ### Tokens -/

theorem isPlain_of_isAlphanum {c : Char} (h : c.isAlphanum = true) : Decimal.isPlain c = true := by
  have hbounds : (65 ≤ c.toNat ∧ c.toNat ≤ 90) ∨ (97 ≤ c.toNat ∧ c.toNat ≤ 122) ∨
      (48 ≤ c.toNat ∧ c.toNat ≤ 57) := by
    simp only [Char.isAlphanum, Char.isAlpha, Char.isUpper, Char.isLower, Bool.or_eq_true,
      Bool.and_eq_true, decide_eq_true_eq] at h
    rcases h with (h | h) | h
    · exact Or.inl ⟨UInt32.le_iff_toNat_le.mp h.1, UInt32.le_iff_toNat_le.mp h.2⟩
    · exact Or.inr (Or.inl ⟨UInt32.le_iff_toNat_le.mp h.1, UInt32.le_iff_toNat_le.mp h.2⟩)
    · exact Or.inr (Or.inr (Decimal.isDigit_bounds h))
  rw [Decimal.isPlain_iff]
  constructor
  · simp only [Text.isBlank, Bool.or_eq_false_iff, Bool.and_eq_false_iff, decide_eq_false_iff_not,
      beq_eq_false_iff_ne]
    omega
  · rintro rfl
    exact absurd hbounds (by decide)

/-- A word without an equals sign. -/
structure IsToken (text : List Char) : Prop extends Text.IsWord text where
  no_sign : '=' ∉ text

theorem isToken_iff (text : List Char) :
    IsToken text ↔ text ≠ [] ∧ text.all Decimal.isPlain = true := by
  simp only [List.all_eq_true, Decimal.isPlain_iff]
  constructor
  · intro h
    exact ⟨h.ne_nil, fun c hc => ⟨h.letters c hc, fun heq => h.no_sign (heq ▸ hc)⟩⟩
  · intro h
    exact ⟨⟨h.1, fun c hc => (h.2 c hc).1⟩, fun hc => (h.2 '=' hc).2 rfl⟩

instance (text : List Char) : Decidable (IsToken text) :=
  decidable_of_iff _ (isToken_iff text).symm

theorem isToken_of_isAlphanum {text : List Char} (hne : text ≠ [])
    (h : ∀ c ∈ text, c.isAlphanum = true) : IsToken text := by
  rw [isToken_iff, List.all_eq_true]
  exact ⟨hne, fun c hc => isPlain_of_isAlphanum (h c hc)⟩

/-! ### Fields that were read -/

theorem count_of_resetField {strictness : Strictness} {text : String} {n : UInt16}
    (h : resetField strictness text = .ok n) : n.toNat < resetModulus := by
  have hmod : ∀ k, (UInt16.ofNat (k % resetModulus)).toNat < resetModulus := by
    intro k
    have hk : k % resetModulus < resetModulus := Nat.mod_lt k (by decide)
    rw [UInt16.toNat_ofNat', Nat.mod_eq_of_lt (hk.trans (by decide))]
    exact hk
  unfold resetField readResetCount at h
  cases hread : Decimal.unsigned? (twoTo 32) (Text.trim text) with
  | some k =>
    simp only [hread, settle] at h
    rw [← Except.ok.inj h]
    exact hmod k
  | none =>
    simp only [hread] at h
    cases strictness with
    | strict => exact absurd h (by simp [settle])
    | lenient =>
      rw [← Except.ok.inj h]
      decide

theorem count_of_optional {strictness : Strictness} {word : Option String} {n : UInt16}
    (h : optional 0 (resetField strictness) word = .ok n) : n.toNat < resetModulus := by
  cases word with
  | none =>
    rw [← Except.ok.inj h]
    decide
  | some text => exact count_of_resetField h

/-! ### Lines of keys and values -/

/-- What any lines leave of a station: a callsign of letters and digits, and a count below 65535. -/
structure Clean (s : Station) : Prop where
  callsign : ∀ c ∈ s.callsign.toList, c.isAlphanum = true
  count : s.resetCount.toNat < resetModulus

theorem clean_unset : Clean unset where
  callsign := List.all_eq_true.mp (by decide : noCallsign.toList.all Char.isAlphanum = true)
  count := by decide

theorem Clean.withField {strictness : Strictness} {s next : Station} {key value : String}
    (hs : s.Clean) (h : withField strictness s key value = .ok next) : next.Clean := by
  unfold Station.withField at h
  split at h
  · rw [← Except.ok.inj h]
    refine ⟨?_, hs.count⟩
    intro c hc
    rw [cleanCallsign, String.toList_ofList] at hc
    exact (List.mem_filter.mp hc).2
  · split at h
    · obtain ⟨n, hfield, hnext⟩ := bind_eq_ok h
      rw [← Except.ok.inj hnext]
      exact ⟨hs.callsign, count_of_resetField hfield⟩
    · split at h
      · obtain ⟨x, -, hnext⟩ := bind_eq_ok h
        rw [← Except.ok.inj hnext]
        exact ⟨hs.callsign, hs.count⟩
      · split at h
        · obtain ⟨x, -, hnext⟩ := bind_eq_ok h
          rw [← Except.ok.inj hnext]
          exact ⟨hs.callsign, hs.count⟩
        · rw [← Except.ok.inj h]
          exact hs

theorem Clean.withLine {strictness : Strictness} {s next : Station} {line : List Char}
    (hs : s.Clean) (h : withLine strictness s line = .ok next) : next.Clean := by
  unfold Station.withLine at h
  dsimp only at h
  split at h
  · rw [← Except.ok.inj h]
    exact hs
  · split at h
    · rw [← Except.ok.inj h]
      exact hs
    · exact hs.withField h

theorem Clean.lines {strictness : Strictness} {s next : Station} {lines : List (List Char)}
    (hs : s.Clean) (h : lines.foldlM (Station.withLine strictness) s = .ok next) : next.Clean := by
  induction lines generalizing s with
  | nil =>
    rw [← Except.ok.inj h]
    exact hs
  | cons line lines ih =>
    rw [List.foldlM_cons] at h
    obtain ⟨mid, hline, hlines⟩ := bind_eq_ok h
    exact ih (hs.withLine hline) hlines

theorem Clean.writable {s : Station} (hs : s.Clean) (hne : s.callsign ≠ "") : s.Writable := by
  have hletters : s.callsign.toList ≠ [] := by rwa [Ne, String.toList_eq_nil_iff]
  have htoken := isToken_of_isAlphanum hletters hs.callsign
  exact ⟨htoken.toIsWord, fun h => absurd h htoken.no_sign, hs.count⟩

theorem writable_of_readKeyed {strictness : Strictness} {lines : List (List Char)} {s : Station}
    (h : readKeyed strictness lines = .ok s) : s.Writable := by
  obtain ⟨last, hlines, hlast⟩ := bind_eq_ok h
  have hclean := clean_unset.lines hlines
  rw [← Except.ok.inj hlast, settleCallsign]
  by_cases hempty : last.callsign.isEmpty = true
  · rw [if_pos hempty]
    have hnone : Clean { last with callsign := noCallsign } := ⟨clean_unset.callsign, hclean.count⟩
    exact hnone.writable (show noCallsign ≠ "" by decide)
  · rw [if_neg hempty]
    exact hclean.writable fun hnone => hempty (String.isEmpty_iff.mpr hnone)

/-! ### Four words -/

/-- The first word of a text without keys is a comment if it has an equals sign. -/
theorem comment_of_not_isKeyed {text : String} (h : isKeyed text = false)
    {blanks word rest : List Char} (hb : Text.AllBlank blanks) (hw : Text.IsWord word)
    (htext : text.toList = blanks ++ (word ++ rest)) (heq : '=' ∈ word) :
    word.head? = some '#' := by
  obtain ⟨line, hmem, tail, hfront⟩ :=
    Text.exists_line_of_word hb hw Text.allBlank_nil rest
  rw [← htext] at hmem
  have hnone := List.any_eq_false.mp h line hmem
  have hline : '=' ∈ line := by
    have hsuffix : '=' ∈ Text.trimStart line := by
      rw [hfront]
      exact List.mem_append_left tail heq
    exact (List.dropWhile_suffix _).subset hsuffix
  have hhead : (Text.trimStart line).head? = word.head? := by
    obtain ⟨c, letters, rfl⟩ := List.exists_cons_of_ne_nil hw.ne_nil
    rw [hfront]
    rfl
  simpa [hhead, hline] using hnone

theorem writable_of_readWords {strictness : Strictness} {text : String} {s : Station}
    (hkeyed : isKeyed text = false) (h : readWords strictness (Text.words text) = .ok s) :
    s.Writable := by
  rcases Text.wordsOf_cases text.toList with
    ⟨-, hnone⟩ | ⟨blanks, word, rest, hb, hw, -, htext, hwords⟩
  · rw [Text.words, hnone] at h
    exact absurd h (by simp [readWords])
  · rw [Text.words, hwords, List.map_cons, readWords] at h
    obtain ⟨count, hcount, h⟩ := bind_eq_ok h
    obtain ⟨latitude, -, h⟩ := bind_eq_ok h
    obtain ⟨longitude, -, h⟩ := bind_eq_ok h
    rw [← Except.ok.inj h]
    refine ⟨?_, ?_, count_of_optional hcount⟩
    · rw [String.toList_ofList]
      exact hw
    · rw [String.toList_ofList]
      exact comment_of_not_isKeyed hkeyed hb hw htext

theorem writable_of_readAs {strictness : Strictness} {text : String} {s : Station}
    (h : readAs strictness text = .ok s) : s.Writable := by
  rw [readAs] at h
  cases hkeyed : isKeyed text with
  | true =>
    rw [hkeyed, if_pos rfl] at h
    exact writable_of_readKeyed h
  | false =>
    rw [hkeyed, if_neg Bool.false_ne_true] at h
    exact writable_of_readWords hkeyed h

theorem writable_initial : initial.Writable := by
  have hclean : Clean initial := ⟨clean_unset.callsign, by decide⟩
  exact hclean.writable (by decide)

theorem readLenient_of_allBlank {text : String} (h : Text.AllBlank text.toList) :
    readLenient text = initial := by
  have hkeyed : isKeyed text = false := by
    rw [isKeyed, List.any_eq_false]
    intro line hline
    have hnone : '=' ∉ line := by
      intro hc
      have hc : '=' ∈ text.toList := (Text.mem_linesFrom hline hc).resolve_left List.not_mem_nil
      exact Bool.noConfusion (h _ hc)
    simp [hnone]
  have hwords : Text.words text = [] := by
    have hblank := Text.wordsOf_blanks h []
    rw [List.append_nil, Text.wordsOf_nil] at hblank
    rw [Text.words, hblank, List.map_nil]
  rw [readLenient, readAs, hkeyed, if_neg Bool.false_ne_true, hwords]
  rfl

/-- Whatever is read leniently can be written. -/
theorem writable_readLenient (text : String) : (readLenient text).Writable := by
  rw [readLenient]
  split
  · next s h => exact writable_of_readAs h
  · exact writable_initial

theorem toNat_countReset (s : Station) :
    s.countReset.resetCount.toNat = (s.resetCount.toNat + 1) % resetModulus := by
  have hmod : (s.resetCount.toNat + 1) % resetModulus < resetModulus := Nat.mod_lt _ (by decide)
  rw [countReset, UInt16.toNat_ofNat', Nat.mod_eq_of_lt (hmod.trans (by decide))]

theorem Writable.countReset {s : Station} (h : s.Writable) : s.countReset.Writable where
  word := h.word
  comment := h.comment
  count := by
    rw [toNat_countReset]
    exact Nat.mod_lt _ (by decide)

/-! ### Written descriptions -/

/-- A coordinate with four places. -/
def placesText (x : Float) : String := (Decimal.ofFloat x).fixed 4

/-- The blanks before a coordinate, with the one that separates it from the word before. -/
def gap (x : Float) : List Char := ' ' :: List.replicate (8 - (placesText x).length) ' '

theorem toList_coordinateText (x : Float) :
    ' ' :: (coordinateText x).toList = gap x ++ (placesText x).toList := by
  rw [coordinateText, Decimal.Value.fixedPadded, Decimal.padBlanks, String.toList_append,
    String.toList_ofList, gap, placesText, List.cons_append]

theorem toList_render (s : Station) :
    s.render.toList = s.callsign.toList ++ ([' '] ++ (Nat.toDigits 10 s.resetCount.toNat ++
      (gap s.latitude ++ ((placesText s.latitude).toList ++
        (gap s.longitude ++ (placesText s.longitude).toList))))) := by
  have hspace : " ".toList = [' '] := by decide
  have hlatitude := toList_coordinateText s.latitude
  have hlongitude := toList_coordinateText s.longitude
  simp only [render, String.toList_append, hspace, Decimal.toList_toString, List.append_assoc,
    List.singleton_append, hlongitude]
  rw [← List.append_assoc (gap s.latitude), ← hlatitude, List.cons_append]

theorem mem_gap {x : Float} {c : Char} (h : c ∈ gap x) : c = ' ' := by
  rcases List.mem_cons.mp h with hc | hc
  · exact hc
  · exact List.eq_of_mem_replicate hc

theorem allBlank_gap (x : Float) : Text.AllBlank (gap x) := by
  intro c hc
  rw [mem_gap hc]
  decide

theorem endsWord_gap (x : Float) (rest : List Char) : Text.EndsWord (gap x ++ rest) :=
  Text.endsWord_blanks (List.cons_ne_nil _ _) (allBlank_gap x) rest

theorem isWord_placesText (x : Float) : Text.IsWord (placesText x).toList := by
  obtain ⟨hne, hplain⟩ := Decimal.isPlain_fixed 4 (Decimal.ofFloat x)
  exact ⟨hne, fun c hc => ((Decimal.isPlain_iff c).mp (List.all_eq_true.mp hplain c hc)).1⟩

theorem trim_placesText (x : Float) : Text.trim (placesText x) = placesText x := by
  have hword := (isWord_placesText x).trim_eq
  rwa [String.ofList_toList] at hword

theorem isWord_toDigits (n : Nat) : Text.IsWord (Nat.toDigits 10 n) :=
  ⟨Nat.toDigits_ne_nil, fun c hc => Decimal.isBlank_of_isDigit (Decimal.allDigits_toDigits n c hc)⟩

theorem words_render_of_isWord {s : Station} (h : Text.IsWord s.callsign.toList) :
    Text.words s.render =
      [s.callsign, toString s.resetCount.toNat, placesText s.latitude, placesText s.longitude] := by
  have hlongitude : Text.wordsOf (gap s.longitude ++ (placesText s.longitude).toList) =
      [(placesText s.longitude).toList] := by
    have hword := (isWord_placesText s.longitude).wordsOf_append Text.endsWord_nil
    rw [List.append_nil] at hword
    rw [Text.wordsOf_blanks (allBlank_gap _), hword, Text.wordsOf_nil]
  have hspace : Text.AllBlank [' '] := Text.allBlank_singleton (by decide)
  rw [Text.words, toList_render,
    h.wordsOf_append (Text.endsWord_blanks (List.cons_ne_nil _ _) hspace _),
    Text.wordsOf_blanks hspace,
    (isWord_toDigits _).wordsOf_append (endsWord_gap _ _), Text.wordsOf_blanks (allBlank_gap _),
    (isWord_placesText _).wordsOf_append (endsWord_gap _ _), hlongitude]
  simp only [List.map_cons, List.map_nil, String.ofList_toList, ← Decimal.toList_toString]

theorem Writable.words_render {s : Station} (h : s.Writable) :
    Text.words s.render =
      [s.callsign, toString s.resetCount.toNat, placesText s.latitude, placesText s.longitude] :=
  words_render_of_isWord h.word

theorem mem_render {s : Station} {c : Char} (h : c ∈ s.render.toList) :
    c ∈ s.callsign.toList ∨ c = ' ' ∨ Decimal.isPlain c = true := by
  have hplaces : ∀ {x : Float}, c ∈ (placesText x).toList → Decimal.isPlain c = true :=
    fun hc => List.all_eq_true.mp (Decimal.isPlain_fixed 4 _).2 c hc
  rw [toList_render] at h
  simp only [List.mem_append, List.mem_singleton] at h
  rcases h with h | h | h | h | h | h | h
  · exact Or.inl h
  · exact Or.inr (Or.inl h)
  · exact Or.inr (Or.inr (Decimal.isPlain_of_isDigit (Decimal.allDigits_toDigits _ c h)))
  · exact Or.inr (Or.inl (mem_gap h))
  · exact Or.inr (Or.inr (hplaces h))
  · exact Or.inr (Or.inl (mem_gap h))
  · exact Or.inr (Or.inr (hplaces h))

theorem isKeyed_render_of_isWord {s : Station} (h : Text.IsWord s.callsign.toList)
    (hcomment : '=' ∈ s.callsign.toList → s.callsign.toList.head? = some '#') :
    isKeyed s.render = false := by
  have hfeed : ∀ c ∈ s.render.toList, c ≠ '\n' := by
    intro c hc
    rcases mem_render hc with hc | hc | hc
    · exact Text.ne_of_isBlank (h.letters c hc) (by decide)
    · rw [hc]
      decide
    · exact Text.ne_of_isBlank ((Decimal.isPlain_iff c).mp hc).1 (by decide)
  have hfront : Text.trimStart s.render.toList = s.render.toList := by
    rw [toList_render, h.trimStart_append]
  have hne : s.render.toList ≠ [] := by
    rw [toList_render]
    exact List.append_ne_nil_of_left_ne_nil h.ne_nil _
  rw [isKeyed, Text.linesOf_eq_singleton hne hfeed, List.any_cons, List.any_nil, Bool.or_false,
    hfront]
  -- Either the callsign makes the line a comment, or there is no equals sign in it.
  by_cases heq : '=' ∈ s.callsign.toList
  · have hhead : s.render.toList.head? = some '#' := by
      rw [toList_render, List.head?_append, hcomment heq, Option.some_or]
    simp [hhead]
  · have hnone : '=' ∉ s.render.toList := by
      intro hc
      rcases mem_render hc with hc | hc | hc
      · exact heq hc
      · exact absurd hc (by decide)
      · exact absurd hc (by decide)
    simp [hnone]

theorem Writable.isKeyed_render {s : Station} (h : s.Writable) : isKeyed s.render = false :=
  isKeyed_render_of_isWord h.word h.comment

theorem readResetCount_toString_mod (n : UInt16) :
    readResetCount (toString n.toNat) = .ok (UInt16.ofNat (n.toNat % resetModulus)) := by
  have htrim : Text.trim (toString n.toNat) = toString n.toNat := by
    have hword := (isWord_toDigits n.toNat).trim_eq
    rwa [← Decimal.toList_toString, String.ofList_toList] at hword
  have hbound : n.toNat < twoTo 32 := n.toNat_lt.trans (by decide)
  rw [readResetCount, htrim, Decimal.unsigned?_toString hbound]

theorem readResetCount_toString {n : UInt16} (h : n.toNat < resetModulus) :
    readResetCount (toString n.toNat) = .ok n := by
  rw [readResetCount_toString_mod, Nat.mod_eq_of_lt h, UInt16.ofNat_toNat]

theorem exists_readCoordinate (fault : String → StationFault) (x : Float) :
    ∃ y, readCoordinate fault (placesText x) = .ok y := by
  obtain ⟨literal, hliteral⟩ :=
    Option.isSome_iff_exists.mp (Decimal.isSome_ofChars?_fixed 4 (Decimal.ofFloat x))
  refine ⟨literal.toFloat, ?_⟩
  rw [readCoordinate, trim_placesText, Decimal.float?, placesText, hliteral]
  rfl

/-- A written station is read back, strictly or leniently; its coordinates have been rounded. -/
theorem Writable.readAs_render {s : Station} (h : s.Writable) (strictness : Strictness) :
    ∃ latitude longitude,
      readAs strictness s.render = .ok ⟨s.callsign, s.resetCount, latitude, longitude⟩ := by
  obtain ⟨latitude, hlatitude⟩ := exists_readCoordinate .latitude s.latitude
  obtain ⟨longitude, hlongitude⟩ := exists_readCoordinate .longitude s.longitude
  have hkept : ∀ {α : Type} (fallback x : α), settle strictness fallback (.ok x) = .ok x := by
    intro α fallback x
    cases strictness <;> rfl
  refine ⟨latitude, longitude, ?_⟩
  rw [readAs, h.isKeyed_render, if_neg Bool.false_ne_true, h.words_render]
  simp only [readWords, List.getElem?_cons_zero, List.getElem?_cons_succ, optional, resetField,
    latitudeField, longitudeField, readResetCount_toString h.count, hlatitude, hlongitude, hkept]
  rfl

end Downlink.Station
