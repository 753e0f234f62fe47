import Mathlib
import Downlink.Proofs.Station.Lines
import Downlink.Proofs.Text.Editing

/-!
# Lenient readings

A lenient reading is the strict reading of a text in which each malformed number has been replaced by
a zero where it stands. Where a strict reading succeeds, there is nothing to replace.
-/

namespace Downlink.Station

/-! ### Malformed numbers -/

/-- What a word says something about, by its place; the callsign is taken as it stands. -/
def Key.ofPlace? : Nat → Option Key
  | 1 => some .resetCount
  | 2 => some .latitude
  | 3 => some .longitude
  | _ => none

/-- Whether a value is malformed. -/
def Key.refuses (key : Key) (text : String) : Bool := !(key.read .strict text).isOk

/-- A value with a zero in it if it is malformed. -/
def repair : Option Key → List Char → List Char
  | none, text => text
  | some key, text =>
    if key.refuses (String.ofList text) then Text.replaceTrimmed ['0'] text else text

/-- A word with a zero in it if its place asks for a number and it is malformed. -/
def repairWord (place : Nat) (word : List Char) : List Char := repair (Key.ofPlace? place) word

/-- A line whose value is repaired by its key, unless it is a comment. -/
def repairLine (line : List Char) : List Char :=
  if (Text.trimStart line).head? = some '#' then line
  else
    let key := line.takeWhile (· != '=')
    match line.dropWhile (· != '=') with
    | [] => line
    | sign :: value =>
      key ++ sign :: repair (Key.ofName? (String.ofList (Text.trimOf key))) value

/-- A text with a zero in the place of each malformed number. -/
def repaired (text : String) : String :=
  String.ofList (if isKeyed text then Text.editLines repairLine text.toList
    else Text.editWords repairWord text.toList)

/-- Reads a description in the given form. -/
def readForm (keyed : Bool) (s : Strictness) (text : String) : Except Error Station :=
  if keyed then readKeyed s (Text.linesOf text.toList) else readWords s (Text.words text)

theorem readAs_eq_readForm (s : Strictness) (text : String) :
    readAs s text = readForm (isKeyed text) s text := rfl

/-! ### Zeros in the place of numbers -/

theorem trim_replaceTrimmed_zero (text : List Char) :
    Text.trim (String.ofList (Text.replaceTrimmed ['0'] text)) =
      Text.trim (String.ofList ['0']) := by
  obtain ⟨front, back, hf, hb, htext⟩ := Text.exists_replaceTrimmed ['0'] text
  rw [htext, trim_append_blanks ['0'] hf hb]

theorem readResetCount_zero : readResetCount (String.ofList ['0']) = .ok 0 := by rfl

theorem readCoordinate_zero (fault : String → StationFault) :
    readCoordinate fault (String.ofList ['0']) = .ok 0.0 := by rfl

/-! ### One value -/

/-- A zero in the place of what cannot be read does strictly what its fallback does leniently. -/
theorem settle_repair {α : Type} {key : Key} {fallback : α} {read : String → Except Error α}
    (hrefuses : ∀ text, key.refuses text = !(settle .strict fallback (read text)).isOk)
    {text : List Char}
    (hzero : read (String.ofList (Text.replaceTrimmed ['0'] text)) = .ok fallback) :
    settle .strict fallback (read (String.ofList (repair (some key) text))) =
      settle .lenient fallback (read (String.ofList text)) := by
  rw [repair, hrefuses]
  cases hread : read (String.ofList text) with
  | ok x =>
    show settle .strict fallback (read (String.ofList text)) = _
    rw [hread]
    rfl
  | error fault =>
    show settle .strict fallback (read (String.ofList (Text.replaceTrimmed ['0'] text))) = _
    rw [hzero]
    rfl

theorem resetField_repair (text : List Char) :
    resetField .strict (String.ofList (repair (some .resetCount) text)) =
      resetField .lenient (String.ofList text) :=
  settle_repair (fun _ => rfl)
    ((readResetCount_congr (trim_replaceTrimmed_zero text)).trans readResetCount_zero)

theorem latitudeField_repair (text : List Char) :
    latitudeField .strict (String.ofList (repair (some .latitude) text)) =
      latitudeField .lenient (String.ofList text) :=
  settle_repair (fun _ => rfl)
    ((readCoordinate_congr _ (trim_replaceTrimmed_zero text)).trans (readCoordinate_zero _))

theorem longitudeField_repair (text : List Char) :
    longitudeField .strict (String.ofList (repair (some .longitude) text)) =
      longitudeField .lenient (String.ofList text) :=
  settle_repair (fun _ => rfl)
    ((readCoordinate_congr _ (trim_replaceTrimmed_zero text)).trans (readCoordinate_zero _))

theorem Key.read_repair (key : Key) (text : List Char) :
    key.read .strict (String.ofList (repair (some key) text)) =
      key.read .lenient (String.ofList text) := by
  cases key with
  | callsign =>
    have hsound : Key.callsign.refuses (String.ofList text) = false := rfl
    rw [repair, hsound, if_neg Bool.false_ne_true]
    rfl
  | resetCount => exact resetField_repair text
  | latitude => exact latitudeField_repair text
  | longitude => exact longitudeField_repair text

/-! ### Lines of keys and values -/

theorem withField_repair (s : Station) (name : String) (value : List Char) :
    withField .strict s name (String.ofList (repair (Key.ofName? name) value)) =
      withField .lenient s name (String.ofList value) := by
  rw [withField_eq, withField_eq]
  cases Key.ofName? name with
  | none => rfl
  | some key =>
    dsimp only
    rw [key.read_repair]

theorem repairLine_entry {key value : List Char} (hkey : '=' ∉ key)
    (hhead : (Text.trimStart key).head? ≠ some '#') :
    repairLine (key ++ '=' :: value) =
      key ++ '=' :: repair (Key.ofName? (String.ofList (Text.trimOf key))) value := by
  have hletters := bne_of_no_sign hkey
  rw [repairLine, if_neg (mt (comment_entry_iff key value).mp hhead),
    List.takeWhile_append_of_pos hletters, List.dropWhile_append_of_pos hletters,
    List.takeWhile_cons_of_neg (by simp), List.dropWhile_cons_of_neg (by simp), List.append_nil]

theorem repairLine_of_no_sign {line : List Char} (h : '=' ∉ line) : repairLine line = line := by
  have hnone : line.dropWhile (· != '=') = [] :=
    List.dropWhile_eq_nil_iff.mpr (bne_of_no_sign h)
  rw [repairLine, hnone]
  split <;> rfl

theorem withLine_repairLine (s : Station) (line : List Char) :
    withLine .strict s (repairLine line) = withLine .lenient s line := by
  by_cases hsign : '=' ∈ line
  · obtain ⟨key, value, rfl, hkey⟩ := List.eq_append_cons_of_mem hsign
    by_cases hhead : (Text.trimStart key).head? = some '#'
    · have hcomment := (comment_entry_iff key value).mpr hhead
      rw [repairLine, if_pos hcomment, withLine_of_comment hcomment, withLine_of_comment hcomment]
    · rw [repairLine_entry hkey hhead, withLine_entry hkey hhead, withLine_entry hkey hhead,
        withField_repair]
  · rw [repairLine_of_no_sign hsign, withLine_of_no_sign hsign, withLine_of_no_sign hsign]

theorem mem_repair {key : Option Key} {text : List Char} {c : Char}
    (h : c ∈ repair key text) : c ∈ text ∨ c = '0' := by
  unfold repair at h
  split at h
  · exact Or.inl h
  · split at h
    · exact (Text.mem_replaceTrimmed h).imp_right List.mem_singleton.mp
    · exact Or.inl h

theorem mem_repairLine {line : List Char} {c : Char} (h : c ∈ repairLine line) :
    c ∈ line ∨ c = '0' := by
  by_cases hsign : '=' ∈ line
  · obtain ⟨key, value, rfl, hkey⟩ := List.eq_append_cons_of_mem hsign
    by_cases hhead : (Text.trimStart key).head? = some '#'
    · rw [repairLine, if_pos ((comment_entry_iff key value).mpr hhead)] at h
      exact Or.inl h
    · rw [repairLine_entry hkey hhead] at h
      rcases List.mem_append.mp h with h | h
      · exact Or.inl (List.mem_append_left _ h)
      · rcases List.mem_cons.mp h with rfl | h
        · exact Or.inl (List.mem_append_right _ List.mem_cons_self)
        · refine (mem_repair h).imp_left fun hvalue => ?_
          exact List.mem_append_right _ (List.mem_cons_of_mem _ hvalue)
  · rw [repairLine_of_no_sign hsign] at h
    exact Or.inl h

theorem foldlM_withLine (strictness : Strictness) (text : List Char) :
    (Text.linesOf text).foldlM (withLine strictness) unset =
      (text.splitOn '\n').foldlM (withLine strictness) unset :=
  Text.foldlM_linesOf (fun _ line => withLine_append_return line)
    (fun _ => withLine_of_no_sign List.not_mem_nil) unset text

theorem readKeyed_repaired (text : List Char) :
    readKeyed .strict (Text.linesOf (Text.editLines repairLine text)) =
      readKeyed .lenient (Text.linesOf text) := by
  have hedit : ∀ part : List Char, '\n' ∉ part → '\n' ∉ repairLine part := by
    intro part hpart hmem
    rcases mem_repairLine hmem with h | h
    · exact hpart h
    · exact absurd h (by decide)
  rw [readKeyed, readKeyed, foldlM_withLine, foldlM_withLine, Text.splitOn_editLines hedit,
    List.foldlM_map]
  simp only [withLine_repairLine]

/-! ### Four words -/

theorem isWord_repairWord (place : Nat) (word : List Char) (h : Text.IsWord word) :
    Text.IsWord (repairWord place word) := by
  have hzero : Text.IsWord ['0'] := by
    refine ⟨List.cons_ne_nil _ _, ?_⟩
    intro c hc
    rw [List.mem_singleton.mp hc]
    rfl
  unfold repairWord repair
  split
  · exact h
  · split
    · rw [h.replaceTrimmed_eq]
      exact hzero
    · exact h

theorem optional_repair {α : Type} (missing : α) {strict lenient : String → Except Error α}
    {key : Option Key}
    (h : ∀ text, strict (String.ofList (repair key text)) = lenient (String.ofList text))
    (word : Option (List Char)) :
    optional missing strict ((word.map (repair key)).map String.ofList) =
      optional missing lenient (word.map String.ofList) := by
  cases word with
  | none => rfl
  | some text => exact h text

theorem readWords_repaired (words : List (List Char)) :
    readWords .strict ((words.mapIdx repairWord).map String.ofList) =
      readWords .lenient (words.map String.ofList) := by
  cases words with
  | nil => rfl
  | cons callsign rest =>
    have hcount := fun missing => optional_repair missing resetField_repair rest[0]?
    have hlatitude := fun missing => optional_repair missing latitudeField_repair rest[1]?
    have hlongitude := fun missing => optional_repair missing longitudeField_repair rest[2]?
    rw [List.mapIdx_cons, List.map_cons, List.map_cons, readWords, readWords]
    simp only [List.getElem?_map, List.getElem?_mapIdx]
    rw [← hcount, ← hlatitude, ← hlongitude]
    rfl

/-! ### Strict and lenient readings -/

/-- Wherever `x` succeeds, `y` succeeds with the same result. -/
def Within {α : Type} (x y : Except Error α) : Prop := ∀ a, x = .ok a → y = .ok a

/-- The reading gives a result. -/
def Succeeds {α : Type} (x : Except Error α) : Prop := ∃ a, x = .ok a

theorem Within.refl {α : Type} (x : Except Error α) : Within x x := fun _ h => h

theorem Within.bind {α β : Type} {x y : Except Error α} {f g : α → Except Error β}
    (hxy : Within x y) (hfg : ∀ a, Within (f a) (g a)) : Within (x >>= f) (y >>= g) := by
  intro b hb
  obtain ⟨a, ha, hb⟩ := bind_eq_ok hb
  rw [hxy a ha]
  exact hfg a b hb

theorem Succeeds.bind {α β : Type} {x : Except Error α} {f : α → Except Error β}
    (hx : Succeeds x) (hf : ∀ a, Succeeds (f a)) : Succeeds (x >>= f) := by
  obtain ⟨a, rfl⟩ := hx
  exact hf a

theorem within_settle {α : Type} (fallback : α) (field : Except Error α) :
    Within (settle .strict fallback field) (settle .lenient fallback field) := by
  cases field with
  | ok x => exact Within.refl _
  | error fault => exact fun x h => absurd h (by simp [settle])

theorem succeeds_settle {α : Type} (fallback : α) (field : Except Error α) :
    Succeeds (settle .lenient fallback field) := by
  cases field with
  | ok x => exact ⟨x, rfl⟩
  | error fault => exact ⟨fallback, rfl⟩

theorem Key.within_read (key : Key) (value : String) :
    Within (key.read .strict value) (key.read .lenient value) := by
  cases key with
  | callsign => exact Within.refl _
  | resetCount =>
    dsimp only [read, resetField]
    exact within_settle _ _
  | latitude =>
    dsimp only [read, latitudeField]
    exact within_settle _ _
  | longitude =>
    dsimp only [read, longitudeField]
    exact within_settle _ _

theorem Key.succeeds_read (key : Key) (value : String) : Succeeds (key.read .lenient value) := by
  cases key with
  | callsign => exact ⟨_, rfl⟩
  | resetCount =>
    dsimp only [read, resetField]
    exact succeeds_settle _ _
  | latitude =>
    dsimp only [read, latitudeField]
    exact succeeds_settle _ _
  | longitude =>
    dsimp only [read, longitudeField]
    exact succeeds_settle _ _

theorem within_withField (s : Station) (name value : String) :
    Within (withField .strict s name value) (withField .lenient s name value) := by
  rw [withField_eq, withField_eq]
  cases Key.ofName? name with
  | none => exact Within.refl _
  | some key =>
    dsimp only
    rw [← bind_ok_eq_map, ← bind_ok_eq_map]
    exact (key.within_read value).bind fun _ => Within.refl _

theorem succeeds_withField (s : Station) (name value : String) :
    Succeeds (withField .lenient s name value) := by
  rw [withField_eq]
  cases Key.ofName? name with
  | none => exact ⟨s, rfl⟩
  | some key =>
    obtain ⟨x, hx⟩ := key.succeeds_read value
    dsimp only
    rw [hx]
    exact ⟨key.put x s, rfl⟩

theorem within_withLine (s : Station) (line : List Char) :
    Within (withLine .strict s line) (withLine .lenient s line) := by
  unfold withLine
  dsimp only
  split
  · exact Within.refl _
  · split
    · exact Within.refl _
    · exact within_withField _ _ _

theorem succeeds_withLine (s : Station) (line : List Char) :
    Succeeds (withLine .lenient s line) := by
  unfold withLine
  dsimp only
  split
  · exact ⟨_, rfl⟩
  · split
    · exact ⟨_, rfl⟩
    · exact succeeds_withField _ _ _

theorem within_readKeyed (lines : List (List Char)) :
    Within (readKeyed .strict lines) (readKeyed .lenient lines) := by
  have hlines : ∀ s, Within (lines.foldlM (withLine .strict) s)
      (lines.foldlM (withLine .lenient) s) := by
    induction lines with
    | nil =>
      intro s
      rw [List.foldlM_nil, List.foldlM_nil]
      exact Within.refl _
    | cons line lines ih =>
      intro s
      rw [List.foldlM_cons, List.foldlM_cons]
      exact (within_withLine s line).bind ih
  unfold readKeyed
  exact (hlines unset).bind fun _ => Within.refl _

theorem succeeds_readKeyed (lines : List (List Char)) : Succeeds (readKeyed .lenient lines) := by
  have hlines : ∀ s, Succeeds (lines.foldlM (withLine .lenient) s) := by
    induction lines with
    | nil => exact fun s => ⟨s, rfl⟩
    | cons line lines ih =>
      intro s
      rw [List.foldlM_cons]
      exact (succeeds_withLine s line).bind ih
  unfold readKeyed
  exact (hlines unset).bind fun _ => ⟨_, rfl⟩

theorem within_optional {α : Type} {missing : α} {strict lenient : String → Except Error α}
    (h : ∀ text, Within (strict text) (lenient text)) (word : Option String) :
    Within (optional missing strict word) (optional missing lenient word) := by
  cases word with
  | none => exact Within.refl _
  | some text => exact h text

theorem succeeds_optional {α : Type} {missing : α} {read : String → Except Error α}
    (h : ∀ text, Succeeds (read text)) (word : Option String) :
    Succeeds (optional missing read word) := by
  cases word with
  | none => exact ⟨missing, rfl⟩
  | some text => exact h text

theorem within_readWords (words : List String) :
    Within (readWords .strict words) (readWords .lenient words) := by
  cases words with
  | nil => exact Within.refl _
  | cons callsign rest =>
    exact (within_optional (fun _ => within_settle _ _) _).bind fun _ =>
      (within_optional (fun _ => within_settle _ _) _).bind fun _ =>
        (within_optional (fun _ => within_settle _ _) _).bind fun _ => Within.refl _

theorem succeeds_readWords {words : List String} (h : words ≠ []) :
    Succeeds (readWords .lenient words) := by
  obtain ⟨callsign, rest, rfl⟩ := List.exists_cons_of_ne_nil h
  exact (succeeds_optional (fun _ => succeeds_settle _ _) _).bind fun _ =>
    (succeeds_optional (fun _ => succeeds_settle _ _) _).bind fun _ =>
      (succeeds_optional (fun _ => succeeds_settle _ _) _).bind fun _ => ⟨_, rfl⟩

/-! ### Whole descriptions -/

/-- A lenient reading is a strict reading of the repaired text, in the form of the text that was
repaired. -/
theorem readForm_repaired (text : String) :
    readForm (isKeyed text) .strict (repaired text) = readAs .lenient text := by
  rw [readAs_eq_readForm, readForm, readForm, repaired, Text.words, Text.words,
    String.toList_ofList]
  cases isKeyed text with
  | true => exact readKeyed_repaired text.toList
  | false =>
    show readWords .strict ((Text.wordsOf (Text.editWords repairWord text.toList)).map _) = _
    rw [Text.wordsOf_editWords isWord_repairWord, readWords_repaired]
    rfl

theorem within_readAs (text : String) : Within (readAs .strict text) (readAs .lenient text) := by
  unfold readAs
  split
  · exact within_readKeyed _
  · exact within_readWords _

theorem succeeds_readAs {text : String} (h : ¬ Text.AllBlank text.toList) :
    Succeeds (readAs .lenient text) := by
  unfold readAs
  split
  · exact succeeds_readKeyed _
  · refine succeeds_readWords ?_
    rcases Text.wordsOf_cases text.toList with ⟨hblank, -⟩ | ⟨-, word, rest, -, -, -, -, hwords⟩
    · exact absurd hblank h
    · simp [Text.words, hwords]

theorem readLenient_of_readAs {text : String} {s : Station} (h : readAs .lenient text = .ok s) :
    readLenient text = s := by
  rw [readLenient, h]

/-- Where a strict reading succeeds, a lenient one gives the same station. Of any text that is not
blank, a lenient reading gives what a strict one in the same form gives of the text with a zero in
the place of each malformed number. Its callsign is always a word and its count below 65535. -/
theorem lenient_reads_repaired (text : String) :
    (∀ s, read text = .ok s → readLenient text = s) ∧
    (¬ Text.AllBlank text.toList →
      readForm (isKeyed text) .strict (repaired text) = .ok (readLenient text)) ∧
    Text.IsWord (readLenient text).callsign.toList ∧
    (readLenient text).resetCount.toNat ≤ 65534 := by
  have hwritable := writable_readLenient text
  refine ⟨?_, ?_, hwritable.word, Nat.le_of_lt_succ hwritable.count⟩
  · intro s hs
    exact readLenient_of_readAs (within_readAs text s hs)
  · intro hblank
    obtain ⟨s, hs⟩ := succeeds_readAs hblank
    rw [readForm_repaired, hs, readLenient_of_readAs hs]

end Downlink.Station
