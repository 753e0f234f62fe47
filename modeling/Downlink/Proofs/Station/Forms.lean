import Mathlib
import Downlink.Proofs.Station.Lines

/-!
# Two forms of one description

Four words in a row say the same as four lines of keys and values, whatever the order of the lines
and whatever stands between them that says nothing.
-/

namespace Downlink.Station

variable {strictness : Strictness} {s : Station}

/-! ### Keys in any order -/

theorem Key.put_comm {key other : Key} (h : key ≠ other) (x : key.Value) (y : other.Value)
    (s : Station) : other.put y (key.put x s) = key.put x (other.put y s) := by
  cases key <;> cases other <;> first | exact absurd rfl h | rfl

/-- A key with a value. -/
structure Setting where
  key : Key
  value : List Char
  deriving DecidableEq

/-- Does to a station what a line with the key and the value says. -/
def Setting.apply (strictness : Strictness) (s : Station) (setting : Setting) :
    Except Error Station :=
  withField strictness s setting.key.name (String.ofList setting.value)

theorem Setting.apply_comm {setting other : Setting} (h : setting.key ≠ other.key) (s : Station) :
    ((setting.apply strictness s).toOption.bind fun s => (other.apply strictness s).toOption) =
      (other.apply strictness s).toOption.bind fun s => (setting.apply strictness s).toOption := by
  unfold Setting.apply
  simp only [withField_name]
  cases setting.key.read strictness (String.ofList setting.value) with
  | error fault =>
    cases other.key.read strictness (String.ofList other.value) <;> rfl
  | ok x =>
    cases other.key.read strictness (String.ofList other.value) with
    | error fault => rfl
    | ok y => exact congrArg some (Key.put_comm h x y s)

/-- Steps that may fail, with the cause of a failure forgotten. -/
theorem toOption_foldlM {σ α : Type} (step : σ → α → Except Error σ) (x : Except Error σ)
    (items : List α) :
    (x >>= fun s => items.foldlM step s).toOption =
      items.foldl (fun o item => o.bind fun s => (step s item).toOption) x.toOption := by
  induction items generalizing x with
  | nil => cases x <;> rfl
  | cons item items ih =>
    have hstep : (x >>= fun s => step s item).toOption =
        x.toOption.bind fun s => (step s item).toOption := by
      cases x <;> rfl
    rw [List.foldl_cons, ← hstep, ← ih]
    cases x with
    | error fault => rfl
    | ok s =>
      show (List.foldlM step s (item :: items)).toOption = _
      rw [List.foldlM_cons]
      rfl

/-- Settings with different keys can be taken in any order. -/
theorem foldlM_apply_perm {settings others : List Setting} (hperm : settings.Perm others)
    (hkeys : (settings.map Setting.key).Nodup) (s : Station) :
    (settings.foldlM (Setting.apply strictness) s).toOption =
      (others.foldlM (Setting.apply strictness) s).toOption := by
  have hfold := toOption_foldlM (Setting.apply strictness) (.ok s)
  refine (hfold settings).trans (Eq.trans ?_ (hfold others).symm)
  refine hperm.foldl_eq' ?_ _
  intro setting hmem other hother o
  by_cases hkey : setting.key = other.key
  · rw [List.inj_on_of_nodup_map hkeys hmem hother hkey]
  · cases o with
    | none => rfl
    | some s => exact Setting.apply_comm hkey s

/-! ### Lines that list settings -/

/-- Lines that say nothing: comments, lines without an equals sign, and unknown keys. -/
inductive Silent : List Char → Prop where
  | comment {line : List Char} : (Text.trimStart line).head? = some '#' → Silent line
  | unsigned {line : List Char} : '=' ∉ line → Silent line
  | unknown {name value : List Char} : '=' ∉ name →
      Key.ofName? (String.ofList (Text.trimOf name)) = none → Silent (name ++ '=' :: value)

/-- A key and its value with an equals sign between them and blanks anywhere around them. -/
def Setting.On (setting : Setting) (line : List Char) : Prop :=
  ∃ front middle behind back : List Char,
    Text.AllBlank front ∧ Text.AllBlank middle ∧ Text.AllBlank behind ∧ Text.AllBlank back ∧
      line = front ++ (setting.key.name.toList ++ middle) ++
        '=' :: (behind ++ (setting.value ++ back))

/-- Lines with the given settings in this order, among lines that say nothing. -/
inductive Lists : List Setting → List (List Char) → Prop where
  | nil : Lists [] []
  | silent {settings : List Setting} {line : List Char} {lines : List (List Char)} :
      Silent line → Lists settings lines → Lists settings (line :: lines)
  | setting {setting : Setting} {settings : List Setting} {line : List Char}
      {lines : List (List Char)} :
      setting.On line → Lists settings lines → Lists (setting :: settings) (line :: lines)

theorem Silent.withLine_eq {line : List Char} (h : Silent line) :
    withLine strictness s line = .ok s := by
  cases h with
  | comment hcomment => exact withLine_of_comment hcomment
  | unsigned hsign => exact withLine_of_no_sign hsign
  | @unknown name value hname hkey =>
    by_cases hhead : (Text.trimStart name).head? = some '#'
    · exact withLine_of_comment ((comment_entry_iff name value).mpr hhead)
    · rw [withLine_entry hname hhead, withField_eq, hkey]

theorem Key.letters_name (key : Key) :
    (key.name.toList.all fun c => !Text.isBlank c && c != '=' && c != '#') = true := by
  cases key <;> rfl

theorem Key.plain_name {key : Key} {c : Char} (h : c ∈ key.name.toList) :
    Text.isBlank c = false ∧ c ≠ '=' ∧ c ≠ '#' := by
  have hc := List.all_eq_true.mp key.letters_name c h
  simp only [Bool.and_eq_true, Bool.not_eq_true', bne_iff_ne] at hc
  exact ⟨hc.1.1, hc.1.2, hc.2⟩

theorem Key.isWord_name (key : Key) : Text.IsWord key.name.toList where
  ne_nil := by cases key <;> decide
  letters _ hc := (plain_name hc).1

theorem not_mem_blanks {c : Char} (hc : Text.isBlank c = false) {blanks : List Char}
    (h : Text.AllBlank blanks) : c ∉ blanks :=
  fun hmem => Bool.noConfusion (hc.symm.trans (h c hmem))

/-- The part of a setting's line before the equals sign. -/
theorem Setting.On.split {setting : Setting} {line : List Char} (h : setting.On line) :
    ∃ name behind back, Text.AllBlank behind ∧ Text.AllBlank back ∧ '=' ∉ name ∧
      (Text.trimStart name).head? ≠ some '#' ∧ Text.trimOf name = setting.key.name.toList ∧
      line = name ++ '=' :: (behind ++ (setting.value ++ back)) := by
  obtain ⟨front, middle, behind, back, hfront, hmiddle, hbehind, hback, hline⟩ := h
  have hname := Text.trimOf_append_blanks setting.key.name.toList hfront hmiddle
  rw [setting.key.isWord_name.trimOf_eq] at hname
  refine ⟨_, behind, back, hbehind, hback, ?_, ?_, hname, hline⟩
  · simp only [List.mem_append, not_or]
    exact ⟨not_mem_blanks (by decide) hfront, fun hc => (Key.plain_name hc).2.1 rfl,
      not_mem_blanks (by decide) hmiddle⟩
  · intro hhead
    rw [← Text.head?_trimOf, hname] at hhead
    exact (Key.plain_name (List.mem_of_mem_head? hhead)).2.2 rfl

theorem Setting.On.withLine_eq {setting : Setting} {line : List Char} (h : setting.On line) :
    withLine strictness s line = setting.apply strictness s := by
  obtain ⟨name, behind, back, hbehind, hback, hsign, hhead, hname, rfl⟩ := h.split
  rw [withLine_entry hsign hhead, hname, String.ofList_toList,
    withField_append_blanks _ _ hbehind hback, Setting.apply]

theorem Lists.foldlM_withLine {settings : List Setting} {lines : List (List Char)}
    (h : Lists settings lines) (s : Station) :
    lines.foldlM (withLine strictness) s = settings.foldlM (Setting.apply strictness) s := by
  induction h generalizing s with
  | nil => rfl
  | silent hline _ ih =>
    rw [List.foldlM_cons, hline.withLine_eq]
    exact ih s
  | setting hline _ ih =>
    rw [List.foldlM_cons, List.foldlM_cons, hline.withLine_eq]
    exact bind_congr ih

theorem Lists.exists_line {settings : List Setting} {lines : List (List Char)}
    (h : Lists settings lines) (hne : settings ≠ []) :
    ∃ line ∈ lines, ∃ setting : Setting, setting.On line := by
  induction h with
  | nil => exact absurd rfl hne
  | silent _ _ ih =>
    obtain ⟨line, hmem, hline⟩ := ih hne
    exact ⟨line, List.mem_cons_of_mem _ hmem, hline⟩
  | setting hline _ _ => exact ⟨_, List.mem_cons_self, _, hline⟩

theorem isKeyed_of_lists {settings : List Setting} {text : String}
    (h : Lists settings (Text.linesOf text.toList)) (hne : settings ≠ []) : isKeyed text = true := by
  obtain ⟨line, hmem, setting, hline⟩ := h.exists_line hne
  obtain ⟨name, behind, back, -, -, -, hhead, -, rfl⟩ := hline.split
  rw [isKeyed, List.any_eq_true]
  refine ⟨_, hmem, ?_⟩
  simp [comment_entry_iff, hhead]

/-! ### The two forms -/

/-- The four words of a description. -/
structure Tokens where
  callsign : List Char
  resetCount : List Char
  latitude : List Char
  longitude : List Char
  callsign_ne_nil : callsign ≠ []
  callsign_alphanum : ∀ c ∈ callsign, c.isAlphanum = true
  isToken_resetCount : IsToken resetCount
  isToken_latitude : IsToken latitude
  isToken_longitude : IsToken longitude

namespace Tokens

/-- The words in a row. -/
def inWords (t : Tokens) : String :=
  String.ofList (t.callsign ++ ' ' :: (t.resetCount ++ ' ' :: (t.latitude ++ ' ' :: t.longitude)))

/-- The words with their keys, in the order of the row. -/
def settings (t : Tokens) : List Setting :=
  [⟨.callsign, t.callsign⟩, ⟨.resetCount, t.resetCount⟩, ⟨.latitude, t.latitude⟩,
    ⟨.longitude, t.longitude⟩]

/-- The words as lines of keys and values, in any order. -/
def InLines (t : Tokens) (text : String) : Prop :=
  ∃ settings : List Setting, settings.Perm t.settings ∧ Lists settings (Text.linesOf text.toList)

theorem isToken_callsign (t : Tokens) : IsToken t.callsign :=
  isToken_of_isAlphanum t.callsign_ne_nil t.callsign_alphanum

theorem cleanCallsign_callsign (t : Tokens) :
    cleanCallsign (String.ofList t.callsign) = String.ofList t.callsign := by
  rw [cleanCallsign, String.toList_ofList, List.filter_eq_self.mpr t.callsign_alphanum]

theorem wordsOf_append_space {word : List Char} (h : Text.IsWord word) (rest : List Char) :
    Text.wordsOf (word ++ ' ' :: rest) = word :: Text.wordsOf rest := by
  have hspace : Text.AllBlank [' '] := Text.allBlank_singleton (by decide)
  have hword := h.wordsOf_append (Text.endsWord_blanks (List.cons_ne_nil ' ' []) hspace rest)
  rw [Text.wordsOf_blanks hspace] at hword
  exact hword

theorem words_inWords (t : Tokens) : Text.words t.inWords =
    [String.ofList t.callsign, String.ofList t.resetCount, String.ofList t.latitude,
      String.ofList t.longitude] := by
  have hlast := t.isToken_longitude.wordsOf_append Text.endsWord_nil
  rw [List.append_nil, Text.wordsOf_nil] at hlast
  rw [Text.words, inWords, String.toList_ofList, wordsOf_append_space t.isToken_callsign.toIsWord,
    wordsOf_append_space t.isToken_resetCount.toIsWord,
    wordsOf_append_space t.isToken_latitude.toIsWord, hlast]
  rfl

theorem isKeyed_inWords (t : Tokens) : isKeyed t.inWords = false := by
  have hnone : '=' ∉ t.inWords.toList := by
    simp [inWords, t.isToken_callsign.no_sign, t.isToken_resetCount.no_sign,
      t.isToken_latitude.no_sign, t.isToken_longitude.no_sign]
  rw [isKeyed, List.any_eq_false]
  intro line hline
  have hsign : '=' ∉ line :=
    fun hc => hnone ((Text.mem_linesFrom hline hc).resolve_left List.not_mem_nil)
  simp [hsign]

/-- In the order of the words, the settings say what the words say. -/
theorem foldlM_entries (t : Tokens) :
    (t.settings.foldlM (Setting.apply strictness) unset).map settleCallsign =
      readAs strictness t.inWords := by
  have hsome : (String.ofList t.callsign).isEmpty = false := by
    simp [t.callsign_ne_nil]
  rw [readAs, t.isKeyed_inWords, if_neg Bool.false_ne_true, t.words_inWords, readWords, settings]
  simp only [List.foldlM_cons, List.foldlM_nil, Setting.apply, withField_name, Key.read, Key.put,
    t.cleanCallsign_callsign, List.getElem?_cons_zero, List.getElem?_cons_succ, optional]
  cases resetField strictness (String.ofList t.resetCount) with
  | error fault => rfl
  | ok count =>
    cases latitudeField strictness (String.ofList t.latitude) with
    | error fault => rfl
    | ok latitude =>
      cases longitudeField strictness (String.ofList t.longitude) with
      | error fault => rfl
      | ok longitude =>
        show Except.ok (settleCallsign _) = Except.ok _
        rw [settleCallsign, hsome, if_neg Bool.false_ne_true]

theorem toOption_map {α β : Type} (x : Except Error α) (f : α → β) :
    (x.map f).toOption = x.toOption.map f := by
  cases x <;> rfl

theorem readAs_inLines (t : Tokens) {text : String} (h : t.InLines text) :
    (readAs strictness text).toOption = (readAs strictness t.inWords).toOption := by
  obtain ⟨settings, hperm, hlists⟩ := h
  have hne : settings ≠ [] := by
    rintro rfl
    exact absurd hperm.length_eq (by simp [Tokens.settings])
  have hkeys : (settings.map Setting.key).Nodup := by
    rw [(hperm.map Setting.key).nodup_iff]
    exact (by decide : [Key.callsign, .resetCount, .latitude, .longitude].Nodup)
  rw [← t.foldlM_entries, toOption_map, ← foldlM_apply_perm hperm hkeys, ← toOption_map, readAs,
    isKeyed_of_lists hlists hne, if_pos rfl, readKeyed, hlists.foldlM_withLine]
  exact congrArg Except.toOption (bind_ok_eq_map _ _)

end Tokens

theorem ok_iff_toOption {α : Type} {x : Except Error α} {a : α} :
    x = .ok a ↔ x.toOption = some a := by
  cases x with
  | error fault => simp [Except.toOption]
  | ok b => simp [Except.toOption]

theorem readLenient_eq (text : String) :
    readLenient text = (readAs .lenient text).toOption.getD initial := by
  rw [readLenient]
  cases readAs .lenient text <;> rfl

/-- Four words in a row and the same words as lines of keys and values are read as the same station,
or both are refused; and they are always read as the same station leniently. -/
theorem forms_agree (t : Tokens) {text : String} (h : t.InLines text) :
    (∀ s, read text = .ok s ↔ read t.inWords = .ok s) ∧
      readLenient text = readLenient t.inWords := by
  constructor
  · intro s
    rw [read, read, ok_iff_toOption, ok_iff_toOption, t.readAs_inLines h]
  · rw [readLenient_eq, readLenient_eq, t.readAs_inLines h]

theorem forms_agree_among_comments :
    ∃ (t : Tokens) (text : String),
      t.inWords = "AB1 7 -33.9 151.2" ∧
      text = "# here\n longitude = 151.2\n\nseed=4\r\ncallsign=AB1\nlatitude=-33.9\nnum_resets =7" ∧
      t.InLines text ∧ (∀ s, read text = .ok s ↔ read t.inWords = .ok s) ∧
      readLenient text = readLenient t.inWords := by
  let t : Tokens := {
    callsign := ['A', 'B', '1']
    resetCount := ['7']
    latitude := ['-', '3', '3', '.', '9']
    longitude := ['1', '5', '1', '.', '2']
    callsign_ne_nil := by decide
    callsign_alphanum := by simp [Char.isAlphanum, Char.isAlpha, Char.isDigit, Char.isUpper]
    isToken_resetCount := by decide
    isToken_latitude := by decide
    isToken_longitude := by decide }
  have hblank : ∀ n : Nat, Text.AllBlank (List.replicate n ' ') := by
    intro n c hc
    rw [List.eq_of_mem_replicate hc]
    decide
  have hlists : Lists [⟨.longitude, t.longitude⟩, ⟨.callsign, t.callsign⟩,
      ⟨.latitude, t.latitude⟩, ⟨.resetCount, t.resetCount⟩]
      (["# here", " longitude = 151.2", "", "seed=4", "callsign=AB1", "latitude=-33.9",
        "num_resets =7"].map String.toList) := by
    refine .silent (.comment (by decide)) ?_
    refine .setting ⟨_, _, _, _, hblank 1, hblank 1, hblank 1, hblank 0, by decide⟩ ?_
    refine .silent (.unsigned (by decide)) ?_
    refine .silent (@Silent.unknown "seed".toList ['4'] (by decide) (by decide)) ?_
    refine .setting ⟨_, _, _, _, hblank 0, hblank 0, hblank 0, hblank 0, by decide⟩ ?_
    refine .setting ⟨_, _, _, _, hblank 0, hblank 0, hblank 0, hblank 0, by decide⟩ ?_
    refine .setting ⟨_, _, _, _, hblank 0, hblank 1, hblank 0, hblank 0, by decide⟩ ?_
    exact .nil
  have hlines : t.InLines
      "# here\n longitude = 151.2\n\nseed=4\r\ncallsign=AB1\nlatitude=-33.9\nnum_resets =7" :=
    ⟨_, by decide, hlists⟩
  exact ⟨t, _, by decide, rfl, hlines, forms_agree t hlines⟩

end Downlink.Station
