import Mathlib
import Downlink.Proofs.Station.Description
import Downlink.Proofs.Text.Trimming

/-!
# Lines of keys and values

A value is read by its key and put in the place of that key. Blanks around a line, a key or a value
make no difference. A comment and a line without an equals sign say nothing; any other line says what
its key and its value say.
-/

namespace Downlink.Station

variable {strictness : Strictness} {s : Station}

/-! ### Keys -/

/-- What a line can say something about. -/
inductive Key where
  | callsign
  | resetCount
  | latitude
  | longitude
  deriving DecidableEq

namespace Key

/-- How a key is written. -/
def name : Key → String
  | callsign => "callsign"
  | resetCount => "num_resets"
  | latitude => "latitude"
  | longitude => "longitude"

/-- The key that is written so. -/
def ofName? (name : String) : Option Key :=
  if name = "callsign" then some callsign
  else if name = "num_resets" then some resetCount
  else if name = "latitude" then some latitude
  else if name = "longitude" then some longitude
  else none

/-- What the value of a key is read as. -/
def Value : Key → Type
  | callsign => String
  | resetCount => UInt16
  | latitude => Float
  | longitude => Float

/-- Reads the value of a key. -/
def read (strictness : Strictness) : (key : Key) → String → Except Error key.Value
  | callsign, text => .ok (cleanCallsign text)
  | resetCount, text => resetField strictness text
  | latitude, text => latitudeField strictness text
  | longitude, text => longitudeField strictness text

/-- A station with the value of a key in its place. -/
def put : (key : Key) → key.Value → Station → Station
  | callsign, text, s => { s with callsign := text }
  | resetCount, n, s => { s with resetCount := n }
  | latitude, x, s => { s with latitude := x }
  | longitude, x, s => { s with longitude := x }

theorem ofName?_name (key : Key) : ofName? key.name = some key := by
  cases key <;> decide

end Key

theorem bind_ok_eq_map {α β : Type} (x : Except Error α) (f : α → β) :
    (x >>= fun a => .ok (f a)) = x.map f := by
  cases x <;> rfl

theorem withField_eq (name value : String) :
    withField strictness s name value =
      match Key.ofName? name with
      | none => .ok s
      | some key => (key.read strictness value).map (key.put · s) := by
  rw [withField, Key.ofName?]
  by_cases hcallsign : name = "callsign"
  · rw [if_pos hcallsign, if_pos hcallsign]
    rfl
  rw [if_neg hcallsign, if_neg hcallsign]
  by_cases hcount : name = "num_resets"
  · rw [if_pos hcount, if_pos hcount]
    exact bind_ok_eq_map (resetField strictness value) _
  rw [if_neg hcount, if_neg hcount]
  by_cases hlatitude : name = "latitude"
  · rw [if_pos hlatitude, if_pos hlatitude]
    exact bind_ok_eq_map (latitudeField strictness value) _
  rw [if_neg hlatitude, if_neg hlatitude]
  by_cases hlongitude : name = "longitude"
  · rw [if_pos hlongitude, if_pos hlongitude]
    exact bind_ok_eq_map (longitudeField strictness value) _
  rw [if_neg hlongitude, if_neg hlongitude]

theorem withField_name (key : Key) (value : String) :
    withField strictness s key.name value = (key.read strictness value).map (key.put · s) := by
  rw [withField_eq, Key.ofName?_name]

/-! ### Blanks around values -/

theorem trim_append_blanks (text : List Char) {front back : List Char}
    (hf : Text.AllBlank front) (hb : Text.AllBlank back) :
    Text.trim (String.ofList (front ++ (text ++ back))) = Text.trim (String.ofList text) := by
  simp only [Text.trim, String.toList_ofList, Text.trimOf_append_blanks text hf hb]

theorem readResetCount_congr {text other : String} (h : Text.trim text = Text.trim other) :
    readResetCount text = readResetCount other := by
  rw [readResetCount, readResetCount, h]

theorem readCoordinate_congr {text other : String} (fault : String → StationFault)
    (h : Text.trim text = Text.trim other) :
    readCoordinate fault text = readCoordinate fault other := by
  rw [readCoordinate, readCoordinate, h]

theorem filter_isAlphanum_blanks {blanks : List Char} (h : Text.AllBlank blanks) :
    blanks.filter Char.isAlphanum = [] := by
  rw [List.filter_eq_nil_iff]
  intro c hc halnum
  have hplain := ((Decimal.isPlain_iff c).mp (isPlain_of_isAlphanum halnum)).1
  exact Bool.noConfusion (hplain.symm.trans (h c hc))

theorem cleanCallsign_append_blanks (text : List Char) {front back : List Char}
    (hf : Text.AllBlank front) (hb : Text.AllBlank back) :
    cleanCallsign (String.ofList (front ++ (text ++ back))) =
      cleanCallsign (String.ofList text) := by
  simp only [cleanCallsign, String.toList_ofList, List.filter_append, filter_isAlphanum_blanks hf,
    filter_isAlphanum_blanks hb, List.nil_append, List.append_nil]

theorem withField_append_blanks (key : String) (value : List Char) {front back : List Char}
    (hf : Text.AllBlank front) (hb : Text.AllBlank back) :
    withField strictness s key (String.ofList (front ++ (value ++ back))) =
      withField strictness s key (String.ofList value) := by
  have htrim := trim_append_blanks value hf hb
  simp only [withField, resetField, latitudeField, longitudeField,
    cleanCallsign_append_blanks value hf hb, readResetCount_congr htrim,
    readCoordinate_congr _ htrim]

/-! ### What a line says -/

theorem withLine_of_comment {line : List Char} (h : (Text.trimStart line).head? = some '#') :
    withLine strictness s line = .ok s := by
  unfold withLine
  dsimp only
  rw [Text.head?_trimOf, if_pos h]

theorem withLine_append_return (line : List Char) :
    withLine strictness s (line ++ ['\r']) = withLine strictness s line := by
  have hreturn : Text.AllBlank ['\r'] := Text.allBlank_singleton (by decide)
  have htrim := Text.trimOf_append_blanks line Text.allBlank_nil hreturn
  rw [List.nil_append] at htrim
  unfold withLine
  rw [htrim]

theorem withLine_of_no_sign {line : List Char} (h : '=' ∉ line) :
    withLine strictness s line = .ok s := by
  have hnone : splitKey (Text.trimOf line) = none := by
    rw [splitKey, if_neg]
    intro hsign
    exact h (Text.mem_of_mem_trimOf (by simpa using hsign))
  unfold withLine
  dsimp only
  split
  · rfl
  · rw [hnone]

theorem bne_of_no_sign {text : List Char} (h : '=' ∉ text) : ∀ c ∈ text, (c != '=') = true := by
  intro c hc
  rw [bne_iff_ne]
  rintro rfl
  exact h hc

theorem splitKey_append {key value : List Char} (h : '=' ∉ key) :
    splitKey (key ++ '=' :: value) = some (String.ofList key, String.ofList value) := by
  have hkey := bne_of_no_sign h
  rw [splitKey, if_pos (by simp), List.takeWhile_append_of_pos hkey,
    List.dropWhile_append_of_pos hkey, List.takeWhile_cons_of_neg (by simp),
    List.dropWhile_cons_of_neg (by simp), List.append_nil]
  rfl

theorem comment_entry_iff (key value : List Char) :
    (Text.trimStart (key ++ '=' :: value)).head? = some '#' ↔
      (Text.trimStart key).head? = some '#' := by
  rw [Text.trimStart_append_cons key value (by decide), List.head?_append]
  cases (Text.trimStart key).head? with
  | none => simp
  | some c => rw [Option.some_or]

/-- A line that is no comment says what its key and its value say, up to the blanks around them. -/
theorem withLine_entry {key value : List Char} (hkey : '=' ∉ key)
    (hhead : (Text.trimStart key).head? ≠ some '#') :
    withLine strictness s (key ++ '=' :: value) =
      withField strictness s (String.ofList (Text.trimOf key)) (String.ofList value) := by
  have hline : Text.trimOf (key ++ '=' :: value) =
      Text.trimStart key ++ '=' :: Text.trimEnd value := by
    rw [Text.trimOf_eq, Text.trimStart_append_cons key value (by decide),
      Text.trimEnd_append_cons _ _ (by decide)]
  have hstart : '=' ∉ Text.trimStart key := fun h => hkey ((List.dropWhile_suffix _).subset h)
  have hcomment : (Text.trimOf (key ++ '=' :: value)).head? ≠ some '#' := by
    rw [Text.head?_trimOf]
    exact mt (comment_entry_iff key value).mp hhead
  have htrim : Text.trim (String.ofList (Text.trimStart key)) =
      String.ofList (Text.trimOf key) := by
    rw [Text.trim, String.toList_ofList, Text.trimOf_trimStart]
  obtain ⟨blanks, hblanks, hvalue⟩ := Text.exists_trimEnd_append value
  have hpadded : withField strictness s (String.ofList (Text.trimOf key))
      (String.ofList ([] ++ (Text.trimEnd value ++ blanks))) = _ :=
    withField_append_blanks _ (Text.trimEnd value) Text.allBlank_nil hblanks
  rw [List.nil_append, ← hvalue] at hpadded
  unfold withLine
  dsimp only
  rw [if_neg hcomment, hline, splitKey_append hstart]
  dsimp only
  rw [htrim, hpadded]

end Downlink.Station
