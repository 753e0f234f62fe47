import Mathlib
import Downlink.Packet
import Downlink.Proofs.Morse.Decoding
import Downlink.Proofs.Decimal.Written

/-!
# Messages as they are heard

A Morse message is a greeting and 24 groups of three digits. Messages that are keyed one behind the
other are heard as their words.
-/

namespace Downlink.TextTelemetry

/-- The digits of a group: the channel's number, and the two of a value brought into their range. -/
def digitGroup (channel : Nat) (value : Int) : List Char :=
  let shown := (max 0 (min value 99)).toNat
  [Nat.digitChar channel, Nat.digitChar (shown / 10), Nat.digitChar (shown % 10)]

/-- The groups of all values, channels counted from one. -/
def digitGroups (t : TextTelemetry) : List (List Char) :=
  t.channels.toList.zipIdx.flatMap fun (values, k) => values.toList.map (digitGroup (k + 1))

theorem length_digitGroups (t : TextTelemetry) : t.digitGroups.length = 24 := by
  simp [digitGroups, List.length_flatMap, List.map_const']

theorem toList_toString_digit (n : Nat) (h : n < 10) :
    (toString (n : Int)).toList = [Nat.digitChar n] := by
  have htable : ∀ n : Fin 10, (toString (n.val : Int)).toList = [Nat.digitChar n] := by decide
  exact htable ⟨n, h⟩

theorem toList_group (channel : Nat) (value : Int) (h : channel < 10) :
    (group channel value).toList = digitGroup channel value ++ [' '] := by
  obtain ⟨shown, hshown⟩ : ∃ shown : Nat, max 0 (min value 99) = shown :=
    ⟨(max 0 (min value 99)).toNat, by omega⟩
  have hlt : shown < 100 := by omega
  have hupper : upperDigit shown = ((shown / 10 : Nat) : Int) := by
    rw [upperDigit, if_pos (by omega)]
    omega
  have hlower : lowerDigit shown = ((shown % 10 : Nat) : Int) := by
    rw [lowerDigit, if_pos (by omega)]
    omega
  rw [group, digitGroup]
  simp only [hshown, hupper, hlower, String.toList_append, Int.toNat_natCast]
  rw [Decimal.toList_toString, Nat.toDigits_of_lt_base h, toList_toString_digit _ (by omega),
    toList_toString_digit _ (by omega)]
  rfl

theorem channel_lt_of_mem (t : TextTelemetry) (values : Vector Int 4) (k : Nat)
    (h : (values, k) ∈ t.channels.toList.zipIdx) : k + 1 < 10 := by
  have hlt := List.snd_lt_of_mem_zipIdx h
  rw [Vector.length_toList] at hlt
  omega

theorem exists_of_mem_digitGroups (t : TextTelemetry) (word : List Char)
    (h : word ∈ t.digitGroups) : ∃ channel value, channel < 10 ∧ word = digitGroup channel value := by
  obtain ⟨⟨values, k⟩, hk, hword⟩ := List.mem_flatMap.mp h
  obtain ⟨value, -, rfl⟩ := List.mem_map.mp hword
  exact ⟨k + 1, value, t.channel_lt_of_mem values k hk, rfl⟩

theorem toList_groups (t : TextTelemetry) :
    t.groups.toList = t.digitGroups.flatMap fun word => word ++ [' '] := by
  rw [groups, String.toList_join, digitGroups, List.flatMap_assoc, List.flatMap_assoc]
  refine List.flatMap_congr ?_
  rintro ⟨values, k⟩ hk
  rw [List.flatMap_map, List.flatMap_map]
  exact List.flatMap_congr fun value _ => toList_group _ value (t.channel_lt_of_mem values k hk)

end Downlink.TextTelemetry

namespace Downlink.Morse
open Text

theorem allBlank_space : AllBlank [' '] := by
  intro c hc
  rw [List.mem_singleton] at hc
  subst hc
  decide

/-! ### Words of a message -/

/-- A greeting, said twice, and the groups. -/
def greeted (greeting : String) (t : TextTelemetry) : List (List Char) :=
  [greeting.toList, greeting.toList] ++ t.digitGroups

theorem mem_greeted {greeting : String} {t : TextTelemetry} {word : List Char}
    (h : word ∈ greeted greeting t) : word = greeting.toList ∨
      ∃ channel value, channel < 10 ∧ word = TextTelemetry.digitGroup channel value := by
  rw [greeted, List.mem_append] at h
  rcases h with hgreeting | hgroup
  · exact Or.inl (by simpa using hgreeting)
  · exact Or.inr (t.exists_of_mem_digitGroups word hgroup)

theorem toList_message (t : TextTelemetry) :
    (Packet.message t).toList = (greeted "hi" t).flatMap fun word => word ++ [' '] := by
  rw [Packet.message, String.toList_append, TextTelemetry.toList_groups, greeted,
    List.flatMap_append]
  rfl

theorem digitChar_facts (n : Nat) (h : n < 10) :
    isBlank (Nat.digitChar n) = false ∧ (Nat.digitChar n).toUpper = Nat.digitChar n ∧
      isKnown (Nat.digitChar n) = true := by
  have htable : ∀ n : Fin 10, isBlank (Nat.digitChar n) = false ∧
      (Nat.digitChar n).toUpper = Nat.digitChar n ∧ isKnown (Nat.digitChar n) = true := by decide
  exact htable ⟨n, h⟩

theorem digitGroup_facts (channel : Nat) (value : Int) (h : channel < 10) :
    ∀ c ∈ TextTelemetry.digitGroup channel value,
      isBlank c = false ∧ c.toUpper = c ∧ isKnown c = true := by
  intro c hc
  rw [TextTelemetry.digitGroup] at hc
  simp only [List.mem_cons, List.not_mem_nil, or_false] at hc
  rcases hc with rfl | rfl | rfl
  · exact digitChar_facts channel h
  · exact digitChar_facts _ (by omega)
  · exact digitChar_facts _ (by omega)

theorem isWord_of_mem_greeted (t : TextTelemetry) :
    ∀ word ∈ greeted "hi" t, IsWord word := by
  intro word hword
  rcases mem_greeted hword with rfl | ⟨channel, value, hlt, rfl⟩
  · refine ⟨by decide, ?_⟩
    show ∀ c ∈ ['h', 'i'], isBlank c = false
    rw [List.forall_mem_cons, List.forall_mem_singleton]
    exact ⟨by decide, by decide⟩
  · exact ⟨List.cons_ne_nil _ _, fun c hc => (digitGroup_facts channel value hlt c hc).1⟩

/-- The greeting is heard in upper case, the groups as they stand. -/
theorem map_greeted (t : TextTelemetry) :
    ((greeted "hi" t).map fun word => (word.map Char.toUpper).filter isKnown) =
      greeted "HI" t := by
  have hgroup : ∀ word ∈ t.digitGroups, (word.map Char.toUpper).filter isKnown = word := by
    intro word hword
    obtain ⟨channel, value, hlt, rfl⟩ := t.exists_of_mem_digitGroups word hword
    have hfacts := digitGroup_facts channel value hlt
    rw [List.map_congr_left fun c hc => (hfacts c hc).2.1, List.map_id', List.filter_eq_self]
    exact fun c hc => (hfacts c hc).2.2
  rw [greeted, List.map_append, List.map_congr_left hgroup, List.map_id', greeted]
  congr 1

theorem ne_nil_of_mem_greeted (t : TextTelemetry) :
    ∀ word ∈ greeted "HI" t, word ≠ [] := by
  intro word hword
  rcases mem_greeted hword with rfl | ⟨channel, value, -, rfl⟩
  · decide
  · exact List.cons_ne_nil _ _

/-! ### Words of a text -/

theorem wordsOf_spaced (words : List (List Char)) (rest : List Char)
    (h : ∀ word ∈ words, IsWord word) :
    wordsOf ((words.flatMap fun word => word ++ [' ']) ++ rest) = words ++ wordsOf rest := by
  induction words with
  | nil => rfl
  | cons word words ih =>
    rw [List.forall_mem_cons] at h
    rw [List.flatMap_cons, List.append_assoc, List.append_assoc,
      h.1.wordsOf_append (endsWord_blanks (by decide) allBlank_space _), wordsOf_blanks allBlank_space,
      ih h.2, List.cons_append]

theorem wordsOf_joined (lists : List (List (List Char)))
    (h : ∀ words ∈ lists, ∀ word ∈ words, IsWord word) :
    wordsOf ([' '].intercalate (lists.map fun words => words.flatMap fun word => word ++ [' '])) =
      lists.flatten := by
  induction lists with
  | nil => rfl
  | cons words rest ih =>
    rw [List.forall_mem_cons] at h
    cases rest with
    | nil =>
      have hlast := wordsOf_spaced words [] h.1
      rw [List.append_nil] at hlast
      rw [List.map_singleton, List.intercalate_singleton, hlast, List.flatten_singleton,
        wordsOf_nil, List.append_nil]
    | cons next rest =>
      rw [List.map_cons, List.map_cons, List.intercalate_cons_cons, List.append_assoc,
        wordsOf_spaced words _ h.1, wordsOf_blanks allBlank_space, ← List.map_cons, ih h.2]
      rfl

theorem toList_messages (ts : List TextTelemetry) :
    (" ".intercalate (ts.map Packet.message)).toList = [' '].intercalate
      ((ts.map (greeted "hi")).map fun words => words.flatMap fun word => word ++ [' ']) := by
  rw [String.toList_intercalate, List.map_map, List.map_map]
  congr 1
  exact List.map_congr_left fun t _ => toList_message t

theorem keyedWords_messages (ts : List TextTelemetry) :
    keyedWords (" ".intercalate (ts.map Packet.message)).toList = ts.flatMap (greeted "HI") := by
  have hwords : ∀ words ∈ ts.map (greeted "hi"), ∀ word ∈ words, IsWord word := by
    intro words hwords
    obtain ⟨t, -, rfl⟩ := List.mem_map.mp hwords
    exact isWord_of_mem_greeted t
  rw [keyedWords, toList_messages, wordsOf_joined _ hwords, ← List.flatMap_def, List.map_flatMap]
  simp only [map_greeted]
  rw [nonempty, List.filter_eq_self]
  intro word hword
  obtain ⟨t, -, hheard⟩ := List.mem_flatMap.mp hword
  simp [ne_nil_of_mem_greeted t word hheard]

/-- Any text is keyed by turns and heard as its words, a gap behind it set aside. Of messages that
are keyed one behind the other, every one is heard as its greeting and its 24 groups of digits. -/
theorem keyed_text_is_heard :
    (∀ text : String,
      (dropTrailingGap (keyRuns text) = [] ∨ Keyed (dropTrailingGap (keyRuns text))) ∧
      decode? (dropTrailingGap (keyRuns text)) = some (keyedWords text.toList)) ∧
    (∀ ts : List TextTelemetry,
      decode? (dropTrailingGap (keyRuns (" ".intercalate (ts.map Packet.message)))) =
        some (ts.flatMap (greeted "HI"))) ∧
    ∀ t : TextTelemetry, t.digitGroups.length = 24 := by
  refine ⟨decode?_keyRuns, fun ts => ?_, TextTelemetry.length_digitGroups⟩
  rw [(decode?_keyRuns _).2, keyedWords_messages]

end Downlink.Morse
