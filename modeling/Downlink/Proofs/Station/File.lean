import Mathlib
import Downlink.Proofs.Station.Description
import Downlink.Station.File

/-!
# The station file from start to start

A file that holds text is always read, whatever the text says, and is written anew at every start.
From then on it holds four words that read as the same callsign and the count of the last start. Only
a file of bytes that are no text is refused.
-/

namespace Downlink

namespace Entry

theorem readText_ofText (text : String) : (ofText text).readText = .ok text := by
  have hvalid : text.toUTF8.IsValidUTF8 := text.isValidUTF8
  have htext : String.fromUTF8? text.toUTF8 = some text := by
    rw [String.fromUTF8?, dif_pos hvalid]
    rfl
  simp only [readText, ofText, read, bind, Except.bind, htext]
  rfl

theorem readText_file_of_not_text {bytes : ByteArray} (h : ¬ ∃ text : String, bytes = text.toUTF8) :
    (file bytes).readText = .error (.storage .notText) := by
  have hnone : String.fromUTF8? bytes = none := by
    rw [String.fromUTF8?]
    split
    · next hvalid => exact absurd ⟨String.fromUTF8 bytes hvalid, rfl⟩ h
    · rfl
  simp only [readText, read, bind, Except.bind, hnone]
  rfl

end Entry

namespace Station

theorem load_ofText (text : String) :
    load (.ofText text) = (.ok (readLenient text), .ofText text) := by
  have hoccupied : (Entry.ofText text).occupied = true := rfl
  rw [load, if_pos hoccupied, Entry.readText_ofText]

theorem load_absent : load .absent = (.ok initial, .ofText initial.render) := rfl

theorem load_of_not_text {bytes : ByteArray} (h : ¬ ∃ text : String, bytes = text.toUTF8) :
    load (.file bytes) = (.error (.storage .notText), .file bytes) := by
  have hoccupied : (Entry.file bytes).occupied = true := rfl
  rw [load, if_pos hoccupied, Entry.readText_file_of_not_text h]

theorem recordReset_of_load {e : Entry} {s : Station} {text : String}
    (h : load e = (.ok s, .ofText text)) :
    recordReset e = (.ok s.countReset, .ofText s.countReset.render) := by
  rw [recordReset, h]
  rfl

/-! ### Starts -/

/-- What the path of the station file leads to behind `k` starts. -/
def afterStarts (e : Entry) : Nat → Entry
  | 0 => e
  | k + 1 => (recordReset (afterStarts e k)).2

theorem recordReset_afterStarts {e : Entry} {first : Station} {text : String}
    (hfirst : first.Writable) (hload : load e = (.ok first, .ofText text)) (k : Nat) :
    ∃ s, s.Writable ∧ recordReset (afterStarts e k) = (.ok s, .ofText s.render) ∧
      s.callsign = first.callsign ∧
      s.resetCount.toNat = (first.resetCount.toNat + (k + 1)) % resetModulus := by
  induction k with
  | zero =>
    exact ⟨first.countReset, hfirst.countReset, recordReset_of_load hload, rfl,
      toNat_countReset first⟩
  | succ k ih =>
    obtain ⟨s, hs, hstart, hcallsign, hcount⟩ := ih
    -- The next start finds what this one has written.
    obtain ⟨latitude, longitude, hread⟩ := hs.readAs_render .lenient
    have hnext : load (afterStarts e (k + 1)) =
        (.ok ⟨s.callsign, s.resetCount, latitude, longitude⟩, .ofText s.render) := by
      rw [afterStarts, hstart, load_ofText, readLenient, hread]
    let next : Station := ⟨s.callsign, s.resetCount, latitude, longitude⟩
    have hwritable : next.Writable := ⟨hs.word, hs.comment, hs.count⟩
    refine ⟨next.countReset, hwritable.countReset, recordReset_of_load hnext, hcallsign, ?_⟩
    rw [toNat_countReset]
    show (s.resetCount.toNat + 1) % resetModulus = _
    rw [hcount, Nat.mod_add_mod, Nat.add_assoc]

/-- A station file with some text, or none. -/
def fileOf (contents : Option String) : Entry := contents.elim .absent Entry.ofText

/-- What a station file with some text is read as, and what stands for one that is missing. -/
def described (contents : Option String) : Station := contents.elim initial readLenient

theorem load_fileOf (contents : Option String) :
    (described contents).Writable ∧
      ∃ text, load (fileOf contents) = (.ok (described contents), .ofText text) := by
  cases contents with
  | none => exact ⟨writable_initial, initial.render, load_absent⟩
  | some text => exact ⟨writable_readLenient text, text, load_ofText text⟩

/-- From a file of any text, or from none, every start succeeds: the `k`-th one, counted from zero,
gives the callsign that was read at first and a count that is `k + 1` higher, modulo 65535. What it
leaves in the file reads strictly as that callsign and that count. Without a file, or from blanks
alone, the first start counts from 100. -/
theorem resets_counted_across_starts (contents : Option String) (k : Nat) :
    (∃ s text reread, recordReset (afterStarts (fileOf contents) k) = (.ok s, .ofText text) ∧
      s.callsign = (described contents).callsign ∧
      s.resetCount.toNat = ((described contents).resetCount.toNat + (k + 1)) % 65535 ∧
      read text = .ok reread ∧ reread.callsign = s.callsign ∧
      reread.resetCount = s.resetCount) ∧
    ((∀ text, contents = some text → Text.AllBlank text.toList) →
      (described contents).resetCount.toNat = 100) := by
  constructor
  · obtain ⟨hfirst, first, hload⟩ := load_fileOf contents
    obtain ⟨s, hs, hstart, hcallsign, hcount⟩ := recordReset_afterStarts hfirst hload k
    obtain ⟨latitude, longitude, hread⟩ := hs.readAs_render .strict
    exact ⟨s, s.render, _, hstart, hcallsign, hcount, hread, rfl, rfl⟩
  · intro hblank
    have hinitial : described contents = initial := by
      cases contents with
      | none => rfl
      | some text => exact readLenient_of_allBlank (hblank text rfl)
    rw [hinitial]
    rfl

/-- A station file is loaded, and a start is counted, if and only if its bytes are a text; no text
is refused, whatever it says. A file of other bytes is left as it was. -/
theorem load_succeeds_iff_text (bytes : ByteArray) :
    ((∃ s, (load (.file bytes)).1 = .ok s) ↔ ∃ text : String, bytes = text.toUTF8) ∧
    ((∃ s, (recordReset (.file bytes)).1 = .ok s) ↔ ∃ text : String, bytes = text.toUTF8) ∧
    (∀ text : String, bytes = text.toUTF8 →
      load (.file bytes) = (.ok (readLenient text), .file bytes) ∧
      (recordReset (.file bytes)).1 = .ok (readLenient text).countReset) ∧
    ((¬ ∃ text : String, bytes = text.toUTF8) →
      load (.file bytes) = (.error (.storage .notText), .file bytes) ∧
      recordReset (.file bytes) = (.error (.storage .notText), .file bytes)) := by
  have htext : ∀ text : String, bytes = text.toUTF8 →
      load (.file bytes) = (.ok (readLenient text), .file bytes) ∧
      (recordReset (.file bytes)).1 = .ok (readLenient text).countReset := by
    rintro text rfl
    exact ⟨load_ofText text, congrArg Prod.fst (recordReset_of_load (load_ofText text))⟩
  have hother : (¬ ∃ text : String, bytes = text.toUTF8) →
      load (.file bytes) = (.error (.storage .notText), .file bytes) ∧
      recordReset (.file bytes) = (.error (.storage .notText), .file bytes) := by
    intro hnone
    have hload := load_of_not_text hnone
    exact ⟨hload, by rw [recordReset, hload]⟩
  refine ⟨⟨?_, ?_⟩, ⟨?_, ?_⟩, htext, hother⟩
  · rintro ⟨s, hs⟩
    by_contra hnone
    rw [(hother hnone).1] at hs
    exact absurd hs (by simp)
  · rintro ⟨text, hbytes⟩
    exact ⟨_, congrArg Prod.fst (htext text hbytes).1⟩
  · rintro ⟨s, hs⟩
    by_contra hnone
    rw [(hother hnone).2] at hs
    exact absurd hs (by simp)
  · rintro ⟨text, hbytes⟩
    exact ⟨_, (htext text hbytes).2⟩

/-- The byte 0xFF is part of no text, and a file that holds it alone is not read. -/
theorem load_refuses_stray_byte :
    (load (.file ⟨#[0xFF]⟩)).1 = .error (.storage .notText) ∧
      (recordReset (.file ⟨#[0xFF]⟩)).1 = .error (.storage .notText) ∧
      ¬ ∃ s, (load (.file ⟨#[0xFF]⟩)).1 = .ok s := by
  have hinvalid : ¬ (⟨#[0xFF]⟩ : ByteArray).IsValidUTF8 := by decide +kernel
  have hnone : ¬ ∃ text : String, (⟨#[0xFF]⟩ : ByteArray) = text.toUTF8 := by
    rintro ⟨text, hbytes⟩
    rw [hbytes] at hinvalid
    exact hinvalid text.isValidUTF8
  have hload := load_of_not_text hnone
  refine ⟨congrArg Prod.fst hload, by rw [recordReset, hload], ?_⟩
  rintro ⟨s, hs⟩
  rw [hload] at hs
  exact absurd hs (by simp)

end Station

end Downlink
