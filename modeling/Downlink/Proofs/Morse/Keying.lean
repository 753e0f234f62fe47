import Mathlib
import Downlink.Morse.Keyer

/-!
# Runs of a key as samples

A message is its runs, one behind the other. A run takes its units times the samples of a unit, and
a run in which the key is left is silence. A place in the fading edge is a difference of counts that
never goes below zero, and no count on the way exceeds the length of the message.
-/

namespace Downlink.Keyer
open Morse (KeyRun)

variable (k : Keyer)

/-! ### Samples of runs -/

/-- A tone of `length` samples that begins at `place` of the message. -/
def toneFrom (length place : Nat) : List Int16 :=
  (List.range length).map fun i => k.sample k.edge length i (place + i)

/-- The samples of a run that begins at `place` of the message. -/
def runFrom (place : Nat) (r : KeyRun) : List Int16 :=
  if r.down then k.toneFrom (r.units * k.unit) place else List.replicate (r.units * k.unit) 0

/-- The samples of runs that begin at `place` of the message, one behind the other. -/
def runsFrom (place : Nat) : List KeyRun → List Int16
  | [] => []
  | r :: rest => k.runFrom place r ++ runsFrom (place + r.units * k.unit) rest

/-- The units of runs, taken together. -/
def unitsOf (runs : List KeyRun) : Nat := (runs.map (·.units)).sum

theorem unit_mul_unitsOf_cons (r : KeyRun) (rest : List KeyRun) :
    k.unit * unitsOf (r :: rest) = r.units * k.unit + k.unit * unitsOf rest := by
  have hsum : unitsOf (r :: rest) = r.units + unitsOf rest := rfl
  rw [hsum, Nat.mul_add, Nat.mul_comm r.units]

theorem length_runFrom (place : Nat) (r : KeyRun) :
    (k.runFrom place r).length = r.units * k.unit := by
  unfold runFrom toneFrom
  split
  · simp
  · simp

theorem length_runsFrom (place : Nat) (runs : List KeyRun) :
    (k.runsFrom place runs).length = k.unit * unitsOf runs := by
  induction runs generalizing place with
  | nil => rfl
  | cons r rest ih =>
    rw [runsFrom, List.length_append, length_runFrom, ih, unit_mul_unitsOf_cons]

theorem runsFrom_append (place : Nat) (front back : List KeyRun) :
    k.runsFrom place (front ++ back) =
      k.runsFrom place front ++ k.runsFrom (place + k.unit * unitsOf front) back := by
  induction front generalizing place with
  | nil => rfl
  | cons r rest ih =>
    rw [List.cons_append, runsFrom, runsFrom, ih, unit_mul_unitsOf_cons, Nat.add_assoc,
      List.append_assoc]

theorem toList_addTone (edge length n : Nat) (out : Array Int16) (h : n ≤ length) :
    (k.addTone edge length n out).toList = out.toList ++
      (List.range n).map fun i => k.sample edge length (length - n + i) (out.size + i) := by
  induction n generalizing out with
  | zero => simp [addTone]
  | succ n ih =>
    have hplace : ∀ i, length - (n + 1) + (i + 1) = length - n + i := by omega
    have hsize : ∀ i, out.size + 1 + i = out.size + (i + 1) := by omega
    rw [addTone, ih _ (by omega), Array.toList_push, Array.size_push, List.append_assoc,
      List.range_succ_eq_map, List.map_cons, List.map_map]
    simp only [Function.comp_def, Nat.succ_eq_add_one, hplace, hsize]
    rfl

theorem toList_addSilence (n : Nat) (out : Array Int16) :
    (addSilence n out).toList = out.toList ++ List.replicate n 0 := by
  induction n generalizing out with
  | zero => simp [addSilence]
  | succ n ih =>
    rw [addSilence, ih, Array.toList_push, List.append_assoc, List.replicate_succ]
    rfl

theorem toList_addRun (out : Array Int16) (r : KeyRun) :
    (k.addRun out r).toList = out.toList ++ k.runFrom out.size r := by
  unfold addRun runFrom toneFrom
  dsimp only
  split
  · rw [toList_addTone k _ _ _ _ (Nat.le_refl _)]
    simp
  · rw [toList_addSilence]

theorem size_addRun (out : Array Int16) (r : KeyRun) :
    (k.addRun out r).size = out.size + r.units * k.unit := by
  rw [← Array.length_toList, toList_addRun, List.length_append, length_runFrom,
    Array.length_toList]

theorem toList_foldl_addRun (runs : List KeyRun) (out : Array Int16) :
    (runs.foldl k.addRun out).toList = out.toList ++ k.runsFrom out.size runs := by
  induction runs generalizing out with
  | nil => simp [runsFrom]
  | cons r rest ih =>
    rw [List.foldl_cons, ih, toList_addRun, size_addRun, List.append_assoc, runsFrom]

theorem toList_key (text : String) : (k.key text).toList = k.runsFrom 0 (Morse.keyRuns text) := by
  rw [key, toList_foldl_addRun]
  rfl

theorem size_key (text : String) : (k.key text).size = k.unit * unitsOf (Morse.keyRuns text) := by
  rw [← Array.length_toList, toList_key, length_runsFrom]

/-! ### Checked counts -/

/-- A difference of counts, unless it goes below zero. -/
def minus? (a b : Nat) : Option Nat := if b ≤ a then some (a - b) else none

/-- A count, unless there is no room for so many. -/
def within? (limit n : Nat) : Option Nat := if n ≤ limit then some n else none

/-- The level at sample `i` of a run. What is left of the run, `length - i`, and one less than that,
must not go below zero. -/
def envelope? (edge length i : Nat) : Option Float :=
  if i < edge then some (real64 i / real64 edge)
  else do
    let left ← minus? length i
    if left ≤ edge then
      let last ← minus? left 1
      return real64 last / real64 edge
    else return 1.0

/-- Adds sample `i` of a run, if the message has room for one more. -/
def pushSample? (limit length : Nat) (out : Array Int16) (i : Nat) : Option (Array Int16) := do
  let level ← envelope? k.edge length i
  let _ ← within? limit (out.size + 1)
  return out.push (Truncation.sample64 (k.amplitude * level * (k.step * real64 out.size).sin))

/-- Adds a run, if its samples can be counted. A silence is added at once, so its end is counted
too; a tone is counted sample by sample. -/
def addRun? (limit : Nat) (out : Array Int16) (r : KeyRun) : Option (Array Int16) := do
  let length ← within? limit (r.units * k.unit)
  if r.down then (List.range length).foldlM (k.pushSample? limit length) out
  else
    let _ ← within? limit (out.size + length)
    return out ++ Array.replicate length 0

/-- The length of a message behind one more run. The samples of the run and the sum are counts. -/
def addLength? (limit length : Nat) (r : KeyRun) : Option Nat := do
  let samples ← within? limit (r.units * k.unit)
  within? limit (length + samples)

/-- The samples that spell a text, made in steps that end as soon as a difference goes below zero or
a count passes `limit`. -/
def key? (limit : Nat) (text : String) : Option (Array Int16) := do
  let _ ← (Morse.keyRuns text).foldlM (k.addLength? limit) 0
  (Morse.keyRuns text).foldlM (k.addRun? limit) #[]

theorem minus?_of_le {a b : Nat} (h : b ≤ a) : minus? a b = some (a - b) := if_pos h

theorem within?_of_le {limit n : Nat} (h : n ≤ limit) : within? limit n = some n := if_pos h

theorem envelope?_of_lt {edge length i : Nat} (h : i < length) :
    envelope? edge length i = some (envelope edge length i) := by
  unfold envelope? envelope
  split
  · rfl
  · rw [minus?_of_le h.le, Option.bind_eq_bind, Option.bind_some]
    split
    · rw [minus?_of_le (by omega)]
      rfl
    · rfl

theorem pushSample?_of_lt {limit length i : Nat} {out : Array Int16} (hi : i < length)
    (hsize : out.size < limit) :
    k.pushSample? limit length out i = some (out.push (k.sample k.edge length i out.size)) := by
  rw [pushSample?, envelope?_of_lt hi, within?_of_le (by omega)]
  rfl

theorem foldlM_pushSample? {limit length n : Nat} {out : Array Int16} (hn : n ≤ length)
    (hsize : out.size + n ≤ limit) :
    ∃ next, (List.range n).foldlM (k.pushSample? limit length) out = some next ∧
      next.toList = out.toList ++
        (List.range n).map fun i => k.sample k.edge length i (out.size + i) := by
  induction n with
  | zero => exact ⟨out, rfl, by simp⟩
  | succ n ih =>
    obtain ⟨mid, hmid, hlist⟩ := ih (by omega) (by omega)
    have hplace : mid.size = out.size + n := by
      rw [← Array.length_toList, hlist]
      simp
    refine ⟨mid.push (k.sample k.edge length n mid.size), ?_, ?_⟩
    · rw [List.range_succ, List.foldlM_append, hmid, Option.bind_eq_bind, Option.bind_some,
        List.foldlM_cons, pushSample?_of_lt k (by omega) (by omega)]
      rfl
    · rw [Array.toList_push, hlist, hplace, List.range_succ, List.map_append, List.append_assoc]
      rfl

theorem addRun?_of_le {limit : Nat} {out : Array Int16} {r : KeyRun}
    (h : out.size + r.units * k.unit ≤ limit) : k.addRun? limit out r = some (k.addRun out r) := by
  have hlist := toList_addRun k out r
  rw [addRun?, within?_of_le (by omega), Option.bind_eq_bind, Option.bind_some]
  unfold runFrom toneFrom at hlist
  split
  · next hdown =>
    obtain ⟨next, hnext, htone⟩ := k.foldlM_pushSample? (Nat.le_refl _) h
    rw [if_pos hdown] at hlist
    rw [hnext, Array.ext' (htone.trans hlist.symm)]
  · next hup =>
    rw [if_neg hup] at hlist
    rw [within?_of_le h]
    refine congrArg some (Array.ext' ?_)
    rw [hlist, Array.toList_append, Array.toList_replicate]

theorem foldlM_addRun?_of_le {limit : Nat} {out : Array Int16} {runs : List KeyRun}
    (h : out.size + k.unit * unitsOf runs ≤ limit) :
    runs.foldlM (k.addRun? limit) out = some (runs.foldl k.addRun out) := by
  induction runs generalizing out with
  | nil => rfl
  | cons r rest ih =>
    have hsize := size_addRun k out r
    rw [unit_mul_unitsOf_cons] at h
    rw [List.foldlM_cons, addRun?_of_le k (by omega), Option.bind_eq_bind, Option.bind_some,
      ih (by omega), List.foldl_cons]

theorem foldlM_addLength?_of_le {limit length : Nat} {runs : List KeyRun}
    (h : length + k.unit * unitsOf runs ≤ limit) :
    runs.foldlM (k.addLength? limit) length = some (length + k.unit * unitsOf runs) := by
  induction runs generalizing length with
  | nil => rfl
  | cons r rest ih =>
    rw [unit_mul_unitsOf_cons] at h
    rw [List.foldlM_cons, addLength?, within?_of_le (by omega), Option.bind_eq_bind,
      Option.bind_some, within?_of_le (by omega), Option.bind_some,
      ih (by omega), unit_mul_unitsOf_cons, Nat.add_assoc]

/-- No difference goes below zero while a text is keyed, and no count passes the length of the
message. The message is as long as its runs and holds them in order, with silence in every run in
which the key is left. -/
theorem key_lays_runs (text : String) :
    (∀ limit, (k.key text).size ≤ limit → k.key? limit text = some (k.key text)) ∧
    (k.key text).size = k.unit * unitsOf (Morse.keyRuns text) ∧
    ∀ front r back, Morse.keyRuns text = front ++ r :: back →
      ((k.key text).toList.drop (k.unit * unitsOf front)).take (r.units * k.unit) =
        if r.down then k.toneFrom (r.units * k.unit) (k.unit * unitsOf front)
        else List.replicate (r.units * k.unit) 0 := by
  refine ⟨?_, size_key k text, ?_⟩
  · intro limit hlimit
    rw [size_key] at hlimit
    rw [key?, foldlM_addLength?_of_le k (by simpa using hlimit), Option.bind_eq_bind, Option.bind_some,
      foldlM_addRun?_of_le k (by simpa using hlimit), key]
  · intro front r back hruns
    have hfront := length_runsFrom k 0 front
    have hrun := length_runFrom k (k.unit * unitsOf front) r
    rw [toList_key, hruns, runsFrom_append, Nat.zero_add, runsFrom, List.drop_left' hfront,
      List.take_left' hrun]
    rfl

end Downlink.Keyer
