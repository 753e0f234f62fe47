import Mathlib
import Downlink.Frame.Layout

/-!
# Slots of a layout

A layout passes its check exactly if it is consistent. Its slots are the cells of the grid without
the skipped one, column by column; a consistent layout has as many of them as logical bytes, and no
sub-frame gets more than a codeword holds.
-/

namespace Downlink

/-- A layout whose parts agree with each other. -/
structure Layout.Consistent (l : Layout) : Prop where
  subFrames_pos : 0 < l.subFrames
  columns_pos : 0 < l.columns
  columns_le : l.columns ≤ informationBytes
  header_le : packedHeaderBytes ≤ l.headerLength
  payload_pos : 0 < l.copies → 0 < l.payloadLength
  skipped_lt : ∀ s, l.skipped = some s → s.column < l.columns ∧ s.subFrame < l.subFrames
  marker_lt : ∀ m, l.marker = some m → packedHeaderBytes ≤ m.1 ∧ m.1 < l.headerLength
  slotCount_eq : l.slotCount = l.logicalLength

/-- One slot is filled before another: it is in an earlier column, or further up in the same. -/
def Slot.Before (a b : Slot) : Prop :=
  a.column < b.column ∨ (a.column = b.column ∧ a.subFrame < b.subFrame)

namespace Layout

/-! ### The check -/

theorem fault?_eq_none_iff (l : Layout) : l.fault? = none ↔ l.Consistent := by
  constructor
  · intro h
    unfold fault? at h
    split_ifs at h with hgrid hcolumns hheader hpayload hcount
    · split at h
      · exact absurd h (by simp)
      · rename_i hskipped
        split at h
        · exact absurd h (by simp)
        · rename_i hmarker
          rw [Option.filter_eq_none_iff] at hskipped hmarker
          refine ⟨by omega, by omega, by omega, by omega, fun hc => by omega, ?_, ?_, hcount⟩
          · intro s hs
            have hs := hskipped s hs
            simp only [Bool.or_eq_true, decide_eq_true_eq] at hs
            omega
          · intro m hm
            have hm := hmarker m hm
            simp only [Bool.or_eq_true, decide_eq_true_eq] at hm
            omega
    · split at h
      · exact absurd h (by simp)
      · split at h
        · exact absurd h (by simp)
        · exact absurd h (by simp)
  · intro h
    have hskipped : (l.skipped.filter fun s =>
        decide (l.columns ≤ s.column) || decide (l.subFrames ≤ s.subFrame)) = none := by
      rw [Option.filter_eq_none_iff]
      intro s hs
      have hlt := h.skipped_lt s hs
      simp only [Bool.or_eq_true, decide_eq_true_eq]
      omega
    have hmarker : (l.marker.filter fun m =>
        decide (m.1 < packedHeaderBytes) || decide (l.headerLength ≤ m.1)) = none := by
      rw [Option.filter_eq_none_iff]
      intro m hm
      have hlt := h.marker_lt m hm
      simp only [Bool.or_eq_true, decide_eq_true_eq]
      omega
    have hgrid : ¬(l.subFrames = 0 ∨ l.columns = 0) := by
      have hsub := h.subFrames_pos
      have hcol := h.columns_pos
      omega
    have hpayload : ¬(l.payloadLength = 0 ∧ 0 < l.copies) := by
      rintro ⟨hzero, hcopies⟩
      have hpos := h.payload_pos hcopies
      omega
    rw [fault?, if_neg hgrid, if_neg (not_lt.mpr h.columns_le), if_neg (not_lt.mpr h.header_le),
      if_neg hpayload, hskipped]
    simp only [hmarker, h.slotCount_eq, if_true]

theorem validate_eq_ok_iff (l : Layout) : l.validate = .ok () ↔ l.Consistent := by
  rw [← fault?_eq_none_iff, validate]
  cases l.fault? with
  | none => simp
  | some fault => simp

/-! ### The slots of the grid -/

/-- The cells of the grid, column by column. -/
def grid (l : Layout) : List Slot :=
  (List.range l.columns).flatMap fun column => (List.range l.subFrames).map (Slot.mk column)

theorem slots_eq_filter (l : Layout) :
    l.slots = l.grid.filter fun slot => l.skipped != some slot := by
  rw [slots, grid, List.filter_flatMap]

theorem mem_grid (l : Layout) (slot : Slot) :
    slot ∈ l.grid ↔ slot.column < l.columns ∧ slot.subFrame < l.subFrames := by
  simp only [grid, List.mem_flatMap, List.mem_map, List.mem_range]
  constructor
  · rintro ⟨column, hcolumn, subFrame, hsubFrame, rfl⟩
    exact ⟨hcolumn, hsubFrame⟩
  · rintro ⟨hcolumn, hsubFrame⟩
    exact ⟨slot.column, hcolumn, slot.subFrame, hsubFrame, rfl⟩

theorem pairwise_grid (l : Layout) : l.grid.Pairwise Slot.Before := by
  rw [grid, List.pairwise_flatMap]
  constructor
  · intro column _
    rw [List.pairwise_map]
    exact List.pairwise_lt_range.imp fun h => Or.inr ⟨rfl, h⟩
  · refine List.pairwise_lt_range.imp fun h a ha b hb => ?_
    obtain ⟨i, -, rfl⟩ := List.mem_map.mp ha
    obtain ⟨j, -, rfl⟩ := List.mem_map.mp hb
    exact Or.inl h

theorem length_grid (l : Layout) : l.grid.length = l.subFrames * l.columns := by
  simp [grid, List.length_flatMap, List.map_const', Nat.mul_comm]

theorem nodup_grid (l : Layout) : l.grid.Nodup := by
  refine l.pairwise_grid.imp fun h => ?_
  rintro rfl
  rcases h with h | ⟨-, h⟩ <;> exact lt_irrefl _ h

theorem mem_slots (l : Layout) (slot : Slot) :
    slot ∈ l.slots ↔
      slot.column < l.columns ∧ slot.subFrame < l.subFrames ∧ l.skipped ≠ some slot := by
  rw [slots_eq_filter, List.mem_filter, mem_grid, bne_iff_ne, and_assoc]

theorem pairwise_slots (l : Layout) : l.slots.Pairwise Slot.Before := by
  rw [slots_eq_filter]
  exact l.pairwise_grid.filter _

theorem length_slots (l : Layout) (h : l.Consistent) : l.slots.length = l.logicalLength := by
  rw [← h.slotCount_eq, slotCount, slots_eq_filter]
  cases hskipped : l.skipped with
  | none =>
    have hall : l.grid.filter (fun slot => (none : Option Slot) != some slot) = l.grid :=
      List.filter_eq_self.mpr fun _ _ => rfl
    rw [hall, length_grid]
    rfl
  | some s =>
    have herase : l.grid.filter (fun slot => some s != some slot) = l.grid.erase s := by
      rw [l.nodup_grid.erase_eq_filter]
      refine List.filter_congr fun slot _ => ?_
      rw [Bool.eq_iff_iff, bne_iff_ne, bne_iff_ne]
      exact ⟨fun h e => h (e ▸ rfl), fun h e => h (Option.some.inj e).symm⟩
    have hmem : s ∈ l.grid := (l.mem_grid s).mpr (h.skipped_lt s hskipped)
    rw [herase, List.length_erase_of_mem hmem, length_grid]
    rfl

/-- No sub-frame has more slots than there are columns. -/
theorem countP_slots_le (l : Layout) (s : Nat) :
    l.slots.countP (fun slot => slot.subFrame == s) ≤ l.columns := by
  have hcolumn : ∀ column,
      ((List.range l.subFrames).map (Slot.mk column)).countP
        (fun slot => slot.subFrame == s) ≤ 1 := by
    intro column
    rw [List.countP_map]
    exact List.nodup_iff_count_le_one.mp List.nodup_range s
  calc l.slots.countP (fun slot => slot.subFrame == s)
      ≤ l.grid.countP (fun slot => slot.subFrame == s) := by
        rw [slots_eq_filter]
        exact List.filter_sublist.countP_le
    _ ≤ l.columns := by
        rw [grid, List.countP_flatMap]
        have hsum := List.sum_le_card_nsmul
          ((List.range l.columns).map (List.countP (fun slot : Slot => slot.subFrame == s) ∘
            fun column => (List.range l.subFrames).map (Slot.mk column))) 1
          (by
            intro n hn
            obtain ⟨column, -, rfl⟩ := List.mem_map.mp hn
            exact hcolumn column)
        simpa using hsum

end Layout

end Downlink
