import TrafficRules.Annotation
import TrafficRules.Proofs.Counts
import TrafficRules.Proofs.RowId

/-! # Triggered rules

Which identifiers an annotation has (`mem_annotate_iff`), in which order (`annotate_ascending`), and
when a pattern without bounds of its own is satisfied: as soon as its signature has matched in its
direction (`satisfied_iff`). -/

namespace TrafficRules

/-! ### Repetitions -/

section

variable {α : Type} [BEq α]

theorem eraseReps_loop (as : List α) : ∀ (b : α) (acc : List α),
    List.eraseRepsBy.loop (· == ·) b as acc =
      acc.reverse ++ List.eraseRepsBy.loop (· == ·) b as [] := by
  induction as with
  | nil =>
      intro b acc
      rw [List.eraseRepsBy.loop, List.eraseRepsBy.loop, List.reverse_cons]
      rfl
  | cons c rest ih =>
      intro b acc
      rw [List.eraseRepsBy.loop, List.eraseRepsBy.loop]
      split
      · exact ih b acc
      · rw [ih c (b :: acc), ih c [b], List.reverse_cons, List.append_assoc]
        rfl

/-- Of two neighbours that are alike one is left. -/
theorem eraseReps_cons_cons [LawfulBEq α] (a b : α) (rest : List α) :
    (a :: b :: rest).eraseReps =
      if a == b then (b :: rest).eraseReps else a :: (b :: rest).eraseReps := by
  unfold List.eraseReps List.eraseRepsBy
  simp only
  rw [List.eraseRepsBy.loop]
  split
  · rename_i hab
    rw [hab, if_pos rfl, eq_of_beq hab]
  · rename_i hab
    rw [hab, if_neg Bool.false_ne_true, eraseReps_loop rest b [a]]
    rfl

theorem mem_eraseReps [LawfulBEq α] {a : α} {as : List α} : a ∈ as.eraseReps ↔ a ∈ as := by
  induction as with
  | nil => exact Iff.rfl
  | cons b rest ih =>
      cases rest with
      | nil => exact Iff.rfl
      | cons c rest =>
          rw [eraseReps_cons_cons]
          split
          · rename_i hbc
            rw [ih, eq_of_beq hbc, List.mem_cons, List.mem_cons, List.mem_cons, or_self_left]
          · rw [List.mem_cons, ih, ← List.mem_cons]

end

/-- Of ascending identifiers those are left that are greater than the ones before. -/
theorem RowId.pairwise_eraseReps {ids : List RowId} (h : ids.Pairwise (· ≤ ·)) :
    ids.eraseReps.Pairwise (· < ·) := by
  induction ids with
  | nil => exact List.Pairwise.nil
  | cons a rest ih =>
      cases rest with
      | nil => exact List.pairwise_singleton _ _
      | cons b rest =>
          obtain ⟨ha, hrest⟩ := List.pairwise_cons.mp h
          rw [eraseReps_cons_cons]
          split
          · exact ih hrest
          · rename_i hab
            refine List.pairwise_cons.mpr ⟨fun x hx => ?_, ih hrest⟩
            have hlt : a < b := by
              refine Nat.lt_of_not_le fun hba => hab ?_
              rw [le_antisymm (ha b List.mem_cons_self) hba]
              exact beq_self_eq_true b
            rcases List.mem_cons.mp (mem_eraseReps.mp hx) with rfl | hx
            · exact hlt
            · exact Nat.lt_of_lt_of_le hlt ((List.pairwise_cons.mp hrest).1 x hx)

/-! ### Annotations -/

theorem mem_annotate_iff {rules : List Rule} {c : Connection} {counts : DirectionalCounts}
    {id : RowId} :
    id ∈ annotate rules c counts ↔ ∃ r ∈ rules, r.triggered c counts = true ∧ r.id = id := by
  rw [annotate, mem_eraseReps, List.mem_mergeSort, List.mem_map]
  constructor
  · rintro ⟨r, hr, hid⟩
    obtain ⟨hmem, htriggered⟩ := List.mem_filter.mp hr
    exact ⟨r, hmem, htriggered, hid⟩
  · rintro ⟨r, hmem, htriggered, hid⟩
    exact ⟨r, List.mem_filter.mpr ⟨hmem, htriggered⟩, hid⟩

theorem annotate_ascending (rules : List Rule) (c : Connection) (counts : DirectionalCounts) :
    (annotate rules c counts).Pairwise (· < ·) := by
  refine RowId.pairwise_eraseReps ((List.pairwise_mergeSort ?_ ?_ _).imp of_decide_eq_true)
  · intro a b c hab hbc
    simp only [decide_eq_true_eq] at hab hbc ⊢
    exact Nat.le_trans hab hbc
  · intro a b
    simp only [Bool.or_eq_true, decide_eq_true_eq]
    exact Nat.le_total a.toNat b.toNat

theorem triggered_iff {r : Rule} {c : Connection} {counts : DirectionalCounts} :
    r.triggered c counts = true ↔
      r.enabled = true ∧ r.filter.passes c = true ∧ ∀ p ∈ r.patterns, p.satisfied counts = true := by
  rw [Rule.triggered, Bool.and_eq_true, Bool.and_eq_true, List.all_eq_true, and_assoc]

/-- A pattern without a lower bound above one and without an upper bound is satisfied as soon as its
signature has matched. -/
theorem satisfied_iff {p : Pattern} {counts : DirectionalCounts} {n : Nat}
    (hn : p.corpusId = some n) (hmin : p.minOccurrences ≤ 1) (hmax : p.maxOccurrences = 0) :
    p.satisfied counts = true ↔ 0 < (counts.count n p.direction).toNat := by
  have hone : max p.minOccurrences 1 = 1 := if_pos hmin
  unfold Pattern.satisfied
  rw [hn]
  simp only [hone, hmax, Bool.and_eq_true, decide_eq_true_eq, Bool.or_eq_true, true_or, and_true]
  exact UInt32.le_iff_toNat_le

end TrafficRules
