import TrafficRules.Proofs.RowId
import TrafficRules.Rule

/-! # Lists in order

Sorting leaves elements in their order that are in order already (`filter_mergeSort`). So the rules
with one identifier keep their order when rules are sorted by identifier, and a sorted list is known
by its rules of each identifier (`Rule.eq_of_sorted`). A rule that is replaced by one with its identifier
leaves its place to that one (`Rule.mergeSort_replace`). -/

namespace TrafficRules

theorem filter_mergeSort {α : Type} {le : α → α → Bool}
    (htrans : ∀ a b c, le a b = true → le b c = true → le a c = true)
    (htotal : ∀ a b, (le a b || le b a) = true) {p : α → Bool} {xs : List α}
    (h : (xs.filter p).Pairwise fun a b => le a b = true) :
    (xs.mergeSort le).filter p = xs.filter p := by
  have hsub : (xs.filter p).Sublist (xs.mergeSort le) :=
    List.sublist_mergeSort htrans htotal h List.filter_sublist
  have hsub' := hsub.filter p
  rw [List.filter_filter] at hsub'
  simp only [Bool.and_self] at hsub'
  exact (hsub'.eq_of_length ((List.mergeSort_perm xs le).filter p).length_eq.symm).symm

namespace Rule

/-- The rules are ascending by identifier. -/
def Sorted (rules : List Rule) : Prop := rules.Pairwise fun a b => a.id ≤ b.id

theorem byId_trans (a b c : Rule) (hab : decide (a.id ≤ b.id) = true)
    (hbc : decide (b.id ≤ c.id) = true) : decide (a.id ≤ c.id) = true := by
  simp only [decide_eq_true_eq] at hab hbc ⊢
  exact Nat.le_trans hab hbc

theorem byId_total (a b : Rule) : (decide (a.id ≤ b.id) || decide (b.id ≤ a.id)) = true := by
  simp only [Bool.or_eq_true, decide_eq_true_eq]
  exact Nat.le_total a.id.toNat b.id.toNat

theorem sorted_mergeSort (rules : List Rule) : Sorted (rules.mergeSort fun a b => a.id ≤ b.id) :=
  (List.pairwise_mergeSort byId_trans byId_total rules).imp of_decide_eq_true

/-- Rules with one identifier keep their order when rules are sorted. -/
theorem filter_id_mergeSort (rules : List Rule) (id : RowId) :
    (rules.mergeSort fun a b => a.id ≤ b.id).filter (fun r => r.id = id) =
      rules.filter fun r => r.id = id := by
  apply filter_mergeSort byId_trans byId_total
  refine List.pairwise_iff_forall_sublist.mpr fun {a b} hab => ?_
  have ha : a.id = id := by simpa using (List.mem_filter.mp (hab.subset (by simp : a ∈ [a, b]))).2
  have hb : b.id = id := by simpa using (List.mem_filter.mp (hab.subset (by simp : b ∈ [a, b]))).2
  rw [decide_eq_true_eq, ha, hb]
  exact Nat.le_refl _

theorem Sorted.head_le {x y : Rule} {xs : List Rule} (h : Sorted (x :: xs)) (hy : y ∈ x :: xs) :
    x.id ≤ y.id := by
  rcases List.mem_cons.mp hy with rfl | hy
  · exact Nat.le_refl _
  · exact (List.pairwise_cons.mp h).1 y hy

/-- A sorted list is known by its rules of each identifier. -/
theorem eq_of_sorted : ∀ {xs ys : List Rule}, Sorted xs → Sorted ys →
    (∀ id, xs.filter (fun r => r.id = id) = ys.filter fun r => r.id = id) → xs = ys
  | [], [], _, _, _ => rfl
  | [], y :: ys, _, _, h => by simpa using h y.id
  | x :: xs, [], _, _, h => by simpa using h x.id
  | x :: xs, y :: ys, hx, hy, h => by
      have hy_mem : y ∈ (x :: xs).filter fun r => r.id = y.id := by simp [h]
      have hx_mem : x ∈ (y :: ys).filter fun r => r.id = x.id := by simp [← h]
      have hid : x.id = y.id := RowId.le_antisymm
        (hx.head_le (List.mem_filter.mp hy_mem).1) (hy.head_le (List.mem_filter.mp hx_mem).1)
      have hheads := h x.id
      rw [List.filter_cons_of_pos (by simp), List.filter_cons_of_pos (by simp [hid]),
        List.cons.injEq] at hheads
      obtain ⟨rfl, htails⟩ := hheads
      refine congrArg (x :: ·) (eq_of_sorted (List.pairwise_cons.mp hx).2
        (List.pairwise_cons.mp hy).2 fun id => ?_)
      by_cases he : x.id = id
      · rw [← he]
        exact htails
      · have hrest := h id
        rwa [List.filter_cons_of_neg (by simpa using he),
          List.filter_cons_of_neg (by simpa using he)] at hrest

/-- Whether a rule is replaced by one with its identifier before a list is sorted or behind that is the
same. -/
theorem mergeSort_replace (before after : List Rule) {a b : Rule} (h : b.id = a.id) :
    ∃ front back, ((before ++ a :: after).mergeSort fun x y => x.id ≤ y.id) = front ++ a :: back ∧
      ((before ++ b :: after).mergeSort fun x y => x.id ≤ y.id) = front ++ b :: back := by
  have hfilter := filter_id_mergeSort (before ++ a :: after) a.id
  rw [List.filter_append, List.filter_cons_of_pos (by simp)] at hfilter
  obtain ⟨first, rest, hsplit, hfirst, hrest⟩ := List.filter_eq_append_iff.mp hfilter
  obtain ⟨others, back, rfl, hothers, _, hback⟩ := List.filter_eq_cons_iff.mp hrest
  rw [← List.append_assoc] at hsplit
  have hsame := sorted_mergeSort (before ++ a :: after)
  rw [hsplit] at hsame
  refine ⟨first ++ others, back, hsplit, eq_of_sorted (sorted_mergeSort _) ?_ fun id => ?_⟩
  · have hids : ((first ++ others) ++ b :: back).map Rule.id =
        ((first ++ others) ++ a :: back).map Rule.id := by simp [h]
    exact List.pairwise_map.mp (hids ▸ List.pairwise_map.mpr hsame)
  · rw [filter_id_mergeSort, List.filter_append, List.filter_append]
    by_cases hid : a.id = id
    · have hothers' : others.filter (fun r => r.id = id) = [] :=
        List.filter_eq_nil_iff.mpr (hid ▸ hothers)
      rw [List.filter_cons_of_pos (by simp [h, hid]), List.filter_cons_of_pos (by simp [h, hid]),
        List.filter_append, hothers', List.append_nil, ← hid, hfirst, hback]
    · have hall := filter_id_mergeSort (before ++ a :: after) id
      rw [hsplit, List.filter_append, List.filter_append before,
        List.filter_cons_of_neg (by simpa using hid),
        List.filter_cons_of_neg (by simpa using hid)] at hall
      rw [List.filter_cons_of_neg (by simpa [h] using hid),
        List.filter_cons_of_neg (by simpa [h] using hid), hall]

end Rule
end TrafficRules
