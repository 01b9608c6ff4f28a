import TrafficRules.Engine.Basic
import TrafficRules.Proofs.Outcome
import Mathlib.Data.List.Perm.Subperm
import Mathlib.Algebra.BigOperators.Group.List.Basic
import Mathlib.Algebra.Order.BigOperators.Group.List
import Mathlib.Algebra.Order.Ring.Nat

/-! # Which engines can be built

An engine can be built for signatures if their number and the size of their set are within the limits
of the configuration (`build_ok_iff`). Neither grows when signatures are left out or put in another
order: the terms of a set count one by one, and what they share grows with their number
(`programSize_mono`). So with some signatures an engine can be built for any part of them
(`exists_build_of_subperm`). -/

namespace TrafficRules

namespace Regex

variable {ts us : List Term}

theorem foldl_size (l : Layout) (accepting : Nat) (ts : List Term) : ∀ n,
    ts.foldl (fun n t => n + t.size l + accepting) n =
      n + (ts.map fun t => t.size l + accepting).sum := by
  induction ts with
  | nil => exact fun _ => rfl
  | cons t rest ih =>
      intro n
      rw [List.foldl_cons, ih, List.map_cons, List.sum_cons]
      omega

/-- Part of some terms takes no more than all of them. -/
theorem programSize_mono (l : Layout) (h : ts.Subperm us) : programSize l ts ≤ programSize l us := by
  have hall : us.all (Term.isAnchored l) = true → ts.all (Term.isAnchored l) = true := by
    rw [List.all_eq_true, List.all_eq_true]
    exact fun hu t ht => hu t (h.subset ht)
  have hskipping : (if ts.all (Term.isAnchored l) then stepSize else choiceSize 2 + spansSize 1) ≤
      if us.all (Term.isAnchored l) then stepSize else choiceSize 2 + spansSize 1 := by
    have hstep : stepSize ≤ choiceSize 2 + spansSize 1 := by decide
    by_cases hu : us.all (Term.isAnchored l) = true
    · rw [if_pos hu, if_pos (hall hu)]
    · rw [if_neg hu]
      split
      · exact hstep
      · exact Nat.le_refl _
  have hlength := h.length_le
  have hchoice : (if ts.length < 2 then 0 else choiceSize ts.length + stepSize) ≤
      if us.length < 2 then 0 else choiceSize us.length + stepSize := by
    unfold choiceSize targetSize
    split <;> split <;> omega
  have hsum : ∀ accepting, (ts.map fun t => t.size l + accepting).sum ≤
      (us.map fun t => t.size l + accepting).sum := by
    intro accepting
    obtain ⟨vs, hperm, hsub⟩ := h
    rw [← (hperm.map fun t => t.size l + accepting).sum_eq]
    exact (hsub.map _).sum_le_sum fun _ _ => Nat.zero_le _
  unfold programSize
  rw [foldl_size, foldl_size]
  exact Nat.add_le_add (Nat.add_le_add hskipping hchoice) (hsum _)

theorem setProgramSize_mono (h : ts.Subperm us) : setProgramSize ts ≤ setProgramSize us :=
  max_le_max (programSize_mono _ h) (programSize_mono _ h)

end Regex

namespace Engine

theorem build_ok_iff {ss : List Signature} {c : EngineConfig} {e : Engine} :
    build ss c = .ok e ↔ e = ⟨ss, c.streamWindow⟩ ∧
      (c.maxPatterns ≠ 0 → ss.length ≤ c.maxPatterns.toNat) ∧ e.setSize ≤ c.setSizeLimit.toNat := by
  unfold build
  dsimp only
  constructor
  · intro h
    split at h
    · cases h
    · rename_i hcount
      split at h
      · cases h
      · rename_i hsize
        cases h
        exact ⟨rfl, fun hmax => Nat.not_lt.mp fun hlt => hcount ⟨hmax, hlt⟩, Nat.not_lt.mp hsize⟩
  · rintro ⟨rfl, hcount, hsize⟩
    rw [if_neg fun hlt => Nat.not_lt.mpr (hcount hlt.1) hlt.2, if_neg (Nat.not_lt.mpr hsize)]

/-- The terms of the set. -/
def setTerms (ss : List Signature) : List Regex.Term :=
  (ss.filter fun s => s.literal.isNone).map fun s => s.setRegex.term

theorem map_expressionsOf (ss : List Signature) : ∀ first,
    (expressionsOf first ss).map (fun x => x.2.setRegex.term) = setTerms ss := by
  induction ss with
  | nil => exact fun _ => rfl
  | cons s rest ih =>
      intro first
      rw [expressionsOf, setTerms, List.filter_cons]
      by_cases hs : s.literal.isNone = true
      · rw [if_pos hs, if_pos hs, List.map_cons, List.map_cons, ih, setTerms]
      · rw [if_neg hs, if_neg hs, ih, setTerms]

theorem setSize_eq (e : Engine) :
    e.setSize = if setTerms e.signatures = [] then 0
      else Regex.setProgramSize (setTerms e.signatures) := by
  rw [← map_expressionsOf e.signatures 0]
  unfold setSize expressions
  cases expressionsOf 0 e.signatures with
  | nil => rfl
  | cons x rest => rfl

/-- Literals take no room in the set. -/
theorem setSize_of_literals {e : Engine} (h : ∀ s ∈ e.signatures, s.literal.isSome) :
    e.setSize = 0 := by
  have hnone : e.signatures.filter (fun s => s.literal.isNone) = [] := by
    rw [List.filter_eq_nil_iff]
    intro s hs
    rw [← Option.not_isSome, h s hs]
    exact Bool.false_ne_true
  rw [setSize_eq, setTerms, hnone]
  rfl

/-- If their number is not limited, an engine can be built for any literals. -/
theorem build_of_literals {ss : List Signature} {c : EngineConfig}
    (h : ∀ s ∈ ss, s.literal.isSome) (hmax : c.maxPatterns = 0) :
    build ss c = .ok ⟨ss, c.streamWindow⟩ := by
  refine build_ok_iff.mpr ⟨rfl, fun hne => absurd hmax hne, ?_⟩
  rw [setSize_of_literals h]
  exact Nat.zero_le _

/-- **Part of a corpus**: with some signatures an engine can be built for any of them in any order. -/
theorem exists_build_of_subperm {ss ts : List Signature} {c : EngineConfig} {e : Engine}
    (h : build ss c = .ok e) (hsub : ts.Subperm ss) : ∃ e', build ts c = .ok e' := by
  obtain ⟨rfl, hcount, hsize⟩ := build_ok_iff.mp h
  refine ⟨⟨ts, c.streamWindow⟩, build_ok_iff.mpr ⟨rfl, fun hmax => ?_, Nat.le_trans ?_ hsize⟩⟩
  · exact Nat.le_trans hsub.length_le (hcount hmax)
  · have hterms : (setTerms ts).Subperm (setTerms ss) := by
      obtain ⟨_, hperm, hsub⟩ := hsub.filter fun s => s.literal.isNone
      exact ⟨_, hperm.map _, hsub.map _⟩
    rw [setSize_eq, setSize_eq]
    split
    · exact Nat.zero_le _
    · rename_i hne
      have hne' : setTerms ss ≠ [] := by
        intro hnil
        rw [hnil] at hterms
        exact hne (List.subperm_nil.mp hterms)
      rw [if_neg hne']
      exact Regex.setProgramSize_mono hterms

end Engine
end TrafficRules
