import TrafficRules.Corpus

/-! # Numbers of signatures

A corpus is `Dense` if its list of signatures and its table of numbers are inverse to each other: the
number of a canonical form is the place of the signature that has it. A corpus stays dense whatever is
registered (`Dense.registerAll`). Signatures that are new and differ from each other are put behind the
others (`registerAll_fresh`); a number once given stays (`Dense.lookup?_mono`). -/

namespace TrafficRules.Corpus

/-- The number of a canonical form is the place of the signature that has it. -/
def Dense (c : Corpus) : Prop :=
  ∀ canonical n, c.lookup? canonical = some n ↔ ∃ s, c.get? n = some s ∧ s.canonical = canonical

theorem dense_empty : Dense {} := by
  intro canonical n
  simp [lookup?, get?]

variable {c d : Corpus}

theorem get?_mono (h : c.signatures <+: d.signatures) {n : Nat} {s : Signature}
    (hs : c.get? n = some s) : d.get? n = some s := by
  obtain ⟨later, hd⟩ := h
  have hn : n < c.signatures.length := (List.getElem?_eq_some_iff.mp hs).1
  rw [get?, ← hd, List.getElem?_append_left hn]
  exact hs

/-- A number once given stays. -/
theorem Dense.lookup?_mono (hc : c.Dense) (hd : d.Dense) (h : c.signatures <+: d.signatures)
    {canonical : String} {n : Nat} (hn : c.lookup? canonical = some n) :
    d.lookup? canonical = some n := by
  obtain ⟨s, hs, hcan⟩ := (hc canonical n).mp hn
  exact (hd canonical n).mpr ⟨s, get?_mono h hs, hcan⟩

theorem register_fresh {s : Signature} (h : c.lookup? s.canonical = none) :
    (c.register s).2 = ⟨c.signatures ++ [s], c.numbers.insert s.canonical c.size⟩ := by
  simp only [register, h]

theorem lookup?_register_fresh {s : Signature} (h : c.lookup? s.canonical = none)
    (canonical : String) : (c.register s).2.lookup? canonical =
      if s.canonical = canonical then some c.size else c.lookup? canonical := by
  rw [register_fresh h]
  exact Table.get?_insert _ _ _ _

theorem Dense.register (hc : c.Dense) {s : Signature} (h : c.lookup? s.canonical = none) :
    (c.register s).2.Dense := by
  intro canonical n
  have hget : (c.register s).2.get? n = (c.signatures ++ [s])[n]? := by rw [register_fresh h]; rfl
  rw [lookup?_register_fresh h, hget]
  by_cases he : s.canonical = canonical
  · rw [if_pos he, Option.some.injEq]
    constructor
    · rintro rfl
      exact ⟨s, List.getElem?_concat_length, he⟩
    · rintro ⟨t, ht, hcan⟩
      rcases Nat.lt_or_ge n c.signatures.length with hn | hn
      · -- an older signature with this form would have given it a number
        rw [List.getElem?_append_left hn] at ht
        have := (hc canonical n).mpr ⟨t, ht, hcan⟩
        rw [← he, h] at this
        cases this
      · have := (List.getElem?_eq_some_iff.mp ht).1
        simp only [List.length_append, List.length_singleton] at this
        have : c.size = c.signatures.length := rfl
        omega
  · rw [if_neg he, hc canonical n]
    constructor
    · rintro ⟨t, ht, hcan⟩
      have hn : n < c.signatures.length := (List.getElem?_eq_some_iff.mp ht).1
      exact ⟨t, by rw [List.getElem?_append_left hn]; exact ht, hcan⟩
    · rintro ⟨t, ht, hcan⟩
      rcases Nat.lt_or_ge n c.signatures.length with hn | hn
      · rw [List.getElem?_append_left hn] at ht
        exact ⟨t, ht, hcan⟩
      · rw [List.getElem?_append_right hn] at ht
        have hts : t = s := by
          have := List.mem_of_getElem? ht
          simpa using this
        exact absurd (hts ▸ hcan) he

/-- Signatures that are new and differ from each other are still new when the first is registered. -/
theorem fresh_register {s : Signature} {rest : List Signature}
    (hfresh : ∀ t ∈ s :: rest, c.lookup? t.canonical = none)
    (hnodup : ((s :: rest).map Signature.canonical).Nodup) :
    ∀ t ∈ rest, (c.register s).2.lookup? t.canonical = none := by
  rw [List.map_cons, List.nodup_cons] at hnodup
  intro t ht
  rw [lookup?_register_fresh (hfresh s List.mem_cons_self), if_neg]
  · exact hfresh t (List.mem_cons_of_mem s ht)
  · exact fun he => hnodup.1 (he ▸ List.mem_map_of_mem ht)

/-- New signatures that differ from each other are put behind the others and get the numbers that
follow, and the numbers of before stay. -/
theorem registerAll_fresh {ss : List Signature} {c : Corpus}
    (hfresh : ∀ s ∈ ss, c.lookup? s.canonical = none) (hnodup : (ss.map Signature.canonical).Nodup) :
    (c.registerAll ss).signatures = c.signatures ++ ss ∧
      (∀ canonical n, c.lookup? canonical = some n →
        (c.registerAll ss).lookup? canonical = some n) ∧
      ∀ i s, ss[i]? = some s → (c.registerAll ss).lookup? s.canonical = some (c.size + i) := by
  induction ss generalizing c with
  | nil => exact ⟨(List.append_nil _).symm, fun _ _ h => h, fun i s hs => by cases hs⟩
  | cons s rest ih =>
      have hs : c.lookup? s.canonical = none := hfresh s List.mem_cons_self
      have hrest := fresh_register hfresh hnodup
      rw [List.map_cons, List.nodup_cons] at hnodup
      obtain ⟨hsignatures, hknown, hnew⟩ := ih hrest hnodup.2
      have hsize : (c.register s).2.size = c.size + 1 := by
        rw [register_fresh hs]
        exact List.length_append
      rw [show c.registerAll (s :: rest) = (c.register s).2.registerAll rest from rfl]
      refine ⟨?_, fun canonical n hn => hknown canonical n ?_, fun i t ht => ?_⟩
      · rw [hsignatures, register_fresh hs, List.append_assoc]
        rfl
      · rw [lookup?_register_fresh hs, if_neg, hn]
        rintro rfl
        rw [hs] at hn
        cases hn
      · cases i with
        | zero =>
            obtain rfl := Option.some.inj ht
            refine hknown _ _ ?_
            rw [lookup?_register_fresh hs, if_pos rfl]
            rfl
        | succ i =>
            rw [hnew i t ht, hsize, Nat.add_assoc, Nat.add_comm 1]

theorem Dense.registerAll {c : Corpus} (hc : c.Dense) (ss : List Signature) :
    (c.registerAll ss).Dense := by
  induction ss generalizing c with
  | nil => exact hc
  | cons s rest ih =>
      rw [show c.registerAll (s :: rest) = (c.register s).2.registerAll rest from rfl]
      cases hs : c.lookup? s.canonical with
      | some n =>
          rw [show (c.register s).2 = c by simp only [Corpus.register, hs]]
          exact ih hc
      | none => exact ih (hc.register hs)

/-- Whatever is registered, a corpus stays as it is or grows behind its end. -/
theorem registerAll_grows (c : Corpus) (ss : List Signature) : c.registerAll ss = c ∨
    c.signatures <+: (c.registerAll ss).signatures ∧ c.size < (c.registerAll ss).size := by
  induction ss generalizing c with
  | nil => exact Or.inl rfl
  | cons s rest ih =>
      rw [show c.registerAll (s :: rest) = (c.register s).2.registerAll rest from rfl]
      cases hs : c.lookup? s.canonical with
      | some n =>
          rw [show (c.register s).2 = c by simp only [register, hs]]
          exact ih c
      | none =>
          have hfresh : (c.register s).2.signatures = c.signatures ++ [s] := by
            rw [register_fresh hs]
          have hsub : c.signatures <+: (c.register s).2.signatures := by
            rw [hfresh]
            exact List.prefix_append _ _
          have hsize : c.size < (c.register s).2.size := by
            rw [size, size, hfresh, List.length_append, List.length_singleton]
            omega
          rcases ih (c.register s).2 with he | ⟨hp, hlt⟩
          · rw [he]
            exact Or.inr ⟨hsub, hsize⟩
          · exact Or.inr ⟨hsub.trans hp, Nat.lt_trans hsize hlt⟩

end TrafficRules.Corpus
