import TrafficRules.Proofs.Registry.Session

/-! # Which patterns share a number

A canonical form is read backwards: behind its last slash stand the flags, and before it the expression,
whatever slashes and letters that has. So it belongs to one expression with one set of flags, and patterns
share a number exactly if these are equal (`numbers_shared_iff`): in a corpus, whatever is registered
before and in between (`Corpus.Dense.number_eq_iff`), and among the rules of a registry
(`Sound.corpusId_eq_iff`). -/

namespace TrafficRules

namespace Signature

theorem canonicalForm_eq_iff {r₁ r₂ : String} {f₁ f₂ : Flags} :
    canonicalForm r₁ f₁ = canonicalForm r₂ f₂ ↔ r₁ = r₂ ∧ f₁ = f₂ := by
  refine ⟨canonicalForm_inj, ?_⟩
  rintro ⟨rfl, rfl⟩
  rfl

variable {limit limit' : Nat} {p q : Pattern} {s t : Signature}

theorem canonical_eq_iff (hs : compile limit p = .ok s) (ht : compile limit' q = .ok t) :
    s.canonical = t.canonical ↔ p.regex = q.regex ∧ p.flags = q.flags := by
  rw [canonical_of_compile hs, canonical_of_compile ht, canonicalForm_eq_iff]

end Signature

namespace Corpus

variable {c : Corpus}

/-- The number that is given is the one that the form has then. -/
theorem lookup?_register (c : Corpus) (s : Signature) :
    (c.register s).2.lookup? s.canonical = some (c.register s).1 := by
  cases hs : c.lookup? s.canonical with
  | none =>
      rw [lookup?_register_fresh hs, if_pos rfl]
      simp only [register, hs]
  | some n =>
      simp only [register, hs]

theorem Dense.lookup?_registerAll (hc : c.Dense) (ss : List Signature) {canonical : String} {n : Nat}
    (hn : c.lookup? canonical = some n) : (c.registerAll ss).lookup? canonical = some n := by
  refine hc.lookup?_mono (hc.registerAll ss) ?_ hn
  rcases c.registerAll_grows ss with he | ⟨hp, _⟩
  · exact he.symm ▸ List.prefix_refl _
  · exact hp

/-- Forms that have a number have the same one exactly if they are equal. -/
theorem Dense.lookup?_eq_iff (hc : c.Dense) {a b : String} {n k : Nat}
    (ha : c.lookup? a = some n) (hb : c.lookup? b = some k) : n = k ↔ a = b := by
  constructor
  · rintro rfl
    obtain ⟨s, hs, hsa⟩ := (hc a n).mp ha
    obtain ⟨t, ht, htb⟩ := (hc b n).mp hb
    rw [hs, Option.some.injEq] at ht
    rw [← hsa, ht, htb]
  · rintro rfl
    exact Option.some.inj (ha.symm.trans hb)

/-- A signature that is registered later gets the number of an earlier one exactly if they have the same
canonical form. -/
theorem Dense.number_eq_iff (hc : c.Dense) (s t : Signature) (between : List Signature) :
    (c.register s).1 = (((c.register s).2.registerAll between).register t).1 ↔
      s.canonical = t.canonical := by
  have hd : ((c.register s).2.registerAll (between ++ [t])).Dense :=
    hc.registerAll (s :: (between ++ [t]))
  have hall : (c.register s).2.registerAll (between ++ [t]) =
      (((c.register s).2.registerAll between).register t).2 := by
    rw [Corpus.registerAll, List.foldl_append]
    rfl
  have hs := Dense.lookup?_registerAll (hc.registerAll [s]) (between ++ [t]) (c.lookup?_register s)
  have ht := ((c.register s).2.registerAll between).lookup?_register t
  rw [← hall] at ht
  exact hd.lookup?_eq_iff hs ht

end Corpus

namespace Registry

variable {r : Registry} {a b : Rule} {p q : Pattern}

/-- The number of a pattern in force is that of its canonical form. -/
theorem Sound.lookup?_corpusId (h : r.Sound) (ha : a ∈ r.list) (hp : p ∈ a.patterns) :
    ∃ n, p.corpusId = some n ∧ r.corpus.lookup? p.canonical = some n := by
  obtain ⟨id, hid⟩ := (mem_list_iff r a).mp ha
  obtain ⟨n, s, hn, hs, hc⟩ := h.numbered.resolved hid p hp
  exact ⟨n, hn, (h.numbered.dense _ n).mpr ⟨s, hs, Signature.canonical_of_compile hc⟩⟩

theorem Sound.corpusId_eq_iff (h : r.Sound) (ha : a ∈ r.list) (hp : p ∈ a.patterns)
    (hb : b ∈ r.list) (hq : q ∈ b.patterns) :
    p.corpusId = q.corpusId ↔ p.regex = q.regex ∧ p.flags = q.flags := by
  obtain ⟨n, hpn, hn⟩ := h.lookup?_corpusId ha hp
  obtain ⟨k, hqk, hk⟩ := h.lookup?_corpusId hb hq
  rw [hpn, hqk, Option.some.injEq, h.numbered.dense.lookup?_eq_iff hn hk]
  exact Signature.canonicalForm_eq_iff

/-- **Canonical forms never collide.**

* Forms are equal exactly if the expressions and all flags are, whatever the expressions are.
* So what patterns are made into gets one number in a corpus exactly if their expressions and flags are
  equal, whatever is registered before and in between, and under any limits.
* So do the patterns of the rules in force have the same number exactly then, after any operations. -/
theorem numbers_shared_iff :
    (∀ (r₁ r₂ : String) (f₁ f₂ : Flags),
      Signature.canonicalForm r₁ f₁ = Signature.canonicalForm r₂ f₂ ↔ r₁ = r₂ ∧ f₁ = f₂) ∧
    (∀ (before between : List Signature) (limit limit' : Nat) (p q : Pattern) (s t : Signature),
      Signature.compile limit p = .ok s → Signature.compile limit' q = .ok t →
      let c := Corpus.registerAll {} before
      let d := (c.register s).2.registerAll between
      ((c.register s).1 = (d.register t).1 ↔ p.regex = q.regex ∧ p.flags = q.flags)) ∧
    ∀ (limit : Nat) (ops : List Op),
      let r := (Session.run limit ops).registry
      ∀ a ∈ r.list, ∀ b ∈ r.list, ∀ p ∈ a.patterns, ∀ q ∈ b.patterns,
        (p.corpusId = q.corpusId ↔ p.regex = q.regex ∧ p.flags = q.flags) := by
  refine ⟨fun _ _ _ _ => Signature.canonicalForm_eq_iff, ?_, ?_⟩
  · intro before between limit limit' p q s t hs ht c d
    have hc : c.Dense := Corpus.dense_empty.registerAll before
    rw [hc.number_eq_iff s t between, Signature.canonical_eq_iff hs ht]
  · intro limit ops r a ha b hb p hp q hq
    exact (Session.sound_run limit ops).registry.corpusId_eq_iff ha hp hb hq

/-- An expression that ends like the flags of another one. -/
theorem numbers_shared_iff_slash : ∃ s t,
    Signature.compile 100000 { regex := "a/i" } = .ok s ∧
      Signature.compile 100000 { regex := "a", flags := { caseless := true } } = .ok t ∧
      (Corpus.register {} s).1 ≠ ((Corpus.register {} s).2.register t).1 := by
  obtain ⟨s, hs⟩ : ∃ s, Signature.compile 100000 { regex := "a/i" } = .ok s :=
    isOk_iff.mp (by decide +kernel)
  obtain ⟨t, ht⟩ : ∃ t,
      Signature.compile 100000 { regex := "a", flags := { caseless := true } } = .ok t :=
    isOk_iff.mp (by decide +kernel)
  have hiff := numbers_shared_iff.2.1 [] [] 100000 100000 _ _ s t hs ht
  exact ⟨s, t, hs, ht, fun he => absurd (hiff.mp he).1 (by decide)⟩

end Registry
end TrafficRules
