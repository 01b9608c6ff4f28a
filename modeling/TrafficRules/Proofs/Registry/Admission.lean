import TrafficRules.Proofs.Corpus
import TrafficRules.Proofs.Signature
import TrafficRules.Proofs.Table
import TrafficRules.Registry

/-! # Admissions

What `Registry.prepare` promises about an admission: its staged signatures are new to the corpus and
differ from each other, and each pattern of its rule carries the number that its signature has
once the staged ones stand behind the corpus (`Admission.Fits`, `fits_of_prepare`). The second half
of the module opens the operations of a registry: what each of them does when it succeeds. -/

namespace TrafficRules

/-- The pattern carries a number, and the signature with this number is the pattern's own. -/
def Pattern.Resolved (limit : Nat) (signatures : List Signature) (p : Pattern) : Prop :=
  ∃ n s, p.corpusId = some n ∧ signatures[n]? = some s ∧ Signature.compile limit p = .ok s

theorem Pattern.Resolved.mono {limit : Nat} {ss ts : List Signature} {p : Pattern}
    (h : p.Resolved limit ss) (hp : ss <+: ts) : p.Resolved limit ts := by
  obtain ⟨n, s, hn, hs, hc⟩ := h
  obtain ⟨later, rfl⟩ := hp
  refine ⟨n, s, hn, ?_, hc⟩
  rw [List.getElem?_append_left (List.getElem?_eq_some_iff.mp hs).1]
  exact hs

/-- The canonical form of a pattern. -/
def Pattern.canonical (p : Pattern) : String := Signature.canonicalForm p.regex p.flags

/-- The number of a resolved pattern is that of one canonical form only. -/
theorem Pattern.Resolved.canonical_eq {limit : Nat} {signatures : List Signature} {p q : Pattern}
    (hp : p.Resolved limit signatures) (hq : q.Resolved limit signatures) {n : Nat}
    (hpn : p.corpusId = some n) (hqn : q.corpusId = some n) : p.canonical = q.canonical := by
  obtain ⟨i, s, hi, hs, hcs⟩ := hp
  obtain ⟨j, t, hj, ht, hct⟩ := hq
  rw [hpn, Option.some.injEq] at hi
  rw [hqn, Option.some.injEq] at hj
  rw [← hi, hj, ht, Option.some.injEq] at hs
  subst hs
  exact (Signature.canonical_of_compile hcs).symm.trans (Signature.canonical_of_compile hct)

/-- Patterns with different canonical forms carry different numbers if each number is that of one form. -/
theorem nodup_patternIds {rule : Rule}
    (hone : ∀ p ∈ rule.patterns, ∀ q ∈ rule.patterns, ∀ n,
      p.corpusId = some n → q.corpusId = some n → p.canonical = q.canonical)
    (hn : (rule.patterns.map Pattern.canonical).Nodup) : rule.patternIds.Nodup := by
  rw [Rule.patternIds, List.Nodup, List.pairwise_filterMap]
  rw [List.Nodup, List.pairwise_map] at hn
  refine hn.imp_of_mem ?_
  rintro p q hp hq hne n hpn _ hqn rfl
  exact hne (hone p hp q hq n hpn hqn)

theorem Rule.validate_ok_iff {rule : Rule} : rule.validate = .ok () ↔
    validateName rule.name = .ok () ∧ validateColor rule.color = .ok () ∧
      rule.filter.validate = .ok () := by
  simp only [Rule.validate, bind_ok_iff]
  constructor
  · rintro ⟨_, hname, _, hcolor, hfilter⟩
    exact ⟨hname, hcolor, hfilter⟩
  · rintro ⟨hname, hcolor, hfilter⟩
    exact ⟨(), hname, (), hcolor, hfilter⟩

/-- Signatures that can be put behind a corpus. -/
structure Staged (limit : Nat) (c : Corpus) (staged : List Signature) : Prop where
  fresh : ∀ s ∈ staged, c.lookup? s.canonical = none
  nodup : (staged.map Signature.canonical).Nodup
  compiled : ∀ s ∈ staged, ∃ p, Signature.compile limit p = .ok s

/-- An admission that can be put into force over a corpus. -/
structure Admission.Fits (limit : Nat) (c : Corpus) (a : Admission) : Prop where
  staged : Staged limit c a.staged
  resolved : ∀ p ∈ a.rule.patterns, p.Resolved limit (c.signatures ++ a.staged)
  distinct : a.rule.patternIds.Nodup

theorem staged_nil (limit : Nat) (c : Corpus) : Staged limit c [] :=
  ⟨by simp, by simp, by simp⟩

theorem Staged.concat {limit : Nat} {c : Corpus} {staged : List Signature} {s : Signature}
    {p : Pattern} (h : Staged limit c staged) (hs : Signature.compile limit p = .ok s)
    (hnew : c.lookup? s.canonical = none) (hother : s.canonical ∉ staged.map Signature.canonical) :
    Staged limit c (staged ++ [s]) := by
  constructor
  · intro t ht
    rcases List.mem_append.mp ht with ht | ht
    · exact h.fresh t ht
    · rw [List.mem_singleton.mp ht]
      exact hnew
  · rw [List.map_append, List.nodup_append]
    refine ⟨h.nodup, by simp, ?_⟩
    intro x hx y hy hxy
    rw [List.map_singleton, List.mem_singleton] at hy
    exact hother (hy ▸ hxy ▸ hx)
  · intro t ht
    rcases List.mem_append.mp ht with ht | ht
    · exact h.compiled t ht
    · rw [List.mem_singleton.mp ht]
      exact ⟨p, hs⟩

namespace Registry

variable {r : Registry}

/-- The number that a signature gets while a rule is checked, and the signatures staged then. -/
def placeOf (r : Registry) (staged : List Signature) (s : Signature) : Nat × List Signature :=
  match r.corpus.lookup? s.canonical with
  | some n => (n, staged)
  | none => (r.corpus.size + staged.length, staged ++ [s])

theorem stage_cons_ok {staged : List Signature} {seen : List String} {p : Pattern}
    {rest : List Pattern} {result : List Pattern × List Signature}
    (h : r.stage staged seen (p :: rest) = .ok result) :
    ∃ s ps, Signature.compile r.sizeLimit p = .ok s ∧ s.canonical ∉ seen ∧
      r.stage (r.placeOf staged s).2 (s.canonical :: seen) rest = .ok (ps, result.2) ∧
      result.1 = { p with corpusId := some (r.placeOf staged s).1 } :: ps := by
  unfold stage at h
  simp only [bind_ok_iff, guard_ok_iff, pure_ok_iff] at h
  obtain ⟨s, hs, hseen, ⟨ps, later⟩, hrest, rfl⟩ := h
  exact ⟨s, ps, hs, hseen, hrest, rfl⟩

/-- Staging sets the numbers of patterns and nothing else. -/
theorem stage_map {α : Type} {f : Pattern → α}
    (hf : ∀ p n, f { p with corpusId := n } = f p) : ∀ {ps ps' : List Pattern}
    {staged staged' : List Signature} {seen : List String},
    r.stage staged seen ps = .ok (ps', staged') → ps'.map f = ps.map f
  | [], _, _, _, _, h => by
      cases h
      rfl
  | p :: rest, ps', _, _, _, h => by
      obtain ⟨s, qs, _, _, hrest, hps⟩ := stage_cons_ok h
      change ps' = _ at hps
      rw [hps, List.map_cons, List.map_cons, stage_map hf hrest, hf]

/-- No two patterns that are staged have one canonical form, nor a form that was seen before. -/
theorem stage_distinct : ∀ {ps ps' : List Pattern} {staged staged' : List Signature}
    {seen : List String}, r.stage staged seen ps = .ok (ps', staged') →
      (ps.map Pattern.canonical).Nodup ∧ ∀ p ∈ ps, p.canonical ∉ seen
  | [], _, _, _, _, _ => ⟨List.nodup_nil, fun _ hp => nomatch hp⟩
  | p :: rest, _, _, _, seen, h => by
      obtain ⟨s, qs, hs, hnew, hrest, _⟩ := stage_cons_ok h
      obtain ⟨hnodup, hnot⟩ := stage_distinct hrest
      have hcan : s.canonical = p.canonical := Signature.canonical_of_compile hs
      rw [hcan] at hnew hnot
      rw [List.map_cons, List.nodup_cons]
      refine ⟨⟨fun hm => ?_, hnodup⟩, fun q hq => ?_⟩
      · obtain ⟨q, hq, he⟩ := List.mem_map.mp hm
        exact hnot q hq (he ▸ List.mem_cons_self)
      · rcases List.mem_cons.mp hq with rfl | hq
        · exact hnew
        · exact fun hm => hnot q hq (List.mem_cons_of_mem _ hm)

/-- The signature of a pattern stands at the number that the pattern gets. -/
theorem placeOf_spec {staged : List Signature} {s : Signature} {p : Pattern}
    (hd : r.corpus.Dense)
    (hc : ∀ s ∈ r.corpus.signatures, ∃ p, Signature.compile r.sizeLimit p = .ok s)
    (hst : Staged r.sizeLimit r.corpus staged) (hs : Signature.compile r.sizeLimit p = .ok s)
    (hother : s.canonical ∉ staged.map Signature.canonical) :
    (r.corpus.signatures ++ (r.placeOf staged s).2)[(r.placeOf staged s).1]? = some s ∧
      Staged r.sizeLimit r.corpus (r.placeOf staged s).2 ∧ staged <+: (r.placeOf staged s).2 ∧
      ∀ t ∈ (r.placeOf staged s).2, t ∈ staged ∨ t = s := by
  unfold placeOf
  cases hl : r.corpus.lookup? s.canonical with
  | some n =>
      obtain ⟨t, ht, hcan⟩ := (hd s.canonical n).mp hl
      obtain ⟨q, hq⟩ := hc t (List.mem_of_getElem? ht)
      have hts : t = s := Signature.compile_unique hq hs hcan
      refine ⟨?_, hst, List.prefix_rfl, fun t ht => Or.inl ht⟩
      show (r.corpus.signatures ++ staged)[n]? = some s
      rw [List.getElem?_append_left (List.getElem?_eq_some_iff.mp ht).1, ← hts]
      exact ht
  | none =>
      refine ⟨?_, hst.concat hs hl hother, List.prefix_append _ _, fun t ht => by simpa using ht⟩
      show (r.corpus.signatures ++ (staged ++ [s]))[r.corpus.signatures.length + staged.length]? = _
      rw [← List.append_assoc, ← List.length_append]
      exact List.getElem?_concat_length

/-- Checking patterns stages new signatures behind those staged before and numbers each pattern by
the place of its signature. -/
theorem stage_spec (hd : r.corpus.Dense)
    (hc : ∀ s ∈ r.corpus.signatures, ∃ p, Signature.compile r.sizeLimit p = .ok s) :
    ∀ {ps ps' : List Pattern} {staged staged' : List Signature} {seen : List String},
      Staged r.sizeLimit r.corpus staged → (∀ s ∈ staged, s.canonical ∈ seen) →
      r.stage staged seen ps = .ok (ps', staged') →
      Staged r.sizeLimit r.corpus staged' ∧ staged <+: staged' ∧
        ∀ p ∈ ps', p.Resolved r.sizeLimit (r.corpus.signatures ++ staged')
  | [], ps', staged, staged', seen, hst, _, h => by
      cases h
      exact ⟨hst, List.prefix_rfl, by simp⟩
  | p :: rest, ps', staged, staged', seen, hst, hseen, h => by
      obtain ⟨s, qs, hs, hnew, hrest, hps'⟩ := stage_cons_ok h
      dsimp only at hrest hps'
      have hother : s.canonical ∉ staged.map Signature.canonical := by
        intro hm
        obtain ⟨t, ht, hts⟩ := List.mem_map.mp hm
        exact hnew (hts ▸ hseen t ht)
      obtain ⟨hplace, hst', hpre, hmem⟩ := placeOf_spec hd hc hst hs hother
      have hseen' : ∀ t ∈ (r.placeOf staged s).2, t.canonical ∈ s.canonical :: seen := by
        intro t ht
        rcases hmem t ht with ht | rfl
        · exact List.mem_cons_of_mem _ (hseen t ht)
        · exact List.mem_cons_self
      obtain ⟨hst'', hpre', hres⟩ := stage_spec hd hc hst' hseen' hrest
      refine ⟨hst'', hpre.trans hpre', ?_⟩
      intro q hq
      rw [hps'] at hq
      rcases List.mem_cons.mp hq with rfl | hq
      · have hfirst : Pattern.Resolved r.sizeLimit (r.corpus.signatures ++ (r.placeOf staged s).2)
            { p with corpusId := some (r.placeOf staged s).1 } := ⟨_, s, rfl, hplace, hs⟩
        exact hfirst.mono ((List.prefix_append_right_inj _).mpr hpre')
      · exact hres q hq

/-! ### What the operations do -/

/-- Neither the name of a rule leads to a rule nor is its identifier that of one. -/
structure Free (r : Registry) (rule : Rule) : Prop where
  name : r.byName.get? rule.name = none
  id : r.get? rule.id = none

theorem checkFree_ok_iff {rule : Rule} {u : Unit} : r.checkFree rule = .ok u ↔ r.Free rule := by
  rw [checkFree, refuse_ok_iff, refuse_ok_iff, Table.not_contains_iff, Table.not_contains_iff]
  exact ⟨fun ⟨hname, hid, _⟩ => ⟨hname, hid⟩, fun ⟨hname, hid⟩ => ⟨hname, hid, rfl⟩⟩

theorem prepare_ok {rule : Rule} {a : Admission} (h : r.prepare rule = .ok a) :
    r.checkFree rule = .ok () ∧ rule.validate = .ok () ∧ a.base = r.corpus.size ∧
      r.stage [] [] rule.patterns = .ok (a.rule.patterns, a.staged) ∧
      a.rule = { rule with patterns := a.rule.patterns } := by
  unfold prepare at h
  simp only [bind_ok_iff, mapError_ok_iff, pure_ok_iff] at h
  obtain ⟨_, hfree, _, hv, ⟨patterns, staged⟩, hstage, rfl⟩ := h
  exact ⟨hfree, hv, rfl, hstage, rfl⟩

/-- A rule that has been checked can be put into force over the corpus as it is. -/
theorem fits_of_prepare (hd : r.corpus.Dense)
    (hc : ∀ s ∈ r.corpus.signatures, ∃ p, Signature.compile r.sizeLimit p = .ok s) {rule : Rule}
    {a : Admission} (h : r.prepare rule = .ok a) : a.Fits r.sizeLimit r.corpus := by
  obtain ⟨_, _, _, hstage, _⟩ := prepare_ok h
  obtain ⟨hst, _, hres⟩ := stage_spec hd hc (staged_nil r.sizeLimit r.corpus) (by simp) hstage
  have hnodup : (a.rule.patterns.map Pattern.canonical).Nodup := by
    rw [stage_map (fun _ _ => rfl) hstage]
    exact (stage_distinct hstage).1
  have hone : ∀ p ∈ a.rule.patterns, ∀ q ∈ a.rule.patterns, ∀ n,
      p.corpusId = some n → q.corpusId = some n → p.canonical = q.canonical :=
    fun p hp q hq _ => (hres p hp).canonical_eq (hres q hq)
  exact ⟨hst, hres, nodup_patternIds hone hnodup⟩

theorem commit_ok {a : Admission} {id : RowId} {t : Registry} (h : r.commit a = .ok (id, t)) :
    a.base = r.corpus.size ∧ r.byName.get? a.rule.name = none ∧ r.get? a.rule.id = none ∧
      id = a.rule.id ∧ t = { r with
        rules := r.rules.insert a.rule.id a.rule
        byName := r.byName.insert a.rule.name a.rule.id
        corpus := r.corpus.registerAll a.staged } := by
  unfold commit at h
  simp only [guard_ok_iff, bind_ok_iff, pure_ok_iff] at h
  obtain ⟨hbase, _, hfree, he⟩ := h
  obtain ⟨hname, hid⟩ := checkFree_ok_iff.mp hfree
  obtain ⟨rfl, rfl⟩ := Prod.mk.inj he
  exact ⟨Decidable.not_not.mp hbase, hname, hid, rfl, rfl⟩

theorem register_ok {rule : Rule} {id : RowId} {t : Registry} (h : r.register rule = .ok (id, t)) :
    ∃ a, r.prepare rule = .ok a ∧ r.commit a = .ok (id, t) := bind_ok_iff.mp h

/-- An update of a rule that exists replaces it by one with the new name and colour. -/
theorem update_ok {id : RowId} {name color : String} {old : Option Rule} {t : Registry}
    (h : r.update id name color = .ok (old, t)) :
    (r.get? id = none ∧ old = none ∧ t = r) ∨
      ∃ rule version, r.get? id = some rule ∧ old = some rule ∧
        (∀ owner, r.byName.get? name = some owner → owner = id) ∧
        Rule.nextVersion? rule.version = some version ∧
        t = r.replace { rule with name := name, color := color, version := version } := by
  unfold update at h
  cases hid : r.get? id with
  | none =>
      rw [hid] at h
      cases h
      exact Or.inl ⟨rfl, rfl, rfl⟩
  | some rule =>
      rw [hid] at h
      have hname : (∀ owner, r.byName.get? name = some owner → owner = id) ∧
          ∃ version, Rule.nextVersion? rule.version = some version ∧
            (some rule, r.replace { rule with name := name, color := color, version := version }) =
              (old, t) := by
        cases hn : r.byName.get? name with
        | none =>
            simp only [hn, bind_ok_iff, mapError_ok_iff] at h
            obtain ⟨_, _, _, _, h⟩ := h
            refine ⟨fun owner ho => (by cases ho), ?_⟩
            cases hv : Rule.nextVersion? rule.version with
            | none => rw [hv] at h; cases h
            | some version => rw [hv] at h; exact ⟨version, rfl, pure_ok_iff.mp h⟩
        | some owner =>
            simp only [hn, guard_ok_iff, bind_ok_iff, mapError_ok_iff] at h
            obtain ⟨howner, _, _, _, _, h⟩ := h
            refine ⟨fun other ho => (Option.some.inj ho) ▸ Decidable.not_not.mp howner, ?_⟩
            cases hv : Rule.nextVersion? rule.version with
            | none => rw [hv] at h; cases h
            | some version => rw [hv] at h; exact ⟨version, rfl, pure_ok_iff.mp h⟩
      obtain ⟨hfree, version, hv, he⟩ := hname
      obtain ⟨rfl, rfl⟩ := Prod.mk.inj he
      exact Or.inr ⟨rule, version, rfl, rfl, hfree, hv, rfl⟩

/-- Name and colour that a rule is given have passed their checks. -/
theorem update_valid {id : RowId} {name color : String} {old : Rule} {t : Registry}
    (h : r.update id name color = .ok (some old, t)) :
    validateName name = .ok () ∧ validateColor color = .ok () := by
  unfold update at h
  cases hid : r.get? id with
  | none =>
      rw [hid] at h
      cases h
  | some rule =>
      rw [hid] at h
      cases hn : r.byName.get? name with
      | none =>
          simp only [hn, bind_ok_iff, mapError_ok_iff] at h
          obtain ⟨_, hname, _, hcolor, _⟩ := h
          exact ⟨hname, hcolor⟩
      | some owner =>
          simp only [hn, guard_ok_iff, bind_ok_iff, mapError_ok_iff] at h
          obtain ⟨_, _, hname, _, hcolor, _⟩ := h
          exact ⟨hname, hcolor⟩

end Registry
end TrafficRules
