import TrafficRules.Proofs.Registry.Invariant

/-! # Rules that a registry takes

A rule is *admissible* if it can be checked and its patterns can be made ready, none of them twice
(`Rule.Admissible`); this has nothing to do with the registry but for its limit on the size of a
program. A registry takes a rule exactly if it is admissible and its name and its identifier are free
(`exists_register_iff`), which means that none of the rules held has them (`Holds.free_iff`). Then the
registry differs from what it was by this rule alone (`Enters`): the rule stands under its identifier
and its name, its patterns carry the numbers of their canonical forms, and the forms that the
corpus did not have stand behind the others in the order of the rule. -/

namespace TrafficRules

/-- The pattern with the number that its canonical form has in a corpus. -/
def Pattern.numbered (c : Corpus) (p : Pattern) : Pattern :=
  { p with corpusId := c.lookup? p.canonical }

namespace Rule

/-- The canonical forms of the patterns, in rule order. -/
def canonicals (r : Rule) : List String := r.patterns.map Pattern.canonical

/-- The rule with its patterns numbered by a corpus. -/
def numbered (c : Corpus) (r : Rule) : Rule :=
  { r with patterns := r.patterns.map (Pattern.numbered c) }

/-- The rule passes its own checks, and its patterns can be made ready and are different. -/
structure Admissible (limit : Nat) (r : Rule) : Prop where
  valid : r.validate = .ok ()
  compiled : ∀ p ∈ r.patterns, ∃ s, Signature.compile limit p = .ok s
  distinct : r.canonicals.Nodup

instance (limit : Nat) (r : Rule) : Decidable (r.Admissible limit) :=
  decidable_of_iff (r.validate.isOk = true ∧
      (∀ p ∈ r.patterns, (Signature.compile limit p).isOk = true) ∧ r.canonicals.Nodup)
    ⟨fun ⟨hvalid, hcompiled, hdistinct⟩ =>
        ⟨(isOk_iff.mp hvalid).choose_spec, fun p hp => isOk_iff.mp (hcompiled p hp), hdistinct⟩,
      fun h => ⟨isOk_iff.mpr ⟨_, h.valid⟩, fun p hp => isOk_iff.mpr (h.compiled p hp), h.distinct⟩⟩

end Rule

/-- A rule among the ones held has the name or the identifier. -/
def Rule.Clashes (rule : Rule) (held : List Rule) : Prop :=
  ∃ other ∈ held, other.name = rule.name ∨ other.id = rule.id

instance (rule : Rule) (held : List Rule) : Decidable (rule.Clashes held) :=
  inferInstanceAs (Decidable (∃ other ∈ held, other.name = rule.name ∨ other.id = rule.id))

/-! ### Canonical forms -/

theorem eraseDups_of_nodup {α : Type} [BEq α] [LawfulBEq α] {l : List α} (h : l.Nodup) :
    l.eraseDups = l := by
  induction l with
  | nil => rfl
  | cons a rest ih =>
      rw [List.nodup_cons] at h
      have hrest : rest.filter (fun b => !b == a) = rest := by
        rw [List.filter_eq_self]
        intro b hb
        have hne : b ≠ a := fun he => h.1 (he ▸ hb)
        simpa using hne
      rw [List.eraseDups_cons, hrest, ih h.2]

theorem eraseDups_append_of_nodup {α : Type} [BEq α] [LawfulBEq α] {as bs cs : List α}
    (h : as = cs.eraseDups) (hn : as.Nodup) : (as ++ bs).eraseDups = (cs ++ bs).eraseDups := by
  have hsame : bs.removeAll as = bs.removeAll cs := by
    rw [List.removeAll, List.removeAll]
    refine List.filter_congr fun x _ => ?_
    rw [Bool.eq_iff_iff, Bool.not_eq_true', Bool.not_eq_true', ← Bool.not_eq_true,
      ← Bool.not_eq_true, List.elem_iff, List.elem_iff, h, List.mem_eraseDups]
  rw [List.eraseDups_append, List.eraseDups_append, eraseDups_of_nodup hn, hsame, ← h]

namespace Corpus

variable {c d : Corpus}

/-- No two signatures have one canonical form. -/
theorem Dense.nodup (h : c.Dense) : (c.signatures.map Signature.canonical).Nodup := by
  rw [List.Nodup, List.pairwise_map, List.pairwise_iff_getElem]
  intro i j hi hj hij heq
  have hin := (h _ i).mpr ⟨_, List.getElem?_eq_getElem hi, heq⟩
  have hjn := (h _ j).mpr ⟨_, List.getElem?_eq_getElem hj, rfl⟩
  rw [hin, Option.some.injEq] at hjn
  exact absurd hjn (Nat.ne_of_lt hij)

/-- The canonical forms that have a number are those of the signatures. -/
theorem Dense.exists_lookup?_iff (h : c.Dense) {canonical : String} :
    (∃ n, c.lookup? canonical = some n) ↔ canonical ∈ c.signatures.map Signature.canonical := by
  rw [List.mem_map]
  constructor
  · rintro ⟨n, hn⟩
    obtain ⟨s, hs, hcan⟩ := (h canonical n).mp hn
    exact ⟨s, List.mem_of_getElem? hs, hcan⟩
  · rintro ⟨s, hs, hcan⟩
    obtain ⟨n, hn⟩ := List.getElem?_of_mem hs
    exact ⟨n, (h canonical n).mpr ⟨s, hn, hcan⟩⟩

/-- Numbers stay when a corpus grows, so a rule that has all its numbers keeps them. -/
theorem Dense.numbered_eq (hc : c.Dense) (hd : d.Dense) (h : c.signatures <+: d.signatures)
    {rule : Rule} (hrule : ∀ x ∈ rule.canonicals, x ∈ c.signatures.map Signature.canonical) :
    rule.numbered d = rule.numbered c := by
  have hpatterns : ∀ p ∈ rule.patterns, p.numbered d = p.numbered c := by
    intro p hp
    obtain ⟨n, hn⟩ := hc.exists_lookup?_iff.mpr (hrule _ (List.mem_map_of_mem hp))
    rw [Pattern.numbered, Pattern.numbered, hn, hc.lookup?_mono hd h hn]
  rw [Rule.numbered, Rule.numbered, List.map_congr_left hpatterns]

end Corpus

/-- A pattern that is resolved carries the number of its canonical form. -/
theorem Pattern.Resolved.numbered {limit : Nat} {c : Corpus} (hc : c.Dense) {p : Pattern}
    (h : p.Resolved limit c.signatures) : p.numbered c = p := by
  obtain ⟨n, s, hn, hs, hcompile⟩ := h
  have hlookup : c.lookup? p.canonical = some n :=
    (hc _ n).mpr ⟨s, hs, Signature.canonical_of_compile hcompile⟩
  rw [Pattern.numbered, hlookup, ← hn]

namespace Registry

variable {r t : Registry} {rule : Rule}

/-! ### Staging -/

/-- The canonical forms of a rule that the corpus does not have, in rule order. -/
def newCanonicals (r : Registry) (rule : Rule) : List String :=
  rule.canonicals.filter fun x => (r.corpus.lookup? x).isNone

/-- Signatures that are new to the corpus are staged in the order of the patterns. -/
theorem stage_staged : ∀ {ps ps' : List Pattern} {staged staged' : List Signature}
    {seen : List String}, r.stage staged seen ps = .ok (ps', staged') →
      ∃ new, staged' = staged ++ new ∧
        new.map Signature.canonical =
          (ps.map Pattern.canonical).filter (fun x => (r.corpus.lookup? x).isNone) ∧
        ∀ s ∈ new, ∃ p ∈ ps, Signature.compile r.sizeLimit p = .ok s
  | [], _, _, _, _, h => by
      cases h
      exact ⟨[], (List.append_nil _).symm, rfl, fun s hs => nomatch hs⟩
  | p :: rest, ps', staged, staged', seen, h => by
      obtain ⟨s, qs, hs, _, hrest, _⟩ := stage_cons_ok h
      obtain ⟨new, hnew, hcanonicals, hcompiled⟩ := stage_staged hrest
      change staged' = _ at hnew
      have hcan : p.canonical = s.canonical := (Signature.canonical_of_compile hs).symm
      have hlater : ∀ t ∈ new, ∃ q ∈ p :: rest, Signature.compile r.sizeLimit q = .ok t := by
        intro t ht
        obtain ⟨q, hq, hc⟩ := hcompiled t ht
        exact ⟨q, List.mem_cons_of_mem _ hq, hc⟩
      rw [List.map_cons, List.filter_cons, hcan]
      unfold placeOf at hnew
      cases hl : r.corpus.lookup? s.canonical with
      | some n =>
          rw [hl] at hnew
          exact ⟨new, hnew, hcanonicals, hlater⟩
      | none =>
          rw [hl] at hnew
          refine ⟨s :: new, by rw [hnew, List.append_assoc]; rfl, ?_, ?_⟩
          · rw [List.map_cons, hcanonicals]
            rfl
          · intro t ht
            rcases List.mem_cons.mp ht with rfl | ht
            · exact ⟨p, List.mem_cons_self, hs⟩
            · exact hlater t ht

/-- Each staged pattern carries the number that its form has in a corpus which keeps the numbers of
before and gives the staged signatures the ones that follow. -/
theorem stage_numbered {d : Corpus}
    (hknown : ∀ canonical n, r.corpus.lookup? canonical = some n → d.lookup? canonical = some n) :
    ∀ {ps ps' : List Pattern} {staged staged' : List Signature} {seen : List String},
      r.stage staged seen ps = .ok (ps', staged') →
      (∀ i s, staged'[i]? = some s → d.lookup? s.canonical = some (r.corpus.size + i)) →
      ps' = ps.map (Pattern.numbered d)
  | [], _, _, _, _, h, _ => by
      cases h
      rfl
  | p :: rest, ps', staged, staged', seen, h, hnew => by
      obtain ⟨s, qs, hs, _, hrest, hps'⟩ := stage_cons_ok h
      obtain ⟨later, hlater, _⟩ := stage_staged hrest
      change ps' = _ at hps'
      change staged' = _ at hlater
      have hcan : s.canonical = p.canonical := Signature.canonical_of_compile hs
      have hplace : d.lookup? p.canonical = some (r.placeOf staged s).1 := by
        rw [← hcan]
        unfold placeOf at hlater ⊢
        cases hl : r.corpus.lookup? s.canonical with
        | some n => exact hknown _ _ hl
        | none =>
            rw [hl] at hlater
            refine hnew staged.length s ?_
            rw [hlater, List.append_assoc, List.getElem?_append_right (Nat.le_refl _),
              Nat.sub_self]
            rfl
      rw [hps', List.map_cons, stage_numbered hknown hrest hnew, Pattern.numbered, hplace]

theorem stage_compiled : ∀ {ps ps' : List Pattern} {staged staged' : List Signature}
    {seen : List String}, r.stage staged seen ps = .ok (ps', staged') →
      ∀ p ∈ ps, ∃ s, Signature.compile r.sizeLimit p = .ok s
  | [], _, _, _, _, _, p, hp => nomatch hp
  | q :: rest, _, _, _, _, h, p, hp => by
      obtain ⟨s, qs, hs, _, hrest, _⟩ := stage_cons_ok h
      rcases List.mem_cons.mp hp with rfl | hp
      · exact ⟨s, hs⟩
      · exact stage_compiled hrest p hp

/-- Patterns that can be made ready and are different can be staged. -/
theorem exists_stage : ∀ {ps : List Pattern} (staged : List Signature) (seen : List String),
    (∀ p ∈ ps, ∃ s, Signature.compile r.sizeLimit p = .ok s) →
      (ps.map Pattern.canonical).Nodup → (∀ p ∈ ps, p.canonical ∉ seen) →
        ∃ result, r.stage staged seen ps = .ok result
  | [], staged, seen, _, _, _ => ⟨([], staged), rfl⟩
  | p :: rest, staged, seen, hcompiled, hnodup, hseen => by
      obtain ⟨s, hs⟩ := hcompiled p List.mem_cons_self
      have hcan : s.canonical = p.canonical := Signature.canonical_of_compile hs
      rw [List.map_cons, List.nodup_cons] at hnodup
      have hfresh : ∀ q ∈ rest, q.canonical ∉ s.canonical :: seen := by
        intro q hq hmem
        rcases List.mem_cons.mp hmem with he | hmem
        · exact hnodup.1 (hcan ▸ he ▸ List.mem_map_of_mem hq)
        · exact hseen q (List.mem_cons_of_mem _ hq) hmem
      obtain ⟨⟨qs, later⟩, hrest⟩ := exists_stage (r.placeOf staged s).2 (s.canonical :: seen)
        (fun q hq => hcompiled q (List.mem_cons_of_mem _ hq)) hnodup.2 hfresh
      refine ⟨({ p with corpusId := some (r.placeOf staged s).1 } :: qs, later), ?_⟩
      unfold stage
      simp only [bind_ok_iff, guard_ok_iff, pure_ok_iff]
      exact ⟨s, hs, hcan ▸ hseen p List.mem_cons_self, (qs, later), hrest, rfl⟩

/-! ### Registering -/

/-- What a rule that is taken does to a registry. -/
structure Enters (r t : Registry) (rule : Rule) : Prop where
  sound : t.Sound
  sizeLimit : t.sizeLimit = r.sizeLimit
  freeId : r.get? rule.id = none
  freeName : r.byName.get? rule.name = none
  get? : ∀ id, t.get? id = if rule.id = id then some (rule.numbered t.corpus) else r.get? id
  byName : ∀ name, t.byName.get? name =
    if rule.name = name then some rule.id else r.byName.get? name
  grows : r.corpus.signatures <+: t.corpus.signatures
  canonicals : t.corpus.signatures.map Signature.canonical =
    (r.corpus.signatures.map Signature.canonical ++ rule.canonicals).eraseDups
  compiled : ∀ s ∈ t.corpus.signatures, s ∈ r.corpus.signatures ∨
    ∃ p ∈ rule.patterns, Signature.compile r.sizeLimit p = .ok s

theorem admissible_of_prepare {a : Admission} (ha : r.prepare rule = .ok a) :
    rule.Admissible r.sizeLimit := by
  obtain ⟨_, hvalid, _, hstage, _⟩ := prepare_ok ha
  exact ⟨hvalid, stage_compiled hstage, (stage_distinct hstage).1⟩

/-- A rule can be checked exactly if it is admissible and its name and its identifier are free. -/
theorem exists_prepare_iff :
    (∃ a, r.prepare rule = .ok a) ↔ rule.Admissible r.sizeLimit ∧ r.Free rule := by
  constructor
  · rintro ⟨a, ha⟩
    exact ⟨admissible_of_prepare ha, checkFree_ok_iff.mp (prepare_ok ha).1⟩
  · rintro ⟨⟨hvalid, hcompiled, hdistinct⟩, hfree⟩
    obtain ⟨result, hstage⟩ := exists_stage [] [] hcompiled hdistinct fun p _ => List.not_mem_nil
    simp only [prepare, bind_ok_iff, mapError_ok_iff, pure_ok_iff]
    exact ⟨_, (), checkFree_ok_iff.mpr hfree, (), hvalid, result, hstage, rfl⟩

/-- A rule that has just been checked can be put into force. -/
theorem exists_commit {a : Admission} (ha : r.prepare rule = .ok a) :
    ∃ t, r.commit a = .ok (rule.id, t) := by
  obtain ⟨hfree, _, hbase, _, hrule⟩ := prepare_ok ha
  have hid : a.rule.id = rule.id := by rw [hrule]
  have hfree' : r.checkFree a.rule = .ok () := by
    rw [hrule]
    exact hfree
  rw [← hid]
  simp only [commit, guard_ok_iff, bind_ok_iff, pure_ok_iff]
  exact ⟨_, Decidable.not_not.mpr hbase, (), hfree', rfl⟩

/-- The signatures that a check stages are those of the new forms, in the order of the rule. -/
theorem staged_of_prepare {a : Admission} (ha : r.prepare rule = .ok a) :
    a.staged.map Signature.canonical = r.newCanonicals rule ∧
      ∀ s ∈ a.staged, ∃ p ∈ rule.patterns, Signature.compile r.sizeLimit p = .ok s := by
  obtain ⟨_, _, _, hstage, _⟩ := prepare_ok ha
  obtain ⟨new, hnew, hcanonicals, hcompiled⟩ := stage_staged hstage
  rw [List.nil_append] at hnew
  subst hnew
  exact ⟨hcanonicals, hcompiled⟩

/-- A rule that was just checked leaves the numbers of before as they are, and the signatures that it
stages follow them. -/
theorem registers_of_commit {a : Admission} {id : RowId} (ha : r.prepare rule = .ok a)
    (hc : r.commit a = .ok (id, t)) :
    t.corpus.signatures = r.corpus.signatures ++ a.staged ∧
      (∀ canonical n, r.corpus.lookup? canonical = some n → t.corpus.lookup? canonical = some n) ∧
      ∀ i s, a.staged[i]? = some s → t.corpus.lookup? s.canonical = some (r.corpus.size + i) := by
  have hcanonicals := (staged_of_prepare ha).1
  obtain ⟨_, _, _, _, rfl⟩ := commit_ok hc
  refine Corpus.registerAll_fresh (fun s hs => ?_) ?_
  · have hnew : s.canonical ∈ r.newCanonicals rule := hcanonicals ▸ List.mem_map_of_mem hs
    exact Option.isNone_iff_eq_none.mp (List.mem_filter.mp hnew).2
  · rw [hcanonicals]
    exact (admissible_of_prepare ha).distinct.filter _

theorem signatures_of_commit {a : Admission} {id : RowId} (ha : r.prepare rule = .ok a)
    (hc : r.commit a = .ok (id, t)) :
    t.corpus.signatures = r.corpus.signatures ++ a.staged := (registers_of_commit ha hc).1

/-- The rule in force is the one given, numbered by the corpus that it leaves. -/
theorem numbered_of_commit {a : Admission} {id : RowId} (ha : r.prepare rule = .ok a)
    (hc : r.commit a = .ok (id, t)) : a.rule = rule.numbered t.corpus := by
  obtain ⟨_, hknown, hnew⟩ := registers_of_commit ha hc
  obtain ⟨_, _, _, hstage, hrule⟩ := prepare_ok ha
  rw [Rule.numbered, ← stage_numbered hknown hstage hnew]
  exact hrule

theorem enters_of_register (h : r.Sound) {id : RowId} (hr : r.register rule = .ok (id, t)) :
    id = rule.id ∧ rule.Admissible r.sizeLimit ∧ r.Enters t rule := by
  obtain ⟨a, ha, hc⟩ := register_ok hr
  have hfits := h.fits ha
  have ht := h.commit hfits hc
  have hgrows := grows_of_commit hc
  have hrule := (prepare_ok ha).2.2.2.2
  have hid : a.rule.id = rule.id := by rw [hrule]
  have hname : a.rule.name = rule.name := by rw [hrule]
  have hget := get?_of_commit hc
  have hsignatures := signatures_of_commit ha hc
  have hnumbered := numbered_of_commit ha hc
  obtain ⟨_, hfreeName, hfreeId, rfl, hcommit⟩ := commit_ok hc
  obtain ⟨hcanonicals, hcompiled⟩ := staged_of_prepare ha
  have hold := h.numbered.dense.nodup
  refine ⟨hid, admissible_of_prepare ha, ht, hgrows.sizeLimit, hid ▸ hfreeId, hname ▸ hfreeName,
    ?_, ?_, ?_, ?_, ?_⟩
  · intro key
    rw [hget, hid, ← hnumbered]
  · intro name
    rw [hcommit, ← hname, ← hid]
    exact Table.get?_insert _ _ _ _
  · rw [hsignatures]
    exact List.prefix_append _ _
  · have hfilter : (rule.canonicals.removeAll (r.corpus.signatures.map Signature.canonical)) =
        a.staged.map Signature.canonical := by
      rw [hcanonicals, newCanonicals, List.removeAll]
      refine List.filter_congr fun x _ => ?_
      rw [← Option.not_isSome, Bool.eq_iff_iff, Bool.not_eq_true', Bool.not_eq_true',
        ← Bool.not_eq_true, ← Bool.not_eq_true, Option.isSome_iff_exists,
        h.numbered.dense.exists_lookup?_iff, List.elem_iff]
    rw [hsignatures, List.map_append, List.eraseDups_append, eraseDups_of_nodup hold, hfilter,
      eraseDups_of_nodup hfits.staged.nodup]
  · intro s hs
    rw [hsignatures] at hs
    exact (List.mem_append.mp hs).imp_right (hcompiled s)

/-- A registry takes a rule exactly if the rule is admissible and its name and identifier are free. -/
theorem exists_register_iff : (∃ id t, r.register rule = .ok (id, t)) ↔
    rule.Admissible r.sizeLimit ∧ r.Free rule := by
  rw [← exists_prepare_iff]
  constructor
  · rintro ⟨id, t, hr⟩
    obtain ⟨a, ha, _⟩ := register_ok hr
    exact ⟨a, ha⟩
  · rintro ⟨a, ha⟩
    obtain ⟨t, hc⟩ := exists_commit ha
    exact ⟨rule.id, t, bind_ok_iff.mpr ⟨a, ha, hc⟩⟩

/-! ### The rules held -/

/-- The rules held are, by name and identifier, those of the registry. -/
structure Holds (r : Registry) (held : List Rule) : Prop where
  ids : ∀ id, (∃ rule, r.get? id = some rule) ↔ ∃ rule ∈ held, rule.id = id
  names : ∀ name, (∃ id, r.byName.get? name = some id) ↔ ∃ rule ∈ held, rule.name = name

variable {held : List Rule}

theorem Indexed.holds_list (h : r.Indexed) : r.Holds r.list := by
  constructor
  · intro id
    constructor
    · rintro ⟨rule, hrule⟩
      exact ⟨rule, (mem_list_iff r rule).mpr ⟨id, hrule⟩, (h.named hrule).1⟩
    · rintro ⟨rule, hrule, rfl⟩
      obtain ⟨id, hid⟩ := (mem_list_iff r rule).mp hrule
      exact ⟨rule, (h.named hid).1.symm ▸ hid⟩
  · intro name
    constructor
    · rintro ⟨id, hid⟩
      obtain ⟨rule, hrule, hn⟩ := h.owned hid
      exact ⟨rule, (mem_list_iff r rule).mpr ⟨id, hrule⟩, hn⟩
    · rintro ⟨rule, hrule, rfl⟩
      obtain ⟨id, hid⟩ := (mem_list_iff r rule).mp hrule
      exact ⟨id, (h.named hid).2⟩

theorem Holds.clashes_iff (h : r.Holds held) : rule.Clashes held ↔
    (∃ id, r.byName.get? rule.name = some id) ∨ ∃ other, r.get? rule.id = some other := by
  rw [h.names, h.ids, Rule.Clashes]
  constructor
  · rintro ⟨other, ho, hn | hi⟩
    · exact Or.inl ⟨other, ho, hn⟩
    · exact Or.inr ⟨other, ho, hi⟩
  · rintro (⟨other, ho, hn⟩ | ⟨other, ho, hi⟩)
    · exact ⟨other, ho, Or.inl hn⟩
    · exact ⟨other, ho, Or.inr hi⟩

/-- Free is what none of the rules held has. -/
theorem Holds.free_iff (h : r.Holds held) : r.Free rule ↔ ¬ rule.Clashes held := by
  rw [h.clashes_iff, not_or, not_exists, not_exists, ← Option.eq_none_iff_forall_ne_some,
    ← Option.eq_none_iff_forall_ne_some]
  exact ⟨fun ⟨hname, hid⟩ => ⟨hname, hid⟩, fun ⟨hname, hid⟩ => ⟨hname, hid⟩⟩

/-- A registry takes a rule exactly if the rule is admissible and clashes with none that is held. -/
theorem Holds.exists_register_iff (h : r.Holds held) :
    (∃ id t, r.register rule = .ok (id, t)) ↔
      rule.Admissible r.sizeLimit ∧ ¬ rule.Clashes held := by
  rw [Registry.exists_register_iff, h.free_iff]

end Registry
end TrafficRules
