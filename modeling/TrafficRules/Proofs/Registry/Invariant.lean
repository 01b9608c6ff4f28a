import TrafficRules.Proofs.Registry.Admission

/-! # What holds of a registry

A registry is *indexed* if its rules and its index of names are inverse to each other, and *numbered*
if each pattern of its rules carries the number of its own signature. Every operation keeps both
(`Sound.commit`, `Sound.replace`, `Sound.remove`), and a corpus never changes but by growing behind its
end (`Grows`). -/

namespace TrafficRules.Registry

/-- Each rule stands under its identifier and is found by its name, and no name leads elsewhere. -/
structure Indexed (r : Registry) : Prop where
  named : ∀ {id rule}, r.get? id = some rule →
    rule.id = id ∧ r.byName.get? rule.name = some id
  owned : ∀ {name id}, r.byName.get? name = some id →
    ∃ rule, r.get? id = some rule ∧ rule.name = name

/-- Each pattern of a rule carries the number of its signature, and no two of a rule the same. -/
structure Numbered (r : Registry) : Prop where
  dense : r.corpus.Dense
  compiled : ∀ s ∈ r.corpus.signatures, ∃ p, Signature.compile r.sizeLimit p = .ok s
  resolved : ∀ {id rule}, r.get? id = some rule →
    ∀ p ∈ rule.patterns, p.Resolved r.sizeLimit r.corpus.signatures
  distinct : ∀ {id rule}, r.get? id = some rule → rule.patternIds.Nodup

/-- The invariant of a registry. -/
structure Sound (r : Registry) : Prop where
  indexed : r.Indexed
  numbered : r.Numbered

/-- The corpus is as before or has grown behind its end. -/
structure Grows (r t : Registry) : Prop where
  sizeLimit : t.sizeLimit = r.sizeLimit
  corpus : t.corpus = r.corpus ∨
    r.corpus.signatures <+: t.corpus.signatures ∧ r.corpus.size < t.corpus.size

/-- A rule that is in force before and after has the same patterns. -/
def Keeps (r t : Registry) : Prop :=
  ∀ id a b, r.get? id = some a → t.get? id = some b → b.patterns = a.patterns

/-- A rule in force stays in force with its patterns. -/
def Retains (r t : Registry) : Prop :=
  ∀ id a, r.get? id = some a → ∃ b, t.get? id = some b ∧ b.patterns = a.patterns

theorem sound_empty (limit : Nat) : Sound { sizeLimit := limit } := by
  refine ⟨⟨fun h => (by cases h), fun h => (by cases h)⟩,
    ⟨Corpus.dense_empty, by simp, fun h => (by cases h), fun h => (by cases h)⟩⟩

namespace Grows

variable {r s t : Registry}

theorem refl (r : Registry) : r.Grows r := ⟨rfl, Or.inl rfl⟩

theorem isPrefix (h : r.Grows t) : r.corpus.signatures <+: t.corpus.signatures := by
  rcases h.corpus with he | ⟨hp, _⟩
  · exact ⟨[], by rw [List.append_nil, he]⟩
  · exact hp

theorem trans (h₁ : r.Grows s) (h₂ : s.Grows t) : r.Grows t := by
  refine ⟨h₂.sizeLimit.trans h₁.sizeLimit, ?_⟩
  rcases h₁.corpus with he | ⟨hp, hlt⟩
  · rw [← he]
    exact h₂.corpus
  · rcases h₂.corpus with he' | ⟨hp', hlt'⟩
    · rw [he']
      exact Or.inr ⟨hp, hlt⟩
    · exact Or.inr ⟨hp.trans hp', Nat.lt_trans hlt hlt'⟩

end Grows

variable {r t : Registry}

/-! ### The index -/

theorem list_perm (r : Registry) : r.list.Perm r.rules.values := List.mergeSort_perm _ _

theorem mem_list_iff (r : Registry) (rule : Rule) :
    rule ∈ r.list ↔ ∃ id, r.get? id = some rule :=
  r.list_perm.mem_iff.trans (r.rules.mem_values_iff rule)

theorem length_list (r : Registry) : r.list.length = r.size :=
  r.list_perm.length_eq.trans (List.length_map _)

/-- No two rules have one identifier. -/
theorem Indexed.nodup_ids_list (h : r.Indexed) : (r.list.map Rule.id).Nodup := by
  have hids : r.rules.values.map Rule.id = r.rules.entries.map Prod.fst := by
    rw [Table.values, List.map_map]
    refine List.map_congr_left fun e he => ?_
    exact (h.named ((Table.get?_eq_some_iff r.rules).mpr he)).1
  rw [(r.list_perm.map Rule.id).nodup_iff, hids]
  exact r.rules.nodup

theorem get?_put (r : Registry) (rule : Rule) (names : Table String RowId) (c : Corpus)
    (id : RowId) :
    Registry.get? { r with rules := r.rules.insert rule.id rule, byName := names, corpus := c } id =
      if rule.id = id then some rule else r.get? id := Table.get?_insert _ _ _ _

theorem get?_replace (r : Registry) (rule : Rule) (id : RowId) :
    (r.replace rule).get? id = if rule.id = id then some rule else r.get? id :=
  Table.get?_insert _ _ _ _

/-- What is found behind a rule that was put in is this rule, or it was found before. -/
theorem get?_put_cases {new : Rule}
    (ht : ∀ id, t.get? id = if new.id = id then some new else r.get? id) {id : RowId} {rule : Rule}
    (h : t.get? id = some rule) :
    (new.id = id ∧ new = rule) ∨ (new.id ≠ id ∧ r.get? id = some rule) := by
  rw [ht] at h
  by_cases he : new.id = id
  · rw [if_pos he, Option.some.injEq] at h
    exact Or.inl ⟨he, h⟩
  · rw [if_neg he] at h
    exact Or.inr ⟨he, h⟩

/-- Replacing a rule brings none into force. -/
theorem absent_of_replace {rule old : Rule} {id : RowId} (ho : r.get? rule.id = some old)
    (hid : r.get? id = none) : (r.replace rule).get? id = none := by
  rw [get?_replace, if_neg, hid]
  rintro rfl
  rw [ho] at hid
  cases hid

theorem Indexed.insert (h : r.Indexed) {rule : Rule} (c : Corpus)
    (hname : r.byName.get? rule.name = none) (hid : r.get? rule.id = none) :
    Indexed { r with
      rules := r.rules.insert rule.id rule
      byName := r.byName.insert rule.name rule.id
      corpus := c } := by
  constructor
  · intro id other ho
    show other.id = id ∧ (r.byName.insert rule.name rule.id).get? other.name = some id
    rw [Table.get?_insert]
    rcases get?_put_cases (get?_put r rule _ c) ho with ⟨he, rfl⟩ | ⟨_, ho⟩
    · exact ⟨he, by rw [if_pos rfl, he]⟩
    · obtain ⟨hoid, hfound⟩ := h.named ho
      refine ⟨hoid, ?_⟩
      rw [if_neg, hfound]
      intro hn
      rw [← hn, hname] at hfound
      cases hfound
  · intro name id hn
    rw [get?_put]
    change (r.byName.insert rule.name rule.id).get? name = some id at hn
    rw [Table.get?_insert] at hn
    by_cases he : rule.name = name
    · rw [if_pos he, Option.some.injEq] at hn
      exact ⟨rule, by rw [if_pos hn], he⟩
    · rw [if_neg he] at hn
      obtain ⟨other, ho, hon⟩ := h.owned hn
      refine ⟨other, ?_, hon⟩
      rw [if_neg, ho]
      intro hi
      rw [← hi, hid] at ho
      cases ho

theorem Indexed.forget (h : r.Indexed) {id : RowId} {old : Rule} (ho : r.get? id = some old) :
    forget r.byName old = r.byName.erase old.name := by
  obtain ⟨hid, hname⟩ := h.named ho
  rw [Registry.forget, hid, if_pos hname]

/-- A rule may take any name that is free or its own. -/
theorem Indexed.replace (h : r.Indexed) {rule old : Rule} (ho : r.get? rule.id = some old)
    (hname : ∀ owner, r.byName.get? rule.name = some owner → owner = rule.id) :
    (r.replace rule).Indexed := by
  have hr : r.replace rule = { r with
      rules := r.rules.insert rule.id rule
      byName := (r.byName.erase old.name).insert rule.name rule.id } := by
    unfold Registry.replace
    simp only [ho, h.forget ho]
  obtain ⟨_, hold⟩ := h.named ho
  rw [hr]
  constructor
  · intro id other hother
    show other.id = id ∧
      ((r.byName.erase old.name).insert rule.name rule.id).get? other.name = some id
    rw [Table.get?_insert, Table.get?_erase]
    rcases get?_put_cases (get?_put r rule _ r.corpus) hother with ⟨he, rfl⟩ | ⟨he, hother⟩
    · exact ⟨he, by rw [if_pos rfl, he]⟩
    · obtain ⟨hoid, hfound⟩ := h.named hother
      refine ⟨hoid, ?_⟩
      rw [if_neg, if_neg, hfound]
      · -- the old name leads to the rule replaced
        intro hn
        rw [← hn, hold, Option.some.injEq] at hfound
        exact he hfound
      · intro hn
        rw [← hn] at hfound
        exact he (hname id hfound).symm
  · intro name id hn
    rw [get?_put]
    change ((r.byName.erase old.name).insert rule.name rule.id).get? name = some id at hn
    rw [Table.get?_insert, Table.get?_erase] at hn
    by_cases he : rule.name = name
    · rw [if_pos he, Option.some.injEq] at hn
      exact ⟨rule, by rw [if_pos hn], he⟩
    · rw [if_neg he] at hn
      by_cases heo : old.name = name
      · rw [if_pos heo] at hn
        cases hn
      · rw [if_neg heo] at hn
        obtain ⟨other, hother, hon⟩ := h.owned hn
        refine ⟨other, ?_, hon⟩
        rw [if_neg, hother]
        intro hi
        rw [← hi, ho, Option.some.injEq] at hother
        exact heo (hother ▸ hon)

theorem get?_remove (r : Registry) (id key : RowId) :
    (r.remove id).get? key = if id = key then none else r.get? key := by
  unfold Registry.remove
  cases hid : r.get? id with
  | none =>
      by_cases he : id = key
      · rw [if_pos he, ← he]
        exact hid
      · rw [if_neg he]
  | some old => exact Table.get?_erase _ _ _

/-- What is found behind a removal was found before, under another identifier. -/
theorem get?_remove_cases {id key : RowId} {rule : Rule} (h : (r.remove id).get? key = some rule) :
    id ≠ key ∧ r.get? key = some rule := by
  rw [get?_remove] at h
  by_cases he : id = key
  · rw [if_pos he] at h
    cases h
  · rw [if_neg he] at h
    exact ⟨he, h⟩

theorem Indexed.remove (h : r.Indexed) (id : RowId) : (r.remove id).Indexed := by
  have hnames : ∀ name, (r.remove id).byName.get? name =
      (r.byName.get? name).bind fun owner => if owner = id then none else some owner := by
    intro name
    unfold Registry.remove
    cases hid : r.get? id with
    | none =>
        cases hn : r.byName.get? name with
        | none => rfl
        | some owner =>
            obtain ⟨rule, hrule, _⟩ := h.owned hn
            have hne : owner ≠ id := fun he => by rw [he, hid] at hrule; cases hrule
            rw [Option.bind_some, if_neg hne]
    | some old =>
        obtain ⟨_, hold⟩ := h.named hid
        show (Registry.forget r.byName old).get? name = _
        rw [h.forget hid, Table.get?_erase]
        by_cases he : old.name = name
        · rw [if_pos he, ← he, hold, Option.bind_some, if_pos rfl]
        · rw [if_neg he]
          cases hn : r.byName.get? name with
          | none => rfl
          | some owner =>
              have hne : owner ≠ id := by
                intro ho
                obtain ⟨rule, hrule, hrn⟩ := h.owned hn
                rw [ho, hid, Option.some.injEq] at hrule
                exact he (hrule ▸ hrn)
              rw [Option.bind_some, if_neg hne]
  constructor
  · intro key rule hrule
    obtain ⟨he, hrule⟩ := get?_remove_cases hrule
    obtain ⟨hid, hfound⟩ := h.named hrule
    refine ⟨hid, ?_⟩
    rw [hnames, hfound, Option.bind_some, if_neg (fun hk => he hk.symm)]
  · intro name key hn
    rw [hnames] at hn
    obtain ⟨owner, hfound, ho⟩ := Option.bind_eq_some_iff.mp hn
    by_cases he : owner = id
    · rw [if_pos he] at ho
      cases ho
    · rw [if_neg he, Option.some.injEq] at ho
      subst ho
      obtain ⟨rule, hrule, hrn⟩ := h.owned hfound
      exact ⟨rule, by rw [get?_remove, if_neg (fun hk => he hk.symm)]; exact hrule, hrn⟩

/-! ### The numbers -/

/-- Rules whose patterns are resolved may come and go while the corpus stays. -/
theorem Numbered.of_rules (h : r.Numbered) (hc : t.corpus = r.corpus)
    (hl : t.sizeLimit = r.sizeLimit)
    (hr : ∀ {id rule}, t.get? id = some rule →
      ∃ id' rule', r.get? id' = some rule' ∧ rule'.patterns = rule.patterns) : t.Numbered := by
  constructor
  · rw [hc]
    exact h.dense
  · rw [hc, hl]
    exact h.compiled
  · intro id rule hrule p hp
    obtain ⟨id', rule', hrule', he⟩ := hr hrule
    rw [hc, hl]
    exact h.resolved hrule' p (he ▸ hp)
  · intro id rule hrule
    obtain ⟨id', rule', hrule', he⟩ := hr hrule
    rw [Rule.patternIds, ← he]
    exact h.distinct hrule'

theorem Numbered.commit (h : r.Numbered) {a : Admission} (ha : a.Fits r.sizeLimit r.corpus)
    (names : Table String RowId) :
    Numbered { r with
      rules := r.rules.insert a.rule.id a.rule
      byName := names
      corpus := r.corpus.registerAll a.staged } := by
  obtain ⟨hsig, _⟩ := Corpus.registerAll_fresh ha.staged.fresh ha.staged.nodup
  constructor
  · exact h.dense.registerAll a.staged
  · intro s hs
    change s ∈ (r.corpus.registerAll a.staged).signatures at hs
    rw [hsig] at hs
    rcases List.mem_append.mp hs with hs | hs
    · exact h.compiled s hs
    · exact ha.staged.compiled s hs
  · intro id rule hrule p hp
    show p.Resolved r.sizeLimit (r.corpus.registerAll a.staged).signatures
    rw [hsig]
    rcases get?_put_cases (get?_put r a.rule names _) hrule with ⟨_, rfl⟩ | ⟨_, hrule⟩
    · exact ha.resolved p hp
    · exact (h.resolved hrule p hp).mono (List.prefix_append _ _)
  · intro id rule hrule
    rcases get?_put_cases (get?_put r a.rule names _) hrule with ⟨_, rfl⟩ | ⟨_, hrule⟩
    · exact ha.distinct
    · exact h.distinct hrule

/-! ### The operations -/

theorem Sound.fits (h : r.Sound) {rule : Rule} {a : Admission} (ha : r.prepare rule = .ok a) :
    a.Fits r.sizeLimit r.corpus := fits_of_prepare h.numbered.dense h.numbered.compiled ha

theorem Sound.commit (h : r.Sound) {a : Admission} (ha : a.Fits r.sizeLimit r.corpus) {id : RowId}
    (hc : r.commit a = .ok (id, t)) : t.Sound := by
  obtain ⟨_, hname, hid, _, rfl⟩ := commit_ok hc
  exact ⟨h.indexed.insert _ hname hid, h.numbered.commit ha _⟩

theorem Sound.replace (h : r.Sound) {rule old : Rule} (ho : r.get? rule.id = some old)
    (hname : ∀ owner, r.byName.get? rule.name = some owner → owner = rule.id)
    (hp : rule.patterns = old.patterns) : (r.replace rule).Sound := by
  refine ⟨h.indexed.replace ho hname, h.numbered.of_rules rfl rfl ?_⟩
  intro id other hother
  rcases get?_put_cases (get?_replace r rule) hother with ⟨_, rfl⟩ | ⟨_, hother⟩
  · exact ⟨rule.id, old, ho, hp.symm⟩
  · exact ⟨id, other, hother, rfl⟩

theorem remove_corpus (r : Registry) (id : RowId) :
    (r.remove id).corpus = r.corpus ∧ (r.remove id).sizeLimit = r.sizeLimit := by
  unfold Registry.remove
  cases r.get? id with
  | none => exact ⟨rfl, rfl⟩
  | some old => exact ⟨rfl, rfl⟩

theorem Sound.remove (h : r.Sound) (id : RowId) : (r.remove id).Sound := by
  obtain ⟨hc, hl⟩ := remove_corpus r id
  refine ⟨h.indexed.remove id, h.numbered.of_rules hc hl ?_⟩
  intro key rule hrule
  exact ⟨key, rule, (get?_remove_cases hrule).2, rfl⟩

/-- A rule replaced under a new name and colour keeps its identifier and its patterns. -/
theorem Sound.update (h : r.Sound) {id : RowId} {name color : String} {old : Option Rule}
    (hu : r.update id name color = .ok (old, t)) : t.Sound := by
  rcases update_ok hu with ⟨_, _, rfl⟩ | ⟨rule, version, hrule, _, hfree, _, rfl⟩
  · exact h
  · obtain ⟨hid, _⟩ := h.indexed.named hrule
    have ho : r.get? rule.id = some rule := by rw [hid, hrule]
    exact h.replace ho (fun owner ho => (hfree owner ho).trans hid.symm) rfl

theorem grows_of_commit {a : Admission} {id : RowId} (hc : r.commit a = .ok (id, t)) :
    r.Grows t := by
  obtain ⟨_, _, _, _, rfl⟩ := commit_ok hc
  exact ⟨rfl, r.corpus.registerAll_grows a.staged⟩

theorem grows_of_update {id : RowId} {name color : String} {old : Option Rule}
    (hu : r.update id name color = .ok (old, t)) : r.Grows t := by
  rcases update_ok hu with ⟨_, _, rfl⟩ | ⟨rule, version, _, _, _, _, rfl⟩
  · exact Grows.refl _
  · exact ⟨rfl, Or.inl rfl⟩

theorem Keeps.of_get? (id : RowId) (h : ∀ key, key ≠ id → t.get? key = r.get? key)
    (hid : ∀ a b, r.get? id = some a → t.get? id = some b → b.patterns = a.patterns) :
    r.Keeps t := by
  intro key a b ha hb
  by_cases he : key = id
  · subst he
    exact hid a b ha hb
  · rw [h key he, ha, Option.some.injEq] at hb
    rw [hb]

theorem Keeps.refl (r : Registry) : r.Keeps r := by
  intro id a b ha hb
  rw [ha, Option.some.injEq] at hb
  rw [hb]

theorem keeps_of_commit {a : Admission} {id : RowId} (hc : r.commit a = .ok (id, t)) :
    r.Keeps t := by
  obtain ⟨_, _, hfree, _, rfl⟩ := commit_ok hc
  refine Keeps.of_get? a.rule.id ?_ ?_
  · intro key hk
    rw [get?_put, if_neg (Ne.symm hk)]
  · intro old new ho _
    rw [hfree] at ho
    cases ho

theorem keeps_of_update (h : r.Indexed) {id : RowId} {name color : String} {old : Option Rule}
    (hu : r.update id name color = .ok (old, t)) : r.Keeps t := by
  rcases update_ok hu with ⟨_, _, rfl⟩ | ⟨rule, version, hrule, _, _, _, rfl⟩
  · exact Keeps.refl _
  · obtain ⟨hid, _⟩ := h.named hrule
    refine Keeps.of_get? rule.id ?_ ?_
    · intro key hk
      exact (Table.get?_insert _ _ _ _).trans (if_neg (Ne.symm hk))
    · intro a b ha hb
      change (r.rules.insert rule.id _).get? rule.id = some b at hb
      rw [Table.get?_insert, if_pos rfl, Option.some.injEq] at hb
      rw [hid, hrule, Option.some.injEq] at ha
      rw [← hb, ha]

theorem keeps_of_remove (r : Registry) (id : RowId) : r.Keeps (r.remove id) := by
  refine Keeps.of_get? id ?_ ?_
  · intro key hk
    rw [get?_remove, if_neg (Ne.symm hk)]
  · intro a b _ hb
    rw [get?_remove, if_pos rfl] at hb
    cases hb

theorem Retains.refl (r : Registry) : r.Retains r := fun _ a ha => ⟨a, ha, rfl⟩

theorem Retains.trans {s : Registry} (h₁ : r.Retains s) (h₂ : s.Retains t) : r.Retains t := by
  intro id a ha
  obtain ⟨b, hb, hba⟩ := h₁ id a ha
  obtain ⟨c, hc, hcb⟩ := h₂ id b hb
  exact ⟨c, hc, hcb.trans hba⟩

theorem get?_of_commit {a : Admission} {id : RowId} (hc : r.commit a = .ok (id, t)) (key : RowId) :
    t.get? key = if a.rule.id = key then some a.rule else r.get? key := by
  obtain ⟨_, _, _, _, rfl⟩ := commit_ok hc
  exact get?_put _ _ _ _ _

theorem retains_of_commit {a : Admission} {id : RowId} (hc : r.commit a = .ok (id, t)) :
    r.Retains t := by
  intro key b hb
  refine ⟨b, ?_, rfl⟩
  rw [get?_of_commit hc, if_neg, hb]
  intro he
  have hfree := (commit_ok hc).2.2.1
  rw [he, hb] at hfree
  cases hfree

theorem retains_of_replace {rule old : Rule} (ho : r.get? rule.id = some old)
    (hp : rule.patterns = old.patterns) : r.Retains (r.replace rule) := by
  intro key b hb
  rw [get?_replace]
  by_cases he : rule.id = key
  · rw [← he, ho, Option.some.injEq] at hb
    exact ⟨rule, if_pos he, hb ▸ hp⟩
  · exact ⟨b, (if_neg he).trans hb, rfl⟩

theorem grows_of_remove (r : Registry) (id : RowId) : r.Grows (r.remove id) :=
  ⟨(remove_corpus r id).2, Or.inl (remove_corpus r id).1⟩

end TrafficRules.Registry
