import TrafficRules.Proofs.Annotation.Triggering
import TrafficRules.Proofs.Registry.Checks
import TrafficRules.Proofs.Registry.Reverting

/-! # Registries that can come about

A registry is `Reachable` if it comes from an empty one by what can be done to registries. Here an
admission may be committed to any registry at any time, whichever it was prepared for, and so may a rule
be put back that was given back by an update. So the registries of sessions and of histories are reachable
(`reachable_session`, `reachable_history`), and so are those of programs that mix several of them up.

Where an admission comes from can make its numbers wrong, but they stay different from each other: the
corpus that it was prepared for is dense, and so different forms have different numbers there
(`armed_of_prepare`). So each rule that is in force is armed (`Reachable.guarded`) and can be triggered,
and the checks refuse what never could be (`validation_exact`).

A name that is given back twice can leave the index wrong, but every rule still stands under its own
identifier (`Reachable.keyed`), and so the check of the index finds it out (`Reachable.unique_iff`). -/

namespace TrafficRules.Registry

/-- Registries that can come about. What is committed was prepared for such a registry, and what is put
back was given back by an update of such a registry. -/
inductive Reachable : Registry → Prop
  | new (limit : Nat) : Reachable { sizeLimit := limit }
  | commit {r s t : Registry} {rule : Rule} {a : Admission} {id : RowId} :
      Reachable r → Reachable s → s.prepare rule = .ok a → r.commit a = .ok (id, t) → Reachable t
  | update {r t : Registry} {id : RowId} {name color : String} {old : Option Rule} :
      Reachable r → r.update id name color = .ok (old, t) → Reachable t
  | revert {r s t u : Registry} {id : RowId} {name color : String} {old : Rule} {done : Bool} :
      Reachable r → Reachable s → s.update id name color = .ok (some old, u) →
      r.revert old = .ok (done, t) → Reachable t
  | remove {r : Registry} (id : RowId) : Reachable r → Reachable (r.remove id)

/-- Different canonical forms have different numbers, and the rules in force are armed. -/
structure Guarded (r : Registry) : Prop where
  dense : r.corpus.Dense
  armed : ∀ {id rule}, r.get? id = some rule → rule.Armed

variable {r s t : Registry} {rule : Rule} {a : Admission}

/-! ### Admissions -/

/-- Each pattern of a rule has a number when the rule has come into force. -/
theorem Numbers.exists_lookup? (h : r.Numbers t rule) {p : Pattern} (hp : p ∈ rule.patterns) :
    ∃ n, t.corpus.lookup? p.canonical = some n := by
  cases hl : r.corpus.lookup? p.canonical with
  | some n => exact ⟨n, h.known _ n hl⟩
  | none =>
      have hnew : p.canonical ∈ r.newCanonicals rule :=
        List.mem_filter.mpr ⟨List.mem_map_of_mem hp, by rw [hl]; rfl⟩
      obtain ⟨i, hi⟩ := List.getElem?_of_mem hnew
      exact ⟨_, h.new i _ hi⟩

theorem nodup_patternIds_numbered {c : Corpus} (hc : c.Dense) (hrule : rule.canonicals.Nodup) :
    (rule.numbered c).patternIds.Nodup := by
  refine nodup_patternIds (fun p hp q hq n hpn hqn => ?_) ?_
  · obtain ⟨p, _, rfl⟩ := List.mem_map.mp hp
    obtain ⟨q, _, rfl⟩ := List.mem_map.mp hq
    obtain ⟨s, hs, hps⟩ := (hc p.canonical n).mp hpn
    obtain ⟨t, ht, hqt⟩ := (hc q.canonical n).mp hqn
    rw [hs, Option.some.injEq] at ht
    show p.canonical = q.canonical
    rw [← hps, ← hqt, ht]
  · rw [Rule.numbered, List.map_map]
    exact hrule

theorem armed_of_prepare (hd : r.corpus.Dense) (ha : r.prepare rule = .ok a) : a.rule.Armed := by
  obtain ⟨t, hc⟩ := exists_commit ha
  have ht : t.corpus.Dense := by
    obtain ⟨_, _, _, _, rfl⟩ := commit_ok hc
    exact hd.registerAll a.staged
  obtain ⟨hvalid, hcompiled, hdistinct⟩ := admissible_of_prepare ha
  obtain ⟨_, _, hfilter⟩ := Rule.validate_ok_iff.mp hvalid
  rw [numbered_of_commit ha hc]
  refine ⟨hfilter, fun p hp => ?_, nodup_patternIds_numbered ht hdistinct⟩
  obtain ⟨q, hq, rfl⟩ := List.mem_map.mp hp
  obtain ⟨s, hs⟩ := hcompiled q hq
  obtain ⟨n, hn⟩ := (numbers_of_commit ha hc).exists_lookup? hq
  exact ⟨(Signature.compile_ok hs).1, fun he => by rw [Pattern.numbered, hn] at he; cases he⟩

/-! ### Steps -/

theorem Guarded.replace (h : r.Guarded) (hrule : rule.Armed) : (r.replace rule).Guarded := by
  refine ⟨h.dense, fun {id other} hother => ?_⟩
  rcases get?_put_cases (get?_replace r rule) hother with ⟨_, rfl⟩ | ⟨_, hother⟩
  · exact hrule
  · exact h.armed hother

theorem Guarded.commit (h : r.Guarded) (ha : a.rule.Armed) {id : RowId}
    (hc : r.commit a = .ok (id, t)) : t.Guarded := by
  refine ⟨?_, fun {key other} hother => ?_⟩
  · obtain ⟨_, _, _, _, rfl⟩ := commit_ok hc
    exact h.dense.registerAll a.staged
  · rcases get?_put_cases (get?_of_commit hc) hother with ⟨_, rfl⟩ | ⟨_, hother⟩
    · exact ha
    · exact h.armed hother

theorem Guarded.update (h : r.Guarded) {id : RowId} {name color : String} {old : Option Rule}
    (hu : r.update id name color = .ok (old, t)) : t.Guarded := by
  rcases update_ok hu with ⟨_, _, rfl⟩ | ⟨rule, version, hrule, _, _, _, rfl⟩
  · exact h
  · -- name, colour and version are not checked for
    obtain ⟨hfilter, hpatterns, hdistinct⟩ := h.armed hrule
    exact h.replace ⟨hfilter, hpatterns, hdistinct⟩

theorem Guarded.remove (h : r.Guarded) (id : RowId) : (r.remove id).Guarded :=
  ⟨(remove_corpus r id).1.symm ▸ h.dense, fun hother => h.armed (get?_remove_cases hother).2⟩

theorem Reachable.guarded (h : r.Reachable) : r.Guarded := by
  induction h with
  | new limit => exact ⟨Corpus.dense_empty, fun hrule => (by cases hrule)⟩
  | commit _ _ ha hc hr hs => exact hr.commit (armed_of_prepare hs.dense ha) hc
  | update _ hu hr => exact hr.update hu
  | revert _ _ hu hrevert hr hs =>
      rcases revert_ok hrevert with ⟨_, rfl⟩ | ⟨_, rfl, _⟩
      · exact hr
      · rcases update_ok hu with ⟨_, hnone, _⟩ | ⟨rule, _, hrule, hold, _⟩
        · cases hnone
        · rw [Option.some.injEq] at hold
          exact hr.replace (hold ▸ hs.armed hrule)
  | remove id _ hr => exact hr.remove id

/-! ### Sessions and histories -/

/-- The registry of a session is reachable, and its admissions were prepared for reachable ones. -/
structure Session.Genuine (x : Session) : Prop where
  registry : x.registry.Reachable
  prepared : ∀ a ∈ x.prepared, ∃ s rule, Reachable s ∧ s.prepare rule = .ok a

theorem Session.Genuine.perform {x : Session} (h : x.Genuine) (op : Op) : (x.perform op).Genuine := by
  cases op with
  | prepare rule =>
      simp only [Session.perform]
      cases ha : x.registry.prepare rule with
      | error fault => exact h
      | ok a =>
          refine ⟨h.registry, fun b hb => ?_⟩
          rcases List.mem_append.mp hb with hb | hb
          · exact h.prepared b hb
          · rw [List.mem_singleton.mp hb]
            exact ⟨x.registry, rule, h.registry, ha⟩
  | commit n =>
      simp only [Session.perform]
      cases hn : x.prepared[n]? with
      | none => exact h
      | some a =>
          obtain ⟨s, rule, hs, ha⟩ := h.prepared a (List.mem_of_getElem? hn)
          exact ⟨Session.after_of h.registry fun _ _ hc => h.registry.commit hs ha hc, h.prepared⟩
  | register rule =>
      refine ⟨Session.after_of h.registry fun _ _ hr => ?_, h.prepared⟩
      obtain ⟨a, ha, hc⟩ := register_ok hr
      exact h.registry.commit h.registry ha hc
  | update id name color =>
      exact ⟨Session.after_of h.registry fun _ _ hu => h.registry.update hu, h.prepared⟩
  | remove id => exact ⟨h.registry.remove id, h.prepared⟩

theorem reachable_session (limit : Nat) (ops : List Op) :
    (Session.run limit ops).registry.Reachable :=
  (List.foldlRecOn ops Session.perform (motive := Session.Genuine)
    ⟨.new limit, fun a ha => (by cases ha)⟩ fun _ h op _ => h.perform op).registry

/-- The registry of a history is reachable, and its rules were given back by reachable ones. -/
structure History.Genuine (x : History) : Prop where
  registry : x.registry.Reachable
  previous : ∀ old ∈ x.previous, ∃ s id name color u,
    Reachable s ∧ s.update id name color = .ok (some old, u)

theorem History.Genuine.perform {x : History} (h : x.Genuine) (c : Change) : (x.perform c).Genuine := by
  cases c with
  | register rule =>
      refine ⟨Session.after_of h.registry fun _ _ hr => ?_, h.previous⟩
      obtain ⟨a, ha, hc⟩ := register_ok hr
      exact h.registry.commit h.registry ha hc
  | update id name color =>
      simp only [History.perform]
      split
      · rename_i old t hu
        refine ⟨h.registry.update hu, fun other hother => ?_⟩
        rcases List.mem_append.mp hother with hother | hother
        · exact h.previous other hother
        · rw [List.mem_singleton.mp hother]
          exact ⟨x.registry, id, name, color, t, h.registry, hu⟩
      · exact h
  | revert n =>
      simp only [History.perform]
      split
      · rename_i old hn
        obtain ⟨s, id, name, color, u, hs, hu⟩ := h.previous old (List.mem_of_getElem? hn)
        exact ⟨Session.after_of h.registry fun _ _ hr => h.registry.revert hs hu hr, h.previous⟩
      · exact h

theorem reachable_history (limit : Nat) (changes : List Change) :
    (History.run limit changes).registry.Reachable :=
  (List.foldlRecOn changes History.perform (motive := History.Genuine)
    ⟨.new limit, fun old hold => (by cases hold)⟩ fun _ h c _ => h.perform c).registry

/-! ### What the check of the index tells -/

theorem Reachable.keyed (h : r.Reachable) : r.Keyed := by
  induction h with
  | new limit => exact fun id rule hrule => (by cases hrule)
  | commit _ _ _ hc hr _ => exact hr.put (get?_of_commit hc)
  | update _ hu hr =>
      rcases update_ok hu with ⟨_, _, rfl⟩ | ⟨rule, version, _, _, _, _, rfl⟩
      · exact hr
      · exact hr.put (get?_replace _ _)
  | revert _ _ _ hrevert hr _ =>
      rcases revert_ok hrevert with ⟨_, rfl⟩ | ⟨_, rfl, _⟩
      · exact hr
      · exact hr.put (get?_replace _ _)
  | remove id _ hr => exact hr.remove id

/-- Whatever rules have been put back, the check tells whether the names are unique and each rule is found
by its name. -/
theorem Reachable.unique_iff (h : r.Reachable) : r.Unique ↔ r.isConsistent = true := by
  constructor
  · exact Unique.consistent
  · exact fun hc => (indexed_iff.mpr ⟨h.keyed, hc⟩).unique

/-! ### What the checks refuse -/

/-- **Checks refuse what never could be triggered**, and nothing else of what they look at.

* A filter is valid exactly if some connection passes it.
* A pattern with an expression and a number is valid exactly if some counts satisfy it.
* A rule that a reachable registry admits is triggered by some connection with some counts, if it is
  enabled, and so is each enabled rule in force. -/
theorem validation_exact :
    (∀ f : Filter, f.validate = .ok () ↔ ∃ c : Connection, c.Measurable ∧ f.passes c = true) ∧
    (∀ p : Pattern, p.regex ≠ "" → p.corpusId ≠ none →
      (p.validate = .ok () ↔ ∃ counts, p.satisfied counts = true)) ∧
    ∀ r : Registry, r.Reachable →
      (∀ rule a, r.prepare rule = .ok a → a.rule.enabled = true →
        ∃ (c : Connection) (counts : DirectionalCounts),
          c.Measurable ∧ a.rule.triggered c counts = true) ∧
      ∀ rule ∈ r.list, rule.enabled = true →
        ∃ (c : Connection) (counts : DirectionalCounts),
          c.Measurable ∧ rule.triggered c counts = true := by
  refine ⟨Filter.validate_ok_iff_exists, fun p => Pattern.validate_ok_iff_exists, fun r hr => ⟨?_, ?_⟩⟩
  · intro rule a ha henabled
    exact (armed_of_prepare hr.guarded.dense ha).exists_triggered henabled
  · intro rule hrule henabled
    obtain ⟨id, hid⟩ := (mem_list_iff r rule).mp hrule
    exact (hr.guarded.armed hid).exists_triggered henabled

end TrafficRules.Registry
