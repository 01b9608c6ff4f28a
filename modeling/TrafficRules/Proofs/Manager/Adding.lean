import TrafficRules.Proofs.Manager.Coherence
import TrafficRules.Proofs.Store.Working

/-! # Outcomes of adding a rule

A rule that is added is refused, or fails to be stored, or is stored. A refused rule leaves no trace
but a used identifier. A rule that is not stored is taken out of force, so that rules and names are
what they were (`Registry.remove_of_commit`), but the new signatures stay and the published engine has
them. When the draft is added again its patterns have their numbers already
(`Registry.corpus_of_known`), and nothing but the store or the identifier can refuse it.

A refusal comes at once, whatever is pending; an accepted rule is published as soon as a publisher need
not wait any more, and stored behind that. -/

namespace TrafficRules

namespace Registry

variable {r t : Registry} {rule : Rule} {id : RowId}

/-- A rule taken out of force right after it came into force leaves the corpus and nothing else. -/
theorem remove_of_commit {a : Admission} (hc : r.commit a = .ok (id, t)) :
    t.remove id = { r with corpus := t.corpus } := by
  obtain ⟨_, hname, hid, rfl, rfl⟩ := commit_ok hc
  have hget : Registry.get? { r with
      rules := r.rules.insert a.rule.id a.rule
      byName := r.byName.insert a.rule.name a.rule.id
      corpus := r.corpus.registerAll a.staged } a.rule.id = some a.rule :=
    (get?_put _ _ _ _ _).trans (if_pos rfl)
  have hrules : (r.rules.insert a.rule.id a.rule).erase a.rule.id = r.rules :=
    Table.erase_insert hid _
  have hnames : forget (r.byName.insert a.rule.name a.rule.id) a.rule = r.byName := by
    rw [forget, Table.get?_insert, if_pos rfl, if_pos rfl]
    exact Table.erase_insert hname _
  simp only [remove, hget, hrules, hnames]

/-- A rule that is taken puts the signatures of its new forms behind the others. -/
theorem signatures_of_register (hr : r.register rule = .ok (id, t)) :
    ∃ new, t.corpus.signatures = r.corpus.signatures ++ new ∧
      new.map Signature.canonical = r.newCanonicals rule ∧
      ∀ s ∈ new, ∃ p ∈ rule.patterns, Signature.compile r.sizeLimit p = .ok s := by
  obtain ⟨a, ha, hc⟩ := register_ok hr
  obtain ⟨hcanonicals, hcompiled⟩ := staged_of_prepare ha
  exact ⟨a.staged, signatures_of_commit ha hc, hcanonicals, hcompiled⟩

/-- A rule without new forms leaves the corpus as it is. -/
theorem corpus_of_known (hr : r.register rule = .ok (id, t)) (hknown : r.newCanonicals rule = []) :
    t.corpus = r.corpus := by
  obtain ⟨a, ha, hc⟩ := register_ok hr
  have hempty : a.staged = [] := List.map_eq_nil_iff.mp ((staged_of_prepare ha).1.trans hknown)
  obtain ⟨_, _, _, _, rfl⟩ := commit_ok hc
  rw [hempty]
  rfl

/-- A rule that is taken has no new forms from then on. -/
theorem Enters.newCanonicals_eq_nil (h : r.Enters t rule) {u : Registry}
    (hu : u.corpus = t.corpus) {other : Rule} (ho : other.canonicals = rule.canonicals) :
    u.newCanonicals other = [] := by
  refine List.filter_eq_nil_iff.mpr fun x hx => ?_
  have hmem : x ∈ t.corpus.signatures.map Signature.canonical := by
    rw [h.canonicals, List.mem_eraseDups]
    exact List.mem_append_right _ (ho ▸ hx)
  obtain ⟨n, hn⟩ := h.sound.numbered.dense.exists_lookup?_iff.mpr hmem
  simp [hu, hn]

end Registry

/-! ### Drafts under other identifiers -/

namespace Draft

variable (draft : Draft) (a b : RowId)

theorem canonicals_toRule : (draft.toRule a).canonicals = (draft.toRule b).canonicals := rfl

theorem numbered_toRule (c : Corpus) :
    (draft.toRule b).numbered c = { (draft.toRule a).numbered c with id := b } := rfl

variable {draft a b}

theorem admissible_toRule {limit : Nat} (h : (draft.toRule a).Admissible limit) :
    (draft.toRule b).Admissible limit := ⟨h.valid, h.compiled, h.distinct⟩

end Draft

namespace Manager

/-! ### What the three ways leave -/

variable {m : Manager} {ctx : WriteContext} {draft : Draft}

/-- What has been published since `m`, under the given version, is the corpus of `n`. -/
def Publishes (m n : Manager) (version : RowId) : Prop :=
  ∃ engine, Engine.build n.registry.corpus.signatures m.config = .ok engine ∧
    engine.signatures = n.registry.corpus.signatures ∧
    n.distributor = { m.distributor with
      pending := some ⟨engine, version⟩, latest := some ⟨engine, version⟩ }

/-- The rule is in force and stored in `n`, which differs from `m` by nothing else. -/
structure Gains (m n : Manager) (rule : Rule) : Prop where
  enters : m.registry.Enters n.registry rule
  absent : ∀ e ∈ m.store.records, e.key ≠ some rule.id
  stored : ∃ before after kept, m.store.records = before ++ after ∧
    n.store.records = before ++ ⟨some rule.id, some kept⟩ :: after ∧
    kept.unnumbered = rule.unnumbered
  published : m.Publishes n rule.id

/-- The rule could not be stored, and what is left of it in `n` are its signatures. -/
structure Undoes (m n : Manager) (ctx : WriteContext) (rule : Rule) (fault : Fault) : Prop where
  /-- The rules and their names are as before. -/
  registry : n.registry = { m.registry with corpus := n.registry.corpus }
  /-- The signatures of the forms that were new stand behind the others. -/
  grown : ∃ new, n.registry.corpus.signatures = m.registry.corpus.signatures ++ new ∧
    new.map Signature.canonical = m.registry.newCanonicals rule ∧
    ∀ s ∈ new, ∃ p ∈ rule.patterns, Signature.compile m.registry.sizeLimit p = .ok s
  /-- The patterns had the numbers of their signatures. -/
  resolved : ∀ p ∈ (rule.numbered n.registry.corpus).patterns,
    p.Resolved m.registry.sizeLimit n.registry.corpus.signatures
  failed : m.store.insert ctx (rule.numbered n.registry.corpus) = (.error fault, n.store)
  contents : m.store.SameContents n.store
  published : m.Publishes n rule.id

/-- With a store that works the draft is added, whatever is pending, and its rule is the one that was
tried before but for the identifier, which has to be free. -/
def TakesAgain (n : Manager) (draft : Draft) (tried : Rule) : Prop :=
  ∀ (store : Store) (slot : Distributor) (now : UInt32) (ctx : WriteContext),
    store.Works ctx → n.registry.get? (n.ids.fresh now) = none →
      (∀ e ∈ store.records, e.key ≠ some (n.ids.fresh now)) →
        let again := { n with store := store, distributor := slot }.add now ctx draft
        again.1 = .ok (n.ids.fresh now) ∧
          again.2.registry.corpus = n.registry.corpus ∧
          again.2.registry.get? (n.ids.fresh now) = some { tried with id := n.ids.fresh now }

section

variable {rule : Rule} {a : Admission} {t : Registry} {engine : Engine} {store : Store}
  {fault : Fault} (h : m.registry.Sound) (ha : m.registry.prepare rule = .ok a)
  (hb : Engine.build (m.registry.corpus.signatures ++ a.staged) m.config = .ok engine)
  (hc : m.registry.commit a = .ok (rule.id, t))

include h ha hb hc

theorem gains_of_insert (hs : m.store.insert ctx a.rule = (.ok (), store)) :
    m.Gains { m.enacted rule.id t engine with store := store } rule := by
  obtain ⟨_, _, henters⟩ := Registry.enters_of_register h (bind_ok_iff.mpr ⟨a, ha, hc⟩)
  rw [← Registry.signatures_of_commit ha hc] at hb
  rw [Registry.numbered_of_commit ha hc] at hs
  obtain ⟨habsent, before, after, kept, hbefore, hafter, hkept⟩ := Store.insert_ok hs
  exact ⟨henters, habsent,
    ⟨before, after, kept, hbefore, hafter, hkept.trans (Rule.unnumbered_numbered t.corpus rule)⟩,
    engine, hb, (signatures_of_build hb).1, rfl⟩

theorem undoes_of_insert (hs : m.store.insert ctx a.rule = (.error fault, store)) :
    m.Undoes { m.enacted rule.id (t.remove rule.id) engine with store := store } ctx rule fault := by
  have hr : m.registry.register rule = .ok (rule.id, t) := bind_ok_iff.mpr ⟨a, ha, hc⟩
  obtain ⟨_, _, henters⟩ := Registry.enters_of_register h hr
  have hgrown := Registry.signatures_of_register hr
  have hresolved : ∀ p ∈ (rule.numbered t.corpus).patterns,
      p.Resolved m.registry.sizeLimit t.corpus.signatures := by
    rw [← henters.sizeLimit]
    exact henters.sound.numbered.resolved ((henters.get? rule.id).trans (if_pos rfl))
  rw [← Registry.signatures_of_commit ha hc] at hb
  rw [Registry.numbered_of_commit ha hc] at hs
  rw [Registry.remove_of_commit hc]
  exact ⟨rfl, hgrown, hresolved, hs,
    Store.sameContents_of_insert hs, engine, hb, (signatures_of_build hb).1, rfl⟩

end

/-- A rule that brings no new forms is added if it can be taken and stored. -/
theorem Attempt.known {rule : Rule} {result : Except Fault RowId × Manager}
    (hadd : m.Attempt ctx rule result) {t : Registry}
    (hr : m.registry.register rule = .ok (rule.id, t))
    (hknown : m.registry.newCanonicals rule = []) {engine : Engine}
    (hb : Engine.build m.registry.corpus.signatures m.config = .ok engine)
    (hworks : m.store.Works ctx) (hfree : ∀ e ∈ m.store.records, e.key ≠ some rule.id) :
    result.1 = .ok rule.id ∧ result.2.registry = t ∧ t.corpus = m.registry.corpus := by
  have hcorpus := Registry.corpus_of_known hr hknown
  obtain ⟨a, ha, hc⟩ := Registry.register_ok hr
  have hid : a.rule.id = rule.id := (Registry.commit_ok hc).2.2.2.1.symm
  cases hadd with
  | refused fault hfault hnone =>
      rw [← hcorpus, Registry.signatures_of_commit ha hc] at hb
      exact absurd hb (hnone a engine ha)
  | unstored a' t' engine' fault store ha' hb' hc' hs =>
      obtain rfl := Except.ok.inj (ha.symm.trans ha')
      have hok := (Store.insert_ok_iff a.rule).mpr ⟨hworks, hid.symm ▸ hfree⟩
      rw [hs] at hok
      cases hok
  | stored a' t' engine' store ha' hb' hc' hs =>
      obtain rfl := Except.ok.inj (ha.symm.trans ha')
      rw [hc, Except.ok.injEq, Prod.mk.injEq] at hc'
      exact ⟨rfl, hc'.2.symm, hcorpus⟩

/-- What could not be stored can be added again. -/
theorem takesAgain_of_commit (h : m.registry.Sound) {id : RowId} {a : Admission} {t : Registry}
    (ha : m.registry.prepare (draft.toRule id) = .ok a) (hc : m.registry.commit a = .ok (id, t))
    {engine : Engine}
    (hb : Engine.build (m.registry.corpus.signatures ++ a.staged) m.config = .ok engine)
    {n : Manager} (hn : n.registry = t.remove id) (hconfig : n.config = m.config) :
    n.TakesAgain draft ((draft.toRule id).numbered n.registry.corpus) := by
  intro store slot now ctx hworks hid hfree
  obtain ⟨_, hadmissible, henters⟩ :=
    Registry.enters_of_register h (bind_ok_iff.mpr ⟨a, ha, hc⟩)
  have hsound : n.registry.Sound := hn ▸ (Registry.Advances.of_commit_remove h ha hc).sound
  have hcorpus : n.registry.corpus = t.corpus := by rw [hn, (Registry.remove_corpus t id).1]
  have hlimit : n.registry.sizeLimit = m.registry.sizeLimit := by
    rw [hn, Registry.remove_of_commit hc]
  have hname : n.registry.byName.get? draft.name = none := by
    rw [hn, Registry.remove_of_commit hc]
    exact henters.freeName
  have hadmissible' : (draft.toRule (n.ids.fresh now)).Admissible n.registry.sizeLimit :=
    hlimit ▸ Draft.admissible_toRule hadmissible
  obtain ⟨_, u, hu⟩ := Registry.exists_register_iff.mpr ⟨hadmissible', hname, hid⟩
  obtain ⟨rfl, _, henters'⟩ := Registry.enters_of_register hsound hu
  rw [← Registry.signatures_of_commit ha hc, ← hcorpus, ← hconfig] at hb
  have hadd := attempt_add { n with store := store, distributor := slot } now ctx draft
  obtain ⟨hok, hregistry, hsame⟩ := hadd.known hu
    (henters.newCanonicals_eq_nil hcorpus (draft.canonicals_toRule _ _)) hb hworks hfree
  refine ⟨hok, ?_, ?_⟩
  · rw [hregistry]
    exact hsame
  · rw [hregistry, henters'.get?, hsame, ← draft.numbered_toRule]
    exact if_pos rfl

/-- **Outcomes of adding a rule** to a manager after any calls, whatever it has published and
whatever is pending; a publisher that has to wait does so. An identifier is used up, which is greater
than all before it unless there is none, and one of three things happens.

* The rule comes into force, enabled and in its first version, with just its new signatures behind
  the others; it is stored, and the grown corpus is published under its identifier.
* The rule is refused, and nothing but the identifiers has changed.
* The store fails. Rules, names and stored rules are as before, while the corpus has grown by the
  new signatures and is published like this. The draft is added as soon as the store works and the
  next identifier is free, and its patterns have the same numbers then. -/
theorem add_outcomes (store : Store) (config : EngineConfig) (calls : List Call) (d : Distributor)
    (now : UInt32) (ctx : WriteContext) (draft : Draft) :
    let m : Manager := { run store config calls with distributor := d }
    let n := (m.add now ctx draft).2
    let id := m.ids.fresh now
    let rule : Rule := {
      id := id, name := draft.name, color := draft.color, notes := draft.notes, version := 0
      enabled := true, patterns := draft.patterns, filter := draft.filter }
    n.ids = ⟨id⟩ ∧ (m.ids.last < id ∨ m.ids.last = RowId.greatest) ∧ n.config = m.config ∧
    match (m.add now ctx draft).1 with
    | .ok given => given = id ∧ m.Gains n rule
    | .error fault =>
        if fault.isRefusal then n = { m with ids := ⟨id⟩ }
        else m.Undoes n ctx rule fault ∧
          n.TakesAgain draft (rule.numbered n.registry.corpus) := by
  intro m n id rule
  have hsound : m.registry.Sound := (coherent_run store config calls).sound
  have hlast : m.ids.last < id ∨ m.ids.last = RowId.greatest := by
    by_cases he : m.ids.last = RowId.greatest
    · exact Or.inr he
    · exact Or.inl (RowId.Generator.lt_fresh now he)
  have hattempt := m.attempt_add now ctx draft
  unfold n
  generalize m.add now ctx draft = result at hattempt
  cases hattempt with
  | refused fault hfault hnone =>
      refine ⟨rfl, hlast, rfl, ?_⟩
      dsimp only
      rw [if_pos hfault]
      rfl
  | unstored a t engine fault store' ha hb hc hs =>
      have hfault := Store.insert_fails m.store ctx a.rule fault (congrArg Prod.fst hs)
      refine ⟨rfl, hlast, rfl, ?_⟩
      dsimp only
      rw [hfault, if_neg Bool.false_ne_true]
      exact ⟨undoes_of_insert hsound ha hb hc hs, takesAgain_of_commit hsound ha hc hb rfl rfl⟩
  | stored a t engine store' ha hb hc hs =>
      exact ⟨rfl, hlast, rfl, rfl, gains_of_insert hsound ha hb hc hs⟩

/-- A rule that could not be stored leaves its new pattern in the corpus, where it is found when the
rule is added again. -/
example :
    let stored : Rule :=
      { id := ⟨1, 1⟩, name := "letters", color := "#fff", patterns := [{ regex := "ab" }] }
    let draft : Draft :=
      { name := "more", color := "#fff", patterns := [{ regex := "cd" }, { regex := "ab" }] }
    let m := run (.memory { rules := [stored], failing := true }) {} [.load]
    let n := (m.add 1 {} draft).2
    let again := (add { n with store := .memory { rules := [stored] } } 1 {} draft).2
    n.registry.rules.values.map Rule.name = ["letters"] ∧ n.stats.patterns = 2 ∧
      n.stats.engineVersion = some ⟨1, 2⟩ ∧ again.stats.patterns = 2 ∧
      (again.registry.get? ⟨1, 3⟩).map Rule.patternIds = some [1, 0] := by
  decide +kernel

end Manager
end TrafficRules
