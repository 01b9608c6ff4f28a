import Mathlib.Tactic.SplitIfs
import TrafficRules.Proofs.Manager.Coherence
import TrafficRules.Proofs.Registry.Registering
import TrafficRules.Proofs.RowId

/-! # Loading

A load walks the stored rules in their order. It takes those that are admissible and whose name and
identifier are borne neither by a rule that was in force before nor by one taken earlier in the walk
(`admitted`), and passes over the others, which leave nothing behind (`Loads`, `loads_foldl`). A rule
that was passed over would be passed over again: the rules in force have not become fewer. So a second
load takes nothing (`admitted_again`). It has no identifier left to note either, and since it comes to
publish nothing, it does not wait for the snapshot of the first (`load_again`). -/

namespace TrafficRules

namespace Manager

/-- The rules that a walk over stored rules takes while others are held. -/
def admitted (limit : Nat) : List Rule → List Rule → List Rule
  | _, [] => []
  | held, rule :: rest =>
      if rule.Admissible limit ∧ ¬ rule.Clashes held then rule :: admitted limit (held ++ [rule]) rest
      else admitted limit held rest

end Manager

namespace Registry

/-- What the rules taken, in this order, do to a registry. -/
structure Loads (r t : Registry) (taken : List Rule) : Prop where
  sound : t.Sound
  sizeLimit : t.sizeLimit = r.sizeLimit
  /-- The rules in force are those of before and the ones taken. -/
  rules : ∀ id rule, t.get? id = some rule ↔
    r.get? id = some rule ∨ ∃ s ∈ taken, s.id = id ∧ rule = s.numbered t.corpus
  names : ∀ name id, t.byName.get? name = some id ↔
    r.byName.get? name = some id ∨ ∃ s ∈ taken, s.name = name ∧ s.id = id
  /-- The signatures of before keep their numbers. -/
  grows : r.corpus.signatures <+: t.corpus.signatures
  /-- Behind them stand the new ones of the rules taken, each where it first appears. -/
  canonicals : t.corpus.signatures.map Signature.canonical =
    (r.corpus.signatures.map Signature.canonical ++ taken.flatMap Rule.canonicals).eraseDups
  compiled : ∀ s ∈ t.corpus.signatures, s ∈ r.corpus.signatures ∨
    ∃ rule ∈ taken, ∃ p ∈ rule.patterns, Signature.compile r.sizeLimit p = .ok s

variable {r t u : Registry} {rule : Rule} {held taken : List Rule}

theorem Loads.refl (h : r.Sound) : r.Loads r [] := by
  refine ⟨h, rfl, fun id rule => ?_, fun name id => ?_, List.prefix_rfl, ?_, fun s hs => Or.inl hs⟩
  · simp
  · simp
  · rw [List.flatMap_nil, List.append_nil, eraseDups_of_nodup h.numbered.dense.nodup]

/-- A rule that enters, and the rules taken behind it. -/
theorem Enters.trans (h : r.Enters t rule) (hu : t.Loads u taken) :
    r.Loads u (rule :: taken) := by
  have hall : ∀ x ∈ rule.canonicals, x ∈ t.corpus.signatures.map Signature.canonical := by
    intro x hx
    rw [h.canonicals, List.mem_eraseDups]
    exact List.mem_append_right _ hx
  have hnumbered : rule.numbered u.corpus = rule.numbered t.corpus :=
    h.sound.numbered.dense.numbered_eq hu.sound.numbered.dense hu.grows hall
  refine ⟨hu.sound, hu.sizeLimit.trans h.sizeLimit, ?_, ?_, h.grows.trans hu.grows, ?_, ?_⟩
  · intro id other
    rw [hu.rules, h.get?]
    constructor
    · rintro (hother | ⟨s, hs, hid, he⟩)
      · split_ifs at hother with hid
        · exact Or.inr ⟨rule, List.mem_cons_self, hid, hnumbered ▸ (Option.some.inj hother).symm⟩
        · exact Or.inl hother
      · exact Or.inr ⟨s, List.mem_cons_of_mem _ hs, hid, he⟩
    · rintro (hother | ⟨s, hs, hid, he⟩)
      · refine Or.inl ((if_neg ?_).trans hother)
        rintro rfl
        rw [h.freeId] at hother
        cases hother
      · rcases List.mem_cons.mp hs with rfl | hs
        · exact Or.inl ((if_pos hid).trans (congrArg some (hnumbered ▸ he.symm)))
        · exact Or.inr ⟨s, hs, hid, he⟩
  · intro name id
    rw [hu.names, h.byName]
    constructor
    · rintro (hid | ⟨s, hs, hn, he⟩)
      · split_ifs at hid with hn
        · exact Or.inr ⟨rule, List.mem_cons_self, hn, Option.some.inj hid⟩
        · exact Or.inl hid
      · exact Or.inr ⟨s, List.mem_cons_of_mem _ hs, hn, he⟩
    · rintro (hid | ⟨s, hs, hn, he⟩)
      · refine Or.inl ((if_neg ?_).trans hid)
        rintro rfl
        rw [h.freeName] at hid
        cases hid
      · rcases List.mem_cons.mp hs with rfl | hs
        · exact Or.inl ((if_pos hn).trans (congrArg some he))
        · exact Or.inr ⟨s, hs, hn, he⟩
  · rw [hu.canonicals, List.flatMap_cons, ← List.append_assoc]
    exact eraseDups_append_of_nodup h.canonicals h.sound.numbered.dense.nodup
  · intro s hs
    rcases hu.compiled s hs with hs | ⟨other, ho, p, hp, hc⟩
    · refine (h.compiled s hs).imp_right ?_
      rintro ⟨p, hp, hc⟩
      exact ⟨rule, List.mem_cons_self, p, hp, hc⟩
    · exact Or.inr ⟨other, List.mem_cons_of_mem _ ho, p, hp, h.sizeLimit ▸ hc⟩

/-- The rules held stay, and with them those taken are held. -/
theorem Loads.holds (h : r.Loads t taken) (hr : r.Holds held) : t.Holds (held ++ taken) := by
  constructor
  · intro id
    constructor
    · rintro ⟨rule, hrule⟩
      rcases (h.rules id rule).mp hrule with hold | ⟨s, hs, hid, _⟩
      · obtain ⟨other, ho, hid⟩ := (hr.ids id).mp ⟨rule, hold⟩
        exact ⟨other, List.mem_append_left _ ho, hid⟩
      · exact ⟨s, List.mem_append_right _ hs, hid⟩
    · rintro ⟨rule, hrule, hid⟩
      rcases List.mem_append.mp hrule with hheld | htaken
      · obtain ⟨other, ho⟩ := (hr.ids id).mpr ⟨rule, hheld, hid⟩
        exact ⟨other, (h.rules id other).mpr (Or.inl ho)⟩
      · exact ⟨_, (h.rules id _).mpr (Or.inr ⟨rule, htaken, hid, rfl⟩)⟩
  · intro name
    constructor
    · rintro ⟨id, hid⟩
      rcases (h.names name id).mp hid with hold | ⟨s, hs, hn, _⟩
      · obtain ⟨other, ho, hn⟩ := (hr.names name).mp ⟨id, hold⟩
        exact ⟨other, List.mem_append_left _ ho, hn⟩
      · exact ⟨s, List.mem_append_right _ hs, hn⟩
    · rintro ⟨rule, hrule, hn⟩
      rcases List.mem_append.mp hrule with hheld | htaken
      · obtain ⟨id, hid⟩ := (hr.names name).mpr ⟨rule, hheld, hn⟩
        exact ⟨id, (h.names name id).mpr (Or.inl hid)⟩
      · exact ⟨rule.id, (h.names name _).mpr (Or.inr ⟨rule, htaken, hn, rfl⟩)⟩

end Registry

namespace Manager

/-! ### The walk -/

/-- A walk takes the admissible rules that do not clash, and the last of them is the one that came
into force last. -/
theorem loads_foldl (rules : List Rule) : ∀ {p : Progress} {held : List Rule},
    p.registry.Sound → p.registry.Holds held →
      p.registry.Loads (rules.foldl Progress.take p).registry
        (admitted p.registry.sizeLimit held rules) ∧
      (rules.foldl Progress.take p).last =
        ((admitted p.registry.sizeLimit held rules).getLast?.map Rule.id).or p.last := by
  induction rules with
  | nil => exact fun h _ => ⟨Registry.Loads.refl h, rfl⟩
  | cons rule rest ih =>
      intro p held h hheld
      rw [List.foldl_cons, admitted]
      cases hr : p.registry.register rule with
      | error fault =>
          have hp : p.take rule = { p with ids := p.ids.observe rule.id } := by
            simp only [Progress.take, hr]
          have hno : ¬ (rule.Admissible p.registry.sizeLimit ∧ ¬ rule.Clashes held) := by
            rw [← hheld.exists_register_iff, hr]
            rintro ⟨id, t, he⟩
            cases he
          rw [if_neg hno, hp]
          exact ih (p := { p with ids := p.ids.observe rule.id }) h hheld
      | ok result =>
          obtain ⟨id, t⟩ := result
          have hp : p.take rule =
              { registry := t, ids := p.ids.observe rule.id, last := some id } := by
            simp only [Progress.take, hr]
          obtain ⟨rfl, hadmissible, henters⟩ := Registry.enters_of_register h hr
          have hyes := hheld.exists_register_iff.mp ⟨rule.id, t, hr⟩
          have hone : p.registry.Loads t [rule] := henters.trans (Registry.Loads.refl henters.sound)
          obtain ⟨hloads, hlast⟩ := ih (p := ⟨t, p.ids.observe rule.id, some rule.id⟩)
            henters.sound (hone.holds hheld)
          dsimp only at hloads hlast
          rw [henters.sizeLimit] at hloads hlast
          rw [if_pos hyes, hp]
          refine ⟨henters.trans hloads, hlast.trans ?_⟩
          rw [List.getLast?_cons]
          cases (admitted p.registry.sizeLimit (held ++ [rule]) rest).getLast? with
          | none => rfl
          | some last => rfl

/-- An admissible rule that a walk has met clashes with those that are held then. -/
theorem clashes_of_mem {limit : Nat} (rules : List Rule) : ∀ {held : List Rule},
    ∀ rule ∈ rules, rule.Admissible limit → rule.Clashes (held ++ admitted limit held rules) := by
  induction rules with
  | nil => exact fun rule hrule => nomatch hrule
  | cons first rest ih =>
      intro held rule hrule hadmissible
      rw [admitted]
      by_cases htaken : first.Admissible limit ∧ ¬ first.Clashes held
      · rw [if_pos htaken, List.append_cons]
        rcases List.mem_cons.mp hrule with rfl | hrule
        · exact ⟨rule, by simp, Or.inl rfl⟩
        · exact ih rule hrule hadmissible
      · rw [if_neg htaken]
        rcases List.mem_cons.mp hrule with rfl | hrule
        · obtain ⟨other, ho, he⟩ : rule.Clashes held :=
            Decidable.of_not_not fun hno => htaken ⟨hadmissible, hno⟩
          exact ⟨other, List.mem_append_left _ ho, he⟩
        · exact ih rule hrule hadmissible

theorem admitted_eq_nil {limit : Nat} {held rules : List Rule}
    (h : ∀ rule ∈ rules, rule.Admissible limit → rule.Clashes held) :
    admitted limit held rules = [] := by
  induction rules with
  | nil => rfl
  | cons rule rest ih =>
      rw [admitted, if_neg fun htaken => htaken.2 (h rule List.mem_cons_self htaken.1)]
      exact ih fun other ho => h other (List.mem_cons_of_mem _ ho)

/-- Behind a walk the same rules bring nothing. -/
theorem admitted_again {limit : Nat} (held rules : List Rule) :
    admitted limit (held ++ admitted limit held rules) rules = [] :=
  admitted_eq_nil (clashes_of_mem rules)

theorem admitted_sublist (limit : Nat) (rules : List Rule) : ∀ held,
    (admitted limit held rules).Sublist rules := by
  induction rules with
  | nil => exact fun _ => List.Sublist.refl _
  | cons rule rest ih =>
      intro held
      rw [admitted]
      split
      · exact (ih _).cons_cons rule
      · exact (ih _).cons rule

theorem of_mem_admitted {limit : Nat} {rule : Rule} (rules : List Rule) : ∀ {held : List Rule},
    rule ∈ admitted limit held rules → rule.Admissible limit ∧ ¬ rule.Clashes held := by
  induction rules with
  | nil => exact fun h => nomatch h
  | cons first rest ih =>
      intro held h
      rw [admitted] at h
      split at h
      · rename_i htaken
        rcases List.mem_cons.mp h with rfl | h
        · exact htaken
        · obtain ⟨hadmissible, hno⟩ := ih h
          exact ⟨hadmissible, fun ⟨other, ho, he⟩ => hno ⟨other, List.mem_append_left _ ho, he⟩⟩
      · exact ih h

/-- No two rules that a walk takes have one identifier. -/
theorem nodup_ids_admitted (limit : Nat) (rules : List Rule) : ∀ held,
    ((admitted limit held rules).map Rule.id).Nodup := by
  induction rules with
  | nil => exact fun _ => List.nodup_nil
  | cons rule rest ih =>
      intro held
      rw [admitted]
      split
      · rw [List.map_cons, List.nodup_cons]
        refine ⟨fun hmem => ?_, ih _⟩
        obtain ⟨other, ho, hid⟩ := List.mem_map.mp hmem
        exact (of_mem_admitted rest ho).2 ⟨rule, by simp, Or.inr hid.symm⟩
      · exact ih _

/-- Admissible rules with names and identifiers of their own are all taken. -/
theorem admitted_eq_self {limit : Nat} (rules : List Rule) : ∀ {held : List Rule},
    (∀ rule ∈ rules, rule.Admissible limit) → (∀ rule ∈ rules, ¬ rule.Clashes held) →
      rules.Pairwise (fun a b => a.name ≠ b.name ∧ a.id ≠ b.id) →
        admitted limit held rules = rules := by
  induction rules with
  | nil => exact fun _ _ _ => rfl
  | cons rule rest ih =>
      intro held hadmissible hno hpair
      rw [List.pairwise_cons] at hpair
      rw [admitted, if_pos ⟨hadmissible rule List.mem_cons_self, hno rule List.mem_cons_self⟩]
      congr 1
      refine ih (fun other ho => hadmissible other (List.mem_cons_of_mem _ ho)) ?_ hpair.2
      rintro other ho ⟨bearer, hb, he⟩
      rcases List.mem_append.mp hb with hb | hb
      · exact hno other (List.mem_cons_of_mem _ ho) ⟨bearer, hb, he⟩
      · obtain ⟨hname, hid⟩ := hpair.1 other ho
        rw [List.mem_singleton.mp hb] at he
        exact he.elim hname hid

/-! ### Identifiers that a walk notes -/

theorem take_ids (p : Progress) (rule : Rule) : (p.take rule).ids = p.ids.observe rule.id := by
  unfold Progress.take
  dsimp only
  split
  · rfl
  · rfl

/-- Behind a walk the generator has seen all the identifiers that were there. -/
theorem ids_foldl (rules : List Rule) : ∀ (p : Progress),
    p.ids.last ≤ (rules.foldl Progress.take p).ids.last ∧
      ∀ rule ∈ rules, rule.id ≤ (rules.foldl Progress.take p).ids.last := by
  induction rules with
  | nil => exact fun p => ⟨Nat.le_refl _, fun rule hrule => nomatch hrule⟩
  | cons first rest ih =>
      intro p
      obtain ⟨hle, hall⟩ := ih (p.take first)
      obtain ⟨hbefore, hfirst⟩ := p.ids.le_observe first.id
      rw [← take_ids] at hbefore hfirst
      refine ⟨Nat.le_trans hbefore hle, fun rule hrule => ?_⟩
      rcases List.mem_cons.mp hrule with rfl | hrule
      · exact Nat.le_trans hfirst hle
      · exact hall rule hrule

/-- Identifiers that have been seen are nothing new. -/
theorem ids_foldl_of_seen (rules : List Rule) : ∀ {p : Progress},
    (∀ rule ∈ rules, rule.id ≤ p.ids.last) → (rules.foldl Progress.take p).ids = p.ids := by
  induction rules with
  | nil => exact fun _ => rfl
  | cons first rest ih =>
      intro p hseen
      have hids : (p.take first).ids = p.ids :=
        (take_ids p first).trans (if_neg (Nat.not_lt.mpr (hseen first List.mem_cons_self)))
      rw [List.foldl_cons, ih, hids]
      rw [hids]
      exact fun rule hrule => hseen rule (List.mem_cons_of_mem _ hrule)

/-! ### Loads -/

variable {m : Manager} {held stored : List Rule}

/-- What the walk of a manager over stored rules comes to. -/
theorem loads_walk (h : m.registry.Sound) (hheld : m.registry.Holds held) (stored : List Rule) :
    m.registry.Loads (m.walk stored).registry (admitted m.registry.sizeLimit held stored) ∧
      (m.walk stored).last = (admitted m.registry.sizeLimit held stored).getLast?.map Rule.id := by
  obtain ⟨hloads, hlast⟩ :=
    loads_foldl stored (p := { registry := m.registry, ids := m.ids }) h hheld
  exact ⟨hloads, hlast.trans Option.or_none⟩

/-- A load has noted all stored identifiers, whatever comes of it. -/
theorem ids_load (hfind : m.store.findAll = .ok stored) :
    m.load.2.ids = (m.walk stored).ids := by
  have hload := outcome_load m
  generalize m.load = result at hload
  cases hload with
  | unread fault hunread => cases hfind.symm.trans hunread
  | idle other hother => rw [Except.ok.inj (hfind.symm.trans hother)]
  | unbuilt other version fault hother => rw [Except.ok.inj (hfind.symm.trans hother)]
  | loaded other version engine hother => rw [Except.ok.inj (hfind.symm.trans hother)]

/-- A load that succeeds has taken the rules of the walk. -/
theorem load_ok (h : m.registry.Sound) (hheld : m.registry.Holds held) (hok : m.load.1 = .ok ()) :
    ∃ stored, m.store.findAll = .ok stored ∧
      m.registry.Loads m.load.2.registry (admitted m.registry.sizeLimit held stored) ∧
      match (admitted m.registry.sizeLimit held stored).getLast? with
      | none => m.load.2 = { m with ids := m.load.2.ids }
      | some last => ∃ engine,
          Engine.build m.load.2.registry.corpus.signatures m.config = .ok engine ∧
          m.distributor.awaited.publish ⟨engine, last.id⟩ = .ok m.load.2.distributor ∧
          m.load.2 = { m with
            ids := m.load.2.ids
            registry := m.load.2.registry
            distributor := m.load.2.distributor } := by
  have hload := outcome_load m
  generalize m.load = result at hload hok ⊢
  cases hload with
  | unread fault hfind => cases hok
  | unbuilt stored version fault hfind hlast hbuild => cases hok
  | idle stored hfind hlast =>
      obtain ⟨_, htaken⟩ := loads_walk h hheld stored
      rw [hlast, eq_comm, Option.map_eq_none_iff] at htaken
      refine ⟨stored, hfind, ?_, ?_⟩
      · rw [List.getLast?_eq_none_iff.mp htaken]
        exact Registry.Loads.refl h
      · rw [htaken]
  | loaded stored version engine hfind hlast hbuild =>
      obtain ⟨hloads, htaken⟩ := loads_walk h hheld stored
      rw [hlast, eq_comm, Option.map_eq_some_iff] at htaken
      obtain ⟨last, hl, rfl⟩ := htaken
      refine ⟨stored, hfind, hloads, ?_⟩
      rw [hl]
      exact ⟨engine, hbuild, Distributor.publish_awaited _ _, rfl⟩

/-- A load that fails has noted identifiers at most. -/
theorem load_error (h : m.registry.Sound) (hheld : m.registry.Holds held) {fault : Fault}
    (hfault : m.load.1 = .error fault) :
    m.load.2 = { m with ids := m.load.2.ids } ∧
      (m.store.findAll = .error fault ∨
        ∃ stored t, m.store.findAll = .ok stored ∧
          admitted m.registry.sizeLimit held stored ≠ [] ∧
          m.registry.Loads t (admitted m.registry.sizeLimit held stored) ∧
          Engine.build t.corpus.signatures m.config = .error fault) := by
  have hload := outcome_load m
  generalize m.load = result at hload hfault ⊢
  cases hload with
  | unread unread hfind =>
      obtain rfl := Except.error.inj hfault
      exact ⟨rfl, Or.inl hfind⟩
  | idle stored hfind hlast => cases hfault
  | loaded stored version engine hfind hlast hbuild => cases hfault
  | unbuilt stored version unbuilt hfind hlast hbuild =>
      obtain ⟨hloads, htaken⟩ := loads_walk h hheld stored
      refine ⟨rfl, Or.inr ⟨stored, (m.walk stored).registry, hfind, fun hnone => ?_, hloads, ?_⟩⟩
      · rw [hnone, hlast] at htaken
        cases htaken
      · obtain rfl := Except.error.inj hfault
        exact hbuild

/-- A load does nothing if the rules of the store have been walked before. -/
theorem load_again {n : Manager} (hheld : m.registry.Holds held)
    (hloads : m.registry.Loads n.registry (admitted m.registry.sizeLimit held stored))
    (hids : n.ids = (m.walk stored).ids) (hfind : n.store.findAll = .ok stored) :
    n.load = (.ok (), n) := by
  have hnone : admitted n.registry.sizeLimit (held ++ admitted m.registry.sizeLimit held stored)
      stored = [] := hloads.sizeLimit ▸ admitted_again held stored
  have hlast : (n.walk stored).last = none := by
    rw [(loads_walk hloads.sound (hloads.holds hheld) stored).2, hnone]
    rfl
  have hseen : ∀ rule ∈ stored, rule.id ≤ n.ids.last := by
    rw [hids]
    exact (ids_foldl stored _).2
  have hsame : (n.walk stored).ids = n.ids := ids_foldl_of_seen stored hseen
  rw [load, hfind]
  dsimp only
  rw [hlast, hsame]

theorem load_store (m : Manager) : m.load.2.store = m.store := by
  have hload := outcome_load m
  generalize m.load = result at hload
  cases hload <;> rfl

/-- **Loading**, after any calls and whatever is pending: rules may be in force, snapshots published,
and the store may have become any other.

* A load that fails leaves everything alone but the identifiers that it has noted. It fails only if
  the store cannot be read, or if no engine can be built for the corpus with the rules that would be
  taken.
* Otherwise it takes of the stored rules, in their order, those that are admissible and clash neither
  with a rule in force before nor with one taken earlier; nothing else changes but the corpus, which
  grows by the new canonical forms of the rules taken, each where it first appears. One snapshot is
  published, of the whole corpus, under the identifier of the rule taken last, by a publisher that
  waits if it has to; if no rule was taken, nothing is published, and nothing is waited for.
* A second load then succeeds at once and changes nothing at all, though the snapshot of the first may
  be pending. -/
theorem load_admits (store : Store) (config : EngineConfig) (calls : List Call) (d : Distributor) :
    let m : Manager := { run store config calls with distributor := d }
    let n := m.load.2
    let taken := admitted config.patternSizeLimit.toNat m.registry.list
    (∀ fault, m.load.1 = .error fault → n = { m with ids := n.ids } ∧
      (m.store.findAll = .error fault ∨
        ∃ stored t, m.store.findAll = .ok stored ∧ taken stored ≠ [] ∧
          m.registry.Loads t (taken stored) ∧
          Engine.build t.corpus.signatures config = .error fault)) ∧
    (m.load.1 = .ok () → ∃ stored, m.store.findAll = .ok stored ∧
      m.registry.Loads n.registry (taken stored) ∧
      (match (taken stored).getLast? with
        | none => n = { m with ids := n.ids }
        | some last => ∃ engine,
            Engine.build n.registry.corpus.signatures config = .ok engine ∧
            m.distributor.awaited.publish ⟨engine, last.id⟩ = .ok n.distributor ∧
            n = { m with ids := n.ids, registry := n.registry, distributor := n.distributor }) ∧
      n.load = (.ok (), n)) := by
  intro m n taken
  have hm : (run store config calls).Coherent := coherent_run store config calls
  have hsound : m.registry.Sound := hm.sound
  have hconfig : m.config = config := config_run store config calls
  have hlimit : m.registry.sizeLimit = config.patternSizeLimit.toNat :=
    hm.sizeLimit.trans (by rw [config_run])
  have hheld : m.registry.Holds m.registry.list := hsound.indexed.holds_list
  constructor
  · intro fault hfault
    obtain ⟨hsame, hcause⟩ := load_error hsound hheld hfault
    rw [hlimit, hconfig] at hcause
    exact ⟨hsame, hcause⟩
  · intro hok
    obtain ⟨stored, hfind, hloads, hpublished⟩ := load_ok hsound hheld hok
    have hagain : n.load = (.ok (), n) :=
      load_again hheld hloads (ids_load hfind) ((load_store m).symm ▸ hfind)
    rw [hlimit] at hloads hpublished
    refine ⟨stored, hfind, hloads, ?_, hagain⟩
    unfold taken
    split at hpublished
    · exact hpublished
    · obtain ⟨engine, hbuild, hpublish, hsame⟩ := hpublished
      exact ⟨engine, hconfig ▸ hbuild, hpublish, hsame⟩

/-- Of four stored rules the second has a pattern that cannot be read behind one that can, and the
third has the name of the first: the patterns of neither come into the corpus. Another load returns
though a publisher would have to wait. -/
example :
    let rules : List Rule := [
      { id := ⟨1, 1⟩, name := "letters", color := "#fff", patterns := [{ regex := "ab" }] },
      { id := ⟨1, 2⟩, name := "broken", color := "#fff",
        patterns := [{ regex := "cd" }, { regex := "(" }] },
      { id := ⟨1, 3⟩, name := "letters", color := "#fff", patterns := [{ regex := "ef" }] },
      { id := ⟨1, 4⟩, name := "more", color := "#fff",
        patterns := [{ regex := "gh" }, { regex := "ab" }] }]
    let m := run (.memory { rules := rules }) {} [.load]
    m.registry.rules.values.map (fun r => (r.name, r.patternIds)) =
        [("letters", [0]), ("more", [1, 0])] ∧
      m.registry.corpus.signatures.map Signature.canonical = ["/ab/", "/gh/"] ∧
      m.stats.engineVersion = some ⟨1, 4⟩ ∧
      m.distributor.mustWait = true ∧ m.load.1 = .ok () := by
  decide +kernel

end Manager
end TrafficRules
