import TrafficRules.Proofs.Engine.Build
import TrafficRules.Proofs.Manager.Loading
import TrafficRules.Proofs.Manager.Storage
import TrafficRules.Proofs.Sorting

/-! # Starting again

If everything that is stored is in force, and as it is stored, then calls leave it so whatever befalls
the store at each of them (`Mirrors`, `mirrored_turn`). So a manager that starts anew over the store
has the same rules to take. It takes all of them, since each is admissible and has a name and an
identifier of its own, and it can build an engine, since its signatures are among those of the running
manager, which has one. It ends with the same rules (`restart_agrees`). -/

namespace TrafficRules

namespace Store

variable {store store' : Store} {ctx : WriteContext}

theorem rules_of_findAll {rules : List Rule} (h : store.findAll = .ok rules) :
    store.rules = rules := by rw [Store.rules, h]

theorem rules_perm_of_records (h : store'.records = store.records) :
    store'.rules.Perm store.rules :=
  store'.rules_perm.trans (h ▸ store.rules_perm.symm)

theorem perm_filterMap_rule (before after : List Record) (key : Option RowId) (stored : Rule) :
    ((before ++ ⟨key, some stored⟩ :: after).filterMap Record.rule).Perm
      (stored :: (before ++ after).filterMap Record.rule) :=
  List.perm_middle.filterMap _

theorem rules_insert {rule : Rule} (h : store.insert ctx rule = (.ok (), store')) :
    ∃ stored, stored.unnumbered = rule.unnumbered ∧ store'.rules.Perm (stored :: store.rules) := by
  obtain ⟨_, before, after, stored, hold, hnew, heq⟩ := insert_ok h
  refine ⟨stored, heq, store'.rules_perm.trans ?_⟩
  rw [hnew]
  refine (perm_filterMap_rule before after _ stored).trans (List.Perm.cons stored ?_)
  exact hold ▸ store.rules_perm.symm

theorem rules_update {id : RowId} {u : Update} (h : store.update ctx id u = (.ok true, store')) :
    ∃ stored changed rest, stored.id = id ∧ changed.unnumbered = (u.apply stored).unnumbered ∧
      store.rules.Perm (stored :: rest) ∧ store'.rules.Perm (changed :: rest) := by
  obtain ⟨before, after, stored, changed, hold, hnew, hid, heq⟩ := update_ok h
  refine ⟨stored, changed, (before ++ after).filterMap Record.rule, hid, heq, ?_, ?_⟩
  · exact store.rules_perm.trans (hold ▸ perm_filterMap_rule before after _ stored)
  · exact store'.rules_perm.trans (hnew ▸ perm_filterMap_rule before after _ changed)

end Store

theorem Signature.compile_unnumbered (limit : Nat) (p : Pattern) :
    compile limit p.unnumbered = compile limit p := rfl

/-- Numbers have no part in what makes a rule admissible. -/
theorem Rule.admissible_unnumbered {limit : Nat} {rule : Rule} :
    rule.unnumbered.Admissible limit ↔ rule.Admissible limit := by
  have hcanonicals : rule.unnumbered.canonicals = rule.canonicals := by
    rw [Rule.canonicals, Rule.canonicals, Rule.unnumbered, List.map_map]
    rfl
  constructor
  · rintro ⟨hvalid, hcompiled, hdistinct⟩
    refine ⟨hvalid, fun p hp => ?_, hcanonicals ▸ hdistinct⟩
    rw [← Signature.compile_unnumbered]
    exact hcompiled p.unnumbered (List.mem_map_of_mem hp)
  · rintro ⟨hvalid, hcompiled, hdistinct⟩
    refine ⟨hvalid, fun p hp => ?_, hcanonicals ▸ hdistinct⟩
    obtain ⟨q, hq, rfl⟩ := List.mem_map.mp hp
    rw [Signature.compile_unnumbered]
    exact hcompiled q hq

/-! ### Rules in force as they are stored -/

namespace Registry

/-- A rule in force that passes its own checks could be taken again. -/
theorem Sound.admissible {r : Registry} (h : r.Sound) {id : RowId} {rule : Rule}
    (hid : r.get? id = some rule) (hvalid : rule.validate = .ok ()) :
    rule.Admissible r.sizeLimit := by
  have hresolved := h.numbered.resolved hid
  refine ⟨hvalid, fun p hp => ?_, ?_⟩
  · obtain ⟨_, s, _, _, hs⟩ := hresolved p hp
    exact ⟨s, hs⟩
  · have hids := h.numbered.distinct hid
    rw [Rule.patternIds, List.Nodup, List.pairwise_filterMap] at hids
    rw [Rule.canonicals, List.Nodup, List.pairwise_map]
    refine hids.imp_of_mem fun {p q} hp hq hne heq => ?_
    -- patterns with one canonical form carry one number
    have hnumber : ∀ p ∈ rule.patterns, r.corpus.lookup? p.canonical = p.corpusId := fun p hp =>
      congrArg Pattern.corpusId ((hresolved p hp).numbered h.numbered.dense)
    obtain ⟨n, _, hn, _⟩ := hresolved p hp
    refine hne n hn n ?_ rfl
    rw [← hnumber q hq, ← heq, hnumber p hp, hn]

/-- The rules in force are those stored, but for the numbers of patterns. -/
structure Mirrors (r : Registry) (stored : List Rule) : Prop where
  distinct : (stored.map Rule.id).Nodup
  kept : ∀ {id rule}, r.get? id = some rule → ∃ s ∈ stored, s.unnumbered = rule.unnumbered
  current : ∀ {s}, s ∈ stored → ∃ rule, r.get? s.id = some rule ∧ s.unnumbered = rule.unnumbered
  valid : ∀ {id rule}, r.get? id = some rule → rule.validate = .ok ()

variable {r t : Registry} {stored stored' : List Rule}

theorem Mirrors.congr (h : r.Mirrors stored) (ht : ∀ id, t.get? id = r.get? id)
    (hp : stored'.Perm stored) : t.Mirrors stored' := by
  refine ⟨(hp.map Rule.id).nodup_iff.mpr h.distinct, fun {id rule} hid => ?_, fun {s} hs => ?_,
    fun hid => h.valid (ht _ ▸ hid)⟩
  · obtain ⟨s, hs, he⟩ := h.kept (ht id ▸ hid)
    exact ⟨s, hp.mem_iff.mpr hs, he⟩
  · rw [ht]
    exact h.current (hp.mem_iff.mp hs)

/-- A rule comes into force and is stored. -/
theorem Mirrors.insert (h : r.Mirrors stored) {rule s : Rule} (hfree : r.get? rule.id = none)
    (hvalid : rule.validate = .ok ()) (heq : s.unnumbered = rule.unnumbered)
    (ht : ∀ id, t.get? id = if rule.id = id then some rule else r.get? id) :
    t.Mirrors (s :: stored) := by
  have hsid : s.id = rule.id := Rule.id_of_unnumbered heq
  have hother : ∀ x ∈ stored, rule.id ≠ x.id := by
    intro x hx he
    obtain ⟨other, ho, _⟩ := h.current hx
    rw [← he, hfree] at ho
    cases ho
  refine ⟨?_, fun {id x} hid => ?_, fun {x} hx => ?_, fun {id x} hid => ?_⟩
  · rw [List.map_cons, List.nodup_cons, hsid]
    refine ⟨fun hmem => ?_, h.distinct⟩
    obtain ⟨x, hx, he⟩ := List.mem_map.mp hmem
    exact hother x hx he.symm
  · rw [ht] at hid
    split_ifs at hid
    · exact ⟨s, List.mem_cons_self, Option.some.inj hid ▸ heq⟩
    · obtain ⟨y, hy, he⟩ := h.kept hid
      exact ⟨y, List.mem_cons_of_mem s hy, he⟩
  · rw [ht]
    rcases List.mem_cons.mp hx with rfl | hx
    · exact ⟨rule, if_pos hsid.symm, heq⟩
    · rw [if_neg (hother x hx)]
      exact h.current hx
  · rw [ht] at hid
    split_ifs at hid
    · exact Option.some.inj hid ▸ hvalid
    · exact h.valid hid

/-- A rule is changed, and so is the stored one with its identifier. -/
theorem Mirrors.update {rest : List Rule} {s changed old : Rule} {u : Update}
    (h : r.Mirrors (s :: rest)) (hr : r.Indexed) (hid : s.id = old.id)
    (hold : r.get? old.id = some old)
    (hvalid : old.validate = .ok () → (u.apply old).validate = .ok ())
    (hchanged : changed.unnumbered = (u.apply s).unnumbered)
    (ht : ∀ id, t.get? id = if old.id = id then some (u.apply old) else r.get? id) :
    t.Mirrors (changed :: rest) := by
  have heq : changed.unnumbered = (u.apply old).unnumbered := by
    obtain ⟨rule, hrule, hs⟩ := h.current List.mem_cons_self
    rw [hid, hold, Option.some.injEq] at hrule
    rw [hchanged, u.apply_unnumbered, u.apply_unnumbered, hs, hrule]
  have hcid : changed.id = old.id := (Rule.id_of_unnumbered heq).trans (u.apply_id old)
  have hdistinct := h.distinct
  rw [List.map_cons, List.nodup_cons, hid] at hdistinct
  have hother : ∀ x ∈ rest, old.id ≠ x.id := fun x hx he =>
    hdistinct.1 (he ▸ List.mem_map_of_mem hx)
  refine ⟨?_, fun {id x} hx => ?_, fun {x} hx => ?_, fun {id x} hx => ?_⟩
  · rw [List.map_cons, List.nodup_cons, hcid]
    exact hdistinct
  · rw [ht] at hx
    split_ifs at hx with hsame
    · exact ⟨changed, List.mem_cons_self, Option.some.inj hx ▸ heq⟩
    · obtain ⟨y, hy, he⟩ := h.kept hx
      rcases List.mem_cons.mp hy with rfl | hy
      · -- the rule that is changed stands under no other identifier
        have hids : x.id = id := (hr.named hx).1
        exact absurd (hid.symm.trans ((Rule.id_of_unnumbered he).trans hids)) hsame
      · exact ⟨y, List.mem_cons_of_mem _ hy, he⟩
  · rw [ht]
    rcases List.mem_cons.mp hx with rfl | hx
    · exact ⟨_, if_pos hcid.symm, heq⟩
    · rw [if_neg (hother x hx)]
      exact h.current (List.mem_cons_of_mem _ hx)
  · rw [ht] at hx
    split_ifs at hx
    · exact Option.some.inj hx ▸ hvalid (h.valid hold)
    · exact h.valid hx

theorem Mirrors.clashes (h : r.Mirrors stored) {held : List Rule} (hheld : r.Holds held) {s : Rule}
    (hs : s ∈ stored) : s.Clashes held := by
  obtain ⟨rule, hrule, _⟩ := h.current hs
  exact hheld.clashes_iff.mpr (Or.inr ⟨rule, hrule⟩)

theorem Mirrors.admissible (h : r.Mirrors stored) (hr : r.Sound) {s : Rule} (hs : s ∈ stored) :
    s.Admissible r.sizeLimit := by
  obtain ⟨rule, hrule, heq⟩ := h.current hs
  rw [← Rule.admissible_unnumbered, heq, Rule.admissible_unnumbered]
  exact hr.admissible hrule (h.valid hrule)

/-- Stored rules have names and identifiers of their own, as rules in force have. -/
theorem Mirrors.pairwise (h : r.Mirrors stored) (hr : r.Indexed) :
    stored.Pairwise fun a b => a.name ≠ b.name ∧ a.id ≠ b.id := by
  have hids := h.distinct
  rw [List.Nodup, List.pairwise_map] at hids
  refine hids.imp_of_mem fun {a b} ha hb hne => ⟨fun hname => hne ?_, hne⟩
  have hfound : ∀ s ∈ stored, r.byName.get? s.name = some s.id := by
    intro s hs
    obtain ⟨rule, hrule, heq⟩ := h.current hs
    have hn : s.unnumbered.name = rule.unnumbered.name := by rw [heq]
    exact (congrArg r.byName.get? hn).trans (hr.named hrule).2
  have hsame := hfound b hb
  rw [← hname, hfound a ha, Option.some.injEq] at hsame
  exact hsame

theorem Mirrors.perm (h : r.Mirrors stored) (hr : r.Indexed) :
    (r.list.map Rule.unnumbered).Perm (stored.map Rule.unnumbered) := by
  have hnodup : ∀ {rules : List Rule}, (rules.map Rule.id).Nodup →
      (rules.map Rule.unnumbered).Nodup := by
    intro rules hids
    refine List.Nodup.of_map Rule.id ?_
    rw [List.map_map]
    exact hids
  rw [List.perm_ext_iff_of_nodup (hnodup hr.nodup_ids_list) (hnodup h.distinct)]
  intro x
  rw [List.mem_map, List.mem_map]
  constructor
  · rintro ⟨rule, hrule, rfl⟩
    obtain ⟨id, hid⟩ := (mem_list_iff r rule).mp hrule
    exact h.kept hid
  · rintro ⟨s, hs, rfl⟩
    obtain ⟨rule, hrule, heq⟩ := h.current hs
    exact ⟨rule, (mem_list_iff r rule).mpr ⟨_, hrule⟩, heq.symm⟩

/-- Two registries with the same stored rules list the same. -/
theorem Mirrors.list_eq (h : r.Mirrors stored) (h' : t.Mirrors stored) (hr : r.Indexed)
    (ht : t.Indexed) : r.list.map Rule.unnumbered = t.list.map Rule.unnumbered := by
  have hsorted : ∀ u : Registry, Rule.Sorted (u.list.map Rule.unnumbered) :=
    fun u => List.pairwise_map.mpr (Rule.sorted_mergeSort u.rules.values)
  refine List.Perm.eq_of_pairwise (fun a b ha hb hab hba => ?_) (hsorted r) (hsorted t)
    ((h.perm hr).trans (h'.perm ht).symm)
  obtain ⟨x, hx, rfl⟩ := List.mem_map.mp ((h.perm hr).mem_iff.mp ha)
  obtain ⟨y, hy, rfl⟩ := List.mem_map.mp ((h'.perm ht).mem_iff.mp hb)
  rw [List.inj_on_of_nodup_map h.distinct hx hy (RowId.le_antisymm hab hba)]

/-- If none was in force before, then no more rules are than have been taken. -/
theorem Loads.length_le {taken : List Rule} (h : r.Loads t taken) (hr : r.Holds []) :
    t.list.length ≤ taken.length := by
  have hsub : t.list.map Rule.id ⊆ taken.map Rule.id := by
    intro id hid
    obtain ⟨rule, hrule, rfl⟩ := List.mem_map.mp hid
    obtain ⟨s, hs, he⟩ := ((h.holds hr).ids rule.id).mp
      ((h.sound.indexed.holds_list.ids rule.id).mpr ⟨rule, hrule, rfl⟩)
    exact List.mem_map.mpr ⟨s, hs, he⟩
  have hids := (List.subperm_of_subset h.sound.indexed.nodup_ids_list hsub).length_le
  rwa [List.length_map, List.length_map] at hids

end Registry

namespace Manager

/-- The rules in force are those stored, and they can be listed. -/
structure Mirrored (m : Manager) : Prop where
  readable : ∃ rules, m.store.findAll = .ok rules
  mirrors : m.registry.Mirrors m.store.rules

variable {m n : Manager}

theorem Transfer.readable (h : Transfer m n) (hm : ∃ rules, m.store.findAll = .ok rules) :
    ∃ rules, n.store.findAll = .ok rules := by
  obtain ⟨rules, hrules⟩ := hm
  cases h with
  | same _ hstore => exact ⟨rules, hstore ▸ hrules⟩
  | loaded _ _ _ hstore => exact ⟨rules, hstore ▸ hrules⟩
  | added ctx rule _ _ _ hstored =>
      have := Store.readable_insert hrules ctx rule
      rwa [hstored] at this
  | removed ctx rule _ _ hstored =>
      have := Store.readable_insert hrules ctx rule
      rwa [hstored] at this
  | changed ctx old u _ _ _ hstored =>
      have := Store.readable_update hrules ctx old.id u
      rwa [hstored] at this
  | reverted ctx id u _ _ _ hstored =>
      have := Store.readable_update hrules ctx id u
      rwa [hstored] at this

theorem Transfer.mirrored (h : Transfer m n) (hm : m.registry.Sound) (ha : m.Mirrored) :
    n.Mirrored := by
  refine ⟨h.readable ha.readable, ?_⟩
  have hmirrors := ha.mirrors
  cases h with
  | same hrules hstore =>
      rw [hrules, hstore]
      exact hmirrors
  | loaded rules hstored hrules hstore =>
      -- all of the stored rules are in force, so none of them is taken
      rw [Store.rules_of_findAll hstored] at hmirrors
      have hheld := hm.indexed.holds_list
      have hnone : admitted m.registry.sizeLimit m.registry.list rules = [] :=
        admitted_eq_nil fun s hs _ => hmirrors.clashes hheld hs
      have hloads := (loads_walk hm hheld rules).1
      rw [hnone] at hloads
      rw [hstore, Store.rules_of_findAll hstored, hrules]
      refine hmirrors.congr (fun id => Option.ext fun rule => ?_) (List.Perm.refl _)
      rw [hloads.rules]
      simp
  | added ctx rule hfree hvalid hrules hstored =>
      obtain ⟨stored, heq, hperm⟩ := Store.rules_insert hstored
      exact (hmirrors.insert hfree hvalid heq hrules).congr (fun _ => rfl) hperm
  | removed ctx rule fault hrules hstored =>
      exact hmirrors.congr hrules (Store.rules_perm_of_records (Store.insert_error hstored))
  | changed ctx old u hold hvalid hrules hstored =>
      obtain ⟨stored, changed, rest, hid, heq, hbefore, hafter⟩ := Store.rules_update hstored
      have hfirst := hmirrors.congr (fun _ => rfl) hbefore.symm
      exact (hfirst.update hm.indexed hid hold hvalid heq hrules).congr (fun _ => rfl) hafter
  | reverted ctx id u result hne hrules hstored =>
      exact hmirrors.congr hrules (Store.rules_perm_of_records (Store.update_fails hstored hne))

theorem mirrored_turn (hm : m.registry.Sound) (h : m.Mirrored) (t : Turn) : (m.turn t).Mirrored := by
  have htransfer := transfer_call (m := { m with store := m.store.beset t.mishap }) hm t.keepsStore
  rcases m.store.shows_beset t.mishap with ⟨hbeset, hrelieve⟩ | ⟨s, hs, hmishap⟩
  · have hbefore : Mirrored { m with store := m.store.beset t.mishap } := by
      refine ⟨hbeset.findAll ▸ h.readable, ?_⟩
      rw [Store.rules, hbeset.findAll]
      exact h.mirrors
    obtain ⟨hreadable, hmirrors⟩ := htransfer.mirrored hm hbefore
    have hafter := hrelieve (call { m with store := m.store.beset t.mishap } t.call).store
    refine ⟨?_, ?_⟩
    · show ∃ rules, (m.store.relieve t.mishap _).findAll = .ok rules
      rw [hafter.findAll]
      exact hreadable
    · show Registry.Mirrors _ (m.store.relieve t.mishap _).rules
      rw [Store.rules, hafter.findAll]
      exact hmirrors
  · have hdirectory : m.store.beset t.mishap = .file { s with file := .directory } := by
      rw [hs, hmishap, Store.beset]
    obtain ⟨hstore, hrules⟩ := htransfer.of_directory hdirectory rfl
    have hsame : (m.turn t).store = m.store := by
      show m.store.relieve t.mishap _ = _
      rw [hstore, hdirectory, hs, hmishap, Store.relieve]
    refine ⟨hsame ▸ h.readable, ?_⟩
    rw [hsame]
    exact h.mirrors.congr hrules (List.Perm.refl _)

theorem Coherent.turn (h : m.Coherent) (t : Turn) : (m.turn t).Coherent ∧ m.Continues (m.turn t) := by
  obtain ⟨h₁, c₁⟩ := h.call (.store (m.store.beset t.mishap))
  obtain ⟨h₂, c₂⟩ := h₁.call t.call
  obtain ⟨h₃, c₃⟩ := h₂.call (.store (m.turn t).store)
  exact ⟨h₃, (c₁.trans c₂).trans c₃⟩

/-- What is coherent and mirrored stays so, whatever is called and whatever befalls the store. -/
theorem mirrored_turns (turns : List Turn) : ∀ {m : Manager}, m.Coherent → m.Mirrored →
    (turns.foldl Manager.turn m).Coherent ∧ m.Continues (turns.foldl Manager.turn m) ∧
      (turns.foldl Manager.turn m).Mirrored := by
  induction turns with
  | nil => exact fun hm h => ⟨hm, ⟨rfl, Registry.Advances.refl hm.sound⟩, h⟩
  | cons t rest ih =>
      intro m hm h
      obtain ⟨hc, hcontinues⟩ := hm.turn t
      obtain ⟨hrest, hcontinues', hmirrored⟩ := ih hc (mirrored_turn hm.sound h t)
      exact ⟨hrest, hcontinues.trans hcontinues', hmirrored⟩

/-! ### The first load -/

theorem holds_new (store : Store) (config : EngineConfig) : (new store config).registry.Holds [] := by
  constructor
  · exact fun id => ⟨fun ⟨_, h⟩ => (nomatch h), fun ⟨_, h, _⟩ => (nomatch h)⟩
  · exact fun name => ⟨fun ⟨_, h⟩ => (nomatch h), fun ⟨_, h, _⟩ => (nomatch h)⟩

/-- Rules that have been loaded by a new manager, all of them, are in force as they are stored. -/
theorem mirrors_of_loads {limit : Nat} {t : Registry} {stored : List Rule}
    (h : Registry.Loads { sizeLimit := limit } t stored)
    (hall : admitted limit [] stored = stored) : t.Mirrors stored := by
  have hrules : ∀ id rule, t.get? id = some rule ↔
      ∃ s ∈ stored, s.id = id ∧ rule = s.numbered t.corpus := by
    intro id rule
    rw [h.rules]
    exact or_iff_right fun hnone => nomatch hnone
  refine ⟨?_, fun {id rule} hid => ?_, fun {s} hs => ?_, fun {id rule} hid => ?_⟩
  · rw [← hall]
    exact nodup_ids_admitted limit stored []
  · obtain ⟨s, hs, _, rfl⟩ := (hrules id rule).mp hid
    exact ⟨s, hs, (Rule.unnumbered_numbered t.corpus s).symm⟩
  · exact ⟨_, (hrules _ _).mpr ⟨s, hs, rfl, rfl⟩, (Rule.unnumbered_numbered t.corpus s).symm⟩
  · obtain ⟨s, hs, _, rfl⟩ := (hrules id rule).mp hid
    rw [← hall] at hs
    exact (of_mem_admitted stored hs).1.valid

/-- If a new manager has as many rules in force as are stored, then it has passed over none. -/
theorem mirrored_load {store : Store} {config : EngineConfig}
    (hok : (new store config).load.1 = .ok ())
    (hall : (new store config).load.2.stats.rules = store.rules.length) :
    (new store config).load.2.Mirrored := by
  obtain ⟨stored, hfind, hloads, _⟩ :=
    load_ok (Registry.sound_empty _) (holds_new store config) hok
  refine ⟨⟨stored, (load_store _).symm ▸ hfind⟩, ?_⟩
  have hrules : (new store config).load.2.store.rules = stored :=
    Store.rules_of_findAll ((load_store _).symm ▸ hfind)
  have hsize : (new store config).load.2.registry.list.length = stored.length := by
    rw [Registry.length_list, ← Store.rules_of_findAll hfind]
    exact hall
  have hle := hloads.length_le (holds_new store config)
  have htaken := (admitted_sublist (new store config).registry.sizeLimit stored []).eq_of_length_le
    (hsize ▸ hle)
  rw [hrules]
  rw [htaken] at hloads
  exact mirrors_of_loads hloads htaken

/-! ### A new manager -/

/-- The signatures of stored rules are among those of the registry that has them in force. -/
theorem signatures_subset {limit : Nat} {t : Registry} {stored : List Rule}
    (h : m.registry.Mirrors stored) (hm : m.registry.Sound) (hlimit : m.registry.sizeLimit = limit)
    (hloads : Registry.Loads { sizeLimit := limit } t stored) :
    t.corpus.signatures ⊆ m.registry.corpus.signatures := by
  intro s hs
  rcases hloads.compiled s hs with hs | ⟨rule, hrule, p, hp, hc⟩
  · cases hs
  · obtain ⟨current, hcurrent, heq⟩ := h.current hrule
    have hpatterns : p.unnumbered ∈ current.patterns.map Pattern.unnumbered := by
      have hmem : p.unnumbered ∈ rule.unnumbered.patterns := List.mem_map_of_mem hp
      rw [heq] at hmem
      exact hmem
    obtain ⟨q, hq, hqp⟩ := List.mem_map.mp hpatterns
    obtain ⟨n, s', _, hs', hc'⟩ := hm.numbered.resolved hcurrent q hq
    rw [hlimit, ← Signature.compile_unnumbered, hqp, Signature.compile_unnumbered, hc,
      Except.ok.injEq] at hc'
    exact hc' ▸ List.mem_of_getElem? hs'

/-- A new manager over the store of a running one loads all that is stored. -/
theorem reload (hm : m.Coherent) (h : m.Mirrored) :
    (new m.store m.config).load.1 = .ok () ∧
      (new m.store m.config).load.2.registry.Sound ∧
      (new m.store m.config).load.2.registry.Mirrors m.store.rules := by
  obtain ⟨stored, hfind⟩ := h.readable
  have hmirrors := h.mirrors
  rw [Store.rules_of_findAll hfind] at hmirrors ⊢
  have hlimit : m.registry.sizeLimit = (new m.store m.config).registry.sizeLimit := hm.sizeLimit
  have hall : admitted (new m.store m.config).registry.sizeLimit [] stored = stored :=
    admitted_eq_self stored (fun s hs => hlimit ▸ hmirrors.admissible hm.sound hs)
      (fun s _ ⟨_, ho, _⟩ => nomatch ho) (hmirrors.pairwise hm.sound.indexed)
  have hresult : (new m.store m.config).load.1 = .ok () ∧
      (new m.store m.config).registry.Loads (new m.store m.config).load.2.registry stored := by
    obtain ⟨hloads, hlast⟩ := loads_walk (m := new m.store m.config) (Registry.sound_empty _)
      (holds_new m.store m.config) stored
    rw [hall] at hloads hlast
    have hload := outcome_load (new m.store m.config)
    generalize (new m.store m.config).load = result at hload ⊢
    cases hload with
    | unread fault hunread => cases hfind.symm.trans hunread
    | idle stored' hfind' hnone =>
        obtain rfl := Except.ok.inj (hfind.symm.trans hfind')
        rw [hnone, eq_comm, Option.map_eq_none_iff, List.getLast?_eq_none_iff] at hlast
        rw [hlast]
        exact ⟨rfl, Registry.Loads.refl (Registry.sound_empty _)⟩
    | loaded stored' version engine hfind' hsome hbuild =>
        obtain rfl := Except.ok.inj (hfind.symm.trans hfind')
        exact ⟨rfl, hloads⟩
    | unbuilt stored' version fault hfind' hsome hbuild =>
        obtain rfl := Except.ok.inj (hfind.symm.trans hfind')
        rw [hsome, eq_comm, Option.map_eq_some_iff] at hlast
        obtain ⟨last, hlast, _⟩ := hlast
        -- the running manager has an engine, for it has a rule
        obtain ⟨rule, hrule, _⟩ := hmirrors.current (List.mem_of_getLast? hlast)
        obtain ⟨engine, hengine⟩ : ∃ engine,
            Engine.build m.registry.corpus.signatures m.config = .ok engine := by
          cases hlatest : m.distributor.latest with
          | none =>
              rw [(hm.untouched hlatest).2] at hrule
              cases hrule
          | some snapshot => exact ⟨_, hm.current hlatest⟩
        have hsub : ((new m.store m.config).walk stored).registry.corpus.signatures.Subperm
            m.registry.corpus.signatures :=
          List.subperm_of_subset (List.Nodup.of_map _ hloads.sound.numbered.dense.nodup)
            (signatures_subset hmirrors hm.sound hm.sizeLimit hloads)
        obtain ⟨engine', hengine'⟩ := Engine.exists_build_of_subperm hengine hsub
        cases hbuild.symm.trans hengine'
  exact ⟨hresult.1, hresult.2.sound, mirrors_of_loads hresult.2 hall⟩

/-- **Starting again.** Let a new manager have loaded a store and passed over none of its rules, and
let any turns follow, whether the store could be written to or not. Then a new manager over what is
stored by now, with the same configuration, loads it without a fault and has the same rules in force,
but for the numbers of their patterns. -/
theorem restart_agrees (store : Store) (config : EngineConfig)
    (hok : (new store config).load.1 = .ok ())
    (hall : (new store config).load.2.stats.rules = store.rules.length) (turns : List Turn) :
    let m := turns.foldl turn (new store config).load.2
    let n := (new m.store config).load
    n.1 = .ok () ∧ n.2.registry.list.map Rule.unnumbered = m.registry.list.map Rule.unnumbered := by
  intro m n
  obtain ⟨hstart, hcontinues⟩ := (coherent_new store config).call .load
  obtain ⟨hm, hcontinues', hmirrored⟩ : m.Coherent ∧ _ ∧ m.Mirrored :=
    mirrored_turns turns hstart (mirrored_load hok hall)
  have hconfig : m.config = config := (hcontinues.trans hcontinues').config
  have hreload := reload hm hmirrored
  rw [hconfig] at hreload
  obtain ⟨hloaded, hsound, hmirrors⟩ := hreload
  exact ⟨hloaded, hmirrors.list_eq hmirrored.mirrors hsound.indexed hm.sound.indexed⟩

/-- Two stored rules are loaded, one is added while the store does not write and again when it does,
one is renamed, and a second change of a name is taken back. -/
theorem restart_agrees_letters :
    let store : Store := .memory { rules := [
      { id := ⟨1, 1⟩, name := "letters", color := "#fff", patterns := [{ regex := "ab" }] },
      { id := ⟨1, 2⟩, name := "more", color := "#fff", patterns := [{ regex := "cd" }] }] }
    let config : EngineConfig := { publishMode := .supersede }
    let turns : List Turn := [
      { call := .addFlag 1 {} "flag", mishap := .failing },
      { call := .addFlag 1 {} "mark" },
      { call := .update {} ⟨1, 1⟩ "digits" "#000" },
      { call := .update {} ⟨1, 2⟩ "signs" "#000", mishap := .failing }]
    let m := turns.foldl turn (new store config).load.2
    let n := (new m.store config).load
    m.registry.rules.values.map Rule.name = ["digits", "more", "flag"] ∧
      m.registry.corpus.size = 4 ∧ n.2.registry.corpus.size = 3 ∧
      n.1 = .ok () ∧ n.2.registry.list.map Rule.unnumbered = m.registry.list.map Rule.unnumbered :=
  ⟨by decide +kernel, by decide +kernel, by decide +kernel,
    restart_agrees _ _ (by rfl) (by decide +kernel) _⟩

end Manager
end TrafficRules
