import TrafficRules.Proofs.Manager.Coherence
import TrafficRules.Proofs.Manager.Storage
import TrafficRules.Proofs.Store.Working

/-! # Changing a rule

A rule gets another name and another colour, in memory first and then in the store. There are four
ways in which this can go (`Manager.Change`): there is no such rule, or the change is refused, or it
is stored, or it cannot be stored and is taken back. What is taken back leaves every rule and every
name where it was (`Registry.Indexed.unchanged_of_undo`), although two indices were rewritten twice.

A change is made as a whole or not at all (`Manager.update_whole_or_not`). It is made exactly if the
name is free or the rule's own, name and colour are valid and the version is not the greatest
(`Registry.Accepts`), and the store works and has the rule. -/

namespace TrafficRules

/-- The next version is greater by one. -/
theorem Rule.toInt_nextVersion {v : Int64} (h : v ≠ Int64.maxValue) :
    (v + 1).toInt = v.toInt + 1 := by
  have hle := v.toInt_le
  have hge := v.le_toInt
  have hmax : Int64.maxValue.toInt = 2 ^ 63 - 1 := rfl
  have hmin : Int64.minValue.toInt = -2 ^ 63 := rfl
  have hne : v.toInt ≠ Int64.maxValue.toInt := fun he => h (Int64.toInt_inj.mp he)
  rw [Int64.toInt_add, Int64.toInt_one, Int.bmod_eq_of_le]
  · omega
  · omega

namespace Registry

variable {r t : Registry} {id : RowId} {old : Rule} {name color : String} {u : Update}

/-- A rule may have the name and the colour, and can be changed once more. -/
structure Accepts (r : Registry) (old : Rule) (name color : String) : Prop where
  /-- The name is free or its own. -/
  free : ∀ owner, r.byName.get? name = some owner → owner = old.id
  name : validateName name = .ok ()
  color : validateColor color = .ok ()
  version : old.version ≠ Int64.maxValue

/-- A rule has become another one, and everything else is as it was. -/
structure Changes (r t : Registry) (old new : Rule) : Prop where
  rules : ∀ id, t.get? id = if old.id = id then some new else r.get? id
  /-- The new name leads to the rule. -/
  found : t.getByName? new.name = some new
  /-- The old name is free if it is another one. -/
  freed : old.name ≠ new.name → t.byName.get? old.name = none
  others : ∀ name, name ≠ old.name → name ≠ new.name → t.byName.get? name = r.byName.get? name

/-- Everything is as it was, but for the order in which names are kept. -/
structure Unchanged (r t : Registry) : Prop where
  rules : t.rules = r.rules
  names : ∀ name, t.byName.get? name = r.byName.get? name

theorem Unchanged.refl (r : Registry) : r.Unchanged r := ⟨rfl, fun _ => rfl⟩

theorem update_of_accepts (hold : r.get? id = some old) (hid : old.id = id)
    (h : r.Accepts old name color) : r.update id name color =
      .ok (some old, r.replace ((Update.mk name color (old.version + 1)).apply old)) := by
  have hnext : Rule.nextVersion? old.version = some (old.version + 1) := by
    rw [Rule.nextVersion?, if_neg h.version]
  unfold update
  simp only [hold, h.name, h.color, hnext]
  cases hname : r.byName.get? name with
  | none => rfl
  | some owner =>
      dsimp only
      rw [if_neg (not_not_intro ((h.free owner hname).trans hid))]
      rfl

theorem accepts_of_update {result : Option Rule} (hold : r.get? id = some old) (hid : old.id = id)
    (h : r.update id name color = .ok (result, t)) : r.Accepts old name color := by
  rcases update_ok h with ⟨hnone, _⟩ | ⟨rule, version, hrule, rfl, hfree, hversion, _⟩
  · rw [hold] at hnone
    cases hnone
  · obtain rfl := Option.some.inj (hold.symm.trans hrule)
    obtain ⟨hname, hcolor⟩ := update_valid h
    refine ⟨fun owner ho => (hfree owner ho).trans hid.symm, hname, hcolor, fun hmax => ?_⟩
    rw [Rule.nextVersion?, if_pos hmax] at hversion
    cases hversion

/-- The version of a rule that has been changed too often does not wrap around. -/
theorem update_of_greatest (hold : r.get? id = some old) (hid : old.id = id)
    (hfree : ∀ owner, r.byName.get? name = some owner → owner = old.id)
    (hname : validateName name = .ok ()) (hcolor : validateColor color = .ok ())
    (hversion : old.version = Int64.maxValue) : r.update id name color = .error .outOfRange := by
  have hnext : Rule.nextVersion? old.version = none := by rw [Rule.nextVersion?, if_pos hversion]
  unfold update
  simp only [hold, hname, hcolor, hnext]
  cases hget : r.byName.get? name with
  | none => rfl
  | some owner =>
      dsimp only
      rw [if_neg (not_not_intro ((hfree owner hget).trans hid))]
      rfl

/-- The names behind a replacement. -/
theorem Indexed.names_replace (h : r.Indexed) (rule : Rule) (hold : r.get? rule.id = some old)
    (name : String) : (r.replace rule).byName.get? name =
      if rule.name = name then some rule.id
      else if old.name = name then none else r.byName.get? name := by
  unfold Registry.replace
  simp only [hold, h.forget hold]
  rw [Table.get?_insert, Table.get?_erase]

theorem Indexed.changes_of_replace (h : r.Indexed) (hold : r.get? old.id = some old) (u : Update) :
    r.Changes (r.replace (u.apply old)) old (u.apply old) := by
  have hnames := h.names_replace (u.apply old) hold
  refine ⟨fun id => get?_replace r _ id, ?_, fun hne => ?_, fun name hown hnew => ?_⟩
  · rw [getByName?, hnames, if_pos rfl, Option.bind_some, get?_replace, if_pos rfl]
  · rw [hnames, if_neg (Ne.symm hne), if_pos rfl]
  · rw [hnames, if_neg (Ne.symm hnew), if_neg (Ne.symm hown)]

/-- A change that is taken back leaves no trace. -/
theorem Indexed.unchanged_of_undo (h : r.Indexed) (hold : r.get? old.id = some old)
    (hfree : ∀ owner, r.byName.get? u.name = some owner → owner = old.id) :
    r.Unchanged ((r.replace (u.apply old)).replace old) := by
  have hchanged : (r.replace (u.apply old)).Indexed := h.replace hold hfree
  have hnew : (r.replace (u.apply old)).get? old.id = some (u.apply old) := by
    rw [get?_replace, if_pos (u.apply_id old)]
  refine ⟨Table.insert_insert hold _, fun name => ?_⟩
  rw [hchanged.names_replace old hnew, h.names_replace (u.apply old) hold]
  split_ifs with hown hother
  · rw [← hown, (h.named hold).2]
  · -- whoever had the new name was the rule itself, under its old name
    cases hget : r.byName.get? name with
    | none => rfl
    | some owner =>
        obtain ⟨rule, hrule, hname⟩ := h.owned hget
        have hnew : u.name = name := hother
        rw [hfree owner (hnew ▸ hget), hold, Option.some.injEq] at hrule
        exact absurd (hrule ▸ hname) hown
  · rfl

end Registry

namespace Manager

variable {m : Manager} {ctx : WriteContext} {id : RowId} {name color : String}

/-- The ways in which changing a rule can go. -/
inductive Change (m : Manager) (ctx : WriteContext) (id : RowId) (name color : String) :
    Except Fault Bool × Manager → Prop
  | unknown (hnone : m.registry.get? id = none) : Change m ctx id name color (.ok false, m)
  | refused (old : Rule) (hold : m.registry.get? id = some old) (fault : Fault)
      (hfault : m.registry.update id name color = .error fault) :
      Change m ctx id name color (.error fault, m)
  | stored (old : Rule) (hold : m.registry.get? id = some old) (u : Update)
      (hu : u = ⟨name, color, old.version + 1⟩) (haccepts : m.registry.Accepts old name color)
      (store : Store) (hs : m.store.update ctx id u = (.ok true, store)) :
      Change m ctx id name color
        (.ok true, { m with registry := m.registry.replace (u.apply old), store := store })
  | unstored (old : Rule) (hold : m.registry.get? id = some old) (u : Update)
      (hu : u = ⟨name, color, old.version + 1⟩) (haccepts : m.registry.Accepts old name color)
      (result : Except Fault Bool) (hne : result ≠ .ok true) (store : Store)
      (hs : m.store.update ctx id u = (result, store)) (fault : Fault) :
      Change m ctx id name color (.error fault, { m with
        registry := (m.registry.replace (u.apply old)).replace old, store := store })

theorem change_update (h : m.registry.Indexed) (ctx : WriteContext) (id : RowId)
    (name color : String) : m.Change ctx id name color (m.update ctx id name color) := by
  cases hold : m.registry.get? id with
  | none =>
      have hupdate : m.registry.update id name color = .ok (none, m.registry) := by
        rw [Registry.update, hold]
      rw [update, hupdate]
      exact .unknown hold
  | some old =>
      obtain ⟨hid, _⟩ := h.named hold
      cases hu : m.registry.update id name color with
      | error fault =>
          rw [update, hu]
          exact .refused old hold fault hu
      | ok result =>
          have haccepts := Registry.accepts_of_update hold hid hu
          have hnext : Rule.nextVersion? old.version = some (old.version + 1) := by
            rw [Rule.nextVersion?, if_neg haccepts.version]
          rw [update, Registry.update_of_accepts hold hid haccepts]
          dsimp only
          cases hs : m.store.update ctx id ⟨name, color, old.version + 1⟩ with
          | mk result store =>
              have hback := takeBack_eq (u := ⟨name, color, old.version + 1⟩)
                (m := { m with
                  registry := m.registry.replace (Update.apply ⟨name, color, old.version + 1⟩ old)
                  store := store }) hnext rfl
              cases result with
              | error fault =>
                  dsimp only
                  rw [hback]
                  exact .unstored old hold _ rfl haccepts _ (by simp) store hs fault
              | ok found =>
                  cases found with
                  | false =>
                      dsimp only
                      rw [hback]
                      exact .unstored old hold _ rfl haccepts _ (by simp) store hs _
                  | true => exact .stored old hold _ rfl haccepts store hs

/-- The change has been made in memory and in the store. -/
structure Makes (m n : Manager) (id : RowId) (old new : Rule) : Prop where
  changes : m.registry.Changes n.registry old new
  /-- So is the first record of the identifier, and the others are as they were. -/
  stored : ∃ before stored after,
    m.store.records = before ++ ⟨some id, some stored⟩ :: after ∧
    (∀ e ∈ before, e.key ≠ some id) ∧
    n.store.records = before ++ ⟨some id, some
      { stored with name := new.name, color := new.color, version := new.version }⟩ :: after

/-- What no change touches. -/
structure Frame (m n : Manager) : Prop where
  corpus : n.registry.corpus = m.registry.corpus
  sizeLimit : n.registry.sizeLimit = m.registry.sizeLimit
  distributor : n.distributor = m.distributor
  ids : n.ids = m.ids
  config : n.config = m.config

namespace Change

variable {outcome : Except Fault Bool × Manager} (h : m.Change ctx id name color outcome)

include h

theorem frame : m.Frame outcome.2 := by
  cases h <;> exact ⟨rfl, rfl, rfl, rfl, rfl⟩

theorem unknown_iff : outcome.1 = .ok false ↔ m.registry.get? id = none := by
  cases h with
  | unknown hnone => simp [hnone]
  | refused old hold _ _ => simp [hold]
  | stored old hold _ _ _ _ _ => simp [hold]
  | unstored old hold _ _ _ _ _ _ _ _ => simp [hold]

variable (hm : m.registry.Indexed)

include hm

theorem makes (hok : outcome.1 = .ok true) : ∃ old version, m.registry.get? id = some old ∧
    version.toInt = old.version.toInt + 1 ∧
    m.Makes outcome.2 id old { old with name := name, color := color, version := version } := by
  cases h with
  | stored old hold u hu haccepts store hs =>
      obtain ⟨rfl, _⟩ := hm.named hold
      subst hu
      refine ⟨old, old.version + 1, hold, Rule.toInt_nextVersion haccepts.version,
        hm.changes_of_replace hold _, ?_⟩
      exact Store.first_of_update hs
  | _ => cases hok

theorem leaves (hne : outcome.1 ≠ .ok true) :
    m.registry.Unchanged outcome.2.registry ∧ m.store.SameContents outcome.2.store := by
  cases h with
  | unknown _ => exact ⟨Registry.Unchanged.refl _, Store.SameContents.refl _⟩
  | refused _ _ _ _ => exact ⟨Registry.Unchanged.refl _, Store.SameContents.refl _⟩
  | stored _ _ _ _ _ _ _ => exact absurd rfl hne
  | unstored old hold u hu haccepts result hfails store hs fault =>
      obtain ⟨rfl, _⟩ := hm.named hold
      subst hu
      exact ⟨hm.unchanged_of_undo hold haccepts.free, Store.sameContents_of_update hs hfails⟩

theorem made_iff : outcome.1 = .ok true ↔ ∃ old, m.registry.get? id = some old ∧
    m.registry.Accepts old name color ∧ m.store.Works ctx ∧
    ∃ stored, Record.first? id m.store.records = some ⟨some id, some stored⟩ := by
  constructor
  · intro hok
    cases h with
    | stored old hold u hu haccepts store hs =>
        exact ⟨old, hold, haccepts, (Store.update_ok_iff id u).mp (congrArg Prod.fst hs)⟩
    | _ => cases hok
  · rintro ⟨old, hold, haccepts, hstore⟩
    cases h with
    | unknown hnone =>
        rw [hold] at hnone
        cases hnone
    | refused rule _ fault hfault =>
        rw [Registry.update_of_accepts hold (hm.named hold).1 haccepts] at hfault
        cases hfault
    | stored _ _ _ _ _ _ _ => rfl
    | unstored rule _ u _ _ result hne store hs fault =>
        have hok := (Store.update_ok_iff id u).mpr hstore
        rw [hs] at hok
        exact absurd hok hne

/-- A rule whose version is the greatest is not changed. -/
theorem of_greatest {old : Rule} (hold : m.registry.get? id = some old)
    (hversion : old.version = Int64.maxValue) :
    outcome.2 = m ∧ ∃ fault, outcome.1 = .error fault ∧
      ((∀ owner, m.registry.byName.get? name = some owner → owner = id) →
        validateName name = .ok () → validateColor color = .ok () → fault = .outOfRange) := by
  obtain ⟨hid, _⟩ := hm.named hold
  have hrejects : ∀ {rule}, m.registry.get? id = some rule → ¬ m.registry.Accepts rule name color :=
    fun hrule haccepts => haccepts.version (Option.some.inj (hrule.symm.trans hold) ▸ hversion)
  cases h with
  | unknown hnone =>
      rw [hold] at hnone
      cases hnone
  | refused _ _ fault hfault =>
      refine ⟨rfl, fault, rfl, fun hfree hname hcolor => ?_⟩
      rw [Registry.update_of_greatest hold hid (hid ▸ hfree) hname hcolor hversion] at hfault
      exact (Except.error.inj hfault).symm
  | stored rule hrule _ _ haccepts _ _ => exact absurd haccepts (hrejects hrule)
  | unstored rule hrule _ _ haccepts _ _ _ _ _ => exact absurd haccepts (hrejects hrule)

end Change

/-- **A change is made as a whole or not at all.** After any calls, a rule gets another name and another
colour and the next version if it may have them, the store works and the first record of its identifier
can be read; then the store has the same change and nothing else is different. In all other cases
rules, names and the contents of the store are what they were. Whatever happens, the corpus and what is
published stay as they are, and a rule whose version is the greatest is not changed. -/
theorem update_whole_or_not (store : Store) (config : EngineConfig) (calls : List Call)
    (ctx : WriteContext) (id : RowId) (name color : String) :
    let m := run store config calls
    let result := (m.update ctx id name color).1
    let n := (m.update ctx id name color).2
    m.Frame n ∧
    (result = .ok true → ∃ old version, m.registry.get? id = some old ∧
      version.toInt = old.version.toInt + 1 ∧
      m.Makes n id old { old with name := name, color := color, version := version }) ∧
    (result ≠ .ok true → m.registry.Unchanged n.registry ∧ m.store.SameContents n.store) ∧
    (result = .ok true ↔ ∃ old, m.registry.get? id = some old ∧ m.registry.Accepts old name color ∧
      m.store.Works ctx ∧
      ∃ stored, Record.first? id m.store.records = some ⟨some id, some stored⟩) ∧
    (result = .ok false ↔ m.registry.get? id = none) ∧
    (∀ old, m.registry.get? id = some old → old.version = Int64.maxValue →
      n = m ∧ ∃ fault, result = .error fault ∧
        ((∀ owner, m.registry.byName.get? name = some owner → owner = id) →
          validateName name = .ok () → validateColor color = .ok () → fault = .outOfRange)) := by
  intro m result n
  have hindexed : m.registry.Indexed := (coherent_run store config calls).sound.indexed
  have hchange := change_update hindexed ctx id name color
  exact ⟨hchange.frame, hchange.makes hindexed, hchange.leaves hindexed, hchange.made_iff hindexed,
    hchange.unknown_iff, fun _ => hchange.of_greatest hindexed⟩

end Manager
end TrafficRules
