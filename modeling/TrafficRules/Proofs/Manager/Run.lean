import TrafficRules.Manager
import TrafficRules.Proofs.Engine.HandOff
import TrafficRules.Proofs.Refusal

/-! # Runs of a manager

A run starts with a manager over some store and makes calls one after the other. Between calls the
store may become any other store (`Call.store`): rules may be put into it or taken away, and it may
fail from then on. So a call meets whatever contents and whatever failure. A call that has to wait for
a subscriber is one step, in which that subscriber receives what was pending.

Each call is opened once (`Attempt`, `LoadOutcome`). What it does to the registry and to what is
published is one of two things (`Effect`, `effect_call`): either it leaves the corpus, the published
engine and the absence of rules as they were, or it publishes the engine of the corpus that it leaves
behind. -/

namespace TrafficRules

/-- A sound registry that has grown out of another one and has kept its rules. -/
structure Registry.Advances (r t : Registry) : Prop where
  sound : t.Sound
  grows : r.Grows t
  retains : r.Retains t

namespace Registry.Advances

variable {r s t : Registry}

theorem refl (h : r.Sound) : r.Advances r := ⟨h, Grows.refl r, Retains.refl r⟩

theorem trans (h₁ : r.Advances s) (h₂ : s.Advances t) : r.Advances t :=
  ⟨h₂.sound, h₁.grows.trans h₂.grows, h₁.retains.trans h₂.retains⟩

theorem of_commit (h : r.Sound) {rule : Rule} {a : Admission} {id : RowId}
    (ha : r.prepare rule = .ok a) (hc : r.commit a = .ok (id, t)) : r.Advances t :=
  ⟨h.commit (h.fits ha) hc, grows_of_commit hc, retains_of_commit hc⟩

/-- A rule that could not be stored is taken out of force; its signatures stay. -/
theorem of_commit_remove (h : r.Sound) {rule : Rule} {a : Admission} {id : RowId}
    (ha : r.prepare rule = .ok a) (hc : r.commit a = .ok (id, t)) : r.Advances (t.remove id) := by
  have ht := of_commit h ha hc
  refine ⟨ht.sound.remove id, ht.grows.trans (grows_of_remove t id), ?_⟩
  intro key b hb
  obtain ⟨_, _, hfree, hid, _⟩ := commit_ok hc
  obtain ⟨b', hb', he⟩ := ht.retains key b hb
  refine ⟨b', ?_, he⟩
  rw [get?_remove, if_neg, hb']
  rintro rfl
  rw [hid, hfree] at hb
  cases hb

/-- A rule replaced by one with the same patterns, under a name that is free or its own. -/
theorem of_replace (h : r.Sound) {rule old : Rule} (ho : r.get? rule.id = some old)
    (hname : ∀ owner, r.byName.get? rule.name = some owner → owner = rule.id)
    (hp : rule.patterns = old.patterns) : r.Advances (r.replace rule) :=
  ⟨h.replace ho hname hp, ⟨rfl, Or.inl rfl⟩, retains_of_replace ho hp⟩

end Registry.Advances

namespace Manager

/-- What can happen to a manager. -/
inductive Call where
  | load
  | add (now : UInt32) (ctx : WriteContext) (draft : Draft)
  | addFlag (now : UInt32) (ctx : WriteContext) (regex : String)
  | update (ctx : WriteContext) (id : RowId) (name color : String)
  /-- A subscriber takes the pending snapshot. -/
  | receive
  /-- The store is another one from now on. -/
  | store (s : Store)

def call (m : Manager) : Call → Manager
  | .load => m.load.2
  | .add now ctx draft => (m.add now ctx draft).2
  | .addFlag now ctx regex => (m.addFlag now ctx regex).2
  | .update ctx id name color => (m.update ctx id name color).2
  | .receive => m.receive.2
  | .store s => { m with store := s }

/-- The manager after a list of calls. -/
def run (store : Store) (config : EngineConfig) (calls : List Call) : Manager :=
  calls.foldl call (new store config)

theorem run_append (store : Store) (config : EngineConfig) (calls later : List Call) :
    run store config (calls ++ later) = later.foldl call (run store config calls) :=
  List.foldl_append

/-- What a call does: it advances the registry, and publishes nothing and brings nothing into being,
or else publishes the engine of the corpus that it leaves. -/
structure Effect (m n : Manager) : Prop where
  config : n.config = m.config
  advances : m.registry.Advances n.registry
  published :
    (n.registry.corpus = m.registry.corpus ∧ n.distributor.latest = m.distributor.latest ∧
      ∀ id, m.registry.get? id = none → n.registry.get? id = none) ∨
    ∃ engine version, Engine.build n.registry.corpus.signatures m.config = .ok engine ∧
      n.distributor.latest = some ⟨engine, version⟩

/-- A call that touches neither the registry nor what is published. -/
theorem Effect.of_same {m n : Manager} (h : m.registry.Sound) (hc : n.config = m.config)
    (hr : n.registry = m.registry) (hd : n.distributor.latest = m.distributor.latest) :
    Effect m n := by
  refine ⟨hc, ?_, Or.inl ⟨?_, hd, ?_⟩⟩
  · rw [hr]
    exact Registry.Advances.refl h
  · rw [hr]
  · rw [hr]
    exact fun _ hid => hid

/-- A call that changes the rules and nothing else. -/
theorem Effect.of_rules {m : Manager} {t : Registry} (h : m.registry.Advances t)
    (hc : t.corpus = m.registry.corpus)
    (hnone : ∀ id, m.registry.get? id = none → t.get? id = none) (store : Store) :
    Effect m { m with registry := t, store := store } := ⟨rfl, h, Or.inl ⟨hc, rfl, hnone⟩⟩

/-! ### Opening the calls -/

theorem enact_ok {m : Manager} {rule admitted : Rule} {t : Registry} {d : Distributor}
    (h : m.enact rule = .ok (admitted, t, d)) :
    ∃ a engine, m.registry.prepare rule = .ok a ∧ admitted = a.rule ∧
      Engine.build (m.registry.corpus.signatures ++ a.staged) m.config = .ok engine ∧
      m.registry.commit a = .ok (rule.id, t) ∧
      d = { m.distributor with
        pending := some ⟨engine, rule.id⟩, latest := some ⟨engine, rule.id⟩ } := by
  unfold enact at h
  simp only [bind_ok_iff, pure_ok_iff] at h
  obtain ⟨a, ha, engine, hb, ⟨id, u⟩, hc, e, hp, he⟩ := h
  obtain ⟨rfl, rfl, rfl⟩ := by simpa using he
  have hrule : a.rule.id = rule.id := by
    rw [(Registry.prepare_ok ha).2.2.2.2]
  have hid : id = rule.id := ((Registry.commit_ok hc).2.2.2.1).trans hrule
  subst hid
  rw [Distributor.publish_awaited, Except.ok.injEq] at hp
  exact ⟨a, engine, ha, rfl, hb, hc, hp.symm⟩

theorem enact_fails (m : Manager) (rule : Rule) :
    FailsWith (fun fault => fault.isRefusal = true) (m.enact rule) := by
  unfold enact
  refine .bind ((m.registry.prepare_fails rule).mono fun _ => Fault.isRefusal_of_isRejection) ?_
  intro a ha
  refine .bind (Engine.build_fails _ _) fun engine _ => ?_
  obtain ⟨t, ht⟩ := Registry.exists_commit ha
  rw [ht]
  refine .bind (.ok _) fun result _ => ?_
  dsimp only
  rw [Distributor.publish_awaited]
  exact .bind (.ok _) fun _ _ => .ok _

/-- A rule that can be admitted is enacted if there is an engine with its signatures. -/
theorem exists_enact {m : Manager} {rule : Rule} {a : Admission} {engine : Engine}
    (ha : m.registry.prepare rule = .ok a)
    (hb : Engine.build (m.registry.corpus.signatures ++ a.staged) m.config = .ok engine) :
    ∃ result, m.enact rule = .ok result := by
  obtain ⟨t, hc⟩ := Registry.exists_commit ha
  simp only [enact, bind_ok_iff, pure_ok_iff]
  exact ⟨_, a, ha, engine, hb, _, hc, _, Distributor.publish_awaited _ _, rfl⟩

theorem add_eq {m : Manager} {now : UInt32} {ctx : WriteContext} {draft : Draft} :
    m.add now ctx draft = match m.enact (draft.toRule (m.ids.fresh now)) with
      | .error fault => (.error fault, { m with ids := ⟨m.ids.fresh now⟩ })
      | .ok (rule, registry, distributor) =>
          match m.store.insert ctx rule with
          | (.error fault, store) => (.error fault, { m with
              ids := ⟨m.ids.fresh now⟩
              distributor := distributor
              store := store
              registry := registry.remove (m.ids.fresh now) })
          | (.ok (), store) => (.ok (m.ids.fresh now), { m with
              ids := ⟨m.ids.fresh now⟩
              distributor := distributor
              store := store
              registry := registry }) := by
  rw [add]
  dsimp only [RowId.Generator.next]
  have henact : ∀ ids rule, enact { m with ids := ids } rule = m.enact rule := fun _ _ => rfl
  rw [henact]
  cases m.enact (draft.toRule (m.ids.fresh now)) with
  | error fault => rfl
  | ok result =>
      dsimp only
      cases m.store.insert ctx result.1 with
      | mk outcome store =>
          cases outcome with
          | error fault => rfl
          | ok u => rfl

/-- The manager in which a rule has used up its identifier, is in force with the registry, and has
been published with the engine. -/
def enacted (m : Manager) (id : RowId) (t : Registry) (engine : Engine) : Manager :=
  { m with
    ids := ⟨id⟩
    registry := t
    distributor := { m.distributor with
      pending := some ⟨engine, id⟩, latest := some ⟨engine, id⟩ } }

/-- What can come of adding a draft, whose rule is `rule`. -/
inductive Attempt (m : Manager) (ctx : WriteContext) (rule : Rule) :
    Except Fault RowId × Manager → Prop
  /-- The rule cannot be admitted, or there is no engine with its signatures. -/
  | refused (fault : Fault) (hfault : fault.isRefusal = true)
      (hnone : ∀ a engine, m.registry.prepare rule = .ok a →
        Engine.build (m.registry.corpus.signatures ++ a.staged) m.config ≠ .ok engine) :
      Attempt m ctx rule (.error fault, { m with ids := ⟨rule.id⟩ })
  /-- The rule has come into force, but cannot be stored. -/
  | unstored (a : Admission) (t : Registry) (engine : Engine) (fault : Fault) (store : Store)
      (ha : m.registry.prepare rule = .ok a)
      (hb : Engine.build (m.registry.corpus.signatures ++ a.staged) m.config = .ok engine)
      (hc : m.registry.commit a = .ok (rule.id, t))
      (hs : m.store.insert ctx a.rule = (.error fault, store)) :
      Attempt m ctx rule (.error fault,
        { m.enacted rule.id (t.remove rule.id) engine with store := store })
  | stored (a : Admission) (t : Registry) (engine : Engine) (store : Store)
      (ha : m.registry.prepare rule = .ok a)
      (hb : Engine.build (m.registry.corpus.signatures ++ a.staged) m.config = .ok engine)
      (hc : m.registry.commit a = .ok (rule.id, t))
      (hs : m.store.insert ctx a.rule = (.ok (), store)) :
      Attempt m ctx rule (.ok rule.id, { m.enacted rule.id t engine with store := store })

theorem attempt_add (m : Manager) (now : UInt32) (ctx : WriteContext) (draft : Draft) :
    m.Attempt ctx (draft.toRule (m.ids.fresh now)) (m.add now ctx draft) := by
  rw [add_eq]
  cases he : m.enact (draft.toRule (m.ids.fresh now)) with
  | error fault =>
      refine .refused fault (m.enact_fails _ fault he) fun a engine ha hb => ?_
      obtain ⟨result, hresult⟩ := exists_enact ha hb
      rw [he] at hresult
      cases hresult
  | ok result =>
      obtain ⟨rule, t, d⟩ := result
      obtain ⟨a, engine, ha, rfl, hb, hc, rfl⟩ := enact_ok he
      dsimp only
      cases hs : m.store.insert ctx a.rule with
      | mk result store =>
          cases result with
          | error fault => exact .unstored a t engine fault store ha hb hc hs
          | ok u => exact .stored a t engine store ha hb hc hs

/-- Adding a rule uses up an identifier and does nothing else, or publishes the engine of the grown
corpus; then the rule is in force exactly if it could be stored. -/
theorem Attempt.effect {m : Manager} (h : m.registry.Sound) {ctx : WriteContext} {rule : Rule}
    {result : Except Fault RowId × Manager} (hadd : m.Attempt ctx rule result) :
    Effect m result.2 := by
  cases hadd with
  | refused fault hfault hnone => exact Effect.of_same h rfl rfl rfl
  | unstored a t engine fault store ha hb hc hs =>
      rw [← Registry.signatures_of_commit ha hc, ← (Registry.remove_corpus t rule.id).1] at hb
      exact ⟨rfl, Registry.Advances.of_commit_remove h ha hc, Or.inr ⟨engine, _, hb, rfl⟩⟩
  | stored a t engine store ha hb hc hs =>
      rw [← Registry.signatures_of_commit ha hc] at hb
      exact ⟨rfl, Registry.Advances.of_commit h ha hc, Or.inr ⟨engine, _, hb, rfl⟩⟩

/-- While rules are loaded the registry advances. -/
theorem advances_load (rules : List Rule) : ∀ {p : Progress}, p.registry.Sound →
    p.registry.Advances (rules.foldl Progress.take p).registry := by
  induction rules with
  | nil => exact fun h => Registry.Advances.refl h
  | cons rule rest ih =>
      intro p h
      rw [List.foldl_cons]
      cases hr : p.registry.register rule with
      | error fault =>
          have hp : p.take rule = { p with ids := p.ids.observe rule.id } := by
            simp only [Progress.take, hr]
          rw [hp]
          exact ih (p := { p with ids := p.ids.observe rule.id }) h
      | ok result =>
          obtain ⟨id, t⟩ := result
          have hp : p.take rule =
              { registry := t, ids := p.ids.observe rule.id, last := some id } := by
            simp only [Progress.take, hr]
          obtain ⟨a, ha, hc⟩ := Registry.register_ok hr
          have ht := Registry.Advances.of_commit h ha hc
          rw [hp]
          exact ht.trans (ih (p := ⟨t, _, some id⟩) ht.sound)

/-- What can come of a load. -/
inductive LoadOutcome (m : Manager) : Except Fault Unit × Manager → Prop
  | unread (fault : Fault) (hfind : m.store.findAll = .error fault) :
      LoadOutcome m (.error fault, m)
  /-- None of the stored rules comes into force, and nothing is published. -/
  | idle (stored : List Rule) (hfind : m.store.findAll = .ok stored)
      (hlast : (m.walk stored).last = none) :
      LoadOutcome m (.ok (), { m with ids := (m.walk stored).ids })
  /-- There is no engine for the rules that would come into force. -/
  | unbuilt (stored : List Rule) (version : RowId) (fault : Fault)
      (hfind : m.store.findAll = .ok stored) (hlast : (m.walk stored).last = some version)
      (hbuild : Engine.build (m.walk stored).registry.corpus.signatures m.config = .error fault) :
      LoadOutcome m (.error fault, { m with ids := (m.walk stored).ids })
  | loaded (stored : List Rule) (version : RowId) (engine : Engine)
      (hfind : m.store.findAll = .ok stored) (hlast : (m.walk stored).last = some version)
      (hbuild : Engine.build (m.walk stored).registry.corpus.signatures m.config = .ok engine) :
      LoadOutcome m (.ok (), { m with
        ids := (m.walk stored).ids
        registry := (m.walk stored).registry
        distributor := { m.distributor with
          pending := some ⟨engine, version⟩, latest := some ⟨engine, version⟩ } })

theorem outcome_load (m : Manager) : m.LoadOutcome m.load := by
  unfold load
  cases hfind : m.store.findAll with
  | error fault => exact .unread fault hfind
  | ok stored =>
      dsimp only
      cases hlast : (m.walk stored).last with
      | none => exact .idle stored hfind hlast
      | some version =>
          dsimp only
          cases hbuild : Engine.build (m.walk stored).registry.corpus.signatures m.config with
          | error fault => exact .unbuilt stored version fault hfind hlast hbuild
          | ok engine =>
              dsimp only
              rw [Distributor.publish_awaited]
              exact .loaded stored version engine hfind hlast hbuild

/-- Loading brings nothing into force if no engine can be built for the rules that were accepted. -/
theorem LoadOutcome.effect {m : Manager} (h : m.registry.Sound)
    {result : Except Fault Unit × Manager} (hload : m.LoadOutcome result) : Effect m result.2 := by
  cases hload with
  | unread fault hfind => exact Effect.of_same h rfl rfl rfl
  | idle stored hfind hlast => exact Effect.of_same h rfl rfl rfl
  | unbuilt stored version fault hfind hlast hbuild => exact Effect.of_same h rfl rfl rfl
  | loaded stored version engine hfind hlast hbuild =>
      have hadv : m.registry.Advances (m.walk stored).registry :=
        advances_load stored (p := { registry := m.registry, ids := m.ids }) h
      exact ⟨rfl, hadv, Or.inr ⟨engine, version, hbuild, rfl⟩⟩

/-- A change taken back leaves the rule as it was, or leaves everything alone. -/
theorem takeBack_cases {m : Manager} (old : Rule) :
    m.takeBack old = m ∨ ∃ current, m.registry.get? old.id = some current ∧
      m.takeBack old = { m with registry := m.registry.replace old } := by
  unfold takeBack Registry.revert
  cases hid : m.registry.get? old.id with
  | none => exact Or.inl rfl
  | some current =>
      cases Rule.nextVersion? old.version with
      | none => exact Or.inl rfl
      | some version =>
          by_cases hv : current.version = version
          · refine Or.inr ⟨current, rfl, ?_⟩
            simp only [hv, if_true]
          · refine Or.inl ?_
            simp only [hv, if_false]

/-- A change of a rule can be taken back: its old name is free or its own. -/
theorem advances_undo {r : Registry} (h : r.Sound) {id : RowId} {rule new : Rule}
    (hid : r.get? id = some rule) (hn : new.id = id) (hp : new.patterns = rule.patterns)
    (ht : (r.replace new).Sound) : (r.replace new).Advances ((r.replace new).replace rule) := by
  obtain ⟨hrid, hname⟩ := h.indexed.named hid
  have hnew : (r.replace new).get? rule.id = some new := by
    rw [Registry.get?_replace, hn, hrid, if_pos rfl]
  refine Registry.Advances.of_replace ht hnew ?_ hp.symm
  intro owner ho
  obtain ⟨other, hother, hon⟩ := ht.indexed.owned ho
  rw [Registry.get?_replace, hn] at hother
  by_cases he : id = owner
  · exact he.symm.trans hrid.symm
  · rw [if_neg he] at hother
    have := (h.indexed.named hother).2
    rw [hon, hname, Option.some.injEq] at this
    exact absurd this he

theorem effect_update {m : Manager} (h : m.registry.Sound) (ctx : WriteContext) (id : RowId)
    (name color : String) : Effect m (m.update ctx id name color).2 := by
  unfold update
  cases hu : m.registry.update id name color with
  | error fault => exact Effect.of_same h rfl rfl rfl
  | ok result =>
      obtain ⟨old, t⟩ := result
      rcases Registry.update_ok hu with ⟨_, rfl, _⟩ | ⟨rule, version, hid, rfl, hfree, _, ht⟩
      · exact Effect.of_same h rfl rfl rfl
      · obtain ⟨hrid, _⟩ := h.indexed.named hid
        have hold : m.registry.get? rule.id = some rule := by rw [hrid, hid]
        have hadv : m.registry.Advances t := by
          rw [ht]
          exact Registry.Advances.of_replace h hold
            (fun owner ho => (hfree owner ho).trans hrid.symm) rfl
        have hnew : ∀ key, m.registry.get? key = none → t.get? key = none := by
          intro key hk
          rw [ht]
          exact Registry.absent_of_replace hold hk
        have hcorpus : t.corpus = m.registry.corpus := by
          rw [ht]
          rfl
        have hback : ∀ store, Effect m ({ m with registry := t, store := store }.takeBack rule) := by
          intro store
          rcases takeBack_cases (m := { m with registry := t, store := store }) rule
            with he | ⟨current, hcurrent, he⟩
          · rw [he]
            exact Effect.of_rules hadv hcorpus hnew store
          · rw [he]
            have hundo : t.Advances (t.replace rule) := by
              rw [ht] at hadv ⊢
              exact advances_undo h hid hrid rfl hadv.sound
            exact Effect.of_rules (hadv.trans hundo) hcorpus
              (fun key hk => Registry.absent_of_replace hcurrent (hnew key hk)) store
        dsimp only
        cases (m.store.update ctx id ⟨name, color, rule.version + 1⟩).1 with
        | error fault => exact hback _
        | ok done =>
            cases done with
            | true => exact Effect.of_rules hadv hcorpus hnew _
            | false => exact hback _

theorem effect_call {m : Manager} (h : m.registry.Sound) (c : Call) : Effect m (m.call c) := by
  cases c with
  | load => exact (outcome_load m).effect h
  | add now ctx draft => exact (attempt_add m now ctx draft).effect h
  | addFlag now ctx regex => exact (attempt_add m now ctx (flagDraft regex)).effect h
  | update ctx id name color => exact effect_update h ctx id name color
  | receive => exact Effect.of_same h rfl rfl rfl
  | store s => exact Effect.of_same h rfl rfl rfl

end Manager
end TrafficRules
