import TrafficRules.Proofs.Engine.Build
import TrafficRules.Proofs.Manager.Run

/-! # Published engines and the corpus

A manager is *coherent* if its registry is sound and what it published last is the engine of the
present corpus; as long as it has published nothing it has neither a rule nor a signature. Every call
keeps a manager coherent (`Coherent.call`), and since the corpus only grows behind its end, the
signatures of a snapshot stay where they were for good. -/

namespace TrafficRules.Manager

/-- The invariant of a manager. -/
structure Coherent (m : Manager) : Prop where
  sound : m.registry.Sound
  sizeLimit : m.registry.sizeLimit = m.config.patternSizeLimit.toNat
  current : ∀ {snapshot}, m.distributor.latest = some snapshot →
    Engine.build m.registry.corpus.signatures m.config = .ok snapshot.engine
  untouched : m.distributor.latest = none →
    m.registry.corpus.signatures = [] ∧ ∀ id, m.registry.get? id = none

/-- What calls leave of a manager: its configuration, its rules and the corpus as far as it went. -/
structure Continues (m n : Manager) : Prop where
  config : n.config = m.config
  advances : m.registry.Advances n.registry

theorem Continues.trans {l m n : Manager} (h₁ : l.Continues m) (h₂ : m.Continues n) :
    l.Continues n :=
  ⟨h₂.config.trans h₁.config, h₁.advances.trans h₂.advances⟩

theorem coherent_new (store : Store) (config : EngineConfig) : (new store config).Coherent where
  sound := Registry.sound_empty _
  sizeLimit := rfl
  current := fun h => by cases h
  untouched := fun _ => ⟨rfl, fun _ => rfl⟩

/-- The engine that is built for signatures has just these. -/
theorem signatures_of_build {signatures : List Signature} {c : EngineConfig} {e : Engine}
    (h : Engine.build signatures c = .ok e) :
    e.signatures = signatures ∧ e.window = c.streamWindow := by
  obtain ⟨rfl, _⟩ := Engine.build_ok_iff.mp h
  exact ⟨rfl, rfl⟩

/-- Every call keeps a manager coherent. -/
theorem Coherent.call {m : Manager} (h : m.Coherent) (c : Call) :
    (m.call c).Coherent ∧ m.Continues (m.call c) := by
  obtain ⟨hconfig, hadv, hpub⟩ := effect_call h.sound c
  refine ⟨⟨hadv.sound, ?_, ?_, ?_⟩, hconfig, hadv⟩
  · rw [hadv.grows.sizeLimit, hconfig]
    exact h.sizeLimit
  · intro snapshot hs
    rw [hconfig]
    rcases hpub with ⟨hcorpus, hlatest, _⟩ | ⟨engine, version, hb, hlatest⟩
    · rw [hcorpus]
      exact h.current (hlatest ▸ hs)
    · rw [hlatest, Option.some.injEq] at hs
      rw [← hs]
      exact hb
  · intro hn
    rcases hpub with ⟨hcorpus, hlatest, hfree⟩ | ⟨engine, version, _, hlatest⟩
    · obtain ⟨hempty, hnone⟩ := h.untouched (hlatest ▸ hn)
      rw [hcorpus]
      exact ⟨hempty, fun id => hfree id (hnone id)⟩
    · rw [hlatest] at hn
      cases hn

theorem Coherent.foldl (calls : List Call) : ∀ {m : Manager}, m.Coherent →
    (calls.foldl Manager.call m).Coherent ∧ m.Continues (calls.foldl Manager.call m) := by
  induction calls with
  | nil => exact fun h => ⟨h, rfl, Registry.Advances.refl h.sound⟩
  | cons c rest ih =>
      intro m h
      obtain ⟨hc, hm⟩ := h.call c
      obtain ⟨hrest, hn⟩ := ih hc
      exact ⟨hrest, hm.trans hn⟩

theorem coherent_run (store : Store) (config : EngineConfig) (calls : List Call) :
    (run store config calls).Coherent := ((coherent_new store config).foldl calls).1

theorem config_run (store : Store) (config : EngineConfig) (calls : List Call) :
    (run store config calls).config = config := ((coherent_new store config).foldl calls).2.config

theorem continues_run (store : Store) (config : EngineConfig) (calls later : List Call) :
    (run store config calls).Continues (run store config (calls ++ later)) := by
  rw [run_append]
  exact ((coherent_run store config calls).foldl later).2

/-- The signature that a snapshot has under the number of a pattern is the pattern's own. -/
theorem Coherent.resolved {m n : Manager} (hm : m.Coherent) (hn : n.Coherent)
    (h : m.Continues n) {snapshot : Snapshot} (hs : m.distributor.latest = some snapshot)
    {id : RowId} {rule : Rule} (hrule : n.registry.get? id = some rule) {p : Pattern}
    (hp : p ∈ rule.patterns) :
    ∃ number, p.corpusId = some number ∧ (number < snapshot.size →
      ∃ s, snapshot.engine.signatures[number]? = some s ∧
        Signature.compile m.config.patternSizeLimit.toNat p = .ok s) := by
  obtain ⟨number, s, hnumber, hget, hc⟩ := hn.sound.numbered.resolved hrule p hp
  refine ⟨number, hnumber, fun hlt => ⟨s, ?_, ?_⟩⟩
  · have hsig := (signatures_of_build (hm.current hs)).1
    obtain ⟨rest, hrest⟩ := h.advances.grows.isPrefix
    rw [← hrest, ← hsig, List.getElem?_append_left hlt] at hget
    exact hget
  · rw [hn.sizeLimit, h.config] at hc
    exact hc

/-- **Engines and the corpus** after any calls, and what further ones leave of a snapshot.

* The latest snapshot was built from the signatures of the corpus in the order of their numbers, and
  has as many as the manager counts.
* Where there is none, there is no rule, no name and no signature.
* The signatures of a snapshot are the first ones of the corpus, whatever is called `later`.
* Each pattern of a rule that is in force then has a number, and the signature that the snapshot has
  under this number, if it has one, is what the pattern itself is made into. -/
theorem run_coherence (store : Store) (config : EngineConfig) (calls later : List Call) :
    let m := run store config calls
    let n := run store config (calls ++ later)
    (∀ snapshot, m.distributor.latest = some snapshot →
      Engine.build m.registry.corpus.signatures config = .ok snapshot.engine ∧
      snapshot.engine.signatures = m.registry.corpus.signatures ∧
      snapshot.size = m.stats.patterns) ∧
    (m.distributor.latest = none → m.registry.list = [] ∧ m.stats.rules = 0 ∧
      (∀ name, m.registry.byName.get? name = none) ∧ m.registry.corpus.signatures = []) ∧
    (∀ snapshot, m.distributor.latest = some snapshot →
      snapshot.engine.signatures <+: n.registry.corpus.signatures) ∧
    (∀ snapshot, m.distributor.latest = some snapshot →
      ∀ rule ∈ n.registry.list, ∀ p ∈ rule.patterns, ∃ number, p.corpusId = some number ∧
        (number < snapshot.size → ∃ s, snapshot.engine.signatures[number]? = some s ∧
          s.regexText = p.regex ∧ s.flags = p.flags ∧
          Signature.compile config.patternSizeLimit.toNat p = .ok s)) := by
  intro m n
  have hm : m.Coherent := coherent_run store config calls
  have hn : n.Coherent := coherent_run store config (calls ++ later)
  have hc : m.config = config := config_run store config calls
  have hmn : m.Continues n := continues_run store config calls later
  have hsig : ∀ {snapshot}, m.distributor.latest = some snapshot →
      snapshot.engine.signatures = m.registry.corpus.signatures :=
    fun hs => (signatures_of_build (hm.current hs)).1
  refine ⟨?_, ?_, ?_, ?_⟩
  · intro snapshot hs
    refine ⟨hc ▸ hm.current hs, hsig hs, ?_⟩
    show snapshot.engine.signatures.length = m.registry.corpus.signatures.length
    rw [hsig hs]
  · intro hnone
    obtain ⟨hempty, hrules⟩ := hm.untouched hnone
    have hvalues : m.registry.rules.values = [] := by
      refine List.eq_nil_iff_forall_not_mem.mpr fun rule hrule => ?_
      obtain ⟨id, hid⟩ := (m.registry.rules.mem_values_iff rule).mp hrule
      change m.registry.get? id = some rule at hid
      rw [hrules id] at hid
      cases hid
    refine ⟨?_, ?_, ?_, hempty⟩
    · rw [Registry.list, hvalues, List.mergeSort_nil]
    · show m.registry.rules.entries.length = 0
      rw [← List.length_map Prod.snd]
      exact congrArg List.length hvalues
    · intro name
      cases hname : m.registry.byName.get? name with
      | none => rfl
      | some owner =>
          obtain ⟨rule, hrule, _⟩ := hm.sound.indexed.owned hname
          rw [hrules owner] at hrule
          cases hrule
  · intro snapshot hs
    rw [hsig hs]
    exact hmn.advances.grows.isPrefix
  · intro snapshot hs rule hrule p hp
    obtain ⟨id, hid⟩ := (Registry.mem_list_iff n.registry rule).mp hrule
    obtain ⟨number, hnumber, hres⟩ := hm.resolved hn hmn hs hid hp
    refine ⟨number, hnumber, fun hlt => ?_⟩
    obtain ⟨s, hget, hcompile⟩ := hres hlt
    exact ⟨s, hget, Signature.regexText_of_compile hcompile, Signature.flags_of_compile hcompile,
      hc ▸ hcompile⟩

end TrafficRules.Manager
