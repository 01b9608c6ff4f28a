import TrafficRules.Proofs.Manager.Run
import TrafficRules.Proofs.Store.Agreement

/-! # Managers and their stores

A call changes memory first and the store second, and takes the change back if the store fails. What
it does to the two sides is one of six things (`Transfer`, `transfer_call`), and each of them keeps
the rules in force and the stored ones in agreement (`Transfer.agrees`).

A history is a list of calls with one store, which can meet a mishap at each of them: writes fail, or
the file cannot be read. The mishap ends with the call, and what is stored stays. So rules in force and
stored rules agree throughout (`history_agrees`). -/

namespace TrafficRules

/-- A rule is admitted as it was given, but for the numbers of its patterns. -/
theorem Registry.unnumbered_of_prepare {r : Registry} {rule : Rule} {a : Admission}
    (h : r.prepare rule = .ok a) : a.rule.unnumbered = rule.unnumbered := by
  obtain ⟨_, _, _, hstage, ha⟩ := prepare_ok h
  rw [ha, Rule.unnumbered, Rule.unnumbered, stage_map (fun _ _ => rfl) hstage]

/-- A rule stays valid under a name and a colour that are. -/
theorem Rule.validate_rename {rule : Rule} {name color : String} {version : Int64}
    (hname : validateName name = .ok ()) (hcolor : validateColor color = .ok ())
    (h : rule.validate = .ok ()) : ((Update.mk name color version).apply rule).validate = .ok () := by
  obtain ⟨_, _, hfilter⟩ := Rule.validate_ok_iff.mp h
  exact Rule.validate_ok_iff.mpr ⟨hname, hcolor, hfilter⟩

/-! ### Mishaps -/

/-- What can befall a store. -/
inductive Mishap where
  | none
  /-- Writes into memory fail. -/
  | failing
  /-- Something stands in the way of writes into a file. -/
  | obstacle (o : Obstacle)
  /-- A file cannot be read. -/
  | unreadable

namespace Store

/-- The store while a mishap lasts. -/
def beset : Store → Mishap → Store
  | .memory s, .failing => .memory { s with failing := true }
  | .file s, .obstacle o => .file { s with obstacle := some o }
  | .file s, .unreadable => .file { s with file := .directory }
  | store, _ => store

/-- The store when the mishap that befell `before` is over. -/
def relieve (before : Store) (mishap : Mishap) (after : Store) : Store :=
  match before, mishap, after with
  | .memory s, .failing, .memory t => .memory { t with failing := s.failing }
  | .file s, .obstacle _, .file t => .file { t with obstacle := s.obstacle }
  | .file s, .unreadable, .file t => .file { t with file := s.file }
  | _, _, t => t

/-- The same is stored, whatever becomes of writes. -/
structure Shows (before after : Store) : Prop where
  records : after.records = before.records
  findAll : after.findAll = before.findAll

/-- Only a file that cannot be read hides what is stored. -/
theorem shows_beset (store : Store) (mishap : Mishap) :
    (store.Shows (store.beset mishap) ∧
      ∀ after : Store, after.Shows (store.relieve mishap after)) ∨
    ∃ s, store = .file s ∧ mishap = .unreadable := by
  cases store with
  | memory s =>
      refine Or.inl ⟨?_, ?_⟩
      · cases mishap <;> exact ⟨rfl, rfl⟩
      · intro after
        cases after <;> cases mishap <;> exact ⟨rfl, rfl⟩
  | file s =>
      cases mishap with
      | none => exact Or.inl ⟨⟨rfl, rfl⟩, fun after => by cases after <;> exact ⟨rfl, rfl⟩⟩
      | failing => exact Or.inl ⟨⟨rfl, rfl⟩, fun after => by cases after <;> exact ⟨rfl, rfl⟩⟩
      | obstacle o => exact Or.inl ⟨⟨rfl, rfl⟩, fun after => by cases after <;> exact ⟨rfl, rfl⟩⟩
      | unreadable => exact Or.inr ⟨s, rfl, rfl⟩

variable {s : FileStore} (h : s.file = .directory)

include h

theorem entries_of_directory : s.entries = .error .file := by rw [FileStore.entries, h]

theorem findAll_of_directory : Store.findAll (.file s) = .error .file := by
  rw [findAll, FileStore.findAll, entries_of_directory h]
  rfl

theorem insert_of_directory (ctx : WriteContext) (rule : Rule) :
    Store.insert (.file s) ctx rule = (.error .file, .file s) := by
  rw [insert, FileStore.insert, entries_of_directory h]

theorem update_of_directory (ctx : WriteContext) (id : RowId) (u : Update) :
    Store.update (.file s) ctx id u = (.error .file, .file s) := by
  rw [update, FileStore.update, entries_of_directory h]
  rfl

end Store

namespace Manager

variable {m n : Manager}

/-! ### What calls do to rules and store -/

/-- What a call does to the rules in force and to the store. -/
inductive Transfer (m n : Manager) : Prop where
  | same (hrules : n.registry = m.registry) (hstore : n.store = m.store)
  /-- Stored rules come into force. -/
  | loaded (rules : List Rule) (hstored : m.store.findAll = .ok rules)
      (hrules : n.registry = (m.walk rules).registry)
      (hstore : n.store = m.store)
  /-- A rule comes into force and is stored. -/
  | added (ctx : WriteContext) (rule : Rule) (hfree : m.registry.get? rule.id = none)
      (hvalid : rule.validate = .ok ())
      (hrules : ∀ id, n.registry.get? id = if rule.id = id then some rule else m.registry.get? id)
      (hstored : m.store.insert ctx rule = (.ok (), n.store))
  /-- A rule cannot be stored and is taken out of force again. -/
  | removed (ctx : WriteContext) (rule : Rule) (fault : Fault)
      (hrules : ∀ id, n.registry.get? id = m.registry.get? id)
      (hstored : m.store.insert ctx rule = (.error fault, n.store))
  /-- A rule in force is changed, and so is the stored one. -/
  | changed (ctx : WriteContext) (old : Rule) (u : Update)
      (hold : m.registry.get? old.id = some old)
      (hvalid : old.validate = .ok () → (u.apply old).validate = .ok ())
      (hrules : ∀ id, n.registry.get? id =
        if old.id = id then some (u.apply old) else m.registry.get? id)
      (hstored : m.store.update ctx old.id u = (.ok true, n.store))
  /-- A stored rule cannot be changed, and the change of the one in force is taken back. -/
  | reverted (ctx : WriteContext) (id : RowId) (u : Update) (result : Except Fault Bool)
      (hne : result ≠ .ok true) (hrules : ∀ id, n.registry.get? id = m.registry.get? id)
      (hstored : m.store.update ctx id u = (result, n.store))

theorem LoadOutcome.transfer {result : Except Fault Unit × Manager} (hload : m.LoadOutcome result) :
    Transfer m result.2 := by
  cases hload with
  | unread fault hfind => exact .same rfl rfl
  | idle stored hfind hlast => exact .same rfl rfl
  | unbuilt stored version fault hfind hlast hbuild => exact .same rfl rfl
  | loaded stored version engine hfind hlast hbuild => exact .loaded stored hfind rfl rfl

theorem Attempt.transfer {ctx : WriteContext} {rule : Rule} {result : Except Fault RowId × Manager}
    (hadd : m.Attempt ctx rule result) : Transfer m result.2 := by
  cases hadd with
  | refused fault hfault hnone => exact .same rfl rfl
  | unstored a t engine fault store ha hb hc hs =>
      obtain ⟨_, _, hfree, hid, _⟩ := Registry.commit_ok hc
      refine .removed ctx a.rule fault (fun key => ?_) hs
      show (t.remove rule.id).get? key = m.registry.get? key
      rw [Registry.get?_remove, Registry.get?_of_commit hc, hid]
      split_ifs with hkey
      · rw [← hkey, hfree]
      · rfl
  | stored a t engine store ha hb hc hs =>
      obtain ⟨_, hvalid, _, _, hrule⟩ := Registry.prepare_ok ha
      exact .added ctx a.rule (Registry.commit_ok hc).2.2.1 (hrule ▸ hvalid)
        (Registry.get?_of_commit hc) hs

theorem takeBack_store (m : Manager) (old : Rule) : (m.takeBack old).store = m.store := by
  rcases takeBack_cases (m := m) old with he | ⟨_, _, he⟩
  · rw [he]
  · rw [he]

/-- A change that is taken back at once is taken back. -/
theorem takeBack_eq {r : Registry} {old : Rule} {u : Update}
    (hu : Rule.nextVersion? old.version = some u.version)
    (hm : m.registry = r.replace (u.apply old)) :
    m.takeBack old = { m with registry := m.registry.replace old } := by
  have hcurrent : m.registry.get? old.id = some (u.apply old) := by
    rw [hm, Registry.get?_replace, if_pos (u.apply_id old)]
  have hrevert : m.registry.revert old = .ok (true, m.registry.replace old) := by
    simp only [Registry.revert, hcurrent, hu]
    exact if_pos rfl
  simp only [takeBack, hrevert]

/-- A change that is taken back at once leaves the rules as they were. -/
theorem get?_takeBack {r : Registry} {old : Rule} {u : Update} (hold : r.get? old.id = some old)
    (hu : Rule.nextVersion? old.version = some u.version)
    (hm : m.registry = r.replace (u.apply old)) (id : RowId) :
    (m.takeBack old).registry.get? id = r.get? id := by
  rw [takeBack_eq hu hm, Registry.get?_replace, hm, Registry.get?_replace, u.apply_id]
  split_ifs with hid
  · rw [← hid, hold]
  · rfl

theorem transfer_update (h : m.registry.Sound) (ctx : WriteContext) (id : RowId)
    (name color : String) : Transfer m (m.update ctx id name color).2 := by
  unfold update
  cases hu : m.registry.update id name color with
  | error fault => exact .same rfl rfl
  | ok result =>
      obtain ⟨old, t⟩ := result
      rcases Registry.update_ok hu with ⟨_, rfl, _⟩ | ⟨old, version, hold, rfl, _, hversion, ht⟩
      · exact .same rfl rfl
      · obtain ⟨rfl, _⟩ := h.indexed.named hold
        have hnext : version = old.version + 1 := by
          rw [Rule.nextVersion?] at hversion
          split_ifs at hversion
          exact (Option.some.inj hversion).symm
        subst hnext
        dsimp only
        generalize hw : (⟨name, color, old.version + 1⟩ : Update) = u
        have hversion' : Rule.nextVersion? old.version = some u.version := by rw [hversion, ← hw]
        have hvalid : old.validate = .ok () → (u.apply old).validate = .ok () := by
          obtain ⟨hname, hcolor⟩ := Registry.update_valid hu
          intro hv
          rw [← hw]
          exact Rule.validate_rename hname hcolor hv
        have ht' : t = m.registry.replace (u.apply old) := by rw [ht, ← hw, Update.apply]
        have hfails : ∀ {result store}, m.store.update ctx old.id u = (result, store) →
            result ≠ .ok true →
              Transfer m (takeBack { m with registry := t, store := store } old) := by
          intro result store hs hne
          refine .reverted ctx old.id u result hne (get?_takeBack hold hversion' ht') ?_
          rw [takeBack_store]
          exact hs
        cases hs : m.store.update ctx old.id u with
        | mk result store =>
            cases result with
            | error fault => exact hfails hs (by simp)
            | ok found =>
                cases found with
                | false => exact hfails hs (by simp)
                | true =>
                    refine .changed ctx old u hold hvalid (fun key => ?_) hs
                    show t.get? key = _
                    rw [ht', Registry.get?_replace, u.apply_id]

/-- The call is not about another store. -/
def Call.keepsStore : Call → Bool
  | .store _ => false
  | _ => true

theorem transfer_call (h : m.registry.Sound) {c : Call} (hc : c.keepsStore = true) :
    Transfer m (m.call c) := by
  cases c with
  | load => exact (outcome_load m).transfer
  | add now ctx draft => exact (attempt_add m now ctx draft).transfer
  | addFlag now ctx regex => exact (attempt_add m now ctx (flagDraft regex)).transfer
  | update ctx id name color => exact transfer_update h ctx id name color
  | receive => exact .same rfl rfl
  | store s => cases hc

/-! ### Agreement -/

/-- While stored rules come into force, the registry stays in agreement with the store. -/
theorem agrees_load {initial : List Rule} {records : List Record} (rules : List Rule)
    (hrules : ∀ s ∈ rules, ∃ e ∈ records, e.rule = some s) : ∀ {p : Progress},
    Agrees initial p.registry records →
      Agrees initial (rules.foldl Progress.take p).registry records := by
  induction rules with
  | nil => exact fun h => h
  | cons s rest ih =>
      intro p h
      have hrest := fun s' hs' => hrules s' (List.mem_cons_of_mem s hs')
      rw [List.foldl_cons]
      cases hr : p.registry.register s with
      | error fault =>
          have hp : (p.take s).registry = p.registry := by simp only [Progress.take, hr]
          exact ih hrest (hp ▸ h)
      | ok result =>
          obtain ⟨id, t⟩ := result
          have hp : (p.take s).registry = t := by simp only [Progress.take, hr]
          obtain ⟨a, ha, hc⟩ := Registry.register_ok hr
          obtain ⟨e, he, hs⟩ := hrules s List.mem_cons_self
          refine ih hrest (hp ▸ ?_)
          exact h.load he hs (Registry.unnumbered_of_prepare ha).symm (Registry.commit_ok hc).2.2.1
            (Registry.get?_of_commit hc)

theorem Transfer.agrees (h : Transfer m n) {initial : List Rule}
    (hn : (initial.map Rule.id).Nodup) (hm : m.registry.Sound)
    (ha : Agrees initial m.registry m.store.records) :
    Agrees initial n.registry n.store.records := by
  cases h with
  | same hrules hstore =>
      rw [hrules, hstore]
      exact ha
  | loaded rules hstored hrules hstore =>
      rw [hrules, hstore]
      refine agrees_load rules (fun s hs => ?_) ha
      refine Store.mem_rules_iff.mp ?_
      rw [Store.rules, hstored]
      exact hs
  | added ctx rule hfree hvalid hrules hstored =>
      obtain ⟨hkey, before, after, stored, hold, hnew, heq⟩ := Store.insert_ok hstored
      rw [hnew]
      refine (ha.insert hfree hkey heq hrules).perm ?_
      rw [hold]
      exact List.perm_middle.symm
  | removed ctx rule fault hrules hstored =>
      rw [Store.insert_error hstored]
      exact ha.congr hrules
  | changed ctx old u hold hvalid hrules hstored =>
      obtain ⟨before, after, stored, changed, hbefore, hafter, _, heq⟩ := Store.update_ok hstored
      rw [hbefore] at ha
      rw [hafter]
      refine Agrees.perm ?_ List.perm_middle.symm
      exact (ha.perm List.perm_middle).update hn hm.indexed hold heq hrules
  | reverted ctx id u result hne hrules hstored =>
      rw [Store.update_fails hstored hne]
      exact ha.congr hrules

/-- A call with a file that cannot be read changes nothing. -/
theorem Transfer.of_directory (h : Transfer m n) {s : FileStore} (hs : m.store = .file s)
    (hd : s.file = .directory) :
    n.store = m.store ∧ ∀ id, n.registry.get? id = m.registry.get? id := by
  cases h with
  | same hrules hstore => exact ⟨hstore, fun id => by rw [hrules]⟩
  | loaded rules hstored hrules hstore =>
      rw [hs, Store.findAll_of_directory hd] at hstored
      cases hstored
  | added ctx rule hfree hvalid hrules hstored =>
      rw [hs, Store.insert_of_directory hd] at hstored
      cases hstored
  | removed ctx rule fault hrules hstored =>
      rw [hs, Store.insert_of_directory hd, Prod.mk.injEq] at hstored
      exact ⟨hs ▸ hstored.2.symm, hrules⟩
  | changed ctx old u hold hvalid hrules hstored =>
      rw [hs, Store.update_of_directory hd] at hstored
      cases hstored
  | reverted ctx id u result hne hrules hstored =>
      rw [hs, Store.update_of_directory hd, Prod.mk.injEq] at hstored
      exact ⟨hs ▸ hstored.2.symm, hrules⟩

/-! ### Histories -/

/-- A call, and what befalls the store meanwhile. -/
structure Turn where
  call : Call
  mishap : Mishap := .none
  keepsStore : call.keepsStore = true := by rfl

def turn (m : Manager) (t : Turn) : Manager :=
  let n := call { m with store := m.store.beset t.mishap } t.call
  { n with store := m.store.relieve t.mishap n.store }

/-- The manager over a store after a list of turns. -/
def history (store : Store) (config : EngineConfig) (turns : List Turn) : Manager :=
  turns.foldl turn (new store config)

theorem agrees_turn {initial : List Rule} (hn : (initial.map Rule.id).Nodup)
    (hm : m.registry.Sound) (h : Agrees initial m.registry m.store.records) (t : Turn) :
    Agrees initial (m.turn t).registry (m.turn t).store.records := by
  have htransfer := transfer_call (m := { m with store := m.store.beset t.mishap }) hm t.keepsStore
  rcases m.store.shows_beset t.mishap with ⟨hbeset, hrelieve⟩ | ⟨s, hs, hmishap⟩
  · have hcall := htransfer.agrees hn hm (hbeset.records ▸ h)
    show Agrees initial _ (m.store.relieve t.mishap _).records
    rw [(hrelieve _).records]
    exact hcall
  · have hdirectory : m.store.beset t.mishap = .file { s with file := .directory } := by
      rw [hs, hmishap, Store.beset]
    obtain ⟨hstore, hrules⟩ := htransfer.of_directory hdirectory rfl
    show Agrees initial _ (m.store.relieve t.mishap _).records
    rw [hstore, hdirectory, hs, hmishap, Store.relieve]
    rw [hs] at h
    exact h.congr hrules

theorem sound_turn (hm : m.registry.Sound) (t : Turn) : (m.turn t).registry.Sound :=
  (effect_call (m := { m with store := m.store.beset t.mishap }) hm t.call).advances.sound

theorem agrees_history (store : Store) (config : EngineConfig)
    (hn : (store.rules.map Rule.id).Nodup) (turns : List Turn) :
    (history store config turns).registry.Sound ∧
      Agrees store.rules (history store config turns).registry
        (history store config turns).store.records := by
  induction turns using List.reverseRecOn with
  | nil =>
      exact ⟨Registry.sound_empty config.patternSizeLimit.toNat, Agrees.start hn fun _ => rfl⟩
  | append_singleton turns t ih =>
      have hstep : history store config (turns ++ [t]) = (history store config turns).turn t :=
        List.foldl_concat ..
      rw [hstep]
      exact ⟨sound_turn ih.1 t, agrees_turn hn ih.1 ih.2 t⟩

/-- **Rules in force and stored rules.** After any turns with a store whose rules have different
identifiers, each rule in force is stored under its identifier as it is in force, but for the numbers
of its patterns, and each stored rule that is not in force as it is stored has been in the store from
the start. -/
theorem history_agrees (store : Store) (config : EngineConfig)
    (hn : (store.rules.map Rule.id).Nodup) (turns : List Turn) :
    let m := history store config turns
    (∀ r ∈ m.registry.list, ∃ s ∈ m.store.rules, s.id = r.id ∧ s.unnumbered = r.unnumbered) ∧
      ∀ s ∈ m.store.rules, (∀ r ∈ m.registry.list, r.unnumbered ≠ s.unnumbered) →
        s ∈ store.rules := by
  intro m
  obtain ⟨_, h⟩ := agrees_history store config hn turns
  constructor
  · intro r hr
    obtain ⟨id, hid⟩ := (Registry.mem_list_iff m.registry r).mp hr
    obtain ⟨e, he, s, hs, heq⟩ := h.kept id r hid
    exact ⟨s, Store.mem_rules_iff.mpr ⟨e, he, hs⟩, Rule.id_of_unnumbered heq, heq⟩
  · intro s hs hother
    obtain ⟨e, he, hrule⟩ := Store.mem_rules_iff.mp hs
    rcases h.origin e he s hrule with hstart | ⟨_, r, hr, heq⟩
    · exact hstart
    · exact absurd heq.symm (hother r ((Registry.mem_list_iff m.registry r).mpr ⟨s.id, hr⟩))

/-- Of two stored rules one has too short a name to come into force; a third one is added when the
store writes again, and one of the two changes of a name is taken back. -/
theorem history_agrees_letters :
    let store : Store := .memory { rules := [
      { id := ⟨1, 1⟩, name := "letters", color := "#fff", patterns := [{ regex := "ab" }] },
      { id := ⟨1, 2⟩, name := "no", color := "#fff" }] }
    let m := history store { publishMode := .supersede } [
      { call := .load },
      { call := .addFlag 1 {} "flag", mishap := .failing },
      { call := .addFlag 1 {} "flag" },
      { call := .update {} ⟨1, 1⟩ "digits" "#000" },
      { call := .update {} ⟨1, 1⟩ "signs" "#000", mishap := .failing }]
    m.registry.rules.values.map Rule.name = ["digits", "flag"] ∧
      m.store.rules.map Rule.name = ["digits", "no", "flag"] ∧
      (∀ r ∈ m.registry.list, ∃ s ∈ m.store.rules, s.id = r.id ∧ s.unnumbered = r.unnumbered) ∧
      ∀ s ∈ m.store.rules, (∀ r ∈ m.registry.list, r.unnumbered ≠ s.unnumbered) →
        s ∈ store.rules :=
  ⟨by decide +kernel, by decide +kernel, history_agrees _ _ (by decide +kernel) _⟩

end Manager
end TrafficRules
