import Mathlib.Data.List.Induction
import TrafficRules.Proofs.Manager.Loading
import TrafficRules.Proofs.RowId

/-! # Versions of published snapshots

A snapshot has the identifier of a rule as its version: of the rule added, or of the rule taken last by
a load. The generator of identifiers has seen all of them (`Manager.Seen`), so a rule that is added
gets a greater one, unless the greatest of all has been seen. A load compares its version with nothing:
it may take a rule with an identifier of long ago. So versions increase as long as no call steps back
in one of these two ways (`versions_increase_iff`). -/

namespace TrafficRules

/-- The distributor behind a publication, if there has been one. -/
def Distributor.after (d : Distributor) : Option Snapshot → Distributor
  | none => d
  | some s => { d with pending := some s, latest := some s }

theorem Distributor.latest_after (d : Distributor) (r : Option Snapshot) :
    (d.after r).latest = r.or d.latest := by
  cases r with
  | none => rfl
  | some s => rfl

namespace Manager

/-- The manager with another snapshot as the latest one. -/
def withLatest (m : Manager) (x : Option Snapshot) : Manager :=
  { m with distributor := { m.distributor with latest := x } }

/-- What a call publishes: what is the latest snapshot behind it if there was none before. -/
def published (m : Manager) (c : Call) : Option Snapshot :=
  ((m.withLatest none).call c).distributor.latest

/-- What calls publish, in order. -/
def publications (m : Manager) : List Call → List Snapshot
  | [] => []
  | c :: rest => (m.published c).toList ++ publications (m.call c) rest

variable {m : Manager} {s : Snapshot}

section

variable (m : Manager) (x : Option Snapshot)

@[simp] theorem withLatest_store : (m.withLatest x).store = m.store := rfl

@[simp] theorem withLatest_config : (m.withLatest x).config = m.config := rfl

@[simp] theorem withLatest_ids : (m.withLatest x).ids = m.ids := rfl

@[simp] theorem withLatest_walk (stored : List Rule) :
    (m.withLatest x).walk stored = m.walk stored := rfl

end

/-! ### What a call publishes -/

theorem takeBack_keeps (m : Manager) (old : Rule) :
    (m.takeBack old).distributor = m.distributor ∧ (m.takeBack old).ids = m.ids := by
  rcases takeBack_cases (m := m) old with he | ⟨_, _, he⟩
  · rw [he]
    exact ⟨rfl, rfl⟩
  · rw [he]
    exact ⟨rfl, rfl⟩

/-- A change of a rule neither publishes anything nor uses up an identifier. -/
theorem update_keeps (m : Manager) (ctx : WriteContext) (id : RowId) (name color : String) :
    (m.update ctx id name color).2.distributor = m.distributor ∧
      (m.update ctx id name color).2.ids = m.ids := by
  unfold update
  split
  · exact ⟨rfl, rfl⟩
  · exact ⟨rfl, rfl⟩
  · dsimp only
    split
    · exact ⟨rfl, rfl⟩
    · exact takeBack_keeps _ _
    · exact takeBack_keeps _ _

/-- What a load publishes, if anything, has the identifier of the rule that came into force last. -/
theorem load_cases (m : Manager) : ∃ r : Option Snapshot,
    (∀ s, r = some s → ∃ stored, m.store.findAll = .ok stored ∧
      (m.walk stored).last = some s.version) ∧
    (m.load.1 = .ok () → ∀ stored version, m.store.findAll = .ok stored →
      (m.walk stored).last = some version → ∃ s, r = some s) ∧
    ∀ x, (m.withLatest x).load.2.distributor = (m.withLatest x).distributor.after r := by
  have hload := outcome_load m
  generalize m.load = result at hload
  cases hload with
  | unread fault hfind =>
      refine ⟨none, fun s hs => (by cases hs), fun hok => (by cases hok), fun x => ?_⟩
      simp [load, hfind, Distributor.after]
  | idle stored hfind hlast =>
      refine ⟨none, fun s hs => (by cases hs), fun _ other version hother hv => ?_, fun x => ?_⟩
      · obtain rfl := Except.ok.inj (hfind.symm.trans hother)
        cases hlast.symm.trans hv
      · simp [load, hfind, hlast, Distributor.after]
  | unbuilt stored version fault hfind hlast hbuild =>
      refine ⟨none, fun s hs => (by cases hs), fun hok => (by cases hok), fun x => ?_⟩
      simp [load, hfind, hlast, hbuild, Distributor.after]
  | loaded stored version engine hfind hlast hbuild =>
      refine ⟨some ⟨engine, version⟩, fun s hs => ⟨stored, hfind, ?_⟩, fun _ _ _ _ _ => ⟨_, rfl⟩,
        fun x => ?_⟩
      · rw [hlast, ← Option.some.inj hs]
      · simp [load, hfind, hlast, hbuild, Distributor.publish_awaited, Distributor.after]

theorem enact_withLatest (m : Manager) (x : Option Snapshot) (rule : Rule) :
    (m.withLatest x).enact rule = m.enact rule := by
  simp only [enact, Distributor.publish_awaited]
  rfl

/-- What adding a rule publishes, if anything, has the identifier that is used up. -/
theorem add_cases (m : Manager) (now : UInt32) (ctx : WriteContext) (draft : Draft) :
    ∃ r : Option Snapshot, (∀ s, r = some s → s.version = m.ids.fresh now) ∧
      (∀ id, (m.add now ctx draft).1 = .ok id → ∃ s, r = some s) ∧
      ∀ x, ((m.withLatest x).add now ctx draft).2.distributor =
        (m.withLatest x).distributor.after r := by
  cases he : m.enact (draft.toRule (m.ids.fresh now)) with
  | error fault =>
      refine ⟨none, fun s hs => (nomatch hs), fun id hid => ?_, fun x => ?_⟩
      · rw [add_eq, he] at hid
        cases hid
      · rw [add_eq, withLatest_ids, enact_withLatest, he]
        rfl
  | ok result =>
      obtain ⟨rule, t, d⟩ := result
      obtain ⟨a, engine, _, _, _, _, rfl⟩ := enact_ok he
      refine ⟨some ⟨engine, m.ids.fresh now⟩, fun s hs => (Option.some.inj hs) ▸ rfl,
        fun _ _ => ⟨_, rfl⟩, fun x => ?_⟩
      rw [add_eq, withLatest_ids, enact_withLatest, he]
      dsimp only
      cases (m.withLatest x).store.insert ctx rule with
      | mk outcome store =>
          cases outcome with
          | error fault => rfl
          | ok u => rfl

theorem published_eq (c : Call) {r : Option Snapshot}
    (h : ((m.withLatest none).call c).distributor = (m.withLatest none).distributor.after r) :
    m.published c = r := by
  rw [published, h, Distributor.latest_after]
  exact Option.or_none

/-- What a call publishes goes into the slot; without it the distributor stays as it is, unless the
call is a subscriber's. -/
theorem distributor_call (m : Manager) {c : Call} (hc : c ≠ .receive) :
    (m.call c).distributor = m.distributor.after (m.published c) := by
  cases c with
  | load =>
      obtain ⟨r, _, _, hr⟩ := load_cases m
      rw [published_eq .load (hr none)]
      exact hr m.distributor.latest
  | add now ctx draft =>
      obtain ⟨r, _, _, hr⟩ := add_cases m now ctx draft
      rw [published_eq (.add now ctx draft) (hr none)]
      exact hr m.distributor.latest
  | addFlag now ctx regex =>
      obtain ⟨r, _, _, hr⟩ := add_cases m now ctx (flagDraft regex)
      rw [published_eq (.addFlag now ctx regex) (hr none)]
      exact hr m.distributor.latest
  | update ctx id name color =>
      have hkeeps : ∀ n : Manager, (n.call (.update ctx id name color)).distributor = n.distributor :=
        fun n => (n.update_keeps ctx id name color).1
      rw [hkeeps, published, hkeeps]
      rfl
  | receive => exact absurd rfl hc
  | store other => rfl

/-- What a call publishes becomes the latest snapshot; without it the latest one stays. -/
theorem latest_call (m : Manager) (c : Call) :
    (m.call c).distributor.latest = (m.published c).or m.distributor.latest := by
  by_cases hc : c = .receive
  · rw [hc]
    rfl
  · rw [distributor_call m hc, Distributor.latest_after]

/-! ### Versions -/

/-- Where the version of what a call publishes comes from. -/
def Versioned (m : Manager) (version : RowId) : Call → Prop
  | .load => ∃ stored last, m.store.findAll = .ok stored ∧
      (admitted m.registry.sizeLimit m.registry.list stored).getLast? = some last ∧
      version = last.id
  | .add now _ _ => version = m.ids.fresh now
  | .addFlag now _ _ => version = m.ids.fresh now
  | _ => False

/-- The call loads or adds a rule without a fault. -/
def Succeeds (m : Manager) : Call → Prop
  | .load => m.load.1 = .ok ()
  | .add now ctx draft => ∃ id, (m.add now ctx draft).1 = .ok id
  | .addFlag now ctx regex => ∃ id, (m.addFlag now ctx regex).1 = .ok id
  | _ => False

/-- The generator has seen the latest version. -/
def Seen (m : Manager) : Prop :=
  ∀ latest, m.distributor.latest = some latest → latest.version ≤ m.ids.last

theorem le_ids_load (m : Manager) : m.ids.last ≤ m.load.2.ids.last := by
  cases hfind : m.store.findAll with
  | error fault =>
      rw [load, hfind]
      exact Nat.le_refl _
  | ok stored =>
      rw [ids_load hfind]
      exact (ids_foldl stored { registry := m.registry, ids := m.ids }).1

/-- A load publishes under the identifier of a stored rule, which the generator has seen. -/
theorem published_load (h : m.registry.Sound) (hs : m.published .load = some s) :
    m.Versioned s.version .load ∧ s.version ≤ m.load.2.ids.last := by
  obtain ⟨r, hversion, _, hr⟩ := load_cases m
  obtain ⟨stored, hfind, hlast⟩ := hversion s ((published_eq .load (hr none)).symm.trans hs)
  have hwalk := (loads_walk h h.indexed.holds_list stored).2
  rw [hlast, eq_comm, Option.map_eq_some_iff] at hwalk
  obtain ⟨last, hl, hid⟩ := hwalk
  have hmem : last ∈ stored :=
    (admitted_sublist _ stored m.registry.list).subset (List.mem_of_getLast? hl)
  refine ⟨⟨stored, last, hfind, hl, hid.symm⟩, ?_⟩
  rw [ids_load hfind, ← hid]
  exact (ids_foldl stored _).2 last hmem

/-- A load that succeeds and takes a rule publishes. -/
theorem exists_published_load (h : m.registry.Sound) (hok : m.load.1 = .ok ()) {version : RowId}
    (hversion : m.Versioned version .load) : ∃ s, m.published .load = some s := by
  obtain ⟨stored, last, hfind, hl, _⟩ := hversion
  obtain ⟨r, _, hsome, hr⟩ := load_cases m
  have hlast : (m.walk stored).last = some last.id := by
    rw [(loads_walk h h.indexed.holds_list stored).2, hl]
    rfl
  rw [published_eq .load (hr none)]
  exact hsome hok stored last.id hfind hlast

/-- What has been added or refused has used up its identifier. -/
theorem ids_add (m : Manager) (now : UInt32) (ctx : WriteContext) (draft : Draft) :
    (m.add now ctx draft).2.ids = ⟨m.ids.fresh now⟩ := by
  have hadd := attempt_add m now ctx draft
  generalize m.add now ctx draft = result at hadd
  cases hadd <;> rfl

theorem version_of_added {now : UInt32} {ctx : WriteContext} {draft : Draft}
    (hs : ((m.withLatest none).add now ctx draft).2.distributor.latest = some s) :
    s.version = m.ids.fresh now := by
  obtain ⟨r, hversion, _, hr⟩ := add_cases m now ctx draft
  rw [hr none, Distributor.latest_after] at hs
  exact hversion s (Option.or_none.symm.trans hs)

/-- A rule that is added is published. -/
theorem exists_published_add {now : UInt32} {ctx : WriteContext} {draft : Draft} {id : RowId}
    (hok : (m.add now ctx draft).1 = .ok id) :
    ∃ s, ((m.withLatest none).add now ctx draft).2.distributor.latest = some s := by
  obtain ⟨r, _, hsome, hr⟩ := add_cases m now ctx draft
  rw [hr none, Distributor.latest_after]
  exact (hsome id hok).imp fun s hs => Option.or_none.trans hs

/-- There is one version only that a call can publish under. -/
theorem Versioned.unique {c : Call} {version other : RowId} (h : m.Versioned version c)
    (h' : m.Versioned other c) : version = other := by
  cases c with
  | load =>
      obtain ⟨stored, last, hfind, hlast, rfl⟩ := h
      obtain ⟨stored', last', hfind', hlast', rfl⟩ := h'
      rw [hfind, Except.ok.injEq] at hfind'
      subst hfind'
      rw [hlast, Option.some.injEq] at hlast'
      rw [hlast']
  | add now ctx draft => exact h.trans h'.symm
  | addFlag now ctx regex => exact h.trans h'.symm
  | update ctx id name color => cases h
  | receive => cases h
  | store other => cases h

theorem versioned_of_published (h : m.registry.Sound) {c : Call} (hs : m.published c = some s) :
    m.Versioned s.version c := by
  cases c with
  | load => exact (published_load h hs).1
  | add now ctx draft => exact version_of_added hs
  | addFlag now ctx regex => exact version_of_added hs
  | update ctx id name color =>
      rw [published, call, (update_keeps _ _ _ _ _).1] at hs
      cases hs
  | receive => cases hs
  | store other => cases hs

/-- A call that succeeds and has a version to publish under publishes. -/
theorem exists_published (h : m.registry.Sound) {c : Call} (hok : m.Succeeds c) {version : RowId}
    (hversion : m.Versioned version c) : ∃ s, m.published c = some s ∧ s.version = version := by
  have hsome : ∃ s, m.published c = some s := by
    cases c with
    | load => exact exists_published_load h hok hversion
    | add now ctx draft => exact exists_published_add hok.choose_spec
    | addFlag now ctx regex => exact exists_published_add hok.choose_spec
    | update ctx id name color => cases hok
    | receive => cases hok
    | store other => cases hok
  obtain ⟨s, hs⟩ := hsome
  exact ⟨s, hs, (versioned_of_published h hs).unique hversion⟩

/-- What a generator has seen it has seen for good, unless it is at its end. -/
theorem ids_call (h : m.registry.Sound) (hne : m.ids.last ≠ RowId.greatest) (c : Call) :
    m.ids.last ≤ (m.call c).ids.last ∧
      ∀ s, m.published c = some s → s.version ≤ (m.call c).ids.last := by
  have hadded : ∀ now ctx draft, m.ids.last ≤ (m.add now ctx draft).2.ids.last ∧
      ∀ s, ((m.withLatest none).add now ctx draft).2.distributor.latest = some s →
        s.version ≤ (m.add now ctx draft).2.ids.last := by
    intro now ctx draft
    rw [ids_add]
    refine ⟨Nat.le_of_lt (RowId.Generator.lt_fresh now hne), fun s hs => ?_⟩
    rw [version_of_added hs]
    exact Nat.le_refl _
  cases c with
  | load => exact ⟨le_ids_load m, fun s hs => (published_load h hs).2⟩
  | add now ctx draft => exact hadded now ctx draft
  | addFlag now ctx regex => exact hadded now ctx (flagDraft regex)
  | update ctx id name color =>
      refine ⟨Nat.le_of_eq ?_, fun s hs => ?_⟩
      · rw [call, (update_keeps m ctx id name color).2]
      · rw [published, call, (update_keeps _ _ _ _ _).1] at hs
        cases hs
  | receive => exact ⟨Nat.le_refl _, fun s hs => (nomatch hs)⟩
  | store other => exact ⟨Nat.le_refl _, fun s hs => (nomatch hs)⟩

theorem Seen.call (hseen : m.Seen) (h : m.registry.Sound) (hne : m.ids.last ≠ RowId.greatest)
    (c : Call) : (m.call c).Seen := by
  obtain ⟨hle, hnew⟩ := ids_call h hne c
  intro latest hlatest
  rw [latest_call] at hlatest
  cases hp : m.published c with
  | none =>
      rw [hp] at hlatest
      exact Nat.le_trans (hseen latest hlatest) hle
  | some s =>
      rw [hp] at hlatest
      exact hnew latest (hp.trans hlatest)

/-! ### Runs -/

/-- In the course of the calls the generator has come to the greatest identifier. -/
def Exhausted (store : Store) (config : EngineConfig) (calls : List Call) : Prop :=
  ∃ earlier, earlier <+: calls ∧ (run store config earlier).ids.last = RowId.greatest

variable {store : Store} {config : EngineConfig}

theorem run_concat (calls : List Call) (c : Call) :
    run store config (calls ++ [c]) = (run store config calls).call c := run_append _ _ _ _

theorem seen_run (calls : List Call) (h : ¬ Exhausted store config calls) :
    (run store config calls).Seen := by
  induction calls using List.reverseRecOn with
  | nil => exact fun latest hlatest => nomatch hlatest
  | append_singleton calls c ih =>
      have hbefore : ¬ Exhausted store config calls := fun ⟨earlier, hle, he⟩ =>
        h ⟨earlier, hle.trans (List.prefix_append calls [c]), he⟩
      rw [run_concat]
      exact (ih hbefore).call (coherent_run store config calls).sound
        (fun he => hbefore ⟨calls, List.prefix_rfl, he⟩) c

theorem latest_foldl (calls : List Call) : ∀ m : Manager,
    (calls.foldl call m).distributor.latest =
      (publications m calls).getLast?.or m.distributor.latest := by
  induction calls with
  | nil => exact fun _ => rfl
  | cons c rest ih =>
      intro m
      rw [List.foldl_cons, ih, publications, latest_call, List.getLast?_append, Option.or_assoc]
      cases m.published c with
      | none => rfl
      | some s => rfl

theorem publications_append (calls later : List Call) : ∀ m : Manager,
    publications m (calls ++ later) = publications m calls ++ publications (calls.foldl call m) later := by
  induction calls with
  | nil => exact fun _ => rfl
  | cons c rest ih =>
      intro m
      rw [List.cons_append, publications, publications, ih, List.foldl_cons, List.append_assoc]

/-- What is published last is the latest snapshot. -/
theorem latest_run (calls : List Call) : (run store config calls).distributor.latest =
    (publications (new store config) calls).getLast? :=
  (latest_foldl calls (new store config)).trans Option.or_none

theorem publications_concat (calls : List Call) (c : Call) :
    publications (new store config) (calls ++ [c]) =
      publications (new store config) calls ++ ((run store config calls).published c).toList := by
  rw [publications_append, publications, publications, List.append_nil]
  rfl

/-- Behind increasing identifiers a further one has to be compared with the last of them only. -/
theorem pairwise_concat_iff {ids : List RowId} {id : RowId} : (ids ++ [id]).Pairwise (· < ·) ↔
    ids.Pairwise (· < ·) ∧ ∀ last, ids.getLast? = some last → last < id := by
  rw [List.pairwise_append]
  constructor
  · rintro ⟨hids, _, hlt⟩
    exact ⟨hids, fun last hlast => hlt last (List.mem_of_getLast? hlast) id List.mem_cons_self⟩
  · rintro ⟨hids, hlast⟩
    refine ⟨hids, List.pairwise_singleton _ _, fun a ha b hb => ?_⟩
    rw [List.mem_singleton.mp hb]
    induction ids using List.reverseRecOn with
    | nil => cases ha
    | append_singleton ids last _ =>
        have hlt : last < id := hlast last List.getLast?_concat
        rcases List.mem_append.mp ha with ha | ha
        · exact Nat.lt_trans ((List.pairwise_append.mp hids).2.2 a ha last List.mem_cons_self) hlt
        · rw [List.mem_singleton.mp ha]
          exact hlt

/-- A call keeps versions increasing if its own is greater than the latest one. -/
theorem increase_concat_iff (calls : List Call) (c : Call) :
    ((publications (new store config) (calls ++ [c])).map Snapshot.version).Pairwise (· < ·) ↔
      ((publications (new store config) calls).map Snapshot.version).Pairwise (· < ·) ∧
        ∀ latest new, (run store config calls).distributor.latest = some latest →
          (run store config calls).published c = some new → latest.version < new.version := by
  rw [publications_concat, latest_run]
  cases (run store config calls).published c with
  | none =>
      rw [Option.toList_none, List.append_nil]
      exact ⟨fun h => ⟨h, fun _ _ _ hnew => nomatch hnew⟩, And.left⟩
  | some s =>
      rw [Option.toList_some, List.map_append, List.map_singleton, pairwise_concat_iff,
        List.getLast?_map]
      refine and_congr_right fun _ => ⟨fun h latest new hl hnew => ?_, fun h version hv => ?_⟩
      · rw [← Option.some.inj hnew]
        exact h latest.version (by rw [hl]; rfl)
      · obtain ⟨latest, hl, rfl⟩ := Option.map_eq_some_iff.mp hv
        exact h latest s hl rfl

theorem forall_split_concat {α : Type} {P : List α → α → Prop} {l : List α} {d : α} :
    (∀ before c after, l ++ [d] = before ++ c :: after → P before c) ↔
      (∀ before c after, l = before ++ c :: after → P before c) ∧ P l d := by
  constructor
  · intro h
    refine ⟨fun before c after hl => h before c (after ++ [d]) ?_, h l d [] rfl⟩
    rw [hl, List.append_assoc]
    rfl
  · rintro ⟨hall, hlast⟩ before c after heq
    rcases List.eq_nil_or_concat after with rfl | ⟨after', d', rfl⟩
    · obtain ⟨rfl, hd⟩ := List.append_inj' heq rfl
      rw [← List.head_eq_of_cons_eq hd]
      exact hlast
    · rw [List.concat_eq_append, ← List.cons_append, ← List.append_assoc] at heq
      exact hall before c after' (List.append_inj' heq rfl).1

/-- **Versions of snapshots.** Let any calls be made of a new manager.

* A load publishes under the identifier of the rule that it takes last, and a rule is added under the
  next identifier; nothing else publishes anything. A call that succeeds does publish, unless it is a
  load that takes no rule.
* The versions increase if and only if, whenever there is a snapshot already, each load that publishes
  ends with a rule whose identifier is greater than the latest version, and so does each call that
  publishes once the greatest identifier has been seen. A rule that is added before always has a version
  greater than all of those before. -/
theorem versions_increase_iff (store : Store) (config : EngineConfig) (calls : List Call) :
    (∀ before c after, calls = before ++ c :: after →
      let m := run store config before
      (∀ new, m.published c = some new → m.Versioned new.version c) ∧
      ∀ version, m.Succeeds c → m.Versioned version c →
        ∃ new, m.published c = some new ∧ new.version = version) ∧
    (((publications (new store config) calls).map Snapshot.version).Pairwise (· < ·) ↔
      ∀ before c after, calls = before ++ c :: after →
        let m := run store config before
        ∀ latest new, m.distributor.latest = some latest → m.published c = some new →
          c = .load ∨ Exhausted store config before → latest.version < new.version) := by
  have hsound : ∀ before, (run store config before).registry.Sound := fun before =>
    (coherent_run store config before).sound
  refine ⟨fun before c _ _ => ⟨fun new hnew => versioned_of_published (hsound before) hnew,
    fun version hok hversion => exists_published (hsound before) hok hversion⟩, ?_⟩
  induction calls using List.reverseRecOn with
  | nil =>
      refine ⟨fun _ before c after heq => ?_, fun _ => List.Pairwise.nil⟩
      cases List.append_eq_nil_iff.mp heq.symm |>.2
  | append_singleton calls d ih =>
      rw [increase_concat_iff, ih, forall_split_concat]
      refine and_congr_right fun _ => ⟨fun h latest new hl hnew _ => h latest new hl hnew, ?_⟩
      intro h latest new hl hnew
      by_cases hback : d = .load ∨ Exhausted store config calls
      · exact h latest new hl hnew hback
      · obtain ⟨hload, hexhausted⟩ := not_or.mp hback
        have hseen := seen_run calls hexhausted latest hl
        have hne : (run store config calls).ids.last ≠ RowId.greatest := fun he =>
          hexhausted ⟨calls, List.prefix_rfl, he⟩
        -- a rule has been added, under an identifier greater than any seen
        have hfresh : ∃ now, new.version = (run store config calls).ids.fresh now := by
          have hv := versioned_of_published (hsound calls) hnew
          cases d with
          | load => exact absurd rfl hload
          | add now ctx draft => exact ⟨now, hv⟩
          | addFlag now ctx regex => exact ⟨now, hv⟩
          | update ctx id name color => cases hv
          | receive => cases hv
          | store other => cases hv
        obtain ⟨now, hversion⟩ := hfresh
        rw [hversion]
        exact Nat.lt_of_le_of_lt hseen (RowId.Generator.lt_fresh now hne)

/-- A stored rule that shares its name with an earlier one becomes admissible when that one is renamed.
The second load takes it, behind the last rule of the first load: the versions step back. -/
theorem load_steps_back :
    let stored : List Rule := [
      { id := ⟨1000, 1⟩, name := "alpha", color := "#fff" },
      { id := ⟨1000, 3⟩, name := "alpha", color := "#fff" },
      { id := ⟨1000, 5⟩, name := "beta", color := "#fff" }]
    let published := publications
      (new (.memory { rules := stored }) { publishMode := .supersede })
      [.load, .update {} ⟨1000, 1⟩ "gamma" "#fff", .load]
    published.map Snapshot.version = [⟨1000, 5⟩, ⟨1000, 3⟩] ∧
      ¬ (published.map Snapshot.version).Pairwise (· < ·) := by
  decide +kernel

/-- Behind the greatest identifier a rule that is added begins the last second again. -/
example :
    let last : Rule := { id := RowId.greatest, name := "last", color := "#fff" }
    (publications (new (.memory { rules := [last] }) { publishMode := .supersede })
      [.load, .add 1 {} { name := "next", color := "#fff" }]).map Snapshot.version =
        [RowId.greatest, ⟨0xFFFFFFFF, 0⟩] := by
  decide +kernel

end Manager
end TrafficRules
