import TrafficRules.Proofs.Registry.Invariant

/-! # Sessions with a registry

A session is a registry with every admission that it has ever prepared. Any of them may be committed at
any time: again, or after the corpus, the names or the identifiers have changed. `Session.run` performs a
list of operations; one that is refused changes nothing.

The invariant of a session (`Session.Sound`) is that of its registry, together with what makes a late
commit harmless: an admission that was prepared for a corpus of the present size fits the corpus as
it is. It holds after every run (`sound_run`), and with it the representation invariant of the
registry. -/

namespace TrafficRules.Registry

/-- A registry and the admissions that it has prepared, in order. -/
structure Session where
  registry : Registry
  prepared : List Admission := []

/-- What can be done in a session. -/
inductive Op where
  | prepare (rule : Rule)
  /-- Commits the admission that was prepared as number `n`. -/
  | commit (n : Nat)
  | register (rule : Rule)
  | update (id : RowId) (name color : String)
  | remove (id : RowId)

/-- The registry after an operation that may have been refused. -/
def after {α : Type} (r : Registry) : Except Fault (α × Registry) → Registry
  | .ok (_, t) => t
  | .error _ => r

namespace Session

/-- A session that starts with an empty registry. -/
def new (limit : Nat) : Session where
  registry := { sizeLimit := limit }

def perform (s : Session) : Op → Session
  | .prepare rule =>
      match s.registry.prepare rule with
      | .ok a => { s with prepared := s.prepared ++ [a] }
      | .error _ => s
  | .commit n =>
      match s.prepared[n]? with
      | some a => { s with registry := s.registry.after (s.registry.commit a) }
      | none => s
  | .register rule => { s with registry := s.registry.after (s.registry.register rule) }
  | .update id name color =>
      { s with registry := s.registry.after (s.registry.update id name color) }
  | .remove id => { s with registry := s.registry.remove id }

/-- The session after a list of operations. -/
def run (limit : Nat) (ops : List Op) : Session := ops.foldl perform (new limit)

/-! ### The invariant -/

/-- The registry is sound, and what was prepared for a corpus of this size fits this corpus. -/
structure Sound (s : Session) : Prop where
  registry : s.registry.Sound
  base_le : ∀ a ∈ s.prepared, a.base ≤ s.registry.corpus.size
  fits : ∀ a ∈ s.prepared, a.base = s.registry.corpus.size →
    a.Fits s.registry.sizeLimit s.registry.corpus

theorem sound_new (limit : Nat) : (new limit).Sound :=
  ⟨sound_empty limit, fun a ha => (by cases ha), fun a ha => (by cases ha)⟩

/-- A corpus that grows leaves the admissions behind that were prepared before. -/
theorem Sound.of_grows {s : Session} {t : Registry} (h : s.Sound) (ht : t.Sound)
    (hg : s.registry.Grows t) : Sound { s with registry := t } := by
  rcases hg.corpus with he | ⟨_, hlt⟩
  · refine ⟨ht, ?_, ?_⟩
    · show ∀ a ∈ s.prepared, a.base ≤ t.corpus.size
      rw [he]
      exact h.base_le
    · show ∀ a ∈ s.prepared, a.base = t.corpus.size → a.Fits t.sizeLimit t.corpus
      rw [he, hg.sizeLimit]
      exact h.fits
  · refine ⟨ht, fun a ha => Nat.le_trans (h.base_le a ha) (Nat.le_of_lt hlt), ?_⟩
    intro a ha hb
    have hle := h.base_le a ha
    change a.base = t.corpus.size at hb
    omega

theorem commit_sound {r t : Registry} {a : Admission} {id : RowId} (hr : r.Sound)
    (ha : a.base = r.corpus.size → a.Fits r.sizeLimit r.corpus) (h : r.commit a = .ok (id, t)) :
    t.Sound ∧ r.Grows t :=
  ⟨hr.commit (ha (commit_ok h).1) h, grows_of_commit h⟩

/-- What holds of a registry and of every registry that an operation may give holds behind it. -/
theorem after_of {α : Type} {P : Registry → Prop} {r : Registry}
    {x : Except Fault (α × Registry)} (hr : P r) (hx : ∀ a t, x = .ok (a, t) → P t) :
    P (r.after x) := by
  cases x with
  | error fault => exact hr
  | ok result => exact hx result.1 result.2 rfl

theorem Sound.after {α : Type} {s : Session} (h : s.Sound) {x : Except Fault (α × Registry)}
    (hx : ∀ a t, x = .ok (a, t) → t.Sound ∧ s.registry.Grows t) :
    Sound { s with registry := s.registry.after x } ∧
      s.registry.Grows (s.registry.after x) := by
  obtain ⟨ht, hg⟩ := after_of (P := fun t => t.Sound ∧ s.registry.Grows t)
    ⟨h.registry, Grows.refl _⟩ hx
  exact ⟨h.of_grows ht hg, hg⟩

/-- What one operation keeps. -/
theorem Sound.perform {s : Session} (h : s.Sound) (op : Op) :
    (s.perform op).Sound ∧ s.registry.Grows (s.perform op).registry := by
  cases op with
  | prepare rule =>
      simp only [Session.perform]
      cases ha : s.registry.prepare rule with
      | error fault => exact ⟨h, Grows.refl _⟩
      | ok a =>
          have hbase := (prepare_ok ha).2.2.1
          refine ⟨⟨h.registry, ?_, ?_⟩, Grows.refl _⟩
          · intro b hb
            rcases List.mem_append.mp hb with hb | hb
            · exact h.base_le b hb
            · rw [List.mem_singleton.mp hb]
              exact Nat.le_of_eq hbase
          · intro b hb he
            rcases List.mem_append.mp hb with hb | hb
            · exact h.fits b hb he
            · rw [List.mem_singleton.mp hb]
              exact h.registry.fits ha
  | commit n =>
      simp only [Session.perform]
      cases hn : s.prepared[n]? with
      | none => exact ⟨h, Grows.refl _⟩
      | some a =>
          refine h.after fun id t hc => ?_
          exact commit_sound h.registry (h.fits a (List.mem_of_getElem? hn)) hc
  | register rule =>
      refine h.after fun id t hr => ?_
      obtain ⟨a, ha, hc⟩ := register_ok hr
      exact commit_sound h.registry (fun _ => h.registry.fits ha) hc
  | update id name color =>
      refine h.after fun old t hu => ?_
      exact ⟨h.registry.update hu, grows_of_update hu⟩
  | remove id =>
      exact ⟨h.of_grows (h.registry.remove id) (grows_of_remove _ id), grows_of_remove _ id⟩

/-- What a list of operations keeps. -/
theorem Sound.foldl {s : Session} (h : s.Sound) (ops : List Op) :
    (ops.foldl Session.perform s).Sound ∧
      s.registry.Grows (ops.foldl Session.perform s).registry := by
  induction ops generalizing s with
  | nil => exact ⟨h, Grows.refl _⟩
  | cons op rest ih =>
      obtain ⟨hs, hg⟩ := h.perform op
      obtain ⟨ht, hg'⟩ := ih hs
      exact ⟨ht, hg.trans hg'⟩

theorem sound_run (limit : Nat) (ops : List Op) : (run limit ops).Sound :=
  ((sound_new limit).foldl ops).1

theorem grows_run (limit : Nat) (ops later : List Op) :
    (run limit ops).registry.Grows (run limit (ops ++ later)).registry := by
  rw [run, run, List.foldl_append]
  exact ((sound_run limit ops).foldl later).2

/-- No operation changes the patterns of a rule that is in force before and after it. -/
theorem Sound.keeps {s : Session} (h : s.Sound) (op : Op) :
    s.registry.Keeps (s.perform op).registry := by
  cases op with
  | prepare rule =>
      simp only [Session.perform]
      cases s.registry.prepare rule with
      | error fault => exact Keeps.refl _
      | ok a => exact Keeps.refl _
  | commit n =>
      simp only [Session.perform]
      cases s.prepared[n]? with
      | none => exact Keeps.refl _
      | some a => exact after_of (Keeps.refl _) fun _ _ hc => keeps_of_commit hc
  | register rule =>
      refine after_of (Keeps.refl _) fun id t hr => ?_
      obtain ⟨a, _, hc⟩ := register_ok hr
      exact keeps_of_commit hc
  | update id name color =>
      exact after_of (Keeps.refl _) fun _ _ hu => keeps_of_update h.registry.indexed hu
  | remove id => exact keeps_of_remove _ id

/-! ### The representation -/

/-- **The representation of a registry**, after any operations, and what further ones leave of it.

* Rules and names lead to each other: each rule is found by its name, no two share one, and no name
  leads to nothing.
* Signatures and canonical forms lead to each other: the number of a form is the place of the
  signature that has it.
* Each pattern of a rule carries the number of the signature with its own canonical form, and no two
  patterns of a rule the same number.
* A number once given stays with its signature and its form, whatever is done `later`, and with the
  patterns of a rule through each operation. -/
theorem run_representation (limit : Nat) (ops later : List Op) :
    let r := (run limit ops).registry
    let t := (run limit (ops ++ later)).registry
    (∀ id rule, r.get? id = some rule → rule.id = id ∧ r.getByName? rule.name = some rule) ∧
    (∀ a ∈ r.list, ∀ b ∈ r.list, a.name = b.name → a = b) ∧
    (∀ name id, r.byName.get? name = some id → ∃ rule, r.get? id = some rule ∧ rule.name = name) ∧
    (∀ canonical n, r.corpus.lookup? canonical = some n ↔
      ∃ s, r.corpus.get? n = some s ∧ s.canonical = canonical) ∧
    (∀ rule ∈ r.list, ∀ p ∈ rule.patterns, ∃ n s, p.corpusId = some n ∧ n < r.corpus.size ∧
      r.corpus.get? n = some s ∧ s.canonical = Signature.canonicalForm p.regex p.flags) ∧
    (∀ rule ∈ r.list, rule.patternIds.Nodup) ∧
    (∀ n s, r.corpus.get? n = some s → t.corpus.get? n = some s) ∧
    (∀ canonical n, r.corpus.lookup? canonical = some n → t.corpus.lookup? canonical = some n) ∧
    (∀ op id a b, r.get? id = some a →
      (run limit (ops ++ [op])).registry.get? id = some b → b.patterns = a.patterns) := by
  intro r t
  have hs : (run limit ops).Sound := sound_run limit ops
  have hr : r.Sound := hs.registry
  have hg : r.Grows t := grows_run limit ops later
  have hfound : ∀ id rule, r.get? id = some rule →
      rule.id = id ∧ r.getByName? rule.name = some rule := by
    intro id rule h
    obtain ⟨hid, hname⟩ := hr.indexed.named h
    refine ⟨hid, ?_⟩
    rw [getByName?, hname]
    exact h
  refine ⟨hfound, ?_, fun name id => hr.indexed.owned, hr.numbered.dense, ?_, ?_, ?_, ?_, ?_⟩
  · intro a ha b hb hn
    obtain ⟨i, hi⟩ := (mem_list_iff r a).mp ha
    obtain ⟨j, hj⟩ := (mem_list_iff r b).mp hb
    have hfa := (hfound i a hi).2
    have hfb := (hfound j b hj).2
    rw [hn, hfb, Option.some.injEq] at hfa
    exact hfa.symm
  · intro rule hrule p hp
    obtain ⟨id, hid⟩ := (mem_list_iff r rule).mp hrule
    obtain ⟨n, s, hn, hs, hc⟩ := hr.numbered.resolved hid p hp
    exact ⟨n, s, hn, (List.getElem?_eq_some_iff.mp hs).1, hs, Signature.canonical_of_compile hc⟩
  · intro rule hrule
    obtain ⟨id, hid⟩ := (mem_list_iff r rule).mp hrule
    exact hr.numbered.distinct hid
  · exact fun n s => Corpus.get?_mono hg.isPrefix
  · intro canonical n
    exact hr.numbered.dense.lookup?_mono (sound_run limit (ops ++ later)).registry.numbered.dense
      hg.isPrefix
  · intro op id a b ha hb
    rw [run, List.foldl_append] at hb
    exact hs.keeps op id a b ha hb

end Session
end TrafficRules.Registry
