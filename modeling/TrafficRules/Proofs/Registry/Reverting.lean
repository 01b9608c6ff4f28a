import Mathlib.Data.List.Induction
import TrafficRules.Proofs.Registry.Consistency
import TrafficRules.Proofs.Registry.Session

/-! # Taking changes back

A history is a registry with every rule that its updates have given back, each as it was before its
update. Any of them may be put back at any time by `Registry.revert`, and other changes may have been
made since.

An indexed registry is consistent and has unique names (`Indexed.unique`). Admissions and updates keep it
indexed, and a change taken back does so exactly if the old name is free or leads to the rule itself
(`Indexed.replace`, `free_of_replace`). So the names of a history are unique throughout exactly if
every change that is taken back gives a name back that nobody has taken in between
(`History.unique_run_iff`). `Registry.revert` does not look at that, and a name can come to stand for
two rules (`History.name_given_back_twice`). -/

namespace TrafficRules.Registry

variable {r t : Registry}

/-- No two rules have one name, each rule is found by its name, and the index says so. -/
structure Unique (r : Registry) : Prop where
  names : ∀ a ∈ r.list, ∀ b ∈ r.list, a.name = b.name → a = b
  found : ∀ rule ∈ r.list, r.getByName? rule.name = some rule
  consistent : r.isConsistent = true

/-! ### Indexed registries -/

theorem Indexed.getByName?_eq (h : r.Indexed) {id : RowId} {rule : Rule}
    (hrule : r.get? id = some rule) : r.getByName? rule.name = some rule := by
  rw [getByName?, (h.named hrule).2]
  exact hrule

theorem Indexed.unique (h : r.Indexed) : r.Unique := by
  refine ⟨?_, ?_, (indexed_iff.mp h).2⟩
  · intro a ha b hb hn
    obtain ⟨i, hi⟩ := (mem_list_iff r a).mp ha
    obtain ⟨j, hj⟩ := (mem_list_iff r b).mp hb
    have hfound := h.getByName?_eq hi
    rw [hn, h.getByName?_eq hj, Option.some.injEq] at hfound
    exact hfound.symm
  · intro rule hrule
    obtain ⟨id, hid⟩ := (mem_list_iff r rule).mp hrule
    exact h.getByName?_eq hid

/-- If names are unique behind the replacement of a rule, the name put in was free or its own. -/
theorem free_of_replace (h : r.Indexed) {rule : Rule} (ht : (r.replace rule).Unique) (owner : RowId)
    (ho : r.byName.get? rule.name = some owner) : owner = rule.id := by
  obtain ⟨other, hother, hname⟩ := h.owned ho
  by_contra hne
  have hrule : rule ∈ (r.replace rule).list :=
    (mem_list_iff _ _).mpr ⟨rule.id, by rw [get?_replace, if_pos rfl]⟩
  have hstays : other ∈ (r.replace rule).list :=
    (mem_list_iff _ _).mpr ⟨owner, by rw [get?_replace, if_neg (Ne.symm hne), hother]⟩
  have hsame := ht.names other hstays rule hrule hname
  exact hne ((h.named hother).1.symm.trans (congrArg Rule.id hsame))

theorem Indexed.register (h : r.Indexed) {rule : Rule} {id : RowId}
    (hr : r.register rule = .ok (id, t)) : t.Indexed := by
  obtain ⟨a, _, hc⟩ := register_ok hr
  obtain ⟨_, hname, hid, _, rfl⟩ := commit_ok hc
  exact h.insert _ hname hid

theorem Indexed.update (h : r.Indexed) {id : RowId} {name color : String} {old : Option Rule}
    (hu : r.update id name color = .ok (old, t)) : t.Indexed := by
  rcases update_ok hu with ⟨_, _, rfl⟩ | ⟨rule, version, hrule, _, hfree, _, rfl⟩
  · exact h
  · obtain ⟨hid, _⟩ := h.named hrule
    exact h.replace (hid ▸ hrule) fun owner ho => (hfree owner ho).trans hid.symm

/-- A change taken back replaces the rule by the old one; else nothing is done. -/
theorem revert_ok {old : Rule} {done : Bool} (h : r.revert old = .ok (done, t)) :
    (done = false ∧ t = r) ∨
      (done = true ∧ t = r.replace old ∧ ∃ current, r.get? old.id = some current ∧
        Rule.nextVersion? old.version = some current.version) := by
  unfold revert at h
  cases hid : r.get? old.id with
  | none =>
      simp only [hid] at h
      cases h
      exact Or.inl ⟨rfl, rfl⟩
  | some current =>
      cases hv : Rule.nextVersion? old.version with
      | none =>
          simp only [hid, hv] at h
          cases h
      | some version =>
          simp only [hid, hv] at h
          by_cases hc : current.version = version
          · rw [if_pos hc] at h
            cases h
            exact Or.inr ⟨rfl, rfl, current, rfl, by rw [hc]⟩
          · rw [if_neg hc] at h
            cases h
            exact Or.inl ⟨rfl, rfl⟩

/-! ### Histories -/

/-- A registry and the rules that its updates have given back, in order. -/
structure History where
  registry : Registry
  previous : List Rule := []

/-- What can be done in a history. -/
inductive Change where
  | register (rule : Rule)
  | update (id : RowId) (name color : String)
  /-- Takes back the update that was made as number `n`. -/
  | revert (n : Nat)

namespace History

/-- A history that starts with an empty registry. -/
def new (limit : Nat) : History where
  registry := { sizeLimit := limit }

def perform (h : History) : Change → History
  | .register rule => { h with registry := h.registry.after (h.registry.register rule) }
  | .update id name color =>
      match h.registry.update id name color with
      | .ok (some old, t) => ⟨t, h.previous ++ [old]⟩
      | _ => h
  | .revert n =>
      match h.previous[n]? with
      | some old => { h with registry := h.registry.after (h.registry.revert old) }
      | none => h

/-- The history after a list of changes. -/
def run (limit : Nat) (changes : List Change) : History := changes.foldl perform (new limit)

/-- Taking back the update that was made as number `n` gives the rule a name that is free or its own,
or does nothing. -/
def GivesBack (h : History) (n : Nat) : Prop :=
  ∀ old t, h.previous[n]? = some old → h.registry.revert old = .ok (true, t) →
    ∀ owner, h.registry.byName.get? old.name = some owner → owner = old.id

theorem run_concat (limit : Nat) (changes : List Change) (c : Change) :
    run limit (changes ++ [c]) = (run limit changes).perform c := by
  rw [run, List.foldl_concat]
  rfl

/-- A change that is no revert, and a revert that gives a free name back, keeps a registry indexed. -/
theorem indexed_perform {h : History} (hi : h.registry.Indexed) (c : Change)
    (hc : ∀ n, c = .revert n → h.GivesBack n) : (h.perform c).registry.Indexed := by
  cases c with
  | register rule => exact Session.after_of hi fun id t hr => hi.register hr
  | update id name color =>
      simp only [perform]
      split
      · exact hi.update ‹_›
      · exact hi
  | revert n =>
      simp only [perform]
      split
      · rename_i old hn
        refine Session.after_of hi fun done t hr => ?_
        rcases revert_ok hr with ⟨_, rfl⟩ | ⟨rfl, rfl, current, hcurrent, _⟩
        · exact hi
        · exact hi.replace hcurrent (hc n rfl old _ hn hr)
      · exact hi

/-- If names are unique behind a revert, it has given a free name back. -/
theorem givesBack_of_unique {h : History} (hi : h.registry.Indexed) {n : Nat}
    (hu : (h.perform (.revert n)).registry.Unique) : h.GivesBack n := by
  intro old t hn hr
  rcases revert_ok hr with ⟨hfalse, _⟩ | ⟨_, rfl, _⟩
  · cases hfalse
  · simp only [perform, hn, hr] at hu
    exact free_of_replace hi hu

theorem indexed_run (limit : Nat) (changes : List Change)
    (hc : ∀ front n, front ++ [.revert n] <+: changes → (run limit front).GivesBack n) :
    (run limit changes).registry.Indexed := by
  induction changes using List.reverseRecOn with
  | nil => exact (sound_empty limit).indexed
  | append_singleton changes c ih =>
      rw [run_concat]
      refine indexed_perform (ih fun front n hle => ?_) c ?_
      · exact hc front n (hle.trans (List.prefix_append _ _))
      · rintro n rfl
        exact hc changes n List.prefix_rfl

/-- **Unique names under reverts.** At every time of a run the names are unique, each rule is found by its
name and the index is consistent, if and only if every change that is taken back gives its rule a name
that is free, or its own, at that time. -/
theorem unique_run_iff (limit : Nat) (changes : List Change) :
    (∀ front, front <+: changes → (run limit front).registry.Unique) ↔
      ∀ front n, front ++ [.revert n] <+: changes → (run limit front).GivesBack n := by
  constructor
  · intro h
    induction changes using List.reverseRecOn with
    | nil =>
        intro front n hle
        simp at hle
    | append_singleton changes c ih =>
        have hfront := ih fun front hle => h front (hle.trans (List.prefix_append _ _))
        intro front n hle
        rcases List.prefix_concat_iff.mp hle with he | hle
        · obtain ⟨rfl, hlast⟩ := List.append_inj' he rfl
          have hlast : c = .revert n := (List.singleton_inj.mp hlast).symm
          subst hlast
          have hu := h (front ++ [.revert n]) List.prefix_rfl
          rw [run_concat] at hu
          exact givesBack_of_unique (indexed_run limit front hfront) hu
        · exact hfront front n hle
  · intro h front hle
    exact (indexed_run limit front fun f n hf => h f n (hf.trans hle)).unique

/-- A rule is renamed, another one takes its old name, and then the renaming is taken back: both rules
have the name, and only the first one is found by it. -/
theorem name_given_back_twice :
    let one : Rule := { id := ⟨1000, 1⟩, name := "alpha", color := "#abc" }
    let two : Rule := { id := ⟨1000, 2⟩, name := "alpha", color := "#abc" }
    let r := (run Signature.defaultSizeLimit
      [.register one, .update one.id "beta" "#111", .register two, .revert 0]).registry
    r.get? one.id = some one ∧ r.get? two.id = some two ∧ one.id ≠ two.id ∧ one.name = two.name ∧
      r.getByName? two.name = some one ∧ r.isConsistent = false := by
  decide +kernel

end History
end TrafficRules.Registry
