import TrafficRules.Proofs.Registry.Registering
import TrafficRules.Proofs.Registry.Reverting

/-! # Late commits

An admission is prepared from one state of a registry and committed in a later one. In between
anything may be done to the registry (`Act`): any admissions may be committed and any rules be put
back, wherever they come from.

A corpus that has changed in between has grown (`grows_perform`), and then the admission is refused.
Over a corpus that has not changed, checking the rule once more gives the same admission if its name
and its identifier are still free (`prepare_again`), and otherwise the commit and a fresh registration
are refused alike. So a commit is a registration, or else it is refused and nothing happens
(`commit_late`). -/

namespace TrafficRules.Registry

/-- What can be done to a registry. -/
inductive Act where
  | commit (a : Admission)
  | register (rule : Rule)
  | update (id : RowId) (name color : String)
  | revert (old : Rule)
  | remove (id : RowId)

/-- The registry after something has been done to it, or has been refused. -/
def act (r : Registry) : Act → Registry
  | .commit a => r.after (r.commit a)
  | .register rule => r.after (r.register rule)
  | .update id name color => r.after (r.update id name color)
  | .revert old => r.after (r.revert old)
  | .remove id => r.remove id

/-- The registry after a list of acts. -/
def perform (r : Registry) (acts : List Act) : Registry := acts.foldl act r

variable {r t : Registry} {rule : Rule} {a : Admission}

/-! ### Growth -/

theorem grows_of_revert {old : Rule} {done : Bool} (h : r.revert old = .ok (done, t)) :
    r.Grows t := by
  rcases revert_ok h with ⟨_, rfl⟩ | ⟨_, rfl, _⟩
  · exact Grows.refl _
  · exact ⟨rfl, Or.inl rfl⟩

theorem grows_act (r : Registry) (x : Act) : r.Grows (r.act x) := by
  cases x with
  | commit a => exact Session.after_of (Grows.refl r) fun _ _ h => grows_of_commit h
  | register rule =>
      refine Session.after_of (Grows.refl r) fun _ _ h => ?_
      obtain ⟨a, _, hc⟩ := register_ok h
      exact grows_of_commit hc
  | update id name color => exact Session.after_of (Grows.refl r) fun _ _ h => grows_of_update h
  | revert old => exact Session.after_of (Grows.refl r) fun _ _ h => grows_of_revert h
  | remove id => exact grows_of_remove r id

theorem grows_perform (r : Registry) (acts : List Act) : r.Grows (r.perform acts) := by
  induction acts generalizing r with
  | nil => exact Grows.refl r
  | cons x rest ih => exact (grows_act r x).trans (ih (r.act x))

/-- A corpus that is of its old size has not changed. -/
theorem Grows.corpus_eq_iff (h : r.Grows t) : t.corpus = r.corpus ↔ r.corpus.size = t.corpus.size := by
  rcases h.corpus with he | ⟨_, hlt⟩
  · exact ⟨fun _ => by rw [he], fun _ => he⟩
  · exact ⟨fun he => by rw [he], fun he => absurd he (Nat.ne_of_lt hlt)⟩

/-- Nothing was registered in between if nothing has been registered at the end. -/
theorem corpus_between {front back : List Act} (h : (r.perform (front ++ back)).corpus = r.corpus) :
    (r.perform front).corpus = r.corpus := by
  have hfront := grows_perform r front
  have hback := grows_perform (r.perform front) back
  rw [← show r.perform (front ++ back) = (r.perform front).perform back from
    List.foldl_append] at hback
  refine hfront.corpus_eq_iff.mpr (Nat.le_antisymm hfront.isPrefix.length_le ?_)
  rw [← h]
  exact hback.isPrefix.length_le

/-! ### Checking once more -/

theorem checkFree_congr {a b : Rule} (hname : a.name = b.name) (hid : a.id = b.id) :
    r.checkFree a = r.checkFree b := by
  rw [checkFree, checkFree, hname, hid]

/-- Staging looks at nothing but the corpus and the limit. -/
theorem stage_congr (hc : t.corpus = r.corpus) (hl : t.sizeLimit = r.sizeLimit) (ps : List Pattern) :
    ∀ staged seen, t.stage staged seen ps = r.stage staged seen ps := by
  induction ps with
  | nil => exact fun _ _ => rfl
  | cons p rest ih =>
      intro staged seen
      rw [stage, stage, hc, hl]
      simp only [ih]

theorem prepare_again (hc : t.corpus = r.corpus) (hl : t.sizeLimit = r.sizeLimit)
    (ha : r.prepare rule = .ok a) (hfree : t.Free rule) : t.prepare rule = .ok a := by
  have hold : r.checkFree rule = .ok () := (prepare_ok ha).1
  have hnew : t.checkFree rule = .ok () := checkFree_ok_iff.mpr hfree
  rw [← ha, prepare, prepare, hold, hnew, stage_congr hc hl, hc]

/-- Over the corpus that it was prepared for, an admission is committed as the rule would be
registered. -/
theorem commit_eq_register (hg : r.Grows t) (ha : r.prepare rule = .ok a)
    (hc : t.corpus = r.corpus) : t.commit a = t.register rule := by
  obtain ⟨_, _, hbase, _, hrule⟩ := prepare_ok ha
  have hcheck : t.checkFree a.rule = t.checkFree rule :=
    checkFree_congr (by rw [hrule]) (by rw [hrule])
  cases hfree : t.checkFree rule with
  | error fault =>
      have hprepare : t.prepare rule = .error fault := by
        rw [prepare, hfree]
        rfl
      rw [register, hprepare, commit, hbase, hc, if_neg (not_not_intro rfl), hcheck, hfree]
      rfl
  | ok u =>
      rw [register, prepare_again hc hg.sizeLimit ha (checkFree_ok_iff.mp hfree)]
      rfl

theorem commit_of_grown (hg : r.Grows t) (ha : r.prepare rule = .ok a)
    (hc : t.corpus ≠ r.corpus) : t.commit a = .error (.invalid (.staleAdmission rule.id)) := by
  obtain ⟨_, _, hbase, _, hrule⟩ := prepare_ok ha
  have hsize : r.corpus.size ≠ t.corpus.size := fun he => hc (hg.corpus_eq_iff.mpr he)
  rw [commit, hbase, if_pos hsize, hrule]
  rfl

theorem exists_commit_iff (hg : r.Grows t) (ha : r.prepare rule = .ok a) :
    (∃ u, t.commit a = .ok (rule.id, u)) ↔ t.corpus = r.corpus ∧ t.Free rule := by
  constructor
  · rintro ⟨u, hu⟩
    by_cases hc : t.corpus = r.corpus
    · rw [commit_eq_register hg ha hc] at hu
      exact ⟨hc, (exists_register_iff.mp ⟨_, _, hu⟩).2⟩
    · rw [commit_of_grown hg ha hc] at hu
      cases hu
  · rintro ⟨hc, hfree⟩
    obtain ⟨u, hu⟩ := exists_commit (prepare_again hc hg.sizeLimit ha hfree)
    exact ⟨u, hu⟩

/-- **Late commits.** A rule was prepared for a registry, and then anything has been done to it.

* If nothing has been registered since, committing the admission is registering the rule now, with
  the same result or the same refusal; else it is refused as stale. What is refused changes nothing.
* The commit succeeds exactly if nothing has been registered and the name and the identifier of the
  rule are free. In a registry with an index that is exact these are free if no rule has them.
* Nothing has been registered since exactly if the corpus was the same at every time in between.
* Right after it was prepared the rule can be committed. -/
theorem commit_late (r : Registry) (rule : Rule) (a : Admission) (ha : r.prepare rule = .ok a)
    (acts : List Act) :
    let t := r.perform acts
    (t.corpus = r.corpus → t.commit a = t.register rule) ∧
    (t.corpus ≠ r.corpus → t.commit a = .error (.invalid (.staleAdmission rule.id))) ∧
    ((∃ u, t.commit a = .ok (rule.id, u) ∧ t.register rule = .ok (rule.id, u)) ∨
      ∃ fault, t.commit a = .error fault ∧ t.act (.commit a) = t) ∧
    ((∃ id u, t.commit a = .ok (id, u)) ↔ t.corpus = r.corpus ∧ t.Free rule) ∧
    (t.Indexed → (t.Free rule ↔ ¬ rule.Clashes t.list)) ∧
    (t.corpus = r.corpus ↔ ∀ front, front <+: acts → (r.perform front).corpus = r.corpus) ∧
    ∃ u, r.commit a = .ok (rule.id, u) := by
  intro t
  have hg : r.Grows t := grows_perform r acts
  have hid : ∀ {id u}, t.commit a = .ok (id, u) → id = rule.id := by
    intro id u hu
    rw [(commit_ok hu).2.2.2.1, (prepare_ok ha).2.2.2.2]
  refine ⟨commit_eq_register hg ha, commit_of_grown hg ha, ?_, ?_, fun h => h.holds_list.free_iff, ?_,
    exists_commit ha⟩
  · cases hcommit : t.commit a with
    | error fault => exact Or.inr ⟨fault, rfl, by rw [act, hcommit, after]⟩
    | ok result =>
        obtain ⟨id, u⟩ := result
        obtain rfl := hid hcommit
        have hc := ((exists_commit_iff hg ha).mp ⟨u, hcommit⟩).1
        exact Or.inl ⟨u, rfl, (commit_eq_register hg ha hc).symm.trans hcommit⟩
  · rw [← exists_commit_iff hg ha]
    constructor
    · rintro ⟨id, u, hu⟩
      obtain rfl := hid hu
      exact ⟨u, hu⟩
    · rintro ⟨u, hu⟩
      exact ⟨rule.id, u, hu⟩
  · constructor
    · rintro hc front ⟨back, rfl⟩
      exact corpus_between hc
    · exact fun h => h acts List.prefix_rfl

/-- Another rule is renamed and removed, and one with the same pattern comes: the admission is committed.
If a rule with another pattern has come, it is not. -/
theorem commit_late_letters :
    let one : Rule := ⟨⟨1000, 1⟩, "one", "#fff", "", true, [{ regex := "a" }], {}, 0⟩
    let two : Rule := ⟨⟨1000, 2⟩, "two", "#fff", "", true, [{ regex := "b" }, { regex := "a" }], {}, 0⟩
    let six : Rule := ⟨⟨1000, 6⟩, "six", "#fff", "", true, [{ regex := "a" }], {}, 0⟩
    let r := perform {} [.register one]
    let t := r.perform [.update one.id "ten" "#000", .register six, .remove one.id]
    let u := r.perform [.register { six with patterns := [{ regex := "b" }] }]
    ∃ a, r.prepare two = .ok a ∧ (∃ id v, t.commit a = .ok (id, v)) ∧
      u.commit a = .error (.invalid (.staleAdmission two.id)) := by
  intro one two six r t u
  obtain ⟨a, ha⟩ := isOk_iff.mp (show (r.prepare two).isOk = true by decide +kernel)
  have hsame : t.corpus = r.corpus := (grows_perform r _).corpus_eq_iff.mpr (by decide +kernel)
  have hgrown : u.corpus ≠ r.corpus := by
    rw [ne_eq, (grows_perform r _).corpus_eq_iff]
    decide +kernel
  have hfree : t.Free two := ⟨by decide +kernel, by decide +kernel⟩
  exact ⟨a, ha, (commit_late r two a ha _).2.2.2.1.mpr ⟨hsame, hfree⟩,
    (commit_late r two a ha _).2.1 hgrown⟩

end TrafficRules.Registry
