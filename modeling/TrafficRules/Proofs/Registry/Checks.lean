import TrafficRules.Proofs.Registry.Registering

/-! # The checks of a rule

What a rule has to pass before it is admitted, as a list of checks in their order (`checks`): its name
and its identifier are free, its name, its colour and its filter are valid, and then pattern by pattern
each one can be made ready and has a canonical form that no pattern before it has.

`Registry.prepare` gives up at the first check that fails, and with its fault (`fault?_prepare`); a rule
that passes them all can be put into force at once (`prepare_exact`). The numbers that its patterns
bring along do not matter. Forms that the corpus knows keep their numbers, and the others get the
numbers that follow, in the order in which they appear (`Numbers`). -/

namespace TrafficRules.Registry

/-- A pattern can be made ready, and its canonical form is none of those seen before. -/
def patternChecks (limit : Nat) (seen : List String) : List Pattern → List (Except Fault Unit)
  | [] => []
  | p :: rest =>
      (Signature.compile limit p).map (fun _ => ()) ::
      (if p.canonical ∈ seen then .error (.patternRepeated p.canonical) else .ok ()) ::
      patternChecks limit (p.canonical :: seen) rest

/-- The checks of a rule, in order. -/
def checks (r : Registry) (rule : Rule) : List (Except Fault Unit) :=
  (if r.byName.contains rule.name then .error (.nameTaken rule.name) else .ok ()) ::
  (if r.rules.contains rule.id then .error (.invalid (.idTaken rule.id)) else .ok ()) ::
  (validateName rule.name).mapError .invalid ::
  (validateColor rule.color).mapError .invalid ::
  rule.filter.validate.mapError .invalid ::
  patternChecks r.sizeLimit [] rule.patterns

/-- The numbers that the patterns of a rule have when it has come into force. -/
structure Numbers (r t : Registry) (rule : Rule) : Prop where
  known : ∀ canonical n, r.corpus.lookup? canonical = some n → t.corpus.lookup? canonical = some n
  new : ∀ i canonical, (r.newCanonicals rule)[i]? = some canonical →
    t.corpus.lookup? canonical = some (r.corpus.size + i)
  size : t.corpus.size = r.corpus.size + (r.newCanonicals rule).length
  /-- The rule in force is the one given, with the numbers of the corpus that it leaves. -/
  get? : t.get? rule.id = some (rule.numbered t.corpus)

variable {r t : Registry} {rule : Rule} {a : Admission}

/-! ### The first check that fails -/

theorem fault?_stage (ps : List Pattern) : ∀ staged seen,
    fault? (r.stage staged seen ps) = (patternChecks r.sizeLimit seen ps).findSome? fault? := by
  induction ps with
  | nil => exact fun _ _ => rfl
  | cons p rest ih =>
      intro staged seen
      rw [stage, patternChecks, findSome?_fault?_cons, findSome?_fault?_cons, fault?_map]
      refine fault?_bind fun s hs => ?_
      have hcan : s.canonical = p.canonical := Signature.canonical_of_compile hs
      rw [← hcan]
      by_cases hseen : s.canonical ∈ seen
      · rw [if_pos hseen, if_pos hseen]
        rfl
      · rw [if_neg hseen, if_neg hseen, ← ih (r.placeOf staged s).2]
        -- behind the rest nothing can fail
        show fault? (r.stage (r.placeOf staged s).2 (s.canonical :: seen) rest >>= fun result =>
          pure ({ p with corpusId := some (r.placeOf staged s).1 } :: result.1, result.2)) = _
        exact fault?_bind_pure _ _

theorem fault?_checkFree (r : Registry) (rule : Rule) : fault? (r.checkFree rule) =
    (fault? (if r.byName.contains rule.name then .error (.nameTaken rule.name)
      else .ok () : Except Fault Unit)).or
    (fault? (if r.rules.contains rule.id then .error (.invalid (.idTaken rule.id))
      else .ok () : Except Fault Unit)) := by
  unfold checkFree
  split
  · rfl
  · rfl

theorem fault?_validate (rule : Rule) : fault? (rule.validate.mapError Fault.invalid) =
    ((fault? ((validateName rule.name).mapError Fault.invalid)).or
      (fault? ((validateColor rule.color).mapError Fault.invalid))).or
        (fault? (rule.filter.validate.mapError Fault.invalid)) := by
  unfold Rule.validate
  cases validateName rule.name with
  | error cause => rfl
  | ok _ =>
      cases validateColor rule.color with
      | error cause => rfl
      | ok _ => rfl

theorem fault?_prepare (r : Registry) (rule : Rule) :
    fault? (r.prepare rule) = (r.checks rule).findSome? fault? := by
  have hstage (f : List Pattern × List Signature → Admission) :
      fault? (r.stage [] [] rule.patterns >>= fun result => pure (f result)) =
        (patternChecks r.sizeLimit [] rule.patterns).findSome? fault? :=
    (fault?_bind_pure _ f).trans (fault?_stage rule.patterns [] [])
  simp only [checks, findSome?_fault?_cons]
  rw [← Option.or_assoc, ← fault?_checkFree, prepare]
  refine fault?_bind fun _ _ => ?_
  rw [← Option.or_assoc, ← Option.or_assoc, ← fault?_validate]
  exact fault?_bind fun _ _ => hstage _

/-! ### Numbers -/

theorem numbers_of_commit (ha : r.prepare rule = .ok a) (hc : r.commit a = .ok (rule.id, t)) :
    r.Numbers t rule := by
  obtain ⟨hsignatures, hknown, hnew⟩ := registers_of_commit ha hc
  have hcanonicals := (staged_of_prepare ha).1
  refine ⟨hknown, fun i canonical hi => ?_, ?_, ?_⟩
  · rw [← hcanonicals, List.getElem?_map, Option.map_eq_some_iff] at hi
    obtain ⟨s, hs, rfl⟩ := hi
    exact hnew i s hs
  · rw [← hcanonicals, List.length_map, Corpus.size, hsignatures, List.length_append]
    rfl
  · have hid : a.rule.id = rule.id := by rw [(prepare_ok ha).2.2.2.2]
    rw [get?_of_commit hc, if_pos hid, numbered_of_commit ha hc]

/-- **The criterion of admission.**

* A rule can be admitted exactly if its name and its identifier are free, its name, its colour and its
  filter are valid, its patterns can all be made ready, and no two of them have one canonical form.
  In a registry with an index that is exact, name and identifier are free if no rule has them.
* What refuses it is the first check that fails, and all checks before that one pass.
* An admitted rule can be put into force at once. Known forms keep their numbers, new ones get the
  next numbers in the order of the rule, and the corpus grows by as many. -/
theorem prepare_exact (r : Registry) (rule : Rule) :
    ((∃ a, r.prepare rule = .ok a) ↔ r.Free rule ∧ validateName rule.name = .ok () ∧
      validateColor rule.color = .ok () ∧ rule.filter.validate = .ok () ∧
      (∀ p ∈ rule.patterns, ∃ s, Signature.compile r.sizeLimit p = .ok s) ∧
      rule.canonicals.Nodup) ∧
    (r.Indexed → (r.Free rule ↔ ¬ rule.Clashes r.list)) ∧
    (∀ fault, r.prepare rule = .error fault ↔ ∃ before after,
      r.checks rule = before ++ .error fault :: after ∧ ∀ check ∈ before, check = .ok ()) ∧
    (∀ a, r.prepare rule = .ok a → ∃ t, r.commit a = .ok (rule.id, t) ∧ r.Numbers t rule) := by
  refine ⟨?_, fun h => h.holds_list.free_iff, fun fault => ?_, fun a ha => ?_⟩
  · rw [exists_prepare_iff]
    constructor
    · rintro ⟨⟨hvalid, hcompiled, hdistinct⟩, hfree⟩
      obtain ⟨hname, hcolor, hfilter⟩ := Rule.validate_ok_iff.mp hvalid
      exact ⟨hfree, hname, hcolor, hfilter, hcompiled, hdistinct⟩
    · rintro ⟨hfree, hname, hcolor, hfilter, hcompiled, hdistinct⟩
      exact ⟨⟨Rule.validate_ok_iff.mpr ⟨hname, hcolor, hfilter⟩, hcompiled, hdistinct⟩, hfree⟩
  · rw [← fault?_eq_some_iff, fault?_prepare, findSome?_fault?_eq_some_iff]
  · obtain ⟨t, hc⟩ := exists_commit ha
    exact ⟨t, hc, numbers_of_commit ha hc⟩

end TrafficRules.Registry
