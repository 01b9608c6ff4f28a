/-! # Outcomes

An operation that succeeds is taken apart into its steps: a sequence has a result exactly if its first
step has one from which the others go on (`bind_ok_iff`), renaming a fault changes no success
(`mapError_ok_iff`), and a step that is given up under a condition goes on exactly if the condition
fails (`guard_ok_iff`, `refuse_ok_iff`).

An operation that fails does so with one of certain faults (`FailsWith`) if each of its steps does. The
fault of a sequence (`fault?`) is that of the first step that fails. -/

namespace TrafficRules

variable {ε δ α β : Type}

theorem bind_ok_iff {x : Except ε α} {f : α → Except ε β} {b : β} :
    (x >>= f) = .ok b ↔ ∃ a, x = .ok a ∧ f a = .ok b := by
  cases x with
  | error fault => simp [bind, Except.bind]
  | ok a => simp [bind, Except.bind]

theorem isOk_iff {x : Except ε α} : x.isOk = true ↔ ∃ a, x = .ok a := by
  cases x with
  | error fault => exact ⟨fun h => (by cases h), fun ⟨_, h⟩ => (by cases h)⟩
  | ok a => exact ⟨fun _ => ⟨a, rfl⟩, fun _ => rfl⟩

theorem pure_ok_iff {a b : α} : (pure a : Except ε α) = .ok b ↔ a = b := by
  simp [pure, Except.pure]

theorem mapError_ok_iff {x : Except ε α} {f : ε → δ} {a : α} :
    x.mapError f = .ok a ↔ x = .ok a := by
  cases x with
  | error fault => exact ⟨fun h => (by cases h), fun h => (by cases h)⟩
  | ok b => exact ⟨fun h => (by cases h; rfl), fun h => (by cases h; rfl)⟩

theorem guard_ok_iff {c : Prop} [Decidable c] {fault : ε} {f : α → Except ε β} {x : Except ε β}
    {b : β} : (if c then throw fault >>= f else x) = .ok b ↔ ¬ c ∧ x = .ok b := by
  by_cases h : c
  · simp [h, throw, throwThe, MonadExceptOf.throw, bind, Except.bind]
  · simp [h]

theorem refuse_ok_iff {c : Prop} [Decidable c] {fault : ε} {x : Except ε α} {a : α} :
    (if c then .error fault else x) = .ok a ↔ ¬ c ∧ x = .ok a := by
  by_cases h : c
  · simp [h]
  · simp [h]

/-- The operation succeeds, or it fails with a fault of which `P` holds. -/
def FailsWith (P : ε → Prop) (x : Except ε α) : Prop := ∀ fault, x = .error fault → P fault

namespace FailsWith

variable {P : ε → Prop} {x : Except ε α}

theorem ok (a : α) : FailsWith P (.ok a) := fun _ h => nomatch h

theorem error {fault : ε} (h : P fault) : FailsWith P (.error fault : Except ε α) :=
  fun _ he => Except.error.inj he ▸ h

/-- The second step of a sequence is taken with what the first one gives. -/
theorem bind {f : α → Except ε β} (hx : FailsWith P x)
    (hf : ∀ a, x = .ok a → FailsWith P (f a)) : FailsWith P (x >>= f) := by
  cases x with
  | error fault => exact error (hx fault rfl)
  | ok a => exact hf a rfl

theorem mapError {x : Except δ α} {f : δ → ε} (h : ∀ fault, P (f fault)) :
    FailsWith P (x.mapError f) := by
  cases x with
  | error fault => exact error (h fault)
  | ok a => exact ok a

theorem map (h : FailsWith P x) (f : α → β) : FailsWith P (x.map f) := by
  cases x with
  | error fault => exact error (h fault rfl)
  | ok a => exact ok (f a)

theorem guard {c : Prop} [Decidable c] {fault : ε} {f : α → Except ε β} {x : Except ε β}
    (hfault : P fault) (hx : FailsWith P x) :
    FailsWith P (if c then throw fault >>= f else x) := by
  by_cases h : c
  · rw [if_pos h]
    exact error hfault
  · rw [if_neg h]
    exact hx

theorem mono {Q : ε → Prop} (h : FailsWith P x) (hPQ : ∀ fault, P fault → Q fault) :
    FailsWith Q x := fun fault he => hPQ fault (h fault he)

end FailsWith

/-- The fault of an operation that fails. -/
def fault? : Except ε α → Option ε
  | .error fault => some fault
  | .ok _ => none

theorem fault?_eq_some_iff {x : Except ε α} {fault : ε} :
    fault? x = some fault ↔ x = .error fault := by
  cases x with
  | error other => exact ⟨fun h => congrArg _ (Option.some.inj h), fun h => (by cases h; rfl)⟩
  | ok a => exact ⟨fun h => (by cases h), fun h => (by cases h)⟩

theorem fault?_eq_none_iff {x : Except ε α} : fault? x = none ↔ ∃ a, x = .ok a := by
  cases x with
  | error other => exact ⟨fun h => (by cases h), fun ⟨_, h⟩ => (by cases h)⟩
  | ok a => exact ⟨fun _ => ⟨a, rfl⟩, fun _ => rfl⟩

theorem fault?_map (f : α → β) (x : Except ε α) : fault? (x.map f) = fault? x := by
  cases x with
  | error fault => rfl
  | ok a => rfl

theorem fault?_bind_pure (x : Except ε α) (f : α → β) :
    fault? (x >>= fun a => pure (f a)) = fault? x := by
  cases x with
  | error fault => rfl
  | ok a => rfl

theorem fault?_bind {x : Except ε α} {f : α → Except ε β} {other : Option ε}
    (h : ∀ a, x = .ok a → fault? (f a) = other) : fault? (x >>= f) = (fault? x).or other := by
  cases x with
  | error fault => rfl
  | ok a => exact h a rfl

/-- The first fault of a list is that of its head, or else that of its tail. -/
theorem findSome?_fault?_cons (x : Except ε α) (rest : List (Except ε α)) :
    (x :: rest).findSome? fault? = (fault? x).or (rest.findSome? fault?) := by
  rw [List.findSome?_cons]
  cases fault? x with
  | none => rfl
  | some fault => rfl

/-- The first fault is that of an operation that fails where all those before it succeed. -/
theorem findSome?_fault?_eq_some_iff {checks : List (Except ε Unit)} {fault : ε} :
    checks.findSome? fault? = some fault ↔ ∃ before after,
      checks = before ++ .error fault :: after ∧ ∀ check ∈ before, check = .ok () := by
  simp only [List.findSome?_eq_some_iff, fault?_eq_some_iff, fault?_eq_none_iff]
  constructor
  · rintro ⟨before, check, after, hchecks, rfl, hbefore⟩
    exact ⟨before, after, hchecks, fun check hcheck => (hbefore check hcheck).choose_spec⟩
  · rintro ⟨before, after, hchecks, hbefore⟩
    exact ⟨before, _, after, hchecks, rfl, fun check hcheck => ⟨(), hbefore check hcheck⟩⟩

end TrafficRules
