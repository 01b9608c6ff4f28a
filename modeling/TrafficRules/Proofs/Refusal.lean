import TrafficRules.Engine.Basic
import TrafficRules.Proofs.Registry.Registering
import TrafficRules.Store.Basic

/-! # Faults by their origin

A rule that is checked and made ready fails with a rejection (`Registry.prepare_fails`), and an engine
that is built fails with a fault of its own; both refuse the rule before anything has come of it
(`Fault.isRefusal`). What a store fails with is never a refusal (`Store.insert_fails`), so the fault
alone tells how far a rule has come. -/

namespace TrafficRules

/-- The rule is rejected, or no engine can be built with it. -/
def Fault.isRefusal : Fault → Bool
  | .engine _ => true
  | fault => fault.isRejection

/-! ### Rules and engines -/

theorem Signature.compile_fails (limit : Nat) (p : Pattern) :
    FailsWith (fun fault => fault.isRejection = true) (compile limit p) := by
  unfold compile
  refine .bind (.mapError fun _ => rfl) fun _ _ => ?_
  refine .bind (.mapError fun _ => rfl) fun regex _ => ?_
  refine .guard rfl ?_
  exact .bind (.mapError fun _ => rfl) fun _ _ => .ok _

namespace Registry

variable {r : Registry} {rule : Rule}

theorem checkFree_fails (r : Registry) (rule : Rule) :
    FailsWith (fun fault => fault.isRejection = true) (r.checkFree rule) := by
  unfold checkFree
  split
  · exact .error rfl
  · split
    · exact .error rfl
    · exact .ok ()

theorem stage_fails (r : Registry) (ps : List Pattern) :
    ∀ staged seen, FailsWith (fun fault => fault.isRejection = true) (r.stage staged seen ps) := by
  induction ps with
  | nil => exact fun _ _ => .ok _
  | cons p rest ih =>
      intro staged seen
      unfold stage
      refine .bind (Signature.compile_fails _ _) fun s _ => ?_
      refine .guard rfl ?_
      exact .bind (ih _ _) fun _ _ => .ok _

theorem prepare_fails (r : Registry) (rule : Rule) :
    FailsWith (fun fault => fault.isRejection = true) (r.prepare rule) := by
  unfold prepare
  refine .bind (checkFree_fails r rule) fun _ _ => ?_
  refine .bind (.mapError fun _ => rfl) fun _ _ => ?_
  exact .bind (stage_fails r rule.patterns [] []) fun _ _ => .ok _

end Registry

theorem Engine.build_fails (signatures : List Signature) (c : EngineConfig) :
    FailsWith (fun fault => fault.isRefusal = true) (Engine.build signatures c) := by
  unfold Engine.build
  dsimp only
  split
  · exact .error rfl
  · split
    · exact .error rfl
    · exact .ok _

theorem Fault.isRefusal_of_isRejection {fault : Fault} (h : fault.isRejection = true) :
    fault.isRefusal = true := by
  cases fault with
  | engine cause => rfl
  | _ => exact h

/-! ### Stores -/

theorem WriteContext.check_fails (ctx : WriteContext) (n : Nat) :
    FailsWith (fun fault => fault.isRefusal = false) (ctx.check n) := by
  unfold check
  split
  · exact .error rfl
  · split
    · exact .error rfl
    · exact .ok ()

theorem MemoryStore.insert_fails (s : MemoryStore) (ctx : WriteContext) (rule : Rule) :
    FailsWith (fun fault => fault.isRefusal = false) (s.insert ctx rule) := by
  unfold insert checkWrite
  refine .bind (.bind (ctx.check_fails 0) fun _ _ => ?_) fun _ _ => .guard rfl (.ok _)
  split
  · exact .error rfl
  · exact .ok ()

namespace FileStore

theorem entries_fails (s : FileStore) :
    FailsWith (fun fault => fault.isRefusal = false) s.entries := by
  unfold entries
  split
  · exact .ok []
  · exact .error rfl
  · unfold entriesOfBytes
    split
    · exact .error rfl
    · split
      · exact .ok []
      · split
        · exact .ok _
        · exact .error rfl

theorem write_fails (s : FileStore) (ctx : WriteContext) (es : List Json) :
    FailsWith (fun fault => fault.isRefusal = false) (s.write ctx es).1 := by
  unfold write
  split
  · exact .error (ctx.check_fails 0 _ ‹_›)
  · split
    · exact .error rfl
    · dsimp only
      split
      · exact .error (ctx.check_fails 1 _ ‹_›)
      · split
        · exact .error rfl
        · exact .ok ()

theorem insert_fails (s : FileStore) (ctx : WriteContext) (rule : Rule) :
    FailsWith (fun fault => fault.isRefusal = false) (s.insert ctx rule).1 := by
  unfold insert
  split
  · exact .error (s.entries_fails _ ‹_›)
  · split
    · exact .error rfl
    · exact s.write_fails ctx _

end FileStore

theorem Store.insert_fails (store : Store) (ctx : WriteContext) (rule : Rule) :
    FailsWith (fun fault => fault.isRefusal = false) (store.insert ctx rule).1 := by
  cases store with
  | memory s =>
      unfold insert
      dsimp only
      cases hs : s.insert ctx rule with
      | ok t => exact .ok ()
      | error fault => exact .error (s.insert_fails ctx rule fault hs)
  | file s => exact s.insert_fails ctx rule

end TrafficRules
