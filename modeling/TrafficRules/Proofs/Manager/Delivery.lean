import TrafficRules.Proofs.Manager.Versions

/-! # Delivery of what calls publish

Nothing but calls moves the distributor of a manager. A call that publishes does so by one act of a
publisher, and if that one has to wait, a subscriber receives first; a call that publishes nothing does
not touch the distributor, unless it is a subscriber's (`acts`, `delivers_call`). So a run of calls is a
run of the distributor in which no publisher is turned away, and what is kept when snapshots are handed
over is kept there (`run_delivers`). -/

namespace TrafficRules.Manager

open Distributor (Act Event)

/-- What a call does at the distributor. Where its publisher has to wait, it is the given subscriber
that takes the pending snapshot. -/
def acts (subscriber : Nat) (m : Manager) (c : Call) : List Act :=
  match c with
  | .receive => [.receive subscriber]
  | c =>
      match m.published c with
      | none => []
      | some s =>
          if m.distributor.mustWait then [.receive subscriber, .publish s] else [.publish s]

/-- What calls do at the distributor, one after the other. -/
def actsOf (subscriber : Nat) (m : Manager) : List Call → List Act
  | [] => []
  | c :: rest => acts subscriber m c ++ actsOf subscriber (m.call c) rest

/-- A run of a distributor that comes to `d` and publishes the snapshots at the first attempt. -/
structure Delivers (r : List Event × Distributor) (d : Distributor) (snapshots : List Snapshot) :
    Prop where
  distributor : r.2 = d
  publications : Distributor.publications r.1 = snapshots
  served : ∀ s, .waits s ∉ r.1

variable {m : Manager} {subscriber : Nat} {c : Call}

theorem acts_of_none (hc : c ≠ .receive) (hp : m.published c = none) :
    acts subscriber m c = [] := by
  cases c with
  | receive => exact absurd rfl hc
  | _ => simp only [acts, hp]

theorem acts_of_some {s : Snapshot} (hp : m.published c = some s) : acts subscriber m c =
    if m.distributor.mustWait then [.receive subscriber, .publish s] else [.publish s] := by
  cases c with
  | receive => cases hp
  | _ => simp only [acts, hp]

/-- A snapshot is published at the first attempt if a subscriber has received where that was waited
for. -/
theorem delivers_publish (d : Distributor) (subscriber : Nat) (s : Snapshot) :
    Delivers
      (d.run (if d.mustWait then [.receive subscriber, .publish s] else [.publish s]))
      (d.after (some s)) [s] := by
  have hact := d.act_awaited s
  unfold Distributor.awaited at hact
  by_cases hwait : d.mustWait = true
  · rw [if_pos hwait] at hact ⊢
    have hreceive : d.act (.receive subscriber) = (_, d.receive.2) := d.act_receive subscriber
    simp only [Distributor.run, hreceive, hact]
    cases d.pending with
    | none => exact ⟨rfl, rfl, by simp⟩
    | some pending => exact ⟨rfl, rfl, by simp⟩
  · rw [if_neg hwait] at hact ⊢
    simp only [Distributor.run, hact]
    exact ⟨rfl, rfl, by simp⟩

/-- One call at the distributor. -/
theorem delivers_call (subscriber : Nat) (m : Manager) (c : Call) :
    Delivers (m.distributor.run (acts subscriber m c)) (m.call c).distributor
      (m.published c).toList := by
  by_cases hc : c = .receive
  · subst hc
    rw [acts]
    simp only [Distributor.run, Distributor.act_receive]
    cases m.distributor.pending with
    | none => exact ⟨rfl, rfl, by simp⟩
    | some s => exact ⟨rfl, rfl, by simp⟩
  · rw [distributor_call m hc]
    cases hp : m.published c with
    | none =>
        rw [acts_of_none hc hp]
        exact ⟨rfl, rfl, fun s => List.not_mem_nil⟩
    | some s =>
        rw [acts_of_some hp]
        exact delivers_publish m.distributor subscriber s

theorem delivers_calls (subscriber : Nat) (calls : List Call) : ∀ m : Manager,
    Delivers (m.distributor.run (actsOf subscriber m calls)) (calls.foldl call m).distributor
      (publications m calls) := by
  induction calls with
  | nil => exact fun m => ⟨rfl, rfl, fun s => List.not_mem_nil⟩
  | cons c rest ih =>
      intro m
      obtain ⟨hd, hp, hs⟩ := delivers_call subscriber m c
      obtain ⟨hd', hp', hs'⟩ := ih (m.call c)
      rw [actsOf, Distributor.run_append, hd]
      refine ⟨hd', ?_, fun s hmem => ?_⟩
      · rw [Distributor.publications, List.filterMap_append]
        exact congrArg₂ (· ++ ·) hp hp'
      · rcases List.mem_append.mp hmem with hmem | hmem
        · exact hs s hmem
        · exact hs' s hmem

/-- **Delivery.** What any calls do at the distributor is a run of publishers and subscribers, behind
which the distributor is that of the manager. The snapshots published in it are those that the calls
publish, each at the first attempt, and what is kept when snapshots are handed over is kept here. So
where publishers wait for subscribers, each snapshot has been received, in the order of the calls, or is
the one pending. -/
theorem run_delivers (store : Store) (config : EngineConfig) (calls : List Call) (subscriber : Nat) :
    let start := new store config
    let m := run store config calls
    let events := (start.distributor.run (actsOf subscriber start calls)).1
    m.distributor.Kept events ∧
      Distributor.publications events = publications start calls ∧ (∀ s, .waits s ∉ events) ∧
      (config.publishMode = .blocking →
        Distributor.receipts events ++ m.distributor.pending.toList = publications start calls) := by
  intro start m events
  obtain ⟨hd, hpublications, hserved⟩ := delivers_calls subscriber calls start
  have hkept : m.distributor.Kept events := by
    rw [show m.distributor = _ from hd.symm]
    exact Distributor.kept_run config.publishMode _
  have hmode : m.distributor.mode = config.publishMode := by
    rw [show m.distributor = _ from hd.symm]
    exact Distributor.mode_run _ start.distributor
  exact ⟨hkept, hpublications, hserved,
    fun hblocking => (hkept.none_lost (hmode.trans hblocking)).trans hpublications⟩

end TrafficRules.Manager
