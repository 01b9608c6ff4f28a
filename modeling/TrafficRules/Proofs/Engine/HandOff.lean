import Mathlib.Data.List.Induction
import Mathlib.Tactic.SplitIfs
import TrafficRules.Engine.Distributor

/-! # Handing snapshots over

Publishers and subscribers share one slot. A run is a list of acts, each done as a whole, by any
publisher and any subscriber; each act leaves an `Event`. A publisher who would have to wait leaves
everything as it is, and comes again later.

What holds of the events and the distributor behind them (`Kept`) is kept by every act
(`Kept.step`): what was received and what is pending are some of the snapshots published, in the order
of their publication, and what follows a publication says what has become of its snapshot
(`Settled`). So a snapshot can only be lost if a later one is published over it, and while publishers
wait for the slot none is lost (`handOff_kept`). -/

namespace TrafficRules.Distributor

/-- What publishers and subscribers do. -/
inductive Act where
  | publish (s : Snapshot)
  /-- A subscriber takes the pending snapshot, if there is one. -/
  | receive (subscriber : Nat)
  /-- Somebody asks for the snapshot that was published last. -/
  | current

/-- What comes of an act. -/
inductive Event where
  | published (s : Snapshot)
  /-- The publisher has to wait. -/
  | waits (s : Snapshot)
  | received (subscriber : Nat) (s : Snapshot)
  /-- Nothing was pending. -/
  | nothing (subscriber : Nat)
  | shown (s : Option Snapshot)

def act (d : Distributor) : Act → Event × Distributor
  | .publish s =>
      match d.publish s with
      | .ok e => (.published s, e)
      | .error _ => (.waits s, d)
  | .receive subscriber =>
      match d.receive with
      | (some s, e) => (.received subscriber s, e)
      | (none, e) => (.nothing subscriber, e)
  | .current => (.shown d.latest, d)

/-- The events of a list of acts, and the distributor behind them. -/
def run (d : Distributor) : List Act → List Event × Distributor
  | [] => ([], d)
  | a :: rest => ((d.act a).1 :: ((d.act a).2.run rest).1, ((d.act a).2.run rest).2)

/-- The snapshots that were published, in order. -/
def publications (events : List Event) : List Snapshot :=
  events.filterMap fun
    | .published s => some s
    | _ => none

/-- The snapshots that subscribers have received, in order. -/
def receipts (events : List Event) : List Snapshot :=
  events.filterMap fun
    | .received _ s => some s
    | _ => none

/-- Nothing goes into the slot or out of it. -/
def Event.Quiet : Event → Prop
  | .published _ | .received _ _ => False
  | _ => True

/-- What has become of a published snapshot by the events behind its publication. -/
inductive Settled (d : Distributor) (s : Snapshot) (after : List Event) : Prop
  /-- A subscriber has received it. -/
  | received (idle rest : List Event) (subscriber : Nat) (hidle : ∀ e ∈ idle, e.Quiet)
      (hafter : after = idle ++ .received subscriber s :: rest)
  /-- Another one was published over it, before anybody received it. -/
  | replaced (idle rest : List Event) (next : Snapshot) (hidle : ∀ e ∈ idle, e.Quiet)
      (hafter : after = idle ++ .published next :: rest) (hmode : d.mode = .supersede)
  | pending (hidle : ∀ e ∈ after, e.Quiet) (hpending : d.pending = some s)

/-- What holds of the events so far and the distributor behind them. -/
structure Kept (d : Distributor) (events : List Event) : Prop where
  order : (receipts events ++ d.pending.toList).Sublist (publications events)
  none_lost : d.mode = .blocking → receipts events ++ d.pending.toList = publications events
  latest : d.latest = (publications events).getLast?
  shown : ∀ before s after, events = before ++ .shown s :: after →
    s = (publications before).getLast?
  settled : ∀ before s after, events = before ++ .published s :: after → d.Settled s after

variable {d e : Distributor} {events : List Event} {s : Snapshot}

theorem run_append (acts later : List Act) : ∀ d : Distributor,
    d.run (acts ++ later) = ((d.run acts).1 ++ ((d.run acts).2.run later).1,
      ((d.run acts).2.run later).2) := by
  induction acts with
  | nil => exact fun _ => rfl
  | cons a rest ih =>
      intro d
      rw [List.cons_append, run, ih, run]
      rfl

theorem run_concat (acts : List Act) (a : Act) (d : Distributor) :
    d.run (acts ++ [a]) =
      ((d.run acts).1 ++ [((d.run acts).2.act a).1], ((d.run acts).2.act a).2) :=
  run_append acts [a] d

theorem publications_concat (events : List Event) (event : Event) :
    publications (events ++ [event]) = publications events ++ publications [event] :=
  List.filterMap_append

theorem receipts_concat (events : List Event) (event : Event) :
    receipts (events ++ [event]) = receipts events ++ receipts [event] :=
  List.filterMap_append

theorem mode_act (d : Distributor) (a : Act) : (d.act a).2.mode = d.mode := by
  cases a with
  | publish s =>
      rw [act, publish]
      cases d.mustWait <;> rfl
  | receive subscriber =>
      rw [act, Distributor.receive]
      cases d.pending <;> rfl
  | current => rfl

theorem mode_run (acts : List Act) : ∀ d : Distributor, (d.run acts).2.mode = d.mode := by
  induction acts with
  | nil => exact fun _ => rfl
  | cons a rest ih => exact fun d => (ih _).trans (d.mode_act a)

/-! ### What an act does -/

/-- A snapshot is published unless the slot is taken and publishers wait for it. -/
theorem act_publish (d : Distributor) (s : Snapshot) :
    d.act (.publish s) = if d.mode = .blocking ∧ d.pending.isSome = true then (.waits s, d)
      else (.published s, { d with pending := some s, latest := some s }) := by
  have hwait : d.mustWait = true ↔ d.mode = .blocking ∧ d.pending.isSome = true := by
    simp [mustWait]
  rw [act, publish]
  by_cases h : d.mustWait = true
  · rw [if_pos h, if_pos (hwait.mp h)]
  · rw [if_neg h, if_neg fun hfull => h (hwait.mpr hfull)]

/-- A publisher that has waited finds room. -/
theorem mustWait_awaited (d : Distributor) : d.awaited.mustWait = false := by
  unfold awaited
  split
  · rw [mustWait, Distributor.receive, Option.isSome_none, Bool.and_false]
  · rename_i hfree
    exact eq_false_of_ne_true hfree

/-- Whoever waits if need be always publishes. -/
theorem publish_awaited (d : Distributor) (s : Snapshot) :
    d.awaited.publish s = .ok { d with pending := some s, latest := some s } := by
  rw [publish, mustWait_awaited, if_neg Bool.false_ne_true]
  unfold awaited
  split <;> rfl

theorem act_awaited (d : Distributor) (s : Snapshot) : d.awaited.act (.publish s) =
    (.published s, { d with pending := some s, latest := some s }) := by
  rw [act, publish_awaited]

/-- Who receives takes what is pending. -/
theorem act_receive (d : Distributor) (subscriber : Nat) :
    d.act (.receive subscriber) = (match d.pending with
      | some s => .received subscriber s
      | none => .nothing subscriber, { d with pending := none }) := by
  rw [act, Distributor.receive]
  cases d.pending <;> rfl

/-- What has become of a snapshot is settled by the first act that concerns the slot. -/
theorem Settled.concat {after : List Event} {event : Event} (h : d.Settled s after)
    (hmode : e.mode = d.mode)
    (hnext : d.pending = some s → e.Settled s [event]) : e.Settled s (after ++ [event]) := by
  cases h with
  | received idle rest subscriber hidle hafter =>
      refine .received idle (rest ++ [event]) subscriber hidle ?_
      rw [hafter, List.append_assoc, List.cons_append]
  | replaced idle rest next hidle hafter hsupersede =>
      refine .replaced idle (rest ++ [event]) next hidle ?_ (hmode.trans hsupersede)
      rw [hafter, List.append_assoc, List.cons_append]
  | pending hidle hpending =>
      -- nothing has gone out of the slot so far
      cases hnext hpending with
      | received idle rest subscriber hquiet hevent =>
          refine .received (after ++ idle) rest subscriber ?_ ?_
          · exact List.forall_mem_append.mpr ⟨hidle, hquiet⟩
          · rw [hevent, List.append_assoc]
      | replaced idle rest next hquiet hevent hsupersede =>
          refine .replaced (after ++ idle) rest next ?_ ?_ hsupersede
          · exact List.forall_mem_append.mpr ⟨hidle, hquiet⟩
          · rw [hevent, List.append_assoc]
      | pending hquiet hstill =>
          exact .pending (List.forall_mem_append.mpr ⟨hidle, hquiet⟩) hstill

/-- One event more. Its own part is what happens to the slot; the earlier publications are settled as
before, or by this event. -/
theorem Kept.push {event : Event} (h : d.Kept events) (hmode : e.mode = d.mode)
    (horder : (receipts events ++ receipts [event] ++ e.pending.toList).Sublist
      (publications events ++ publications [event]))
    (hnone : e.mode = .blocking → receipts events ++ receipts [event] ++ e.pending.toList =
      publications events ++ publications [event])
    (hlatest : e.latest = (publications events ++ publications [event]).getLast?)
    (hshown : ∀ s, event = .shown s → s = d.latest)
    (hpublished : ∀ s, event = .published s → e.pending = some s)
    (hsettled : ∀ s, d.pending = some s → e.Settled s [event]) : e.Kept (events ++ [event]) := by
  refine ⟨?_, ?_, ?_, fun before s after hsplit => ?_, fun before s after hsplit => ?_⟩
  · rw [receipts_concat, publications_concat]
    exact horder
  · rw [receipts_concat, publications_concat]
    exact hnone
  · rw [publications_concat]
    exact hlatest
  · rcases List.eq_nil_or_concat after with rfl | ⟨front, last, rfl⟩
    · obtain ⟨rfl, hevent⟩ := List.append_inj' hsplit rfl
      rw [hshown s (List.singleton_inj.mp hevent), h.latest]
    · rw [List.concat_eq_append, ← List.cons_append, ← List.append_assoc] at hsplit
      exact h.shown before s front (List.append_inj' hsplit rfl).1
  · rcases List.eq_nil_or_concat after with rfl | ⟨front, last, rfl⟩
    · obtain ⟨_, hevent⟩ := List.append_inj' hsplit rfl
      exact .pending (by simp) (hpublished s (List.singleton_inj.mp hevent))
    · rw [List.concat_eq_append, ← List.cons_append, ← List.append_assoc] at hsplit
      obtain ⟨hfront, hevent⟩ := List.append_inj' hsplit rfl
      obtain rfl := List.singleton_inj.mp hevent
      rw [List.concat_eq_append]
      exact (h.settled before s front hfront).concat hmode fun hpending => hsettled s hpending

/-- An event that leaves the slot alone. -/
theorem Kept.idle {event : Event} (h : d.Kept events) (hquiet : event.Quiet)
    (hshown : ∀ s, event = .shown s → s = d.latest) : d.Kept (events ++ [event]) := by
  have hreceipts : receipts [event] = [] := by
    cases event with
    | received subscriber s => exact absurd hquiet id
    | _ => rfl
  have hpublications : publications [event] = [] := by
    cases event with
    | published s => exact absurd hquiet id
    | _ => rfl
  refine h.push rfl ?_ ?_ ?_ hshown (fun s hevent => ?_) fun s hpending => ?_
  · rw [hreceipts, hpublications, List.append_nil, List.append_nil]
    exact h.order
  · rw [hreceipts, hpublications, List.append_nil, List.append_nil]
    exact h.none_lost
  · rw [hpublications, List.append_nil]
    exact h.latest
  · rw [hevent] at hquiet
    exact absurd hquiet id
  · exact .pending (by simpa using hquiet) hpending

theorem Kept.step (h : d.Kept events) (a : Act) :
    (d.act a).2.Kept (events ++ [(d.act a).1]) := by
  cases a with
  | publish s =>
      rw [act_publish]
      split_ifs with hwait
      · exact h.idle trivial fun _ hevent => (by cases hevent)
      · -- where publishers wait for the slot, it is empty
        have hempty : d.mode = .blocking → d.pending = none := fun hmode => by
          simpa [hmode] using hwait
        have hreceived : (receipts events).Sublist (publications events) :=
          (List.sublist_append_left _ _).trans h.order
        refine h.push rfl ?_ ?_ ?_ (fun _ hevent => by cases hevent) ?_ fun t hpending => ?_
        · show (receipts events ++ [] ++ [s]).Sublist (publications events ++ [s])
          rw [List.append_nil]
          exact hreceived.append_right [s]
        · intro hmode
          have hall := h.none_lost hmode
          rw [hempty hmode] at hall
          show receipts events ++ [] ++ [s] = publications events ++ [s]
          rw [← hall]
          rfl
        · show some s = (publications events ++ [s]).getLast?
          rw [List.getLast?_concat]
        · intro t hevent
          cases hevent
          rfl
        · refine .replaced [] [] s (by simp) rfl ?_
          cases hmode : d.mode with
          | blocking =>
              rw [hempty hmode] at hpending
              cases hpending
          | supersede => rfl
  | receive subscriber =>
      rw [act_receive]
      cases hpending : d.pending with
      | none =>
          have hsame : { d with pending := none } = d := by rw [← hpending]
          rw [hsame]
          exact h.idle trivial fun _ hevent => (by cases hevent)
      | some s =>
          have horder := h.order
          have hnone := h.none_lost
          rw [hpending] at horder hnone
          refine h.push rfl ?_ ?_ ?_ (fun _ hevent => by cases hevent)
            (fun _ hevent => by cases hevent) fun t ht => ?_
          · show (receipts events ++ [s] ++ []).Sublist (publications events ++ [])
            rw [List.append_nil, List.append_nil]
            exact horder
          · show d.mode = .blocking → receipts events ++ [s] ++ [] = publications events ++ []
            rw [List.append_nil, List.append_nil]
            exact hnone
          · show d.latest = (publications events ++ []).getLast?
            rw [List.append_nil]
            exact h.latest
          · rw [hpending, Option.some.injEq] at ht
            subst ht
            exact .received [] [] subscriber (by simp) rfl
  | current => exact h.idle trivial fun s hevent => (by cases hevent; rfl)

theorem kept_run (mode : PublishMode) (acts : List Act) :
    (run { mode := mode } acts).2.Kept (run { mode := mode } acts).1 := by
  induction acts using List.reverseRecOn with
  | nil =>
      refine ⟨List.Sublist.slnil, fun _ => rfl, rfl, fun before s after h => ?_,
        fun before s after h => ?_⟩
      · exact absurd h.symm (by simp [run])
      · exact absurd h.symm (by simp [run])
  | append_singleton acts a ih =>
      rw [run_concat]
      exact ih.step a

/-! ### Sending until the slot takes it -/

/-- Puts a snapshot into the slot if it is empty. -/
def send? (d : Distributor) (s : Snapshot) : Option Distributor :=
  if d.pending.isSome then none else some { d with pending := some s }

/-- Sends a snapshot, and takes out what is pending wherever the slot is taken, in at most `n`
attempts. -/
def sendOver? (s : Snapshot) : Nat → Distributor → Option Distributor
  | 0, _ => none
  | n + 1, d =>
      match d.send? s with
      | some e => some e
      | none => sendOver? s n d.receive.2

/-- The second attempt succeeds at the latest. -/
theorem sendOver?_eq (d : Distributor) (s : Snapshot) (n : Nat) :
    sendOver? s (n + 2) d = some { d with pending := some s } := by
  rw [sendOver?, send?]
  cases d.pending <;> rfl

/-- A publisher who does not wait for the slot sends until it takes the snapshot. -/
theorem publish_eq_sendOver? (d : Distributor) (s : Snapshot) (n : Nat)
    (hmode : d.mode = .supersede) :
    d.publish s = match sendOver? s (n + 2) d with
      | some e => .ok { e with latest := some s }
      | none => .error .slotTaken := by
  have hfree : d.mustWait = false := by simp [mustWait, hmode]
  rw [sendOver?_eq, publish, if_neg (by simp [hfree])]

/-- **Snapshots are handed over in order, each once.** In each mode, after any acts of any publishers
and subscribers, the events and the distributor are `Kept`; a snapshot that is published next waits
for the slot, which happens in blocking mode alone, or is the one pending and the latest; the next
subscriber to ask takes what is pending and leaves the slot empty; and without waiting, publishing is
to send until the slot takes the snapshot. -/
theorem handOff_kept (mode : PublishMode) (acts : List Act) :
    let start : Distributor := { mode := mode }
    let events := (start.run acts).1
    let d := (start.run acts).2
    d.mode = mode ∧ d.Kept events ∧
    (∀ s, start.run (acts ++ [.publish s]) =
      if mode = .blocking ∧ d.pending.isSome = true then (events ++ [.waits s], d)
      else (events ++ [.published s], { d with pending := some s, latest := some s })) ∧
    (∀ subscriber, start.run (acts ++ [.receive subscriber]) =
      (events ++ [match d.pending with
        | some s => .received subscriber s
        | none => .nothing subscriber], { d with pending := none })) ∧
    (mode = .supersede → ∀ s n, d.publish s = match sendOver? s (n + 2) d with
      | some e => .ok { e with latest := some s }
      | none => .error .slotTaken) := by
  intro start events d
  have hmode : d.mode = mode := mode_run acts start
  refine ⟨hmode, kept_run mode acts, fun s => ?_, fun subscriber => ?_, fun hsupersede s n => ?_⟩
  · rw [run_concat, act_publish, hmode]
    split_ifs <;> rfl
  · rw [run_concat, act_receive]
  · exact d.publish_eq_sendOver? s n (hmode.trans hsupersede)

end TrafficRules.Distributor
