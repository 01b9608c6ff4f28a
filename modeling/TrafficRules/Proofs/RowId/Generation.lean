import TrafficRules.Proofs.RowId

/-! # Runs of a generator

A generator is asked for identifiers at any seconds, in any order, and takes note of any identifiers in
between (`Generator.Request`). The log of a run has all that were handed out or made known, in order.

As long as the greatest identifier is not in the log, the generator remembers the greatest one of the log
(`Knows.latest`), and so the next one is greater than all. Its seconds never step back, not even then
(`Knows.seconds`). The exact law is `run_increases`. -/

namespace TrafficRules.RowId.Generator

/-- What a generator is asked: to hand out an identifier, or to take note of one. -/
inductive Request where
  | next (now : UInt32)
  | observe (id : RowId)
deriving DecidableEq, Repr

/-- The identifier that a request hands out or makes known, and the generator behind it. -/
def answer (g : Generator) : Request → RowId × Generator
  | .next now => g.next now
  | .observe id => (id, g.observe id)

/-- The generator behind some requests. -/
def run (g : Generator) : List Request → Generator
  | [] => g
  | r :: rest => (g.answer r).2.run rest

/-- The identifiers that requests hand out or make known. -/
def log (g : Generator) : List Request → List RowId
  | [] => []
  | r :: rest => (g.answer r).1 :: (g.answer r).2.log rest

/-- What a generator knows of the identifiers of a log. -/
structure Knows (g : Generator) (ids : List RowId) : Prop where
  /-- It remembers one of them, or none has come yet. -/
  origin : g.last = zero ∨ g.last ∈ ids
  /-- None of them is greater, unless there has been the greatest of all. -/
  latest : greatest ∉ ids → ∀ id ∈ ids, id ≤ g.last
  seconds : ∀ id ∈ ids, id.timestamp ≤ g.last.timestamp

variable {g : Generator} {ids : List RowId}

theorem knows_new : Knows {} [] := ⟨Or.inl rfl, by simp, by simp⟩

/-- Only the greatest identifier can be remembered behind itself. -/
theorem Knows.last_ne_greatest (h : g.Knows ids) (hids : greatest ∉ ids) : g.last ≠ greatest := by
  intro hlast
  rcases h.origin with hzero | hmem
  · rw [hlast] at hzero
    exact absurd hzero (by decide)
  · exact hids (hlast ▸ hmem)

theorem Knows.lt_fresh_iff (h : g.Knows ids) (now : UInt32) :
    (∀ id ∈ ids, id < g.fresh now) ↔ greatest ∉ ids := by
  constructor
  · -- nothing is greater than the greatest identifier
    intro hall hmem
    have hlt : greatest.toNat < (g.fresh now).toNat := hall greatest hmem
    have hbound := (g.fresh now).toNat_lt
    have hgreatest : greatest.toNat + 1 = 16 ^ 24 := by decide
    omega
  · intro hids id hid
    exact Nat.lt_of_le_of_lt (h.latest hids id hid) (lt_fresh now (h.last_ne_greatest hids))

theorem Knows.le_timestamp_fresh (h : g.Knows ids) (now : UInt32) :
    ∀ id ∈ ids, id.timestamp ≤ (g.fresh now).timestamp := fun id hid =>
  UInt32.le_trans (h.seconds id hid) (g.le_timestamp_fresh now).2

/-- One request. -/
theorem Knows.answer (h : g.Knows ids) (r : Request) :
    Knows (g.answer r).2 (ids ++ [(g.answer r).1]) := by
  cases r with
  | next now =>
      refine ⟨Or.inr (by simp [Generator.answer, next]), fun hids id hid => ?_, fun id hid => ?_⟩
      · rcases List.mem_append.mp hid with hid | hid
        · have hold : greatest ∉ ids := fun hmem => hids (List.mem_append_left _ hmem)
          exact Nat.le_of_lt ((h.lt_fresh_iff now).mpr hold id hid)
        · rw [List.mem_singleton.mp hid]
          exact Nat.le_refl _
      · rcases List.mem_append.mp hid with hid | hid
        · exact h.le_timestamp_fresh now id hid
        · rw [List.mem_singleton.mp hid]
          exact UInt32.le_refl _
  | observe other =>
      obtain ⟨hlast, hother⟩ := g.le_observe other
      refine ⟨?_, fun hids id hid => ?_, fun id hid => ?_⟩
      · show (g.observe other).last = zero ∨ (g.observe other).last ∈ ids ++ [other]
        unfold observe
        split
        · exact Or.inr (by simp)
        · exact h.origin.imp id (List.mem_append_left _)
      · rcases List.mem_append.mp hid with hid | hid
        · have hold : greatest ∉ ids := fun hmem => hids (List.mem_append_left _ hmem)
          exact Nat.le_trans (h.latest hold id hid) hlast
        · rw [List.mem_singleton.mp hid]
          exact hother
      · rcases List.mem_append.mp hid with hid | hid
        · exact UInt32.le_trans (h.seconds id hid) (timestamp_le_of_le hlast)
        · rw [List.mem_singleton.mp hid]
          exact timestamp_le_of_le hother

/-- Any number of requests. -/
theorem Knows.run (h : g.Knows ids) (requests : List Request) :
    Knows (g.run requests) (ids ++ g.log requests) := by
  induction requests generalizing g ids with
  | nil =>
      rw [log, List.append_nil]
      exact h
  | cons r rest ih =>
      rw [log, List.append_cons]
      exact ih (h.answer r)

theorem log_append (g : Generator) (before after : List Request) :
    g.log (before ++ after) = g.log before ++ (g.run before).log after := by
  induction before generalizing g with
  | nil => rfl
  | cons r rest ih =>
      rw [List.cons_append, log, log, ih, List.cons_append]
      rfl

/-- **Identifiers increase**, as long as the greatest one of all has not come. A new generator hands out
identifiers at any seconds and takes note of any others. In the log of such a run, each identifier that is
handed out is greater than all before it if and only if the greatest identifier is not among them. Its
second is never before the one asked for, and never before that of an earlier identifier. -/
theorem run_increases (before after : List Request) (now : UInt32) :
    ∃ new : RowId,
      log {} (before ++ .next now :: after) = log {} before ++ new :: log ⟨new⟩ after ∧
      ((∀ id ∈ log {} before, id < new) ↔ greatest ∉ log {} before) ∧
      now ≤ new.timestamp ∧ ∀ id ∈ log {} before, id.timestamp ≤ new.timestamp := by
  have hknows : Knows (run {} before) (log {} before) := knows_new.run before
  refine ⟨(run {} before).fresh now, ?_, hknows.lt_fresh_iff now,
    ((run {} before).le_timestamp_fresh now).1, hknows.le_timestamp_fresh now⟩
  rw [log_append]
  rfl

/-- A clock that jumps back, and a sequence that wraps within a second. -/
example : log {} [.observe ⟨5, 0xFFFFFFFFFFFFFFFF⟩, .next 3, .next 9, .next 4] =
    [⟨5, 0xFFFFFFFFFFFFFFFF⟩, ⟨6, 0⟩, ⟨9, 1⟩, ⟨9, 2⟩] := by decide

end TrafficRules.RowId.Generator
