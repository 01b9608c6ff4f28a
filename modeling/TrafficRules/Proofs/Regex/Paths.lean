import Mathlib.Logic.Relation
import TrafficRules.Proofs.Regex.Spans
import TrafficRules.Proofs.Text.Utf8

/-! # Searches and paths

A program read as a graph: `Program.Step` goes from an address and a position to the next ones, and a
match is a path from address zero to an instruction that accepts (`Program.Matches`). A search finds a
match exactly if there is a path, and of all of them one that starts first (`find?_finds`).

* **Exploration.** What the instructions without input lead to from a stack of addresses has been visited
  when the stack is empty (`Front.Closed`). There is fuel enough, since each address puts its targets
  on the stack once (`openEdges`).
* **Threads.** Every path that starts no later than the present position goes on from a thread that
  started no later, or is late against a match found already (`Searching`). That carries the search
  from position to position. -/

namespace TrafficRules.Regex

open Relation (ReflTransGen)

namespace Program

variable (p : Program)

/-! ### The graph of a program -/

/-- The addresses that an instruction leads to without input, between the bytes before a position and
those behind it. -/
def targets (before after : Bytes) (pc : Nat) : List Nat :=
  match p.code[pc]? with
  | some (.jump d) => [pc + d]
  | some (.fork ds) => ds.map fun d => (pc + d : Int).toNat
  | some (.look l) => if l.holds before after then [pc + 1] else []
  | _ => []

/-- An instruction that takes input. -/
def reads (pc : Nat) : Bool :=
  match p.code[pc]? with
  | some (.byte _) | some (.scalar _) => true
  | _ => false

/-- The number of bytes that an instruction takes of those behind a position. -/
def taken? (after : Bytes) (pc : Nat) : Option Nat :=
  match p.code[pc]?, after with
  | some (.byte set), b :: _ => if set.contains b.toNat then some 1 else none
  | some (.scalar set), b :: rest =>
      match Utf8.scalar? (b :: rest) with
      | some (c, n) => if set.contains c.toNat then some n else none
      | none => none
  | _, _ => none

def accepts (pc : Nat) : Prop := p.code[pc]? = some .accept

/-- One step from an address and a position in the input. -/
inductive Step (input : Bytes) : Nat × Nat → Nat × Nat → Prop where
  | free {pc pos target : Nat}
      (h : target ∈ p.targets (input.take pos).reverse (input.drop pos) pc) :
      Step input (pc, pos) (target, pos)
  | take {pc pos n : Nat} (h : p.taken? (input.drop pos) pc = some n) :
      Step input (pc, pos) (pc + 1, pos + n)

/-- A path leads from an address and a position to the end of a match. -/
def LeadsTo (input : Bytes) (place : Nat × Nat) (stop : Nat) : Prop :=
  ∃ pc, ReflTransGen (p.Step input) place (pc, stop) ∧ p.accepts pc

/-- The program matches the input from one position to another one. -/
def Matches (input : Bytes) (start stop : Nat) : Prop := p.LeadsTo input (0, start) stop

variable {p} {input : Bytes}

theorem taken?_bounds {after : Bytes} {pc n : Nat} (h : p.taken? after pc = some n) :
    0 < n ∧ n ≤ after.length := by
  unfold taken? at h
  split at h
  · split at h
    · rw [← Option.some.inj h]
      simp
    · cases h
  · split at h
    · rename_i hscalar
      split at h
      · rw [← Option.some.inj h]
        exact Utf8.scalar?_length hscalar
      · cases h
    · cases h
  · cases h

/-- A path does not lead out of the input. -/
theorem pos_le_of_path {a b : Nat × Nat} (h : ReflTransGen (p.Step input) a b)
    (ha : a.2 ≤ input.length) : a.2 ≤ b.2 ∧ b.2 ≤ input.length := by
  induction h with
  | refl => exact ⟨Nat.le_refl _, ha⟩
  | tail _ hstep ih =>
      cases hstep with
      | free _ => exact ih
      | take htaken =>
          have hn := (taken?_bounds htaken).2
          rw [List.length_drop] at hn
          dsimp only at ih ⊢
          omega

/-! ### Fuel -/

/-- The edges of the instructions from an address on that have not been visited. -/
def openEdges (visited : Nat) : Nat → List Instr → Nat
  | _, [] => 0
  | first, i :: rest =>
      (if visited.testBit first then 0 else i.edges) + openEdges visited (first + 1) rest

/-- The edges of a program count all of its instructions. -/
def Counted (p : Program) : Prop := openEdges 0 0 p.code.toList ≤ p.edges

theorem counted_ofCode (code : Code) : (ofCode code).Counted := by
  have key : ∀ (code : List Instr) (first n : Nat),
      code.foldl (fun n i => n + i.edges) n = n + openEdges 0 first code := by
    intro code
    induction code with
    | nil => exact fun _ _ => rfl
    | cons i rest ih =>
        intro first n
        rw [List.foldl_cons, ih (first + 1), openEdges, Nat.zero_testBit, if_neg (by simp),
          Nat.add_assoc]
  rw [Counted, ofCode, key code 0 0]
  exact Nat.le_of_eq (by simp)

theorem testBit_mark (visited pc i : Nat) :
    (visited ||| 1 <<< pc).testBit i = (visited.testBit i || decide (i = pc)) := by
  rw [Nat.testBit_or, Nat.one_shiftLeft, Nat.testBit_two_pow]
  simp only [eq_comm]

theorem openEdges_mark_le (visited pc : Nat) : ∀ (code : List Instr) (first : Nat),
    openEdges (visited ||| 1 <<< pc) first code ≤ openEdges visited first code
  | [], _ => Nat.le_refl _
  | i :: rest, first => by
      have hrest := openEdges_mark_le visited pc rest (first + 1)
      rw [openEdges, openEdges, testBit_mark]
      split
      · split <;> omega
      · rename_i h
        rw [Bool.or_eq_true, not_or] at h
        rw [if_neg h.1]
        omega

theorem openEdges_le_zero (visited : Nat) : ∀ (code : List Instr) (first : Nat),
    openEdges visited first code ≤ openEdges 0 first code
  | [], _ => Nat.le_refl _
  | i :: rest, first => by
      have hrest := openEdges_le_zero visited rest (first + 1)
      rw [openEdges, openEdges, Nat.zero_testBit, if_neg Bool.false_ne_true]
      split <;> omega

/-- An address visited for the first time takes its edges out of the count. -/
theorem openEdges_mark {visited : Nat} : ∀ {code : List Instr} {first k : Nat} {i : Instr},
    code[k]? = some i → visited.testBit (first + k) = false →
      openEdges (visited ||| 1 <<< (first + k)) first code + i.edges ≤ openEdges visited first code
  | [], first, k, i, hi, _ => by simp at hi
  | j :: rest, first, 0, i, hi, hv => by
      have hrest := openEdges_mark_le visited (first + 0) rest (first + 1)
      rw [List.getElem?_cons_zero, Option.some.injEq] at hi
      rw [Nat.add_zero] at hv hrest ⊢
      rw [openEdges, openEdges, testBit_mark, hv, hi]
      simp
      omega
  | j :: rest, first, k + 1, i, hi, hv => by
      rw [List.getElem?_cons_succ] at hi
      have hpc : first + (k + 1) = first + 1 + k := by omega
      rw [hpc] at hv ⊢
      have hrest := openEdges_mark hi hv
      rw [openEdges, openEdges, testBit_mark]
      have hne : first ≠ first + 1 + k := by omega
      simp only [hne, decide_false, Bool.or_false]
      omega

theorem length_targets_le (before after : Bytes) {pc : Nat} {i : Instr}
    (h : p.code[pc]? = some i) : (p.targets before after pc).length ≤ i.edges := by
  unfold targets
  rw [h]
  cases i with
  | look l =>
      dsimp only
      split <;> simp [Instr.edges]
  | _ => simp [Instr.edges]

/-! ### Exploration -/

/-- What visiting an address does to the front, if it does not accept. -/
def visit (p : Program) (start pc : Nat) (front : Front) : Front where
  live := if p.reads pc then ⟨pc, start, 0⟩ :: front.live else front.live
  visited := front.visited ||| 1 <<< pc
  done := front.done

theorem explore_fresh {before after : Bytes} {start fuel pc : Nat} {stack : List Nat}
    {front : Front} (hv : front.visited.testBit pc = false) (ha : ¬ p.accepts pc) :
    p.explore before after start (fuel + 1) (pc :: stack) front =
      p.explore before after start fuel (p.targets before after pc ++ stack)
        (p.visit start pc front) := by
  rw [explore, if_neg (by rw [hv]; exact Bool.false_ne_true)]
  unfold accepts at ha
  unfold targets visit reads
  cases hi : p.code[pc]? with
  | none => rfl
  | some i =>
      cases i with
      | accept => exact absurd hi ha
      | look l =>
          dsimp only
          split <;> rfl
      | _ => rfl

theorem explore_accepts {before after : Bytes} {start fuel pc : Nat} {stack : List Nat}
    {front : Front} (hv : front.visited.testBit pc = false) (ha : p.accepts pc) :
    p.explore before after start (fuel + 1) (pc :: stack) front =
      { front with visited := front.visited ||| 1 <<< pc, done := some start } := by
  rw [explore, if_neg (by rw [hv]; exact Bool.false_ne_true)]
  unfold accepts at ha
  simp only [ha]

theorem explore_visited {before after : Bytes} {start fuel pc : Nat} {stack : List Nat}
    {front : Front} (hv : front.visited.testBit pc = true) :
    p.explore before after start (fuel + 1) (pc :: stack) front =
      p.explore before after start fuel stack front := by
  rw [explore, if_pos hv]

theorem mem_live_visit {start pc : Nat} {front : Front} {t : Thread} (h : t ∈ front.live) :
    t ∈ (p.visit start pc front).live := by
  unfold visit
  dsimp only
  split
  · exact List.mem_cons_of_mem _ h
  · exact h

/-- A property that each visit and the end of an exploration keep holds behind it. -/
theorem explore_induction {before after : Bytes} {start : Nat} {P : List Nat → Front → Prop}
    (hskip : ∀ pc stack front, P (pc :: stack) front → front.visited.testBit pc = true →
      P stack front)
    (hvisit : ∀ pc stack front, P (pc :: stack) front → front.visited.testBit pc = false →
      ¬ p.accepts pc → P (p.targets before after pc ++ stack) (p.visit start pc front))
    (hdone : ∀ pc stack front, P (pc :: stack) front → front.visited.testBit pc = false →
      p.accepts pc → P [] { front with visited := front.visited ||| 1 <<< pc, done := some start }) :
    ∀ (fuel : Nat) (stack : List Nat) (front : Front), P stack front →
      stack.length + openEdges front.visited 0 p.code.toList ≤ fuel →
      P [] (p.explore before after start fuel stack front)
  | 0, stack, front, h, hfuel => by
      have hstack : stack = [] := List.eq_nil_of_length_eq_zero (by omega)
      subst hstack
      rw [explore]
      exact h
  | _ + 1, [], front, h, _ => by
      rw [explore]
      exact h
  | fuel + 1, pc :: stack, front, h, hfuel => by
      rw [List.length_cons] at hfuel
      cases hv : front.visited.testBit pc with
      | true =>
          rw [explore_visited hv]
          exact explore_induction hskip hvisit hdone fuel stack front (hskip _ _ _ h hv) (by omega)
      | false =>
          by_cases ha : p.accepts pc
          · rw [explore_accepts hv ha]
            exact hdone _ _ _ h hv ha
          · rw [explore_fresh hv ha]
            refine explore_induction hskip hvisit hdone fuel _ _ (hvisit _ _ _ h hv ha) ?_
            rw [List.length_append]
            show _ + openEdges (front.visited ||| 1 <<< pc) 0 p.code.toList ≤ fuel
            cases hi : p.code[pc]? with
            | none =>
                have hnone : p.targets before after pc = [] := by
                  unfold targets
                  rw [hi]
                have hle := openEdges_mark_le front.visited pc p.code.toList 0
                rw [hnone, List.length_nil]
                omega
            | some i =>
                have hlen := length_targets_le before after hi
                have hcode : p.code.toList[pc]? = some i := Array.getElem?_toList ▸ hi
                have hfresh : front.visited.testBit (0 + pc) = false := by rw [Nat.zero_add, hv]
                have hmark := openEdges_mark hcode hfresh
                rw [Nat.zero_add] at hmark
                omega

end Program

/-- Where an exploration stands: what a visited address leads to has been visited or is on the stack,
none of the addresses accepts, and there is a thread at those that take input. -/
structure Front.Closed (p : Program) (before after : Bytes) (stack : List Nat) (front : Front) :
    Prop where
  targets : ∀ pc, front.visited.testBit pc = true → ∀ q ∈ p.targets before after pc,
    front.visited.testBit q = true ∨ q ∈ stack
  silent : ∀ pc, front.visited.testBit pc = true → ¬ p.accepts pc
  live : ∀ pc, front.visited.testBit pc = true → p.reads pc = true →
    ∃ t ∈ front.live, t.pc = pc ∧ t.wait = 0

/-- The threads that remain, and the one that is done, have come here on a path. -/
structure Front.Sound (p : Program) (input : Bytes) (pos : Nat) (front : Front) : Prop where
  live : ∀ t ∈ front.live, ReflTransGen (p.Step input) (0, t.start) (t.pc, pos + t.wait)
  done : ∀ {start}, front.done = some start → p.Matches input start pos

namespace Program

variable {p : Program} {input before after : Bytes}

theorem closed_empty (p : Program) (before after : Bytes) : Front.Closed p before after [] {} := by
  constructor <;> exact fun pc h => absurd h (by simp)

theorem closed_visit {start pc : Nat} {stack : List Nat}
    {front : Front} (h : front.Closed p before after (pc :: stack)) (ha : ¬ p.accepts pc) :
    (p.visit start pc front).Closed p before after (p.targets before after pc ++ stack) := by
  have hvisited : ∀ q, (p.visit start pc front).visited.testBit q =
      (front.visited.testBit q || decide (q = pc)) := testBit_mark front.visited pc
  constructor
  · intro q hq t ht
    rw [hvisited, Bool.or_eq_true, decide_eq_true_eq] at hq
    rw [hvisited, Bool.or_eq_true, decide_eq_true_eq, List.mem_append]
    rcases hq with hq | rfl
    · rcases h.targets q hq t ht with ht | ht
      · exact Or.inl (Or.inl ht)
      · rcases List.mem_cons.mp ht with rfl | ht
        · exact Or.inl (Or.inr rfl)
        · exact Or.inr (Or.inr ht)
    · exact Or.inr (Or.inl ht)
  · intro q hq
    rw [hvisited, Bool.or_eq_true, decide_eq_true_eq] at hq
    rcases hq with hq | rfl
    · exact h.silent q hq
    · exact ha
  · intro q hq hr
    rw [hvisited, Bool.or_eq_true, decide_eq_true_eq] at hq
    rcases hq with hq | rfl
    · obtain ⟨t, ht, he⟩ := h.live q hq hr
      exact ⟨t, mem_live_visit ht, he⟩
    · refine ⟨⟨q, start, 0⟩, ?_, rfl, rfl⟩
      simp only [Program.visit, hr, if_true]
      exact List.mem_cons_self

/-- Where an exploration from one address ends. -/
theorem explore_induction_one (hp : p.Counted) (before after : Bytes) (start pc : Nat)
    {P : List Nat → Front → Prop}
    (hskip : ∀ pc stack front, P (pc :: stack) front → front.visited.testBit pc = true →
      P stack front)
    (hvisit : ∀ pc stack front, P (pc :: stack) front → front.visited.testBit pc = false →
      ¬ p.accepts pc → P (p.targets before after pc ++ stack) (p.visit start pc front))
    (hdone : ∀ pc stack front, P (pc :: stack) front → front.visited.testBit pc = false →
      p.accepts pc → P [] { front with visited := front.visited ||| 1 <<< pc, done := some start })
    {front : Front} (h : P [pc] front) :
    P [] (p.explore before after start (p.edges + 1) [pc] front) := by
  refine explore_induction hskip hvisit hdone _ _ _ h ?_
  have hle := openEdges_le_zero front.visited p.code.toList 0
  have hcounted : openEdges 0 0 p.code.toList ≤ p.edges := hp
  rw [List.length_singleton]
  omega

theorem live_explore (hp : p.Counted) {start pc : Nat} {front : Front} {t : Thread}
    (ht : t ∈ front.live) :
    t ∈ (p.explore before after start (p.edges + 1) [pc] front).live :=
  explore_induction_one (P := fun _ f => t ∈ f.live) hp before after start pc (fun _ _ _ h _ => h)
    (fun _ _ _ h _ _ => mem_live_visit h) (fun _ _ _ h _ _ => h) ht

theorem done_explore (hp : p.Counted) (before after : Bytes) (start pc : Nat) {front : Front}
    (hd : front.done = none) :
    (p.explore before after start (p.edges + 1) [pc] front).done = none ∨
      (p.explore before after start (p.edges + 1) [pc] front).done = some start :=
  explore_induction_one (P := fun _ f => f.done = none ∨ f.done = some start) hp before after start
    pc (fun _ _ _ h _ => h) (fun _ _ _ h _ _ => h) (fun _ _ _ _ _ _ => Or.inr rfl) (Or.inl hd)

/-- An exploration that comes to no end of a match has visited all that it can come to. -/
theorem closed_explore (hp : p.Counted) {start pc : Nat} {front : Front}
    (h : front.Closed p before after [])
    (hd : (p.explore before after start (p.edges + 1) [pc] front).done = none) :
    (p.explore before after start (p.edges + 1) [pc] front).Closed p before after [] ∧
      (p.explore before after start (p.edges + 1) [pc] front).visited.testBit pc = true := by
  suffices key : (p.explore before after start (p.edges + 1) [pc] front).done = none →
      (p.explore before after start (p.edges + 1) [pc] front).Closed p before after [] ∧
        ((p.explore before after start (p.edges + 1) [pc] front).visited.testBit pc = true ∨
          pc ∈ []) from ⟨(key hd).1, (key hd).2.resolve_right (by simp)⟩
  refine explore_induction_one (P := fun stack f => f.done = none →
    f.Closed p before after stack ∧ (f.visited.testBit pc = true ∨ pc ∈ stack)) hp before after
    start pc ?_ ?_ ?_ ?_
  · intro q stack f hf hv hnone
    obtain ⟨hc, hpc⟩ := hf hnone
    refine ⟨⟨fun a ha t ht => ?_, hc.silent, hc.live⟩, ?_⟩
    · rcases hc.targets a ha t ht with ht | ht
      · exact Or.inl ht
      · rcases List.mem_cons.mp ht with rfl | ht
        · exact Or.inl hv
        · exact Or.inr ht
    · rcases hpc with hpc | hpc
      · exact Or.inl hpc
      · rcases List.mem_cons.mp hpc with rfl | hpc
        · exact Or.inl hv
        · exact Or.inr hpc
  · intro q stack f hf hv ha hnone
    obtain ⟨hc, hpc⟩ := hf hnone
    refine ⟨closed_visit hc ha, ?_⟩
    show (f.visited ||| 1 <<< q).testBit pc = true ∨ _
    rw [testBit_mark, Bool.or_eq_true, decide_eq_true_eq, List.mem_append]
    rcases hpc with hpc | hpc
    · exact Or.inl (Or.inl hpc)
    · rcases List.mem_cons.mp hpc with rfl | hpc
      · exact Or.inl (Or.inr rfl)
      · exact Or.inr (Or.inr hpc)
  · intro q stack f _ _ _ hnone
    cases hnone
  · intro _
    refine ⟨⟨fun a ha t ht => ?_, h.silent, h.live⟩, Or.inr List.mem_cons_self⟩
    exact Or.inl ((h.targets a ha t ht).resolve_right (by simp))

theorem sound_explore (hp : p.Counted) {start pos pc : Nat} {front : Front}
    (h : front.Sound p input pos) (hpath : ReflTransGen (p.Step input) (0, start) (pc, pos)) :
    (p.explore (input.take pos).reverse (input.drop pos) start (p.edges + 1) [pc] front).Sound p
      input pos := by
  suffices key : (p.explore (input.take pos).reverse (input.drop pos) start (p.edges + 1) [pc]
      front).Sound p input pos ∧ ∀ q ∈ [], ReflTransGen (p.Step input) (0, start) (q, pos) from key.1
  refine explore_induction_one (P := fun stack f => f.Sound p input pos ∧
    ∀ q ∈ stack, ReflTransGen (p.Step input) (0, start) (q, pos)) hp _ _ start pc ?_ ?_ ?_ ?_
  · intro q stack f hf _
    exact ⟨hf.1, fun t ht => hf.2 t (List.mem_cons_of_mem q ht)⟩
  · intro q stack f hf _ _
    have hq := hf.2 q List.mem_cons_self
    refine ⟨⟨fun t ht => ?_, hf.1.done⟩, fun t ht => ?_⟩
    · unfold visit at ht
      dsimp only at ht
      split at ht
      · rcases List.mem_cons.mp ht with rfl | ht
        · exact hq
        · exact hf.1.live t ht
      · exact hf.1.live t ht
    · rcases List.mem_append.mp ht with ht | ht
      · exact hq.tail (.free ht)
      · exact hf.2 t (List.mem_cons_of_mem q ht)
  · intro q stack f hf _ ha
    refine ⟨⟨hf.1.live, fun hd => ?_⟩, by simp⟩
    rw [← Option.some.inj hd]
    exact ⟨q, hf.2 q List.mem_cons_self, ha⟩
  · refine ⟨h, fun q hq => ?_⟩
    rw [List.mem_singleton.mp hq]
    exact hpath

/-- The threads that an exploration adds stand in front of the others. -/
theorem ordered_explore (hp : p.Counted) (before after : Bytes) {start : Nat} (pc : Nat)
    {front : Front} (h : front.live.Pairwise fun a b => b.start ≤ a.start) (hs : ∀ t ∈ front.live, t.start ≤ start) :
    let f := p.explore before after start (p.edges + 1) [pc] front
    (f.live.Pairwise fun a b => b.start ≤ a.start) ∧ ∀ t ∈ f.live, t.start ≤ start := by
  refine explore_induction_one (P := fun _ f =>
    (f.live.Pairwise fun a b => b.start ≤ a.start) ∧ ∀ t ∈ f.live, t.start ≤ start) hp before after
    start pc (fun _ _ _ h _ => h) ?_ (fun _ _ _ h _ _ => h) ⟨h, hs⟩
  intro q stack f hf _ _
  unfold visit
  dsimp only
  split
  · refine ⟨List.pairwise_cons.mpr ⟨hf.2, hf.1⟩, fun t ht => ?_⟩
    rcases List.mem_cons.mp ht with rfl | ht
    · exact Nat.le_refl _
    · exact hf.2 t ht
  · exact hf

theorem reads_of_taken? {pc n : Nat} (h : p.taken? after pc = some n) : p.reads pc = true := by
  unfold taken? at h
  unfold reads
  split at h
  · rename_i hi
    rw [hi]
  · rename_i hi
    rw [hi]
  · cases h

/-- A path to the end of a match leaves what has been explored where an instruction takes input. -/
theorem leadsTo_read {pos pc stop : Nat} {front : Front}
    (h : front.Closed p (input.take pos).reverse (input.drop pos) [])
    (hv : front.visited.testBit pc = true) (hpath : p.LeadsTo input (pc, pos) stop) :
    ∃ q, front.visited.testBit q = true ∧ p.reads q = true ∧ p.LeadsTo input (q, pos) stop := by
  obtain ⟨last, hpath, hlast⟩ := hpath
  have key : ∀ a, ReflTransGen (p.Step input) a (last, stop) → a.2 = pos →
      front.visited.testBit a.1 = true →
      ∃ q, front.visited.testBit q = true ∧ p.reads q = true ∧ p.LeadsTo input (q, pos) stop := by
    intro a ha
    induction ha using ReflTransGen.head_induction_on with
    | refl =>
        intro _ hvisited
        exact absurd hlast (h.silent last hvisited)
    | head hstep hrest ih =>
        intro hpos hvisited
        cases hstep with
        | free htarget =>
            dsimp only at hpos
            subst hpos
            exact ih rfl ((h.targets _ hvisited _ htarget).resolve_right (by simp))
        | @take q at' n htaken =>
            dsimp only at hpos hvisited
            subst hpos
            exact ⟨q, hvisited, reads_of_taken? htaken,
              last, hrest.head (.take htaken), hlast⟩
  exact key _ hpath rfl hv

/-! ### Threads -/

/-- Threads that wait to be taken up at a position: they stand in the order of their starts, which lie
between the first position and this one, and they have come on paths. -/
structure Queue (p : Program) (input : Bytes) (first pos : Nat) (threads : List Thread) : Prop where
  within : ∀ t ∈ threads, first ≤ t.start ∧ t.start ≤ pos
  ordered : threads.Pairwise fun a b => a.start ≤ b.start
  sound : ∀ t ∈ threads, ReflTransGen (p.Step input) (0, t.start) (t.pc, pos + t.wait)

/-- A front at a position where nothing is done and the given threads are still to be taken up. -/
structure Ready (p : Program) (input : Bytes) (pos : Nat) (threads : List Thread)
    (front : Front) : Prop where
  undone : front.done = none
  closed : front.Closed p (input.take pos).reverse (input.drop pos) []
  sound : front.Sound p input pos
  ordered : front.live.Pairwise fun a b => b.start ≤ a.start
  ahead : ∀ t ∈ front.live, ∀ u ∈ threads, t.start ≤ u.start

/-- A front at a position where the given threads have been taken up. Whatever they lead to is late
against a match that ends here, or a thread leads to it that started no later. -/
structure Settled (p : Program) (input : Bytes) (pos : Nat) (threads : List Thread)
    (front : Front) : Prop where
  sound : front.Sound p input pos
  ordered : front.live.Pairwise fun a b => b.start ≤ a.start
  behind : ∀ {start}, front.done = some start → ∀ t ∈ front.live, t.start ≤ start
  complete : ∀ t ∈ threads, ∀ stop, p.LeadsTo input (t.pc, pos + t.wait) stop →
    (∃ start, front.done = some start ∧ start ≤ t.start) ∨
      ∃ u ∈ front.live, u.start ≤ t.start ∧ p.LeadsTo input (u.pc, pos + u.wait) stop ∧
        (u.wait = 0 → p.reads u.pc = true)

variable {first pos : Nat} {threads : List Thread}

theorem ready_empty (p : Program) (input : Bytes) (pos : Nat) (threads : List Thread) :
    p.Ready input pos threads {} where
  undone := rfl
  closed := closed_empty p _ _
  sound := ⟨fun _ ht => (by cases ht), fun hd => (by cases hd)⟩
  ordered := List.Pairwise.nil
  ahead := fun _ ht => (by cases ht)

/-- A thread that still waits is put to those that remain. -/
theorem Ready.keep {t : Thread} {front : Front} (h : p.Ready input pos (t :: threads) front)
    (hq : p.Queue input first pos (t :: threads)) :
    p.Ready input pos threads { front with live := t :: front.live } where
  undone := h.undone
  closed := by
    refine ⟨h.closed.targets, h.closed.silent, fun pc hv hr => ?_⟩
    obtain ⟨u, hu, he⟩ := h.closed.live pc hv hr
    exact ⟨u, List.mem_cons_of_mem t hu, he⟩
  sound := by
    refine ⟨fun u hu => ?_, h.sound.done⟩
    rcases List.mem_cons.mp hu with rfl | hu
    · exact hq.sound u List.mem_cons_self
    · exact h.sound.live u hu
  ordered := List.pairwise_cons.mpr
    ⟨fun u hu => h.ahead u hu t List.mem_cons_self, h.ordered⟩
  ahead := by
    intro u hu v hv
    rcases List.mem_cons.mp hu with rfl | hu
    · exact (List.pairwise_cons.mp hq.ordered).1 v hv
    · exact h.ahead u hu v (List.mem_cons_of_mem t hv)

theorem Queue.tail {t : Thread} (h : p.Queue input first pos (t :: threads)) :
    p.Queue input first pos threads where
  within := fun u hu => h.within u (List.mem_cons_of_mem t hu)
  ordered := (List.pairwise_cons.mp h.ordered).2
  sound := fun u hu => h.sound u (List.mem_cons_of_mem t hu)

/-- The threads that remain do so while others are taken up. -/
theorem live_settle (hp : p.Counted) {u : Thread} : ∀ (threads : List Thread) {front : Front},
    u ∈ front.live → u ∈ (p.settle before after threads front).live
  | [], _, hu => hu
  | t :: rest, front, hu => by
      rw [settle]
      split
      · dsimp only
        split
        · exact live_explore hp hu
        · exact live_settle hp rest (live_explore hp hu)
      · exact live_settle hp rest (List.mem_cons_of_mem t hu)

/-- **Settling**: taking up threads loses no path. -/
theorem settled_settle (hp : p.Counted) : ∀ (threads : List Thread) {front : Front},
    p.Queue input first pos threads → p.Ready input pos threads front →
      p.Settled input pos threads
        (p.settle (input.take pos).reverse (input.drop pos) threads front)
  | [], front, _, h => by
      rw [settle]
      refine ⟨h.sound, h.ordered, fun hd => ?_, fun t ht => (by cases ht)⟩
      rw [h.undone] at hd
      cases hd
  | t :: rest, front, hq, h => by
      have hlater := (List.pairwise_cons.mp hq.ordered).1
      rw [settle]
      split
      · rename_i hwait
        have hpath := hq.sound t List.mem_cons_self
        rw [hwait, Nat.add_zero] at hpath
        have hsound := sound_explore hp h.sound hpath
        obtain ⟨hordered, hbehind⟩ := ordered_explore hp (input.take pos).reverse
          (input.drop pos) t.pc h.ordered fun u hu => h.ahead u hu t List.mem_cons_self
        rcases done_explore hp (input.take pos).reverse (input.drop pos) t.start t.pc h.undone
          with hd | hd
        · obtain ⟨hclosed, hvisited⟩ := closed_explore hp h.closed hd
          dsimp only at hordered hbehind ⊢
          rw [if_neg (by rw [hd]; exact Bool.false_ne_true)]
          have hrest := settled_settle hp rest hq.tail ⟨hd, hclosed, hsound, hordered,
            fun u hu v hv => Nat.le_trans (hbehind u hu) (hlater v hv)⟩
          refine ⟨hrest.sound, hrest.ordered, hrest.behind, fun u hu stop hstop => ?_⟩
          rcases List.mem_cons.mp hu with rfl | hu
          · rw [hwait, Nat.add_zero] at hstop
            obtain ⟨q, hvq, hr, hstop⟩ := leadsTo_read hclosed hvisited hstop
            obtain ⟨v, hv, rfl, hvwait⟩ := hclosed.live q hvq hr
            refine Or.inr ⟨v, live_settle hp rest hv, hbehind v hv, ?_, fun _ => hr⟩
            rw [hvwait, Nat.add_zero]
            exact hstop
          · exact hrest.complete u hu stop hstop
        · dsimp only at hordered hbehind ⊢
          rw [if_pos (by rw [hd]; rfl)]
          refine ⟨hsound, hordered, fun hs => ?_, fun u hu stop _ => Or.inl ⟨t.start, hd, ?_⟩⟩
          · rw [hd] at hs
            rw [← Option.some.inj hs]
            exact hbehind
          · rcases List.mem_cons.mp hu with rfl | hu
            · exact Nat.le_refl _
            · exact hlater u hu
      · rename_i hwait
        have hrest := settled_settle hp rest hq.tail (h.keep hq)
        refine ⟨hrest.sound, hrest.ordered, hrest.behind, fun u hu stop hstop => ?_⟩
        rcases List.mem_cons.mp hu with rfl | hu
        · exact Or.inr ⟨u, live_settle hp rest List.mem_cons_self, Nat.le_refl _, hstop,
            fun he => absurd he hwait⟩
        · exact hrest.complete u hu stop hstop

/-! ### The next byte -/

theorem advance_ready {b : UInt8} {rest : Bytes} {t : Thread} (hwait : t.wait = 0) :
    p.advance b rest t =
      (p.taken? (b :: rest) t.pc).map fun n => ⟨t.pc + 1, t.start, n - 1⟩ := by
  rw [advance, if_pos hwait]
  unfold taken?
  cases p.code[t.pc]? with
  | none => rfl
  | some i =>
      cases i with
      | byte set =>
          dsimp only
          split <;> rfl
      | scalar set =>
          dsimp only
          cases Utf8.scalar? (b :: rest) with
          | none => rfl
          | some r =>
              dsimp only
              split <;> rfl
      | _ => rfl

/-- A thread that moves on stays on its path. -/
theorem path_advance {b : UInt8} {rest : Bytes} {t u : Thread} (hdrop : input.drop pos = b :: rest)
    (hpath : ReflTransGen (p.Step input) (0, t.start) (t.pc, pos + t.wait))
    (h : p.advance b rest t = some u) :
    ReflTransGen (p.Step input) (0, u.start) (u.pc, pos + 1 + u.wait) := by
  by_cases hwait : t.wait = 0
  · rw [advance_ready hwait] at h
    obtain ⟨n, hn, rfl⟩ := Option.map_eq_some_iff.mp h
    rw [hwait, Nat.add_zero] at hpath
    rw [← hdrop] at hn
    have hpos := (taken?_bounds hn).1
    have hnext : pos + 1 + (n - 1) = pos + n := by omega
    rw [hnext]
    exact hpath.tail (.take hn)
  · rw [advance, if_neg hwait] at h
    rw [← Option.some.inj h]
    have hnext : pos + 1 + (t.wait - 1) = pos + t.wait := by omega
    rw [hnext]
    exact hpath

/-- A thread that leads to the end of a match moves on. -/
theorem leadsTo_advance {t : Thread} {stop : Nat} (hreads : t.wait = 0 → p.reads t.pc = true)
    (hle : pos + t.wait ≤ input.length) (h : p.LeadsTo input (t.pc, pos + t.wait) stop) :
    ∃ b rest u, input.drop pos = b :: rest ∧ p.advance b rest t = some u ∧ u.start = t.start ∧
      p.LeadsTo input (u.pc, pos + 1 + u.wait) stop := by
  by_cases hwait : t.wait = 0
  · have hr := hreads hwait
    obtain ⟨last, hpath, hlast⟩ := h
    rw [hwait, Nat.add_zero] at hpath
    rcases hpath.cases_head with he | ⟨next, hstep, hrest⟩
    · have hpc : t.pc = last := congrArg Prod.fst he
      unfold reads at hr
      unfold accepts at hlast
      rw [hpc, hlast] at hr
      cases hr
    · cases hstep with
      | free htarget =>
          unfold reads at hr
          unfold targets at htarget
          split at hr
          · rename_i hi
            rw [hi] at htarget
            cases htarget
          · rename_i hi
            rw [hi] at htarget
            cases htarget
          · cases hr
      | @take _ _ n htaken =>
          have hbounds := taken?_bounds htaken
          cases hdrop : input.drop pos with
          | nil =>
              rw [hdrop, List.length_nil] at hbounds
              omega
          | cons b rest =>
              refine ⟨b, rest, ⟨t.pc + 1, t.start, n - 1⟩, rfl, ?_, rfl, last, ?_, hlast⟩
              · rw [advance_ready hwait, ← hdrop, htaken]
                rfl
              · have hnext : pos + 1 + (n - 1) = pos + n := by omega
                rw [hnext]
                exact hrest
  · have hlt : pos < input.length := by omega
    refine ⟨input[pos], input.drop (pos + 1), { t with wait := t.wait - 1 },
      List.drop_eq_getElem_cons hlt, ?_, rfl, ?_⟩
    · rw [advance, if_neg hwait]
    · have hnext : pos + 1 + (t.wait - 1) = pos + t.wait := by omega
      rw [hnext]
      exact h

/-! ### The search -/

/-- What a search from a position on is to give: a match that starts first, or none where there is
none. -/
def Finds (p : Program) (input : Bytes) (first : Nat) : Option Span → Prop
  | some span => p.Matches input span.start span.stop ∧
      ∀ i j, first ≤ i → i ≤ input.length → p.Matches input i j → span.start ≤ i
  | none => ∀ i j, first ≤ i → i ≤ input.length → ¬ p.Matches input i j

/-- Where a search stands: the best match so far, and threads that started no later. Every match from
the first position on is late against the best one, or starts behind the present position, or a thread
leads to its end that started no later. -/
structure Searching (p : Program) (input : Bytes) (first pos : Nat) (threads : List Thread)
    (best : Option Span) : Prop where
  queue : p.Queue input first pos threads
  found : ∀ {s}, best = some s → p.Matches input s.start s.stop ∧ s.start ≤ pos
  behind : ∀ {s}, best = some s → ∀ t ∈ threads, t.start ≤ s.start
  complete : ∀ i j, first ≤ i → i ≤ pos → p.Matches input i j →
    (∃ s, best = some s ∧ s.start ≤ i) ∨
      ∃ t ∈ threads, t.start ≤ i ∧ p.LeadsTo input (t.pc, pos + t.wait) j

/-- Where a search stands when the threads at a position have been settled. -/
structure Searched (p : Program) (input : Bytes) (first pos : Nat) (front : Front)
    (best : Option Span) : Prop where
  within : ∀ t ∈ front.live, first ≤ t.start ∧ t.start ≤ pos
  sound : ∀ t ∈ front.live, ReflTransGen (p.Step input) (0, t.start) (t.pc, pos + t.wait)
  ordered : front.live.Pairwise fun a b => b.start ≤ a.start
  found : ∀ {s}, best = some s → p.Matches input s.start s.stop ∧ s.start ≤ pos
  behind : ∀ {s}, best = some s → ∀ t ∈ front.live, t.start ≤ s.start
  complete : ∀ i j, first ≤ i → i ≤ pos → p.Matches input i j →
    (∃ s, best = some s ∧ s.start ≤ i) ∨
      ∃ t ∈ front.live, t.start ≤ i ∧ p.LeadsTo input (t.pc, pos + t.wait) j ∧
        (t.wait = 0 → p.reads t.pc = true)

/-- The better one of the match that ends at a position and the one found before. -/
def better (front : Front) (pos : Nat) (best : Option Span) : Option Span :=
  (front.done.map fun start => ⟨start, pos⟩) <|> best

theorem Searching.settle (hp : p.Counted) {best : Option Span}
    (h : p.Searching input first pos threads best) :
    let front := p.settle (input.take pos).reverse (input.drop pos) threads {}
    p.Searched input first pos front (better front pos best) := by
  have hs := settled_settle hp threads h.queue (ready_empty p input pos threads)
  have hwithin := p.settle_within (input.take pos).reverse (input.drop pos) threads h.queue.within
    (within_empty first pos)
  have hlate : ∀ {s}, best = some s → Front.Within first s.start
      (p.settle (input.take pos).reverse (input.drop pos) threads {}) := fun hb =>
    p.settle_within _ _ threads
      (fun t ht => ⟨(h.queue.within t ht).1, h.behind hb t ht⟩) (within_empty first _)
  dsimp only
  generalize p.settle (input.take pos).reverse (input.drop pos) threads {} = front
    at hs hwithin hlate
  have hbest : ∀ {s}, best = some s → ∃ s', better front pos best = some s' ∧
      s'.start ≤ s.start := by
    intro s hb
    cases hd : front.done with
    | none => exact ⟨s, by rw [better, hd, hb]; rfl, Nat.le_refl _⟩
    | some start => exact ⟨⟨start, pos⟩, by rw [better, hd]; rfl, ((hlate hb).done hd).2⟩
  refine ⟨hwithin.live, hs.sound.live, hs.ordered, fun {s} hb => ?_, fun {s} hb => ?_,
    fun i j hi hle hm => ?_⟩
  · cases hd : front.done with
    | none =>
        rw [better, hd] at hb
        exact h.found hb
    | some start =>
        rw [better, hd] at hb
        rw [← Option.some.inj hb]
        exact ⟨hs.sound.done hd, (hwithin.done hd).2⟩
  · cases hd : front.done with
    | none =>
        rw [better, hd] at hb
        exact fun t ht => ((hlate hb).live t ht).2
    | some start =>
        rw [better, hd] at hb
        rw [← Option.some.inj hb]
        exact hs.behind hd
  · rcases h.complete i j hi hle hm with ⟨s, hb, hsi⟩ | ⟨t, ht, hti, hleads⟩
    · obtain ⟨s', hb', hle'⟩ := hbest hb
      exact Or.inl ⟨s', hb', Nat.le_trans hle' hsi⟩
    · rcases hs.complete t ht j hleads with ⟨start, hd, hst⟩ | ⟨u, hu, hut, hleads, hr⟩
      · exact Or.inl ⟨⟨start, pos⟩, by rw [better, hd]; rfl, Nat.le_trans hst hti⟩
      · exact Or.inr ⟨u, hu, Nat.le_trans hut hti, hleads, hr⟩

variable {front : Front} {best : Option Span}

theorem Searched.wait_le (h : p.Searched input first pos front best) (hpos : pos ≤ input.length)
    {t : Thread} (ht : t ∈ front.live) : pos + t.wait ≤ input.length :=
  (pos_le_of_path (h.sound t ht) (Nat.le_trans (h.within t ht).2 hpos)).2

/-- At the end of the input no thread moves on. -/
theorem Searched.finds_of_end (h : p.Searched input first pos front best)
    (hend : input.drop pos = []) (hpos : pos ≤ input.length) : p.Finds input first best := by
  have hlen : input.length ≤ pos := List.drop_eq_nil_iff.mp hend
  have hall : ∀ i j, first ≤ i → i ≤ input.length → p.Matches input i j →
      ∃ s, best = some s ∧ s.start ≤ i := by
    intro i j hi hle hm
    rcases h.complete i j hi (Nat.le_trans hle hlen) hm with hb | ⟨t, ht, _, hleads, hr⟩
    · exact hb
    · obtain ⟨b, rest, _, hdrop, _⟩ := leadsTo_advance hr (h.wait_le hpos ht) hleads
      rw [hend] at hdrop
      cases hdrop
  cases hb : best with
  | none =>
      intro i j hi hle hm
      obtain ⟨s, hs, _⟩ := hall i j hi hle hm
      rw [hb] at hs
      cases hs
  | some s =>
      refine ⟨(h.found hb).1, fun i j hi hle hm => ?_⟩
      obtain ⟨s', hs', hle'⟩ := hall i j hi hle hm
      rw [hb] at hs'
      rw [Option.some.inj hs']
      exact hle'

/-- The threads that move on carry the search to the next position. -/
theorem Searched.advance (h : p.Searched input first pos front best) (hpos : pos ≤ input.length)
    {b : UInt8} {rest : Bytes} (hdrop : input.drop pos = b :: rest) :
    let moved := front.live.reverse.filterMap (p.advance b rest)
    p.Queue input first (pos + 1) moved ∧ (∀ t ∈ moved, t.start ≤ pos) ∧
      (∀ {s}, best = some s → ∀ t ∈ moved, t.start ≤ s.start) ∧
      ∀ i j, first ≤ i → i ≤ pos → p.Matches input i j →
        (∃ s, best = some s ∧ s.start ≤ i) ∨
          ∃ t ∈ moved, t.start ≤ i ∧ p.LeadsTo input (t.pc, pos + 1 + t.wait) j := by
  have horigin : ∀ u ∈ front.live.reverse.filterMap (p.advance b rest),
      ∃ t ∈ front.live, p.advance b rest t = some u := by
    intro u hu
    obtain ⟨t, ht, hadv⟩ := List.mem_filterMap.mp hu
    exact ⟨t, List.mem_reverse.mp ht, hadv⟩
  refine ⟨⟨fun u hu => ?_, ?_, fun u hu => ?_⟩, fun u hu => ?_, fun hb u hu => ?_,
    fun i j hi hle hm => ?_⟩
  · obtain ⟨t, ht, hadv⟩ := horigin u hu
    obtain ⟨h₁, h₂⟩ := h.within t ht
    rw [p.start_advance hadv]
    exact ⟨h₁, Nat.le_succ_of_le h₂⟩
  · rw [List.pairwise_filterMap]
    refine (List.pairwise_reverse.mpr h.ordered).imp fun {s t} hst u hu v hv => ?_
    rw [p.start_advance hu, p.start_advance hv]
    exact hst
  · obtain ⟨t, ht, hadv⟩ := horigin u hu
    exact path_advance hdrop (h.sound t ht) hadv
  · obtain ⟨t, ht, hadv⟩ := horigin u hu
    rw [p.start_advance hadv]
    exact (h.within t ht).2
  · obtain ⟨t, ht, hadv⟩ := horigin u hu
    rw [p.start_advance hadv]
    exact h.behind hb t ht
  · rcases h.complete i j hi hle hm with hb | ⟨t, ht, hti, hleads, hr⟩
    · exact Or.inl hb
    · obtain ⟨b', rest', u, hdrop', hadv, hstart, hleads⟩ :=
        leadsTo_advance hr (h.wait_le hpos ht) hleads
      rw [hdrop, List.cons.injEq] at hdrop'
      obtain ⟨rfl, rfl⟩ := hdrop'
      exact Or.inr ⟨u, List.mem_filterMap.mpr ⟨t, List.mem_reverse.mpr ht, hadv⟩,
        hstart.symm ▸ hti, hleads⟩

/-- As long as there is no match, a thread starts at the next position too. -/
theorem Searched.next_none (h : p.Searched input first pos front none) (hpos : pos ≤ input.length)
    (hfirst : first ≤ pos) {b : UInt8} {rest : Bytes} (hdrop : input.drop pos = b :: rest) :
    p.Searching input first (pos + 1)
      (front.live.reverse.filterMap (p.advance b rest) ++ [⟨0, pos + 1, 0⟩]) none := by
  obtain ⟨hqueue, hstart, _, hcomplete⟩ := h.advance hpos hdrop
  refine ⟨⟨fun t ht => ?_, ?_, fun t ht => ?_⟩, fun hs => (by cases hs), fun hs => (by cases hs),
    fun i j hi hle hm => ?_⟩
  · rcases List.mem_append.mp ht with ht | ht
    · exact hqueue.within t ht
    · rw [List.mem_singleton.mp ht]
      exact ⟨Nat.le_succ_of_le hfirst, Nat.le_refl _⟩
  · refine List.pairwise_append.mpr ⟨hqueue.ordered, List.pairwise_singleton _ _, ?_⟩
    intro t ht u hu
    rw [List.mem_singleton.mp hu]
    exact Nat.le_succ_of_le (hstart t ht)
  · rcases List.mem_append.mp ht with ht | ht
    · exact hqueue.sound t ht
    · rw [List.mem_singleton.mp ht]
      exact ReflTransGen.refl
  · rcases Nat.lt_or_ge pos i with hlt | hle'
    · have hi : i = pos + 1 := by omega
      subst hi
      exact Or.inr ⟨⟨0, pos + 1, 0⟩, List.mem_append_right _ List.mem_cons_self, Nat.le_refl _, hm⟩
    · rcases hcomplete i j hi hle' hm with ⟨s, hs, _⟩ | ⟨t, ht, hti, hleads⟩
      · cases hs
      · exact Or.inr ⟨t, List.mem_append_left _ ht, hti, hleads⟩

/-- Once there is a match, only the threads that started no later go on. -/
theorem Searched.next_some {span : Span} (h : p.Searched input first pos front (some span))
    (hpos : pos ≤ input.length) {b : UInt8} {rest : Bytes} (hdrop : input.drop pos = b :: rest) :
    p.Searching input first (pos + 1) (front.live.reverse.filterMap (p.advance b rest))
      (some span) := by
  obtain ⟨hqueue, _, hbehind, hcomplete⟩ := h.advance hpos hdrop
  obtain ⟨hmatch, hle⟩ := h.found rfl
  refine ⟨hqueue, fun hs => ?_, fun hs => hbehind hs, fun i j hi hi' hm => ?_⟩
  · rw [← Option.some.inj hs]
    exact ⟨hmatch, Nat.le_succ_of_le hle⟩
  · rcases Nat.lt_or_ge pos i with hlt | hle'
    · exact Or.inl ⟨span, rfl, by omega⟩
    · exact hcomplete i j hi hle' hm

theorem findFrom?_finds (hp : p.Counted) : ∀ (after : Bytes) (pos : Nat) (threads : List Thread)
    (best : Option Span), input.drop pos = after → pos ≤ input.length → first ≤ pos →
      p.Searching input first pos threads best →
      p.Finds input first (p.findFrom? (input.take pos).reverse pos threads best after)
  | [], pos, threads, best, hdrop, hpos, hfirst, h => by
      have hs := h.settle hp
      rw [hdrop] at hs
      rw [findFrom?]
      exact hs.finds_of_end hdrop hpos
  | b :: rest, pos, threads, best, hdrop, hpos, hfirst, h => by
      have hs := h.settle hp
      rw [hdrop] at hs
      have hlt : pos < input.length := by
        have := congrArg List.length hdrop
        rw [List.length_drop, List.length_cons] at this
        omega
      have hcons := List.drop_eq_getElem_cons hlt
      rw [hdrop, List.cons.injEq] at hcons
      have hbefore : b :: (input.take pos).reverse = (input.take (pos + 1)).reverse := by
        rw [List.take_succ_eq_append_getElem hlt, List.reverse_append, hcons.1]
        rfl
      rw [findFrom?]
      unfold better at hs
      dsimp only at hs ⊢
      split
      · rename_i hb
        rw [hb] at hs
        rw [hbefore]
        exact findFrom?_finds hp rest (pos + 1) _ none hcons.2.symm hlt (Nat.le_succ_of_le hfirst)
          (hs.next_none hpos hfirst hdrop)
      · rename_i span hb
        rw [hb] at hs
        have hnext := hs.next_some hpos hdrop
        split
        · rename_i hempty
          rw [List.isEmpty_iff] at hempty
          refine ⟨(hs.found rfl).1, fun i j hi hle hm => ?_⟩
          rcases Nat.lt_or_ge pos i with hlt' | hle'
          · exact Nat.le_trans (hs.found rfl).2 (Nat.le_of_lt hlt')
          · rcases hnext.complete i j hi (Nat.le_succ_of_le hle') hm with ⟨s, hs', hsi⟩ | ⟨t, ht, _⟩
            · rw [Option.some.inj hs']
              exact hsi
            · rw [hempty] at ht
              cases ht
        · rw [hbefore]
          exact findFrom?_finds hp rest (pos + 1) _ _ hcons.2.symm hlt (Nat.le_succ_of_le hfirst)
            hnext

/-- **Searches and paths**: a search from a position on finds a match that starts first if there is
any, and nothing otherwise. -/
theorem find?_finds (hp : p.Counted) (hpos : pos ≤ input.length) :
    p.Finds input pos (p.find? (input.take pos).reverse (input.drop pos) pos) := by
  rw [find?]
  refine findFrom?_finds hp _ pos _ none rfl hpos (Nat.le_refl pos) ?_
  refine ⟨⟨fun t ht => ?_, List.pairwise_singleton _ _, fun t ht => ?_⟩, fun hs => (by cases hs),
    fun hs => (by cases hs), fun i j hi hle hm => Or.inr ⟨_, List.mem_cons_self, hi, ?_⟩⟩
  · rw [List.mem_singleton.mp ht]
    exact ⟨Nat.le_refl _, Nat.le_refl _⟩
  · rw [List.mem_singleton.mp ht]
    exact ReflTransGen.refl
  · obtain rfl : i = pos := by omega
    exact hm

end Program

end TrafficRules.Regex
