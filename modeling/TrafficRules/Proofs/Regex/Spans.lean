import TrafficRules.Engine.Basic

/-! # Where matches lie

A match that is searched for from a position on lies at or behind this position and within the input,
and it does not stop before it starts (`Program.find?_between`). The invariant is about threads: each
of them started between the first position and the present one (`Front.Within`).

Matches that are searched for one behind the other do not overlap, and an empty one is not found
again at its place (`findAll_sorted`). So as many matches as end in a stretch of bytes, two for each
position at most (`length_le_of_sorted`). -/

namespace TrafficRules.Regex

/-- The threads and the thread that is done started within bounds. -/
structure Front.Within (first last : Nat) (front : Front) : Prop where
  live : ∀ t ∈ front.live, first ≤ t.start ∧ t.start ≤ last
  done : ∀ {start}, front.done = some start → first ≤ start ∧ start ≤ last

/-- A span that starts at or behind one position and stops at or before another one. -/
structure Span.Between (first last : Nat) (span : Span) : Prop where
  first_le : first ≤ span.start
  start_le : span.start ≤ span.stop
  stop_le : span.stop ≤ last

/-- A span starts where another one has stopped, or behind it if the other one is empty. -/
structure Span.Precedes (a b : Span) : Prop where
  stop_le : a.stop ≤ b.start
  stop_lt : a.start = a.stop → a.stop < b.start

theorem within_empty (first last : Nat) : Front.Within first last {} :=
  ⟨fun t ht => (by cases ht), fun hd => (by cases hd)⟩

namespace Program

variable {first last : Nat} (p : Program)

theorem explore_within (before after : Bytes) {start : Nat} (hf : first ≤ start)
    (hl : start ≤ last) : ∀ (fuel : Nat) (stack : List Nat) {front : Front},
      front.Within first last → (p.explore before after start fuel stack front).Within first last
  | 0, _, front, h => by
      rw [explore]
      exact h
  | _ + 1, [], front, h => by
      rw [explore]
      exact h
  | fuel + 1, pc :: stack, front, h => by
      have hvisited : Front.Within first last
          { front with visited := front.visited ||| 1 <<< pc } := ⟨h.live, h.done⟩
      have hlive : Front.Within first last { front with
          live := ⟨pc, start, 0⟩ :: front.live, visited := front.visited ||| 1 <<< pc } := by
        refine ⟨fun t ht => ?_, h.done⟩
        rcases List.mem_cons.mp ht with rfl | ht
        · exact ⟨hf, hl⟩
        · exact h.live t ht
      unfold explore
      split
      · exact explore_within before after hf hl fuel stack h
      · split
        · refine ⟨h.live, fun hd => ?_⟩
          rw [← Option.some.inj hd]
          exact ⟨hf, hl⟩
        · exact explore_within before after hf hl fuel _ hvisited
        · exact explore_within before after hf hl fuel _ hvisited
        · exact explore_within before after hf hl fuel _ hvisited
        · exact explore_within before after hf hl fuel _ hlive
        · exact explore_within before after hf hl fuel _ hlive
        · exact explore_within before after hf hl fuel _ hvisited

theorem settle_within (before after : Bytes) : ∀ (threads : List Thread) {front : Front},
    (∀ t ∈ threads, first ≤ t.start ∧ t.start ≤ last) → front.Within first last →
      (p.settle before after threads front).Within first last
  | [], _, _, h => by
      rw [settle]
      exact h
  | t :: rest, front, ht, h => by
      obtain ⟨hf, hl⟩ := ht t List.mem_cons_self
      have hrest : ∀ t ∈ rest, first ≤ t.start ∧ t.start ≤ last :=
        fun u hu => ht u (List.mem_cons_of_mem t hu)
      unfold settle
      split
      · have hexplored := p.explore_within before after hf hl (p.edges + 1) [t.pc] h
        dsimp only
        split
        · exact hexplored
        · exact settle_within before after rest hrest hexplored
      · refine settle_within before after rest hrest ⟨fun u hu => ?_, h.done⟩
        rcases List.mem_cons.mp hu with rfl | hu
        · exact ⟨hf, hl⟩
        · exact h.live u hu

/-- A thread that moves on keeps the position where it started. -/
theorem start_advance {b : UInt8} {rest : Bytes} {t u : Thread}
    (h : p.advance b rest t = some u) : u.start = t.start := by
  unfold advance at h
  split at h
  · split at h
    · split at h
      · rw [← Option.some.inj h]
      · cases h
    · split at h
      · split at h
        · rw [← Option.some.inj h]
        · cases h
      · cases h
    · cases h
  · rw [← Option.some.inj h]

/-- The match found when the threads at a position are settled, or else the one found before. -/
theorem best_between {before after : Bytes} {pos : Nat} {threads : List Thread}
    {best : Option Span} {span : Span}
    (ht : ∀ t ∈ threads, first ≤ t.start ∧ t.start ≤ pos)
    (hb : ∀ {s}, best = some s → s.Between first pos)
    (h : (((p.settle before after threads {}).done.map fun start => ⟨start, pos⟩) <|> best) =
      some span) : span.Between first pos := by
  have hfront := p.settle_within before after threads ht (within_empty first pos)
  cases hd : (p.settle before after threads {}).done with
  | none =>
      rw [hd] at h
      exact hb h
  | some start =>
      rw [hd] at h
      obtain ⟨h₁, h₂⟩ := hfront.done hd
      rw [← Option.some.inj h]
      exact ⟨h₁, h₂, Nat.le_refl pos⟩

theorem findFrom?_between : ∀ (after before : Bytes) (pos : Nat) (threads : List Thread)
    (best : Option Span) {span : Span}, first ≤ pos →
      (∀ t ∈ threads, first ≤ t.start ∧ t.start ≤ pos) →
      (∀ {s}, best = some s → s.Between first pos) →
      p.findFrom? before pos threads best after = some span →
      span.Between first (pos + after.length)
  | [], before, pos, threads, best, span, hp, ht, hb, h => by
      rw [findFrom?] at h
      exact p.best_between ht hb h
  | b :: rest, before, pos, threads, best, span, hp, ht, hb, h => by
      rw [findFrom?] at h
      have hmoved : ∀ t ∈ (p.settle before (b :: rest) threads {}).live.reverse.filterMap
          (p.advance b rest), first ≤ t.start ∧ t.start ≤ pos + 1 := by
        intro t hmem
        obtain ⟨u, hu, hadv⟩ := List.mem_filterMap.mp hmem
        have hfront := p.settle_within before (b :: rest) threads ht (within_empty first pos)
        obtain ⟨h₁, h₂⟩ := hfront.live u (List.mem_reverse.mp hu)
        rw [p.start_advance hadv]
        exact ⟨h₁, Nat.le_succ_of_le h₂⟩
      have hlen : pos + (b :: rest).length = pos + 1 + rest.length := by
        rw [List.length_cons]
        omega
      rw [hlen]
      split at h
      · refine findFrom?_between rest _ _ _ none (Nat.le_succ_of_le hp) ?_ (by simp) h
        intro t hmem
        rcases List.mem_append.mp hmem with hmem | hmem
        · exact hmoved t hmem
        · rw [List.mem_singleton.mp hmem]
          exact ⟨Nat.le_succ_of_le hp, Nat.le_refl _⟩
      · rename_i found hfound
        have hbetween := p.best_between ht hb hfound
        split at h
        · rw [← Option.some.inj h]
          exact ⟨hbetween.first_le, hbetween.start_le, by have := hbetween.stop_le; omega⟩
        · refine findFrom?_between rest _ _ _ _ (Nat.le_succ_of_le hp) hmoved ?_ h
          intro s hs
          rw [← Option.some.inj hs]
          exact ⟨hbetween.first_le, hbetween.start_le, Nat.le_succ_of_le hbetween.stop_le⟩

/-- A match lies at or behind the position that it is searched for from, and within the input. -/
theorem find?_between {before after : Bytes} {pos : Nat} {span : Span}
    (h : p.find? before after pos = some span) : span.Between pos (pos + after.length) := by
  rw [find?] at h
  refine p.findFrom?_between after before pos _ none (Nat.le_refl pos) ?_ (by simp) h
  intro t ht
  rw [List.mem_singleton.mp ht]
  exact ⟨Nat.le_refl _, Nat.le_refl _⟩

end Program

/-! ### One match behind the other -/

theorem findAll_sorted (r : Regex) (before after : Bytes) (pos : Nat) :
    (∀ span ∈ r.findAll before after pos, span.Between pos (pos + after.length)) ∧
      (r.findAll before after pos).Pairwise Span.Precedes := by
  rw [Regex.findAll]
  split
  · exact ⟨by simp, List.Pairwise.nil⟩
  · rename_i span hfound
    obtain ⟨h₁, h₂, h₃⟩ := r.program.find?_between hfound
    dsimp only
    split
    · refine ⟨fun s hs => ?_, List.pairwise_singleton _ _⟩
      rw [List.mem_singleton.mp hs]
      exact ⟨h₁, h₂, h₃⟩
    · rename_i b rest hdrop
      have hlen := congrArg List.length hdrop
      simp only [List.length_drop, List.length_cons] at hlen
      have hstop : ∀ {next}, (if span.start < span.stop then span.stop else span.stop + 1) = next →
          span.stop ≤ next ∧ pos < next ∧ (span.start = span.stop → span.stop < next) := by
        rintro next rfl
        split <;> omega
      generalize hnext : (if span.start < span.stop then span.stop else span.stop + 1) = next
        at hlen hdrop ⊢
      have hstop := hstop hnext
      have hshort : rest.length < after.length := by omega
      obtain ⟨hbounds, hsorted⟩ := findAll_sorted r
        (b :: ((after.take (next - pos - 1)).reverse ++ before)) rest next
      refine ⟨?_, List.pairwise_cons.mpr ⟨?_, hsorted⟩⟩
      · intro s hs
        rcases List.mem_cons.mp hs with rfl | hs
        · exact ⟨h₁, h₂, h₃⟩
        · obtain ⟨g₁, g₂, g₃⟩ := hbounds s hs
          exact ⟨by omega, g₂, by omega⟩
      · intro s hs
        obtain ⟨g₁, g₂, _⟩ := hbounds s hs
        exact ⟨by omega, fun he => by have := hstop.2.2 he; omega⟩
termination_by after.length
decreasing_by omega

/-- The place of a span among the spans that precede each other: those that stop at one position are
one with bytes at most, and behind it an empty one. -/
def Span.rank (span : Span) : Nat :=
  if span.start = span.stop then 2 * span.stop else 2 * span.stop - 1

theorem Span.Precedes.rank_lt {a b : Span} (h : a.Precedes b) (ha : a.start ≤ a.stop)
    (hb : b.start ≤ b.stop) : a.rank < b.rank := by
  obtain ⟨h₁, h₂⟩ := h
  unfold Span.rank
  split <;> split <;> omega

theorem length_le_of_increasing {last : Nat} : ∀ {ns : List Nat} {first : Nat},
    ns.Pairwise (· < ·) → (∀ n ∈ ns, first < n ∧ n ≤ last) → ns.length ≤ last - first
  | [], _, _, _ => Nat.zero_le _
  | n :: rest, first, hp, hb => by
      rw [List.pairwise_cons] at hp
      obtain ⟨h₁, h₂⟩ := hb n List.mem_cons_self
      have hrest := length_le_of_increasing hp.2
        fun k hk => ⟨hp.1 k hk, (hb k (List.mem_cons_of_mem n hk)).2⟩
      rw [List.length_cons]
      omega

/-- At most two matches for each position end in a stretch of the input. -/
theorem length_le_of_sorted (first last : Nat) {spans : List Span}
    (hsorted : spans.Pairwise Span.Precedes)
    (hbounds : ∀ span ∈ spans, span.start ≤ span.stop ∧ first < span.stop ∧ span.stop ≤ last) :
    spans.length ≤ 2 * (last - first) := by
  have hranks : (spans.map Span.rank).Pairwise (· < ·) := by
    rw [List.pairwise_map]
    refine hsorted.imp_of_mem fun ha hb hab => ?_
    exact hab.rank_lt (hbounds _ ha).1 (hbounds _ hb).1
  have hlen : (spans.map Span.rank).length ≤ 2 * last - 2 * first := by
    refine length_le_of_increasing hranks fun n hn => ?_
    obtain ⟨span, hspan, rfl⟩ := List.mem_map.mp hn
    obtain ⟨h₁, h₂, h₃⟩ := hbounds span hspan
    unfold Span.rank
    split <;> omega
  rw [List.length_map] at hlen
  omega

end TrafficRules.Regex
