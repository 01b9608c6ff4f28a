import TrafficRules.Proofs.Regex.Spans

/-! # One literal among many

All literals are looked for in one pass, but each of them is found as if it were alone: the hits under
its number are its own occurrences (`hits_filter`), and which of them are kept depends on no other
number (`take_filter`).

* **Occurrences.** `occurrences` lists where a literal occurs, in the order in which the occurrences
  end; it is exactly the places where the input ends with the literal (`mem_occurrences_iff`).
* **Separation.** `Span.separate` keeps of a list of spans those that start where the last one kept
  has stopped. What it keeps of the first spans does not depend on the later ones
  (`separate_append`). -/

namespace TrafficRules

namespace Regex

/-- The spans that start at or behind the position that is free, which is moved to the end of each
one that is kept. -/
def Span.separate (free : Nat) : List Span → List Span
  | [] => []
  | span :: rest =>
      if span.start < free then Span.separate free rest
      else span :: Span.separate span.stop rest

/-- Where the last one of some spans stops, or else a given position. -/
def Span.lastStop (free : Nat) (spans : List Span) : Nat := (spans.getLast?.map Span.stop).getD free

namespace Span

theorem lastStop_cons (free : Nat) (span : Span) (spans : List Span) :
    lastStop free (span :: spans) = lastStop span.stop spans := by
  cases spans with
  | nil => rfl
  | cons s rest =>
      rw [lastStop, lastStop, List.getLast?_cons_cons, List.getLast?_cons]
      rfl

theorem separate_append (xs ys : List Span) : ∀ free : Nat,
    separate free (xs ++ ys) =
      separate free xs ++ separate (lastStop free (separate free xs)) ys := by
  induction xs with
  | nil => exact fun _ => rfl
  | cons x rest ih =>
      intro free
      rw [List.cons_append, separate, separate]
      split
      · exact ih free
      · rw [ih x.stop, lastStop_cons, List.cons_append]

theorem separate_sublist (spans : List Span) : ∀ free : Nat,
    (separate free spans).Sublist spans := by
  induction spans with
  | nil => exact fun _ => List.Sublist.slnil
  | cons s rest ih =>
      intro free
      rw [separate]
      split
      · exact (ih free).cons s
      · exact (ih s.stop).cons_cons s

/-- Of spans that are not empty, those that are kept do not overlap. -/
theorem separate_sorted (spans : List Span) : ∀ free : Nat,
    (∀ s ∈ spans, s.start < s.stop) →
    (∀ s ∈ separate free spans, free ≤ s.start) ∧ (separate free spans).Pairwise Precedes := by
  induction spans with
  | nil => exact fun _ _ => ⟨by simp [separate], List.Pairwise.nil⟩
  | cons x rest ih =>
      intro free h
      have hx := h x List.mem_cons_self
      have hrest : ∀ s ∈ rest, s.start < s.stop := fun s hs => h s (List.mem_cons_of_mem x hs)
      rw [separate]
      split
      · exact ih free hrest
      · obtain ⟨hfree, hsorted⟩ := ih x.stop hrest
        refine ⟨fun s hs => ?_, List.pairwise_cons.mpr ⟨fun s hs => ?_, hsorted⟩⟩
        · rcases List.mem_cons.mp hs with rfl | hs
          · omega
          · have := hfree s hs
            omega
        · exact ⟨hfree s hs, fun he => by omega⟩

/-- If there is a span at or behind the free position, some span is kept. -/
theorem separate_ne_nil {free : Nat} {spans : List Span} {span : Span} (hs : span ∈ spans)
    (hf : ∀ s ∈ spans, free ≤ s.start) : separate free spans ≠ [] := by
  cases spans with
  | nil => cases hs
  | cons x rest =>
      have hx := hf x List.mem_cons_self
      rw [separate, if_neg (by omega)]
      exact List.cons_ne_nil _ _

end Span
end Regex

namespace Literal

/-! ### Occurrences -/

/-- A byte up to case, if case is not minded. -/
def fold (caseless : Bool) (b : UInt8) : UInt8 := if caseless then lower b else b

/-- The input ends with a literal, up to case if case is not minded. -/
def Ends (caseless : Bool) (literal input : Bytes) : Prop :=
  ∃ before found, input = before ++ found ∧
    found.map (fold caseless) = literal.map (fold caseless)

/-- The input contains a literal, up to case if case is not minded. -/
def Occurs (caseless : Bool) (literal input : Bytes) : Prop :=
  ∃ before found after, input = before ++ found ++ after ∧
    found.map (fold caseless) = literal.map (fold caseless)

/-- Where a literal occurs in the bytes from position `pos` on, behind the bytes passed, in the order
in which the occurrences end. -/
def occurrences (caseless : Bool) (literal passed : Bytes) (pos : Nat) : Bytes → List Regex.Span
  | [] => []
  | b :: rest =>
      (if starts caseless literal.reverse (b :: passed) then
        [⟨pos + 1 - literal.length, pos + 1⟩] else []) ++
      occurrences caseless literal (b :: passed) (pos + 1) rest

theorem sameByte_iff {caseless : Bool} {a b : UInt8} :
    sameByte caseless a b = true ↔ fold caseless a = fold caseless b := by
  cases caseless with
  | false => simp [sameByte, fold]
  | true => simp [sameByte, fold]

theorem starts_iff {caseless : Bool} : ∀ {s t : Bytes}, starts caseless s t = true ↔
    ∃ found rest, t = found ++ rest ∧ found.map (fold caseless) = s.map (fold caseless)
  | [], t => by
      rw [starts]
      exact ⟨fun _ => ⟨[], t, rfl, rfl⟩, fun _ => rfl⟩
  | a :: s, [] => by
      rw [starts]
      refine ⟨fun h => (by cases h), ?_⟩
      rintro ⟨found, rest, hf, hm⟩
      have hnil : found = [] := (List.append_eq_nil_iff.mp hf.symm).1
      rw [hnil] at hm
      cases hm
  | a :: s, b :: t => by
      rw [starts, Bool.and_eq_true, sameByte_iff, starts_iff]
      constructor
      · rintro ⟨hb, found, rest, rfl, hm⟩
        exact ⟨b :: found, rest, rfl, by rw [List.map_cons, List.map_cons, hm, hb]⟩
      · rintro ⟨found, rest, hf, hm⟩
        cases found with
        | nil => cases hm
        | cons c found =>
            rw [List.cons_append, List.cons.injEq] at hf
            rw [List.map_cons, List.map_cons, List.cons.injEq] at hm
            exact ⟨hf.1 ▸ hm.1.symm, found, rest, hf.2, hm.2⟩

/-- Looking backwards for the reversed literal is looking whether the input ends with it. -/
theorem starts_reverse_iff {caseless : Bool} {literal passed : Bytes} :
    starts caseless literal.reverse passed = true ↔ Ends caseless literal passed.reverse := by
  rw [starts_iff]
  constructor
  · rintro ⟨found, rest, rfl, hm⟩
    refine ⟨rest.reverse, found.reverse, List.reverse_append, ?_⟩
    rw [List.map_reverse, hm, List.map_reverse, List.reverse_reverse]
  · rintro ⟨before, found, he, hm⟩
    refine ⟨found.reverse, before.reverse, ?_, ?_⟩
    · rw [← List.reverse_append, ← he, List.reverse_reverse]
    · rw [List.map_reverse, hm, List.map_reverse]

theorem Ends.length_le {caseless : Bool} {literal input : Bytes}
    (h : Ends caseless literal input) : literal.length ≤ input.length := by
  obtain ⟨before, found, rfl, hm⟩ := h
  have hlen := congrArg List.length hm
  rw [List.length_map, List.length_map] at hlen
  rw [List.length_append]
  omega

/-- What is long enough for the literal ends with it if the whole input does. -/
theorem Ends.of_append {caseless : Bool} {literal front input : Bytes}
    (h : Ends caseless literal (front ++ input)) (hl : literal.length ≤ input.length) :
    Ends caseless literal input := by
  obtain ⟨before, found, he, hm⟩ := h
  have hlen := congrArg List.length hm
  rw [List.length_map, List.length_map] at hlen
  have hbefore : front.length ≤ before.length := by
    have := congrArg List.length he
    rw [List.length_append, List.length_append] at this
    omega
  refine ⟨before.drop front.length, found, ?_, hm⟩
  have hd := congrArg (List.drop front.length) he
  rw [List.drop_left, List.drop_append_of_le_length hbefore] at hd
  exact hd

/-- An occurrence is a place where the input so far ends with the literal. -/
theorem occurs_iff {caseless : Bool} {literal input : Bytes} :
    Occurs caseless literal input ↔
      ∃ n, n ≤ input.length ∧ Ends caseless literal (input.take n) := by
  constructor
  · rintro ⟨before, found, after, rfl, hm⟩
    refine ⟨(before ++ found).length, ?_, before, found, ?_, hm⟩
    · exact (List.prefix_append (before ++ found) after).length_le
    · exact List.take_left
  · rintro ⟨n, _, before, found, he, hm⟩
    exact ⟨before, found, input.drop n, by rw [← he, List.take_append_drop], hm⟩

theorem mem_occurrences_iff {caseless : Bool} {literal : Bytes} {span : Regex.Span} :
    ∀ {bytes passed : Bytes} {pos : Nat},
      span ∈ occurrences caseless literal passed pos bytes ↔
        ∃ n, 0 < n ∧ n ≤ bytes.length ∧ span = ⟨pos + n - literal.length, pos + n⟩ ∧
          Ends caseless literal (passed.reverse ++ bytes.take n)
  | [], passed, pos => by
      refine ⟨fun h => (by cases h), ?_⟩
      rintro ⟨n, h₁, h₂, _⟩
      exact absurd h₂ (by simpa using Nat.ne_of_gt h₁)
  | b :: rest, passed, pos => by
      have hhere : span ∈ (if starts caseless literal.reverse (b :: passed) then
          [(⟨pos + 1 - literal.length, pos + 1⟩ : Regex.Span)] else []) ↔
          Ends caseless literal (passed.reverse ++ [b]) ∧
            span = ⟨pos + 1 - literal.length, pos + 1⟩ := by
        rw [← List.reverse_cons, ← starts_reverse_iff]
        split
        · rename_i hs
          simp [hs]
        · rename_i hs
          simp [hs]
      rw [occurrences, List.mem_append, hhere, mem_occurrences_iff]
      constructor
      · rintro (⟨he, rfl⟩ | ⟨n, h₁, h₂, rfl, he⟩)
        · exact ⟨1, Nat.one_pos, Nat.succ_le_succ (Nat.zero_le _), rfl, he⟩
        · refine ⟨n + 1, Nat.succ_pos n, Nat.succ_le_succ h₂, ?_, ?_⟩
          · rw [Nat.add_assoc, Nat.add_comm 1 n]
          · rw [List.reverse_cons, List.append_assoc] at he
            exact he
      · rintro ⟨n, h₁, h₂, rfl, he⟩
        cases n with
        | zero => omega
        | succ n =>
            cases n with
            | zero => exact Or.inl ⟨he, rfl⟩
            | succ n =>
                refine Or.inr ⟨n + 1, Nat.succ_pos n, Nat.le_of_succ_le_succ h₂, ?_, ?_⟩
                · have hpos : pos + (n + 1 + 1) = pos + 1 + (n + 1) := by omega
                  rw [hpos]
                · rw [List.reverse_cons, List.append_assoc]
                  exact he

theorem occurrences_append {caseless : Bool} {literal : Bytes} (ys : Bytes) :
    ∀ (xs passed : Bytes) (pos : Nat),
      occurrences caseless literal passed pos (xs ++ ys) =
        occurrences caseless literal passed pos xs ++
          occurrences caseless literal (xs.reverse ++ passed) (pos + xs.length) ys
  | [], passed, pos => rfl
  | x :: xs, passed, pos => by
      rw [List.cons_append, occurrences, occurrences, occurrences_append ys xs,
        List.reverse_cons, List.length_cons, List.append_assoc xs.reverse, List.append_assoc,
        Nat.add_assoc, Nat.add_comm 1 xs.length]
      rfl

/-! ### Hits -/

/-- A span as a hit under a number. -/
def hitAt (number : Nat) (span : Regex.Span) : Hit := ⟨number, span.start, span.stop⟩

theorem hitsFrom_cons (ls : List Reversed) (passed : Bytes) (pos : Nat) (b : UInt8) (rest : Bytes) :
    hitsFrom ls passed pos (b :: rest) =
      endingAt ls (b :: passed) (pos + 1) ++ hitsFrom ls (b :: passed) (pos + 1) rest := by
  rw [hitsFrom]
  split
  · rename_i h
    rw [h, List.nil_append]
  · rfl

theorem hits_eq (ls : List Literal) (passed : Bytes) (pos : Nat) (bytes : Bytes) :
    hits ls passed pos bytes = hitsFrom (ls.map reversed) passed pos bytes := by
  rw [hits]
  split
  · rename_i h
    rw [List.isEmpty_iff.mp h, List.map_nil]
    induction bytes generalizing passed pos with
    | nil => rfl
    | cons b rest ih =>
        rw [hitsFrom_cons, ← ih]
        rfl
  · rfl

theorem endingAt_cons (l : Literal) (ls : List Literal) (passed : Bytes) (stop : Nat) :
    endingAt ((l :: ls).map reversed) passed stop =
      (if starts l.caseless l.bytes.reverse passed then
        [⟨l.number, stop - l.bytes.length, stop⟩] else []) ++
      endingAt (ls.map reversed) passed stop := by
  by_cases hs : starts l.caseless l.bytes.reverse passed = true
  · simp [endingAt, reversed, hs]
  · simp [endingAt, reversed, hs]

theorem endingAt_filter (ls : List Literal) (passed : Bytes) (stop n : Nat) :
    (endingAt (ls.map reversed) passed stop).filter (fun h => h.number = n) =
      endingAt ((ls.filter fun l => l.number = n).map reversed) passed stop := by
  induction ls with
  | nil => rfl
  | cons l rest ih =>
      rw [endingAt_cons, List.filter_append, ih]
      by_cases hn : l.number = n
      · rw [List.filter_cons_of_pos (by simpa using hn), endingAt_cons]
        congr 1
        split
        · simp [hn]
        · rfl
      · rw [List.filter_cons_of_neg (by simpa using hn)]
        split
        · simp [hn]
        · rfl

/-- The hits under a number are those of the literals with this number. -/
theorem hits_filter (ls : List Literal) (n : Nat) (bytes : Bytes) : ∀ (passed : Bytes) (pos : Nat),
    (hits ls passed pos bytes).filter (fun h => h.number = n) =
      hits (ls.filter fun l => l.number = n) passed pos bytes := by
  induction bytes with
  | nil =>
      intro passed pos
      rw [hits_eq, hits_eq]
      rfl
  | cons b rest ih =>
      intro passed pos
      have hrest := ih (b :: passed) (pos + 1)
      rw [hits_eq, hits_eq] at hrest
      rw [hits_eq, hits_eq, hitsFrom_cons, hitsFrom_cons, List.filter_append, endingAt_filter, hrest]

/-- The hits of one literal are its occurrences. -/
theorem hits_singleton (n : Nat) (literal : Bytes) (caseless : Bool) (bytes : Bytes) :
    ∀ (passed : Bytes) (pos : Nat), hits [⟨n, literal, caseless⟩] passed pos bytes =
      (occurrences caseless literal passed pos bytes).map (hitAt n) := by
  induction bytes with
  | nil =>
      intro passed pos
      rfl
  | cons b rest ih =>
      intro passed pos
      have hrest := ih (b :: passed) (pos + 1)
      rw [hits_eq] at hrest
      rw [hits_eq, hitsFrom_cons, hrest, occurrences, List.map_append]
      congr 1
      simp only [endingAt, reversed, List.map_cons, List.map_nil, List.filterMap_cons,
        List.filterMap_nil]
      by_cases hs : starts caseless literal.reverse (b :: passed) = true
      · simp only [hs, if_true, List.map_cons, List.map_nil, hitAt]
      · simp only [hs, List.map_nil, if_false, Bool.false_eq_true]

theorem number_of_mem_hits {ls : List Literal} {h : Hit} : ∀ {bytes passed : Bytes} {pos : Nat},
    h ∈ hits ls passed pos bytes → ∃ l ∈ ls, l.number = h.number
  | [], passed, pos, hh => by
      rw [hits_eq] at hh
      cases hh
  | b :: rest, passed, pos, hh => by
      rw [hits_eq, hitsFrom_cons, List.mem_append] at hh
      rcases hh with hh | hh
      · obtain ⟨r, hr, hsome⟩ := List.mem_filterMap.mp hh
        obtain ⟨l, hl, rfl⟩ := List.mem_map.mp hr
        refine ⟨l, hl, ?_⟩
        split at hsome
        · rw [← Option.some.inj hsome]
          rfl
        · cases hsome
      · rw [← hits_eq] at hh
        exact number_of_mem_hits hh

/-! ### Hits that are kept -/

theorem length_take (hs : List Hit) : ∀ free : List Nat, (take free hs).1.length = free.length := by
  induction hs with
  | nil => exact fun _ => rfl
  | cons h rest ih =>
      intro free
      rw [take]
      split
      · exact ih free
      · exact (ih _).trans (List.length_set ..)

/-- The position that is free for a number is moved by the hits under this number only. -/
theorem getD_take {n : Nat} (hs : List Hit) : ∀ free : List Nat, (∀ h ∈ hs, h.number ≠ n) →
    (take free hs).1.getD n 0 = free.getD n 0 := by
  induction hs with
  | nil => exact fun _ _ => rfl
  | cons h rest ih =>
      intro free hne
      have hrest : ∀ k ∈ rest, k.number ≠ n := fun k hk => hne k (List.mem_cons_of_mem h hk)
      rw [take]
      split
      · exact ih free hrest
      · refine (ih _ hrest).trans ?_
        rw [List.getD_eq_getElem?_getD, List.getD_eq_getElem?_getD,
          List.getElem?_set_ne (hne h List.mem_cons_self)]

theorem take_sublist (hs : List Hit) : ∀ free : List Nat, (take free hs).2.Sublist hs := by
  induction hs with
  | nil => exact fun _ => List.Sublist.slnil
  | cons h rest ih =>
      intro free
      rw [take]
      split
      · exact (ih free).cons h
      · exact (ih _).cons_cons h

/-- Which hits under a number are kept depends on the hits under this number only. -/
theorem take_filter {n : Nat} (hs : List Hit) : ∀ (free : List Nat) (spans : List Regex.Span),
    (∀ h ∈ hs, h.number < free.length) →
    hs.filter (fun h => h.number = n) = spans.map (hitAt n) →
    (take free hs).2.filter (fun h => h.number = n) =
      (Regex.Span.separate (free.getD n 0) spans).map (hitAt n) := by
  induction hs with
  | nil =>
      intro free spans _ hspans
      rw [List.filter_nil] at hspans
      rw [List.map_eq_nil_iff.mp hspans.symm]
      rfl
  | cons h rest ih =>
      intro free spans hlen hspans
      have hrest : ∀ k ∈ rest, k.number < free.length :=
        fun k hk => hlen k (List.mem_cons_of_mem h hk)
      have hset : ∀ k ∈ rest, k.number < (free.set h.number h.stop).length :=
        fun k hk => (List.length_set ..).symm ▸ hrest k hk
      by_cases hn : h.number = n
      · rw [List.filter_cons_of_pos (by simpa using hn)] at hspans
        cases spans with
        | nil => cases hspans
        | cons span later =>
            rw [List.map_cons, List.cons.injEq] at hspans
            obtain ⟨rfl, hspans⟩ := hspans
            rw [take, Regex.Span.separate]
            show (if span.start < free.getD n 0 then _ else _ : List Nat × List Hit).2.filter _ = _
            split
            · exact ih free later hrest hspans
            · rw [List.map_cons]
              dsimp only
              rw [List.filter_cons_of_pos (by simp [hitAt]), ih _ later hset hspans]
              have hlt : n < free.length := hlen (hitAt n span) List.mem_cons_self
              have hfree : (free.set n span.stop).getD n 0 = span.stop := by
                rw [List.getD_eq_getElem?_getD, List.getElem?_set_self hlt]
                rfl
              show _ :: (Regex.Span.separate ((free.set n span.stop).getD n 0) later).map _ = _
              rw [hfree]
      · rw [List.filter_cons_of_neg (by simpa using hn)] at hspans
        rw [take]
        split
        · exact ih free spans hrest hspans
        · dsimp only
          rw [List.filter_cons_of_neg (by simpa using hn), ih _ spans hset hspans,
            List.getD_eq_getElem?_getD, List.getElem?_set_ne hn, ← List.getD_eq_getElem?_getD]

end Literal
end TrafficRules
