import TrafficRules.Proofs.Engine.LiteralSearch

/-! # The matches of a literal among its occurrences

A search keeps of the occurrences of a literal those that start where the last one kept has stopped.
What it keeps depends on where it starts, but only so far.

* It starts anew behind the bytes that are left out (`Signature.spans_drop`), and what it keeps of the
  first bytes does not depend on the later ones (`Signature.spans_take`).
* Each occurrence starts inside one that is kept (`Signature.exists_covering`). So one that no other
  overlaps is kept wherever the search starts (`Signature.mem_spans_of_isolated`). -/

namespace TrafficRules

namespace Regex.Span

variable {free : Nat} {span : Span} {spans : List Span}

/-- The span behind so many further bytes. -/
def shift (k : Nat) (span : Span) : Span := ⟨span.start + k, span.stop + k⟩

theorem separate_shift (k : Nat) (spans : List Span) : ∀ free : Nat,
    separate (free + k) (spans.map (shift k)) = (separate free spans).map (shift k) := by
  induction spans with
  | nil => exact fun _ => rfl
  | cons s rest ih =>
      intro free
      rw [List.map_cons, separate, separate]
      by_cases hs : s.start < free
      · rw [if_pos (show (s.shift k).start < free + k from Nat.add_lt_add_right hs k), if_pos hs,
          ih free]
      · have hshift : ¬ (s.shift k).start < free + k := fun h => hs (Nat.lt_of_add_lt_add_right h)
        rw [if_neg hshift, if_neg hs, List.map_cons]
        exact congrArg _ (ih s.stop)

/-- A span at or behind the free position starts inside one that is kept. -/
theorem exists_covering (hordered : spans.Pairwise fun a b => a.start < b.start)
    (hne : ∀ s ∈ spans, s.start < s.stop) (hspan : span ∈ spans) (hfree : free ≤ span.start) :
    ∃ kept ∈ separate free spans, kept.start ≤ span.start ∧ span.start < kept.stop := by
  induction spans generalizing free with
  | nil => cases hspan
  | cons s rest ih =>
      rw [List.pairwise_cons] at hordered
      rw [List.forall_mem_cons] at hne
      rw [separate]
      split
      · rename_i hskip
        rcases List.mem_cons.mp hspan with rfl | hrest
        · exact absurd hfree (Nat.not_le.mpr hskip)
        · exact ih hordered.2 hne.2 hrest hfree
      · rcases List.mem_cons.mp hspan with rfl | hrest
        · exact ⟨span, List.mem_cons_self, Nat.le_refl _, hne.1⟩
        · by_cases hinside : span.start < s.stop
          · exact ⟨s, List.mem_cons_self, Nat.le_of_lt (hordered.1 span hrest), hinside⟩
          · obtain ⟨kept, hkept, hcovers⟩ := ih hordered.2 hne.2 hrest (Nat.not_lt.mp hinside)
            exact ⟨kept, List.mem_cons_of_mem s hkept, hcovers⟩

theorem nodup_of_precedes (hsorted : spans.Pairwise Precedes)
    (hne : ∀ s ∈ spans, s.start < s.stop) : spans.Nodup := by
  refine hsorted.imp_of_mem fun {a b} ha _ hab he => ?_
  have := hne a ha
  have := hab.stop_le
  rw [← he] at this
  omega

/-- Spans one behind the other are a list as soon as they are its elements. -/
theorem eq_of_mem_iff {xs ys : List Span} (hxs : xs.Pairwise Precedes) (hys : ys.Pairwise Precedes)
    (hne : ∀ s ∈ xs, s.start < s.stop) (h : ∀ s, s ∈ xs ↔ s ∈ ys) : xs = ys := by
  have hne' : ∀ s ∈ ys, s.start < s.stop := fun s hs => hne s ((h s).mpr hs)
  have hperm := (List.perm_ext_iff_of_nodup (nodup_of_precedes hxs hne)
    (nodup_of_precedes hys hne')).mpr h
  refine hperm.eq_of_pairwise (fun a b ha hb hab hba => ?_) hxs hys
  have := hne a ha
  have := hne' b hb
  have := hab.stop_le
  have := hba.stop_le
  omega

end Regex.Span

namespace Literal

variable {caseless : Bool} {literal : Bytes}

theorem occurrences_shift (k : Nat) : ∀ (bytes passed : Bytes) (pos : Nat), passed.length ≤ pos →
    occurrences caseless literal passed (pos + k) bytes =
      (occurrences caseless literal passed pos bytes).map (Regex.Span.shift k)
  | [], _, _, _ => rfl
  | b :: rest, passed, pos, hpos => by
      have hnext := occurrences_shift k rest (b :: passed) (pos + 1) (Nat.succ_le_succ hpos)
      rw [Nat.add_right_comm] at hnext
      rw [occurrences, occurrences, List.map_append, hnext]
      congr 1
      split
      · rename_i hstarts
        have hends := (starts_reverse_iff.mp hstarts).length_le
        rw [List.length_reverse, List.length_cons] at hends
        have hstart : pos + k + 1 - literal.length = pos + 1 - literal.length + k := by omega
        rw [List.map_singleton, Regex.Span.shift, hstart, Nat.add_right_comm pos k 1]
      · rfl

theorem Spelled.lt {input : Bytes} {start stop : Nat}
    (h : Spelled caseless literal input start stop) (hliteral : literal ≠ []) : start < stop := by
  have := h.length
  have := List.length_pos_iff.mpr hliteral
  omega

/-- The input spells the literal where a beginning of it does. -/
theorem Spelled.extend {front input : Bytes} {start stop : Nat}
    (h : Spelled caseless literal front start stop) (hle : front <+: input)
    (hliteral : literal ≠ []) : Spelled caseless literal input start stop := by
  have hlt := h.start_lt hliteral
  obtain ⟨back, rfl⟩ := hle
  obtain ⟨found, rest, hdrop, hstop, hmap⟩ := h
  refine ⟨found, rest ++ back, ?_, hstop, hmap⟩
  rw [List.drop_append_of_le_length (Nat.le_of_lt hlt), hdrop, List.append_assoc]

theorem Spelled.stop_le {input : Bytes} {start stop : Nat}
    (h : Spelled caseless literal input start stop) (hliteral : literal ≠ []) :
    stop ≤ input.length := by
  have hlt := h.start_lt hliteral
  obtain ⟨found, rest, hdrop, rfl, _⟩ := h
  have hlength := congrArg List.length hdrop
  rw [List.length_drop, List.length_append] at hlength
  omega

/-- A beginning of the input spells the literal where the input does, as far as it goes. -/
theorem Spelled.of_take {input : Bytes} {start stop n : Nat}
    (h : Spelled caseless literal input start stop) (hstop : stop ≤ n) :
    Spelled caseless literal (input.take n) start stop := by
  obtain ⟨found, rest, hdrop, rfl, hmap⟩ := h
  refine ⟨found, rest.take (n - start - found.length), ?_, rfl, hmap⟩
  rw [List.drop_take, hdrop, List.take_append, List.take_of_length_le (by omega)]

end Literal

namespace Signature

variable {s : Signature} {bytes haystack : Bytes} {start : Nat} {span : Regex.Span}

section
variable (hs : s.literal = some bytes)
include hs

theorem spans_literal_eq (haystack : Bytes) (start : Nat) : s.spans haystack start =
    Regex.Span.separate start
      (Literal.occurrences s.flags.caseless bytes [] start (haystack.drop start)) := by
  rw [spans, hs]

/-- Behind the first bytes the search goes on as in the other bytes alone. -/
theorem spans_drop (k : Nat) (haystack : Bytes) (start : Nat) :
    s.spans haystack (start + k) =
      (s.spans (haystack.drop k) start).map (Regex.Span.shift k) := by
  rw [spans_literal_eq hs, spans_literal_eq hs, ← Regex.Span.separate_shift,
    ← Literal.occurrences_shift k _ [] start (Nat.zero_le _), List.drop_drop, Nat.add_comm k start]

/-- What is found in the first bytes are the matches that stop there. -/
theorem spans_take (haystack : Bytes) (start n : Nat) :
    s.spans (haystack.take n) start = (s.spans haystack start).filter fun span => span.stop ≤ n := by
  have hsplit : haystack.drop start =
      (haystack.take n).drop start ++ (haystack.drop start).drop (n - start) := by
    rw [List.drop_take, List.take_append_drop]
  rw [spans_literal_eq hs, spans_literal_eq hs, hsplit, Literal.occurrences_append,
    Regex.Span.separate_append, List.filter_append]
  have hfirst : ∀ span ∈ Regex.Span.separate start (Literal.occurrences s.flags.caseless bytes []
      start ((haystack.take n).drop start)), span.stop ≤ n := by
    intro span hspan
    obtain ⟨k, hk, hle, rfl, _⟩ :=
      Literal.mem_occurrences_iff.mp ((Regex.Span.separate_sublist _ _).subset hspan)
    rw [List.length_drop, List.length_take] at hle
    dsimp only
    omega
  have hlater : ∀ (free : Nat) (passed : Bytes), ∀ span ∈ Regex.Span.separate free
      (Literal.occurrences s.flags.caseless bytes passed
        (start + ((haystack.take n).drop start).length) ((haystack.drop start).drop (n - start))),
      ¬ span.stop ≤ n := by
    intro free passed span hspan
    obtain ⟨k, hk, hle, rfl, _⟩ :=
      Literal.mem_occurrences_iff.mp ((Regex.Span.separate_sublist _ _).subset hspan)
    rw [List.length_drop, List.length_drop] at hle
    rw [List.length_drop, List.length_take]
    dsimp only
    omega
  rw [List.filter_eq_self.mpr fun span hspan => decide_eq_true (hfirst span hspan),
    List.filter_eq_nil_iff.mpr fun span hspan => ?_, List.append_nil]
  rw [decide_eq_true_eq]
  exact hlater _ _ span hspan

variable (hne : bytes ≠ [])
include hne

theorem spelled_of_mem_spans (h : span ∈ s.spans haystack start) :
    start ≤ span.start ∧ Literal.Spelled s.flags.caseless bytes haystack span.start span.stop := by
  rw [spans_literal_eq hs] at h
  exact (Literal.mem_occurrences_iff_spelled hne).mp ((Regex.Span.separate_sublist _ _).subset h)

theorem start_lt_of_mem_spans (h : span ∈ s.spans haystack start) : span.start < span.stop :=
  (spelled_of_mem_spans hs hne h).2.lt hne

theorem precedes_spans (haystack : Bytes) (start : Nat) :
    (s.spans haystack start).Pairwise Regex.Span.Precedes := by
  rw [spans_literal_eq hs]
  exact (Regex.Span.separate_sorted _ start fun span hspan =>
    ((Literal.mem_occurrences_iff_spelled hne).mp hspan).2.lt hne).2

/-- Each occurrence starts inside one that is kept. -/
theorem exists_covering {i j : Nat} (hstart : start ≤ i)
    (h : Literal.Spelled s.flags.caseless bytes haystack i j) :
    ∃ span ∈ s.spans haystack start, span.start ≤ i ∧ i < span.stop := by
  rw [spans_literal_eq hs]
  have hmem : ⟨i, j⟩ ∈ Literal.occurrences s.flags.caseless bytes [] start (haystack.drop start) :=
    (Literal.mem_occurrences_iff_spelled hne).mpr ⟨hstart, h⟩
  exact Regex.Span.exists_covering (Literal.ordered_occurrences _ [] start (Nat.zero_le _))
    (fun span hspan => ((Literal.mem_occurrences_iff_spelled hne).mp hspan).2.lt hne) hmem hstart

/-- Matches of one search that overlap are the same. -/
theorem eq_of_mem_spans {a b : Regex.Span} (ha : a ∈ s.spans haystack start)
    (hb : b ∈ s.spans haystack start) (hle : a.start ≤ b.start) (hlt : b.start < a.stop) :
    a = b := by
  have hstop := start_lt_of_mem_spans hs hne hb
  have hsorted := precedes_spans hs hne haystack start
  obtain ⟨i, hi, rfl⟩ := List.getElem_of_mem ha
  obtain ⟨j, hj, rfl⟩ := List.getElem_of_mem hb
  rcases Nat.lt_trichotomy i j with hij | rfl | hji
  · have := (List.pairwise_iff_getElem.mp hsorted i j hi hj hij).stop_le
    omega
  · rfl
  · have := (List.pairwise_iff_getElem.mp hsorted j i hj hi hji).stop_le
    omega

/-- An occurrence that no earlier one reaches into is kept. -/
theorem mem_spans_of_isolated {i j : Nat} (hstart : start ≤ i)
    (h : Literal.Spelled s.flags.caseless bytes haystack i j)
    (hisolated : ∀ i' j', Literal.Spelled s.flags.caseless bytes haystack i' j' → i' < i → j' ≤ i) :
    ⟨i, j⟩ ∈ s.spans haystack start := by
  obtain ⟨span, hspan, hle, hlt⟩ := exists_covering hs hne hstart h
  have hspelled := (spelled_of_mem_spans hs hne hspan).2
  have hsame : span.start = i := by
    by_contra hother
    have := hisolated span.start span.stop hspelled (by omega)
    omega
  have hstop : span.stop = j := by rw [hspelled.length, h.length, hsame]
  rwa [← hsame, ← hstop]

end

end Signature
end TrafficRules
