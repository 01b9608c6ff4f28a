import TrafficRules.Proofs.Engine.LiteralSearch
import TrafficRules.Proofs.Regex.Conditions

/-! # What is found is a match

Whatever an engine reports of a signature is a match of its regular expression in the haystack, from one
end to the other (`Signature.matches_of_mem_spans`), whether the signature is looked for as a literal, by
its expression, or behind a match that takes no bytes. A match takes no bytes only where a word edge holds
that is written in the pattern (`Signature.edgeAt_of_empty`). -/

namespace TrafficRules

namespace Regex

variable {r : Regex} {haystack : Bytes}

theorem matches_of_mem_findAll (hp : r.program.Counted) {pos : Nat} (hpos : pos ≤ haystack.length)
    {span : Span} (h : span ∈ r.findAll (haystack.take pos).reverse (haystack.drop pos) pos) :
    r.program.Matches haystack span.start span.stop := by
  cases hf : r.findAt? (haystack.take pos).reverse (haystack.drop pos) pos with
  | none =>
      rw [findAll_of_none hf] at h
      cases h
  | some first =>
      obtain ⟨hlt, hall⟩ := findAll_eq_cons hf
      rw [hall] at h
      rcases List.mem_cons.mp h with rfl | hlater
      · have hfinds := Program.find?_finds hp hpos
        rw [show r.program.find? _ _ pos = some span from hf] at hfinds
        exact hfinds.1
      · split at hlater
        · rename_i hnext
          exact matches_of_mem_findAll hp hnext hlater
        · cases hlater
termination_by haystack.length - pos

/-- An expression that matches once from a position on is found there, and nowhere else. -/
theorem findAll_eq_singleton (hp : r.program.Counted) {pos first last : Nat} (hpos : pos ≤ first)
    (hlt : first < last) (hlast : last ≤ haystack.length)
    (hmatches : ∀ i j, pos ≤ i → (r.program.Matches haystack i j ↔ i = first ∧ j = last)) :
    r.findAll (haystack.take pos).reverse (haystack.drop pos) pos = [⟨first, last⟩] := by
  have hle : pos ≤ haystack.length := by omega
  have hfinds := Program.find?_finds hp hle
  cases hf : r.findAt? (haystack.take pos).reverse (haystack.drop pos) pos with
  | none =>
      rw [show r.program.find? _ _ pos = none from hf] at hfinds
      exact absurd ((hmatches first last hpos).mpr ⟨rfl, rfl⟩) (hfinds first last hpos (by omega))
  | some span =>
      rw [show r.program.find? _ _ pos = some span from hf] at hfinds
      obtain ⟨hstart, hstop⟩ := (hmatches _ _ (r.program.find?_between hf).first_le).mp hfinds.1
      obtain ⟨hend, hall⟩ := findAll_of_some hle hf (by omega)
      have hnone : r.findAll (haystack.take span.stop).reverse (haystack.drop span.stop)
          span.stop = [] := by
        refine List.eq_nil_iff_forall_not_mem.mpr fun later hlater => ?_
        have hbehind := ((findAll_sorted r _ _ _).1 later hlater).first_le
        have := ((hmatches _ _ (by omega)).mp (matches_of_mem_findAll hp hend hlater)).1
        omega
      rw [hall, hnone, ← hstart, ← hstop]

end Regex

/-- The assertion that a word edge is written as. -/
def Regex.WordEdge.assertion : WordEdge → Assertion
  | .boundary => .wordBoundary
  | .notBoundary => .notWordBoundary
  | .start => .wordStart
  | .finish => .wordEnd
  | .startHalf => .wordStartHalf
  | .finishHalf => .wordEndHalf

theorem Regex.Assertion.eq_of_look {a : Assertion} {m : Mode} {edge : WordEdge} {unicode : Bool}
    (h : .word edge unicode = a.look m) : a = edge.assertion := by
  cases a with
  | lineStart =>
      rw [look] at h
      split at h <;> cases h
  | lineEnd =>
      rw [look] at h
      split at h <;> cases h
  | textStart => cases h
  | textEnd => cases h
  | _ =>
      cases h
      rfl

namespace Pattern

/-- An assertion is written in the expression of a pattern. -/
def Writes (p : Pattern) (a : Regex.Assertion) : Prop :=
  ∃ e, Regex.Expr.ofText? p.regex.toList = some e ∧ a ∈ e.assertions

/-- A word edge that is written in a pattern holds at a position of the input, where a word character
stands on exactly one side. -/
def EdgeAt (p : Pattern) (input : Bytes) (pos : Nat) : Prop :=
  ∃ (edge : Regex.WordEdge) (unicode : Bool), edge.touchesWord = true ∧ p.Writes edge.assertion ∧
    (Regex.Look.word edge unicode).HoldsAt input pos

end Pattern

namespace Signature

variable {limit : Nat} {p : Pattern} {s : Signature} {haystack : Bytes} {start : Nat}

/-- **What is found is a match** of the regular expression. -/
theorem matches_of_mem_spans (hs : compile limit p = .ok s) (hstart : start ≤ haystack.length)
    {span : Regex.Span} (h : span ∈ s.spans haystack start) :
    s.regex.program.Matches haystack span.start span.stop := by
  have hcounted := (program_of_compile hs).2
  cases hliteral : s.literal with
  | none =>
      rw [spans_expression hs hliteral hstart] at h
      exact Regex.matches_of_mem_findAll hcounted hstart h
  | some bytes =>
      rw [spans_literal hs (hliteral ▸ rfl) hstart] at h
      exact Regex.matches_of_mem_findAll hcounted hstart h

/-- What has been made ready for an engine does not match the empty input. -/
theorem not_matches_nil (hs : compile limit p = .ok s) : ¬ s.regex.program.Matches [] 0 0 := by
  have hcounted := (program_of_compile hs).2
  obtain ⟨_, regex, setRegex, _, hempty, _, rfl⟩ := compile_ok hs
  have hnone : regex.program.find? (([] : Bytes).take 0).reverse ([].drop 0) 0 = none :=
    Option.isNone_iff_eq_none.mp (Option.isSome_eq_false_iff.mp hempty)
  have hfinds := Regex.Program.find?_finds hcounted (Nat.le_refl ([] : Bytes).length)
  rw [show (ofParts p regex setRegex).regex = regex from rfl, List.length_nil, hnone] at hfinds
  exact hfinds 0 0 (Nat.le_refl 0) (Nat.le_refl 0)

/-- What a program asks of the two sides of a position is written in the pattern. -/
theorem writes_of_asks (hs : compile limit p = .ok s) {edge : Regex.WordEdge} {unicode : Bool}
    (h : s.regex.program.Asks (.word edge unicode)) : p.Writes edge.assertion := by
  obtain ⟨_, regex, setRegex, hregex, _, _, rfl⟩ := compile_ok hs
  obtain ⟨e, he, a, ha, m, hl⟩ := Regex.Program.asserted_of_asks hregex h
  exact ⟨e, he, Regex.Assertion.eq_of_look hl ▸ ha⟩

/-- What is found with no bytes lies at a word edge, and its signature is no literal. -/
theorem edgeAt_of_empty (hs : compile limit p = .ok s) (hstart : start ≤ haystack.length)
    {span : Regex.Span} (h : span ∈ s.spans haystack start) (hempty : ¬ span.start < span.stop) :
    span.start = span.stop ∧ s.literal = none ∧ p.EdgeAt haystack span.start := by
  have hbounds := (spans_sorted (proper_of_compile hs) hstart).1 span h
  have hsame : span.start = span.stop := Nat.le_antisymm hbounds.start_le (Nat.not_lt.mp hempty)
  have hmatch := matches_of_mem_spans hs hstart h
  refine ⟨hsame, ?_, ?_⟩
  · cases hliteral : s.literal with
    | none => rfl
    | some bytes =>
        have hlen := ((matches_literal_iff hs hliteral haystack _ _).mp hmatch).length
        have hpos : bytes ≠ [] := fun he => proper_of_compile hs (he ▸ hliteral)
        have := List.length_pos_iff.mpr hpos
        omega
  · rw [← hsame] at hmatch
    have hle := hsame ▸ hbounds.stop_le
    obtain ⟨edge, unicode, htouches, hasks, hholds⟩ :=
      Regex.Program.matches_empty hle hmatch (not_matches_nil hs)
    exact ⟨edge, unicode, htouches, writes_of_asks hs hasks, hholds⟩

end Signature

namespace Engine

/-- Each match that is reported is one of a signature. -/
theorem exists_span_of_mem_scanFrom {e : Engine} (hproper : ∀ s ∈ e.signatures, s.Proper)
    {haystack : Bytes} {start : Nat} {m : Match} (hm : m ∈ e.scanFrom haystack start) :
    start ≤ haystack.length ∧ ∃ s, e.signatures[m.number]? = some s ∧
      ⟨m.start, m.stop⟩ ∈ s.spans haystack start := by
  have hstart : start ≤ haystack.length := by
    by_contra hlt
    rw [scanFrom, if_pos (by omega)] at hm
    cases hm
  have hlt : m.number < e.signatures.length := number_lt_of_mem_scanFrom hm
  obtain ⟨s, hn⟩ : ∃ s, e.signatures[m.number]? = some s := ⟨_, List.getElem?_eq_getElem hlt⟩
  have hmem : m ∈ (e.scanFrom haystack start).filter fun k => k.number = m.number :=
    List.mem_filter.mpr ⟨hm, by simp⟩
  rw [scanFrom_filter hn (hproper s (List.mem_of_getElem? hn)) hstart] at hmem
  obtain ⟨span, hspan, he⟩ := List.mem_map.mp hmem
  have hm' : (⟨m.start, m.stop⟩ : Regex.Span) = span := by
    rw [← he]
    rfl
  exact ⟨hstart, s, hn, hm' ▸ hspan⟩

/-- The signature under a number is an expression, and at a position of the input a word edge holds that
is written in its pattern. -/
def EdgeAt (e : Engine) (number : Nat) (input : Bytes) (pos : Nat) : Prop :=
  ∃ limit p s, e.signatures[number]? = some s ∧ Signature.compile limit p = .ok s ∧
    s.literal = none ∧ p.EdgeAt input pos

/-- What is found with no bytes lies at a word edge. -/
theorem edgeAt_of_empty {e : Engine}
    (hcompiled : ∀ s ∈ e.signatures, ∃ limit p, Signature.compile limit p = .ok s) {n : Nat}
    {s : Signature} (hn : e.signatures[n]? = some s) {haystack : Bytes} {start : Nat}
    (hstart : start ≤ haystack.length) {span : Regex.Span} (h : span ∈ s.spans haystack start)
    (hempty : ¬ span.start < span.stop) :
    span.start = span.stop ∧ e.EdgeAt n haystack span.start := by
  obtain ⟨limit, p, hs⟩ := hcompiled s (List.mem_of_getElem? hn)
  obtain ⟨hsame, hliteral, hedge⟩ := Signature.edgeAt_of_empty hs hstart h hempty
  exact ⟨hsame, limit, p, s, hn, hs, hliteral, hedge⟩

/-- An engine of one expression reports what is found for it. -/
theorem scanFrom_single {limit : Nat} {p : Pattern} {s : Signature}
    (hs : Signature.compile limit p = .ok s) (hliteral : s.literal = none) (window : UInt64)
    {haystack : Bytes} {start : Nat} (hstart : start ≤ haystack.length) :
    (⟨[s], window⟩ : Engine).scanFrom haystack start =
      (s.regex.findAll (haystack.take start).reverse (haystack.drop start) start).map
        (matchAt 0) := by
  rw [← Signature.spans_expression hs hliteral hstart,
    ← scanFrom_filter (e := ⟨[s], window⟩) (n := 0) rfl (Signature.proper_of_compile hs) hstart]
  refine (List.filter_eq_self.mpr fun m hm => ?_).symm
  have hlt : m.number < 1 := number_lt_of_mem_scanFrom hm
  rw [decide_eq_true_eq]
  omega

end Engine
end TrafficRules
