import TrafficRules.Proofs.Engine.Prefilter
import TrafficRules.Proofs.Regex.Plain

/-! # Literals and their expressions

A signature that is a literal is looked for as a plain string among all others, and its regular
expression is not used. It finds the same matches that the expression finds alone
(`Engine.scanFrom_literals`).

* **Occurrences.** The expression matches where the literal occurs (`matches_literal_iff`).
* **Separation.** Of the occurrences in order, the ones that are kept are the ones that a search finds
  that goes on behind each match (`findAll_eq_separate`): both take the first occurrence that starts
  at or behind the present position. -/

namespace TrafficRules

/-! ### Spans in order -/

namespace Regex.Span

variable {free : Nat} {span : Span} {spans : List Span}

theorem separate_eq_nil (h : ∀ s ∈ spans, s.start < free) : separate free spans = [] := by
  induction spans with
  | nil => rfl
  | cons s rest ih =>
      rw [separate, if_pos (h s List.mem_cons_self)]
      exact ih fun t ht => h t (List.mem_cons_of_mem s ht)

/-- What lies in front of the first span at or behind the free position is left out. -/
theorem separate_eq_cons (hordered : spans.Pairwise fun a b => a.start < b.start)
    (hspan : span ∈ spans) (hlt : span.start < span.stop) (hfree : free ≤ span.start)
    (hfirst : ∀ s ∈ spans, free ≤ s.start → span.start ≤ s.start) :
    separate free spans = span :: separate span.stop spans := by
  induction spans with
  | nil => cases hspan
  | cons s rest ih =>
      rw [List.pairwise_cons] at hordered
      rcases List.mem_cons.mp hspan with rfl | hmem
      · rw [separate, if_neg (Nat.not_lt.mpr hfree), separate, if_pos hlt]
      · have hs := hordered.1 span hmem
        have hskip : s.start < free := by
          by_contra hge
          have := hfirst s List.mem_cons_self (Nat.not_lt.mp hge)
          omega
        rw [separate, if_pos hskip, separate, if_pos (by omega)]
        exact ih hordered.2 hmem fun t ht => hfirst t (List.mem_cons_of_mem s ht)

end Regex.Span

namespace Literal

variable {caseless : Bool} {literal : Bytes}

/-- The occurrences of a literal stand in the order of their starts. -/
theorem ordered_occurrences : ∀ (bytes passed : Bytes) (pos : Nat), passed.length ≤ pos →
    (occurrences caseless literal passed pos bytes).Pairwise fun a b => a.start < b.start
  | [], _, _, _ => List.Pairwise.nil
  | b :: rest, passed, pos, hpos => by
      rw [occurrences]
      have hrest := ordered_occurrences rest (b :: passed) (pos + 1) (Nat.succ_le_succ hpos)
      split
      · rename_i hstarts
        have hends := (starts_reverse_iff.mp hstarts).length_le
        rw [List.length_reverse, List.length_cons] at hends
        refine List.pairwise_cons.mpr ⟨fun span hspan => ?_, hrest⟩
        obtain ⟨n, hn, _, rfl, _⟩ := mem_occurrences_iff.mp hspan
        show pos + 1 - literal.length < pos + 1 + n - literal.length
        omega
      · exact hrest

/-- The input spells a literal between two positions, up to case if case is not minded. -/
def Spelled (caseless : Bool) (literal input : Bytes) (start stop : Nat) : Prop :=
  ∃ found rest, input.drop start = found ++ rest ∧ stop = start + found.length ∧
    found.map (fold caseless) = literal.map (fold caseless)

theorem Spelled.length {input : Bytes} {start stop : Nat}
    (h : Spelled caseless literal input start stop) : stop = start + literal.length := by
  obtain ⟨found, _, _, rfl, hmap⟩ := h
  have hlen := congrArg List.length hmap
  rw [List.length_map, List.length_map] at hlen
  rw [hlen]

theorem Spelled.start_lt {input : Bytes} {start stop : Nat}
    (h : Spelled caseless literal input start stop) (hliteral : literal ≠ []) :
    start < input.length := by
  have hlen := h.length
  obtain ⟨found, rest, hdrop, rfl, _⟩ := h
  have hpos := List.length_pos_iff.mpr hliteral
  have hdropped := congrArg List.length hdrop
  rw [List.length_drop, List.length_append] at hdropped
  omega

/-- The occurrences from a position on are where the input spells the literal. -/
theorem mem_occurrences_iff_spelled (hliteral : literal ≠ []) {haystack : Bytes} {start : Nat}
    {span : Regex.Span} :
    span ∈ occurrences caseless literal [] start (haystack.drop start) ↔
      start ≤ span.start ∧ Spelled caseless literal haystack span.start span.stop := by
  have hpos : 0 < literal.length := List.length_pos_iff.mpr hliteral
  rw [mem_occurrences_iff]
  constructor
  · rintro ⟨n, _, hn, rfl, hends⟩
    have hle := hends.length_le
    obtain ⟨before, found, he, hmap⟩ := hends
    rw [List.reverse_nil, List.nil_append] at he hle
    have hlen := congrArg List.length hmap
    have htaken := congrArg List.length he
    rw [List.length_map, List.length_map] at hlen
    rw [List.length_take] at hle
    rw [List.length_take, List.length_append] at htaken
    have hbefore : start + n - literal.length = start + before.length := by omega
    refine ⟨by show start ≤ start + n - literal.length; omega, found, (haystack.drop start).drop n,
      ?_, ?_, hmap⟩
    · have hsplit := List.take_append_drop n (haystack.drop start)
      rw [he, List.append_assoc] at hsplit
      have hfound : (haystack.drop start).drop before.length =
          found ++ (haystack.drop start).drop n := by
        conv_lhs => rw [← hsplit]
        exact List.drop_left
      show haystack.drop (start + n - literal.length) = _
      rw [hbefore, ← List.drop_drop, hfound]
    · show start + n = start + n - literal.length + found.length
      omega
  · rintro ⟨hstart, found, rest, hdrop, hstop, hmap⟩
    have hlen := congrArg List.length hmap
    have hdropped := congrArg List.length hdrop
    rw [List.length_map, List.length_map] at hlen
    rw [List.length_drop, List.length_append] at hdropped
    refine ⟨span.stop - start, by omega, ?_, ?_, (haystack.drop start).take (span.start - start),
      found, ?_, hmap⟩
    · rw [List.length_drop]
      omega
    · obtain ⟨i, j⟩ := span
      dsimp only at hstart hstop ⊢
      rw [Regex.Span.mk.injEq]
      omega
    · rw [List.reverse_nil, List.nil_append]
      have hsum : span.stop - start = (span.start - start) + found.length := by omega
      have hnext : start + (span.start - start) = span.start := by omega
      rw [hsum, List.take_add, List.drop_drop, hnext, hdrop, List.take_left]

end Literal

/-! ### One search behind the other -/

namespace Regex

variable {r : Regex} {haystack : Bytes} {pos : Nat}

theorem findAll_of_none
    (h : r.findAt? (haystack.take pos).reverse (haystack.drop pos) pos = none) :
    r.findAll (haystack.take pos).reverse (haystack.drop pos) pos = [] := by
  rw [Regex.findAll, h]

/-- Where the search goes on behind a match: where it stops, or one byte later if it has no bytes. -/
def Span.next (span : Span) : Nat := if span.start < span.stop then span.stop else span.stop + 1

/-- Behind a match the search goes on, unless the haystack has ended. -/
theorem findAll_eq_cons {span : Span}
    (h : r.findAt? (haystack.take pos).reverse (haystack.drop pos) pos = some span) :
    pos < span.next ∧ r.findAll (haystack.take pos).reverse (haystack.drop pos) pos =
      span :: if span.next ≤ haystack.length then
        r.findAll (haystack.take span.next).reverse (haystack.drop span.next) span.next else [] := by
  have hbetween := r.program.find?_between h
  have h₁ := hbetween.first_le
  have h₂ := hbetween.start_le
  have h₃ := hbetween.stop_le
  rw [List.length_drop] at h₃
  rw [Regex.findAll, h]
  dsimp only
  rw [← Span.next]
  have hlt : pos < span.next := by
    unfold Span.next
    split <;> omega
  generalize span.next = next at hlt ⊢
  have hlast : pos + (next - pos - 1) = next - 1 := by omega
  have hone : next - 1 + 1 = next := by omega
  refine ⟨hlt, ?_⟩
  split
  · rename_i hnil
    rw [List.drop_drop, hlast, List.drop_eq_nil_iff] at hnil
    rw [if_neg (by omega)]
  · rename_i b rest hcons
    have hle : next - 1 < haystack.length := by
      have := congrArg List.length hcons
      rw [List.length_drop, List.length_drop, List.length_cons] at this
      omega
    rw [List.drop_drop, hlast, List.drop_eq_getElem_cons hle, hone, List.cons.injEq] at hcons
    have htake : (haystack.take next).reverse = haystack[next - 1] ::
        (((haystack.drop pos).take (next - pos - 1)).reverse ++ (haystack.take pos).reverse) := by
      rw [← List.reverse_append, ← List.take_add, hlast, ← List.reverse_concat,
        ← List.take_succ_eq_append_getElem hle, hone]
    rw [if_pos (by omega), htake, hcons.1, hcons.2]

/-- Behind a match that is not empty the search goes on where it stops. -/
theorem findAll_of_some {span : Span} (hpos : pos ≤ haystack.length)
    (h : r.findAt? (haystack.take pos).reverse (haystack.drop pos) pos = some span)
    (hlt : span.start < span.stop) :
    span.stop ≤ haystack.length ∧
      r.findAll (haystack.take pos).reverse (haystack.drop pos) pos =
        span :: r.findAll (haystack.take span.stop).reverse (haystack.drop span.stop) span.stop := by
  have hstop := (r.program.find?_between h).stop_le
  rw [List.length_drop] at hstop
  have hle : span.stop ≤ haystack.length := by omega
  have hall := (findAll_eq_cons h).2
  rw [show span.next = span.stop from if_pos hlt, if_pos hle] at hall
  exact ⟨hle, hall⟩

/-- **Occurrences one behind the other**: where an expression matches where a literal is spelled, all its
matches are the occurrences of the literal that do not overlap one kept before. -/
theorem findAll_eq_separate (hp : r.program.Counted) {caseless : Bool} {literal : Bytes}
    (hliteral : literal ≠ [])
    (hmatches : ∀ i j, r.program.Matches haystack i j ↔
      TrafficRules.Literal.Spelled caseless literal haystack i j) {start pos : Nat}
    (hstart : start ≤ pos) (hpos : pos ≤ haystack.length) :
    r.findAll (haystack.take pos).reverse (haystack.drop pos) pos =
      Span.separate pos
        (TrafficRules.Literal.occurrences caseless literal [] start (haystack.drop start)) := by
  have hmem : ∀ {s : Span}, s ∈ TrafficRules.Literal.occurrences caseless literal [] start
      (haystack.drop start) ↔ start ≤ s.start ∧ r.program.Matches haystack s.start s.stop := by
    intro s
    rw [TrafficRules.Literal.mem_occurrences_iff_spelled hliteral, hmatches]
  have hfinds := Program.find?_finds hp hpos
  cases hf : r.findAt? (haystack.take pos).reverse (haystack.drop pos) pos with
  | none =>
      rw [show r.program.find? _ _ pos = none from hf] at hfinds
      rw [findAll_of_none hf]
      refine (Span.separate_eq_nil fun s hs => ?_).symm
      by_contra hge
      have hs' := (hmem.mp hs).2
      have hlen := ((hmatches _ _).mp hs').start_lt hliteral
      exact hfinds s.start s.stop (Nat.not_lt.mp hge) (Nat.le_of_lt hlen) hs'
  | some span =>
      rw [show r.program.find? _ _ pos = some span from hf] at hfinds
      obtain ⟨hfound, hfirst⟩ := hfinds
      have hle := (r.program.find?_between hf).first_le
      have hlt : span.start < span.stop := by
        have := ((hmatches _ _).mp hfound).length
        have := List.length_pos_iff.mpr hliteral
        omega
      obtain ⟨hstop, hall⟩ := findAll_of_some hpos hf hlt
      have hbehind : start ≤ span.stop := by omega
      rw [hall, findAll_eq_separate hp hliteral hmatches hbehind hstop]
      refine (Span.separate_eq_cons (TrafficRules.Literal.ordered_occurrences _ [] start (Nat.zero_le _))
        (hmem.mpr ⟨by omega, hfound⟩) hlt hle fun s hs hge => ?_).symm
      have hs' := (hmem.mp hs).2
      exact hfirst s.start s.stop hge (Nat.le_of_lt (((hmatches _ _).mp hs').start_lt hliteral)) hs'
termination_by haystack.length - pos

end Regex

/-! ### Signatures -/

/-- The regular expression of a literal matches where the literal is spelled. -/
theorem Signature.matches_literal_iff {limit : Nat} {p : Pattern} {s : Signature}
    (hs : Signature.compile limit p = .ok s) {bytes : Bytes} (hliteral : s.literal = some bytes)
    (input : Bytes) (start stop : Nat) :
    s.regex.program.Matches input start stop ↔
      Literal.Spelled s.flags.caseless bytes input start stop := by
  rw [literal_of_compile hs, literal?] at hliteral
  rw [flags_of_compile hs]
  obtain ⟨_, regex, setRegex, hregex, _, _, rfl⟩ := compile_ok hs
  split at hliteral
  · cases hliteral
  · rename_i hmeta
    split at hliteral
    · cases hliteral
    · rename_i hfold
      have hplain : ∀ c ∈ p.regex.toList, Regex.isMeta c = false := by simpa using hmeta
      have hascii : p.flags.mode.caseless = true →
          p.flags.mode.unicode = false ∧ ∀ c ∈ p.regex.toList, c.toNat < 0x80 := by
        intro hc
        have hc' : p.flags.caseless = true := hc
        simpa [hc', Flags.mode] using hfold
      obtain ⟨e, m, he, hm, hp⟩ := Regex.ofText_ok hregex
      rw [Regex.ofText?_plain hplain he] at hm
      have hspells := Regex.spells_plain p.flags.mode hascii
      rw [← Regex.code_plain p.flags.mode hm] at hspells
      show regex.program.Matches input start stop ↔ _
      rw [hp, Regex.Program.ofTerm, ← Option.some.inj hliteral]
      exact Regex.Program.matches_iff_of_spells hspells

/-- What is found for a literal as a plain string is found by its regular expression alone. -/
theorem Signature.spans_literal {limit : Nat} {p : Pattern} {s : Signature}
    (hs : Signature.compile limit p = .ok s) (hliteral : s.literal.isSome) {haystack : Bytes}
    {start : Nat} (hstart : start ≤ haystack.length) :
    s.spans haystack start =
      s.regex.findAll (haystack.take start).reverse (haystack.drop start) start := by
  obtain ⟨bytes, hbytes⟩ := Option.isSome_iff_exists.mp hliteral
  have hne : bytes ≠ [] := fun he => proper_of_compile hs (he ▸ hbytes)
  unfold spans
  rw [hbytes]
  exact (Regex.findAll_eq_separate (program_of_compile hs).2 hne
    (matches_literal_iff hs hbytes haystack) (Nat.le_refl start) hstart).symm

namespace Engine

/-- **Literals are their expressions**: the matches that are reported of a literal are those of its own
regular expression, searched for alone, each behind the one before. -/
theorem scanFrom_literals (limit : Nat) (e : Engine)
    (hcompiled : ∀ s ∈ e.signatures, ∃ p, Signature.compile limit p = .ok s) (n : Nat)
    (s : Signature) (hn : e.signatures[n]? = some s) (hliteral : s.literal.isSome)
    (haystack : Bytes) (start : Nat) (hstart : start ≤ haystack.length) :
    (e.scanFrom haystack start).filter (fun m => m.number = n) =
      (s.regex.findAll (haystack.take start).reverse (haystack.drop start) start).map
        (matchAt n) := by
  obtain ⟨p, hp⟩ := hcompiled s (List.mem_of_getElem? hn)
  rw [scanFrom_filter hn (Signature.proper_of_compile hp) hstart,
    Signature.spans_literal hp hliteral hstart]

/-- A literal that overlaps itself, in either case and between bytes that are no text. -/
theorem scanFrom_literals_letters :
    ∃ s, Signature.compile 100000 { regex := "aBa", flags := { caseless := true } } = .ok s ∧
      s.literal.isSome ∧ (1 : Nat) ≤ [255, 65, 98, 97, 66, 97, 254].length ∧
      ((⟨[s], 16⟩ : Engine).scanFrom [255, 65, 98, 97, 66, 97, 254] 1).filter
          (fun m => m.number = 0) =
        (s.regex.findAll [255] [65, 98, 97, 66, 97, 254] 1).map (matchAt 0) := by
  have hok : (Signature.compile 100000
      { regex := "aBa", flags := { caseless := true } }).toBool = true := by decide +kernel
  have hplain : (Signature.literal? "aBa" { caseless := true }).isSome := by decide +kernel
  cases hc : Signature.compile 100000 { regex := "aBa", flags := { caseless := true } } with
  | error fault =>
      rw [hc] at hok
      cases hok
  | ok s =>
      have hliteral : s.literal.isSome := (Signature.literal_of_compile hc).symm ▸ hplain
      have hstart : (1 : Nat) ≤ [255, 65, 98, 97, 66, 97, 254].length := by decide
      exact ⟨s, rfl, hliteral, hstart, scanFrom_literals 100000 ⟨[s], 16⟩
        (fun t ht => ⟨_, List.mem_singleton.mp ht ▸ hc⟩) 0 s rfl hliteral
        [255, 65, 98, 97, 66, 97, 254] 1 hstart⟩

end Engine
end TrafficRules
