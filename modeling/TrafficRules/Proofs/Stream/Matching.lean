import TrafficRules.Proofs.Engine.Matching
import TrafficRules.Proofs.Stream.Invariant

/-! # The matches of a stream

What a stream reports are matches in the part of the data that it holds. The conditions on positions
are decided there too.

* **Context.** One byte before the part that is searched is enough for anchors and for word edges
  between bytes. A word edge between scalar values needs up to four. So what is reported is a match in
  all the data, unless the part that is held starts within a word character and the pattern asks where
  a word starts (`found_matches`).
* **No bytes.** A match takes at least one byte, or it lies at a word edge that is written in its pattern
  (`empty_at_edges`). -/

namespace TrafficRules

/-! ### Words between scalar values -/

namespace Unicode

set_option maxRecDepth 100000 in
/-- The first word characters of the table. -/
theorem wordText_starts : ∃ rest, wordText = String.ofList
    (['3', '0', '+', '9', ' ', '7', '+', '1', '9', ' ', '4', ' ', '1', '+', '1', '9', ' ', '2', 'f', ' ',
      'a', ' ', '4', ' ', '5', '+', '1', '6', ' ', '1', '+', '1', 'e', ' '] ++ rest) := ⟨_, rfl⟩

theorem isWord_letters : isWord 'f' = true ∧ isWord 'é' = true := by
  obtain ⟨rest, h⟩ := wordText_starts
  unfold isWord wordRanges Ranges.ofText
  rw [h, String.toList_ofList]
  exact ⟨rfl, rfl⟩

end Unicode

namespace Regex

theorem Look.boundary_holds {before after : Bytes} {c : Option Char} {d : Option (Char × Nat)}
    (hbefore : Utf8.lastScalar? before = c) (hafter : Utf8.scalar? after = d) :
    (Look.word .boundary true).holds before after =
      (c.any Unicode.isWord != (d.map Prod.fst).any Unicode.isWord) := by
  rw [Look.holds, hbefore, hafter]
  rfl

/-- A word that is looked for at a word boundary only. -/
theorem Program.matches_word_iff {code : Code} {bytes : Bytes} (h : Spells false code bytes)
    {input : Bytes} {start stop : Nat} :
    (ofCode (.look (.word .boundary true) :: (code ++ [.accept]))).Matches input start stop ↔
      (Look.word .boundary true).HoldsAt input start ∧
        TrafficRules.Literal.Spelled false bytes input start stop := by
  have hlook : (ofCode (.look (.word .boundary true) :: (code ++ [.accept]))).code[0]? =
      some (.look (.word .boundary true)) := rfl
  rw [Matches, leadsTo_look hlook]
  have hword : (ofCode (.look (.word .boundary true) :: (code ++ [.accept]))).code =
      ([Instr.look (.word .boundary true)] ++ (code ++ [Instr.accept])).toArray := rfl
  exact and_congr_right fun _ => leadsTo_spells h hword

end Regex

namespace Stream

variable {e : Engine} {window : UInt64} {before : List Bytes} {chunk : Bytes} {s s' : Stream}
  {log found : List Match}

/-- What a stream of any window reports is found in the end of the data, as far as it looks back. -/
theorem span_of_found (hp : e.Proper)
    (hbefore : (Stream.new e window).scanAll before = (s, .ok log))
    (hscan : s.scan chunk = (s', .ok found)) :
    s.base = before.flatten.length - ((max window 1).toNat + 1) ∧
      s.buffer = before.flatten.drop s.base ∧
      ∀ m ∈ found, ∃ sig span, e.signatures[m.number]? = some sig ∧
        span ∈ sig.spans ((before.flatten ++ chunk).drop s.base) s.context ∧
        m.start = span.start + s.base ∧ m.stop = span.stop + s.base := by
  -- the stream is that of an engine with this window
  have hover := scanAll_withEngine (e := e)
    (s := Engine.openStream ⟨e.signatures, window⟩) before rfl
  rw [show (Engine.openStream ⟨e.signatures, window⟩).withEngine e = Stream.new e window from rfl,
    hbefore] at hover
  obtain ⟨hs, hok⟩ := Prod.mk.inj hover
  have hr := scanAll_ok (P := fun s data => s.Reads ⟨e.signatures, window⟩ data)
    (fun _ _ hfed => hfed.reads) before (reads_openStream _) (reads_openStream _) hok.symm
  rw [List.nil_append] at hr
  generalize ((Engine.openStream ⟨e.signatures, window⟩).scanAll before).1 = s₀ at hs hr
  subst hs
  have hsignatures : e.signatures = s₀.engine.signatures := by rw [hr.engine]
  rw [scan_withEngine hsignatures] at hscan
  obtain ⟨_, hfound⟩ := Prod.mk.inj hscan
  obtain ⟨taken, hsub, rfl⟩ := scan_sublist hr (Prod.ext rfl hfound)
  have hwindow : s₀.window.toNat = (max window 1).toNat := by
    rw [hr.window]
    rfl
  refine ⟨hwindow ▸ hr.base, hr.buffer, fun m hm => ?_⟩
  obtain ⟨k, hk, rfl⟩ := List.mem_map.mp hm
  obtain ⟨_, sig, hn, hspan⟩ := Engine.exists_span_of_mem_scanFrom hp (hsub.subset hk)
  rw [hr.append chunk] at hspan
  exact ⟨sig, _, hn, hspan, rfl, rfl⟩

/-- The context is a part of what is searched. -/
theorem context_le {data : Bytes} {kept : Nat} (hbase : s.base = data.length - (kept + 1))
    (chunk : Bytes) : s.context ≤ ((data ++ chunk).drop s.base).length := by
  rw [context, List.length_drop, List.length_append]
  split <;> omega

/-! ### A word that is cut in two -/

theorem scan_of_scanFrom {s : Stream} {chunk : Bytes} {ms : List Match}
    (h : s.engine.scanFrom (s.buffer ++ chunk) s.context = ms) : s.scan chunk =
      trimmed (noteAll { s with buffer := s.buffer ++ chunk } s.buffer.length ms) := by
  rw [scan_eq, h]

/-- Three bytes and two more, for a stream that looks back by one byte: the first one of all is dropped
before the second search. -/
theorem scan_behind_three {sig : Signature} {a b c d e : UInt8}
    (hsingle : sig.flags.singleMatch = false)
    (hfirst : (⟨[sig], 1⟩ : Engine).scanFrom [a, b, c] 0 = [])
    (hsecond : (⟨[sig], 1⟩ : Engine).scanFrom [b, c, d, e] 1 = [⟨0, 1, 4⟩]) :
    ∃ s s', (Stream.new ⟨[sig], 1⟩ 1).scanAll [[a, b, c]] = (s, .ok []) ∧
      s.scan [d, e] = (s', .ok [⟨0, 2, 5⟩]) := by
  have hone : (Stream.new ⟨[sig], 1⟩ 1).scan [a, b, c] =
      (⟨⟨[sig], 1⟩, max 1 1, [b, c], 1, [{}], .empty⟩, .ok []) :=
    (scan_of_scanFrom hfirst).trans rfl
  have hoff : (⟨[sig], 1⟩ : Engine).isSingleMatch 0 = false := hsingle
  have htwo : scan ⟨⟨[sig], 1⟩, max 1 1, [b, c], 1, [{}], .empty⟩ [d, e] = _ :=
    scan_of_scanFrom hsecond
  unfold noteAll note at htwo
  dsimp only at htwo
  rw [hoff] at htwo
  exact ⟨_, _, by rw [scanAll, hone]; rfl, htwo⟩

/-- Of `éfoo`, cut behind the `f`, a stream that looks back by one byte reports `foo` as a word. -/
theorem scan_cut_word : ∃ sig s s',
    Signature.compile Signature.defaultSizeLimit { regex := "\\bfoo", flags := { utf8 := true } } =
        .ok sig ∧
      sig.regex.program = .ofCode (.look (.word .boundary true) ::
        ((Regex.Term.literal [0x66, 0x6F, 0x6F]).code ++ [.accept])) ∧
      Engine.build [sig] { streamWindow := 1 } = .ok ⟨[sig], 1⟩ ∧
      (Stream.new ⟨[sig], 1⟩ 1).scanAll [[0xC3, 0xA9, 0x66]] = (s, .ok []) ∧
      s.scan [0x6F, 0x6F] = (s', .ok [⟨0, 2, 5⟩]) := by
  obtain ⟨sig, hs, hliteral, hflags, hprogram, hbuild⟩ : ∃ sig, Signature.compile
      Signature.defaultSizeLimit { regex := "\\bfoo", flags := { utf8 := true } } = .ok sig ∧
      sig.literal = none ∧ sig.flags = { utf8 := true } ∧
      sig.regex.program = .ofCode (.look (.word .boundary true) ::
        ((Regex.Term.literal [0x66, 0x6F, 0x6F]).code ++ [.accept])) ∧
      Engine.build [sig] { streamWindow := 1 } = .ok ⟨[sig], 1⟩ := ⟨_, rfl, rfl, rfl, rfl, rfl⟩
  have hcounted := (Signature.program_of_compile hs).2
  -- where the expression matches from a position on, as the occurrences of the word
  have hmatches : ∀ {input : Bytes} {first i j : Nat}, first ≤ i →
      (sig.regex.program.Matches input i j ↔ (Regex.Look.word .boundary true).HoldsAt input i ∧
        ⟨i, j⟩ ∈ Literal.occurrences false [0x66, 0x6F, 0x6F] [] first (input.drop first)) := by
    intro input first i j hi
    rw [hprogram, Regex.Program.matches_word_iff (Regex.spells_literal _),
      Literal.mem_occurrences_iff_spelled (by decide), and_iff_right hi]
  have hnothing : (⟨[sig], 1⟩ : Engine).scanFrom [0xC3, 0xA9, 0x66] 0 = [] := by
    rw [Engine.scanFrom_single hs hliteral 1 (by decide), List.map_eq_nil_iff]
    refine List.eq_nil_iff_forall_not_mem.mpr fun span hspan => ?_
    have hmatch := Regex.matches_of_mem_findAll hcounted (Nat.zero_le _) hspan
    cases ((hmatches (Nat.zero_le _)).mp hmatch).2
  have hcut : (⟨[sig], 1⟩ : Engine).scanFrom [0xA9, 0x66, 0x6F, 0x6F] 1 = [⟨0, 1, 4⟩] := by
    have honce : ∀ i j, 1 ≤ i →
        (sig.regex.program.Matches [0xA9, 0x66, 0x6F, 0x6F] i j ↔ i = 1 ∧ j = 4) := by
      intro i j hi
      rw [hmatches hi, show Literal.occurrences _ _ _ _ _ = [⟨1, 4⟩] from rfl,
        List.mem_singleton, Regex.Span.mk.injEq]
      refine and_iff_right_of_imp ?_
      rintro ⟨rfl, rfl⟩
      have hbefore : Utf8.lastScalar? (([0xA9, 0x66, 0x6F, 0x6F] : Bytes).take 1).reverse = none :=
        rfl
      have hafter : Utf8.scalar? (([0xA9, 0x66, 0x6F, 0x6F] : Bytes).drop 1) = some ('f', 1) := rfl
      rw [Regex.Look.HoldsAt, Regex.Look.boundary_holds hbefore hafter, Option.map_some,
        Option.any_some, Unicode.isWord_letters.1]
      rfl
    rw [Engine.scanFrom_single hs hliteral 1 (by decide),
      Regex.findAll_eq_singleton hcounted (by decide) (by decide) (by decide) honce]
    rfl
  obtain ⟨s, s', hfirst, hsecond⟩ := scan_behind_three (hflags ▸ rfl) hnothing hcut
  exact ⟨sig, s, s', hs, hprogram, hbuild, hfirst, hsecond⟩

/-! ### What is reported -/

/-- **Reports are matches.** Let an engine be built for compiled signatures, and let a stream of it look
back by any window and take any chunks. Whatever it reports of the next chunk is a match of the
signature's regular expression in all the data, unless the part of the data that the stream holds starts
within a word character that stands right before another one, at a position within the match, and the
pattern asks there, with Unicode word characters, for the start of a word. -/
theorem found_matches {P : List Signature} {c : EngineConfig}
    (hP : ∀ sig ∈ P, ∃ limit p, Signature.compile limit p = .ok sig)
    (he : Engine.build P c = .ok e) (hbefore : (Stream.new e window).scanAll before = (s, .ok log))
    (hscan : s.scan chunk = (s', .ok found)) :
    ∀ m ∈ found, ∃ limit p sig, P[m.number]? = some sig ∧ Signature.compile limit p = .ok sig ∧
      (sig.regex.program.Matches (before.flatten ++ chunk) m.start m.stop ∨
        (p.Writes .wordBoundary ∨ p.Writes .wordStart) ∧
          sig.regex.program.SeesCut (before.flatten ++ chunk)
            (before.flatten.length - ((max window 1).toNat + 1)) m.start m.stop) := by
  obtain ⟨rfl, _⟩ := Engine.build_ok_iff.mp he
  have hp : Engine.Proper ⟨P, c.streamWindow⟩ := Engine.proper_of_compiled hP
  obtain ⟨hbase, _, hfound⟩ := span_of_found hp hbefore hscan
  intro m hm
  obtain ⟨sig, span, hn, hspan, hstart, hstop⟩ := hfound m hm
  obtain ⟨limit, p, hs⟩ := hP sig (List.mem_of_getElem? hn)
  refine ⟨limit, p, sig, hn, hs, ?_⟩
  have hcontext := context_le hbase chunk
  have hbounds := (Signature.spans_sorted (Signature.proper_of_compile hs) hcontext).1 span hspan
  have hfirst : s.base = 0 ∨ 0 < span.start := by
    have := hbounds.first_le
    rw [context] at this
    split at this <;> omega
  have hmatch := Signature.matches_of_mem_spans hs hcontext hspan
  have hle := Nat.le_trans hbounds.start_le hbounds.stop_le
  have hwhole := Regex.Program.matches_of_drop hfirst hle hmatch
  rw [Nat.add_comm s.base, Nat.add_comm s.base, ← hstart, ← hstop] at hwhole
  rw [← hbase]
  refine hwhole.imp_right fun hcut => ⟨?_, hcut⟩
  exact hcut.1.imp (Signature.writes_of_asks hs) (Signature.writes_of_asks hs)

/-- The match that is reported in the middle of a word is none, and the stream holds only the end of the
character before it. -/
theorem found_matches_cut_word : ∃ sig e s log s' found,
    Signature.compile Signature.defaultSizeLimit { regex := "\\bfoo", flags := { utf8 := true } } =
        .ok sig ∧
      Engine.build [sig] { streamWindow := 1 } = .ok e ∧
      (Stream.new e 1).scanAll [[0xC3, 0xA9, 0x66]] = (s, .ok log) ∧
      s.scan [0x6F, 0x6F] = (s', .ok found) ∧ (⟨0, 2, 5⟩ : Match) ∈ found ∧
      ∃ limit p sig', [sig][0]? = some sig' ∧ Signature.compile limit p = .ok sig' ∧
        (sig'.regex.program.Matches [0xC3, 0xA9, 0x66, 0x6F, 0x6F] 2 5 ∨
          (p.Writes .wordBoundary ∨ p.Writes .wordStart) ∧
            sig'.regex.program.SeesCut [0xC3, 0xA9, 0x66, 0x6F, 0x6F] 1 2 5) := by
  obtain ⟨sig, s, s', hs, _, hbuild, hbefore, hscan⟩ := scan_cut_word
  have hfound := found_matches (fun t ht => ⟨_, _, List.mem_singleton.mp ht ▸ hs⟩) hbuild hbefore
    hscan ⟨0, 2, 5⟩ List.mem_cons_self
  exact ⟨sig, _, s, _, s', _, hs, hbuild, hbefore, hscan, List.mem_cons_self, hfound⟩

/-- Of the two bytes of `é` the second feed sees the last one only, and takes `foo` for a word. -/
theorem foo_reported_in_word : ∃ sig e s log s',
    Signature.compile Signature.defaultSizeLimit { regex := "\\bfoo", flags := { utf8 := true } } =
        .ok sig ∧
      Engine.build [sig] { streamWindow := 1 } = .ok e ∧
      (Stream.new e 1).scanAll [[0xC3, 0xA9, 0x66]] = (s, .ok log) ∧
      s.scan [0x6F, 0x6F] = (s', .ok [⟨0, 2, 5⟩]) ∧
      ¬ sig.regex.program.Matches [0xC3, 0xA9, 0x66, 0x6F, 0x6F] 2 5 := by
  obtain ⟨sig, s, s', hs, hprogram, hbuild, hbefore, hscan⟩ := scan_cut_word
  refine ⟨sig, _, s, _, s', hs, hbuild, hbefore, hscan, ?_⟩
  rw [hprogram, Regex.Program.matches_word_iff (Regex.spells_literal _)]
  rintro ⟨hholds, _⟩
  have hbefore : Utf8.lastScalar?
      (([0xC3, 0xA9, 0x66, 0x6F, 0x6F] : Bytes).take 2).reverse = some 'é' := rfl
  have hafter : Utf8.scalar? (([0xC3, 0xA9, 0x66, 0x6F, 0x6F] : Bytes).drop 2) = some ('f', 1) := rfl
  rw [Regex.Look.HoldsAt, Regex.Look.boundary_holds hbefore hafter, Option.any_some,
    Option.map_some, Option.any_some, Unicode.isWord_letters.1, Unicode.isWord_letters.2] at hholds
  cases hholds

/-! ### Matches with no bytes -/

/-- A word boundary alone matches with no bytes at both ends of a letter. -/
theorem scan_boundary : ∃ sig, Signature.compile Signature.defaultSizeLimit { regex := "\\b" } = .ok sig ∧
    sig.flags = {} ∧ Engine.build [sig] {} = .ok ⟨[sig], 65536⟩ ∧
    (⟨[sig], 65536⟩ : Engine).scan [97] = [⟨0, 0, 0⟩, ⟨0, 1, 1⟩] := by
  obtain ⟨sig, hs, hliteral, hflags, hprogram, hbuild⟩ : ∃ sig,
      Signature.compile Signature.defaultSizeLimit { regex := "\\b" } = .ok sig ∧
      sig.literal = none ∧ sig.flags = {} ∧
      sig.regex.program = .ofCode [.look (.word .boundary false), .accept] ∧
      Engine.build [sig] {} = .ok ⟨[sig], 65536⟩ := ⟨_, rfl, rfl, rfl, rfl, rfl⟩
  have hfront : sig.regex.findAt? [] [97] 0 = some ⟨0, 0⟩ := by
    rw [Regex.findAt?, hprogram]
    rfl
  have hback : sig.regex.findAt? [97] [] 1 = some ⟨1, 1⟩ := by
    rw [Regex.findAt?, hprogram]
    rfl
  have hall : sig.regex.findAll [] [97] 0 = [⟨0, 0⟩, ⟨1, 1⟩] := by
    rw [Regex.findAll, hfront]
    show ⟨0, 0⟩ :: sig.regex.findAll [97] [] 1 = _
    rw [Regex.findAll, hback]
    rfl
  refine ⟨sig, hs, hflags, hbuild, ?_⟩
  rw [Engine.scan, Engine.scanFrom_single hs hliteral 65536 (Nat.zero_le _)]
  exact congrArg (List.map (Engine.matchAt 0)) hall

/-- **Matches take bytes.** Every match that an engine of compiled signatures reports, of a haystack from
any position on or of a chunk of a stream, takes at least one byte, or it lies at a word edge that is
written in its pattern. A stream sees the edge in the part of the data that it holds. -/
theorem empty_at_edges
    (hcompiled : ∀ sig ∈ e.signatures, ∃ limit p, Signature.compile limit p = .ok sig) :
    (∀ haystack start, ∀ m ∈ e.scanFrom haystack start,
      m.start < m.stop ∨ m.start = m.stop ∧ e.EdgeAt m.number haystack m.start) ∧
    ∀ window before chunk s log s' found,
      (Stream.new e window).scanAll before = (s, .ok log) → s.scan chunk = (s', .ok found) →
      ∀ m ∈ found, m.start < m.stop ∨ m.start = m.stop ∧
        e.EdgeAt m.number ((before.flatten ++ chunk).drop s.base) (m.start - s.base) := by
  have hp := Engine.proper_of_compiled hcompiled
  refine ⟨fun haystack start m hm => ?_, fun window before chunk s log s' found hbefore hscan m hm => ?_⟩
  · obtain ⟨hstart, sig, hn, hspan⟩ := Engine.exists_span_of_mem_scanFrom hp hm
    exact or_iff_not_imp_left.mpr fun hempty =>
      Engine.edgeAt_of_empty hcompiled hn hstart hspan hempty
  · obtain ⟨hbase, _, hfound⟩ := span_of_found hp hbefore hscan
    obtain ⟨sig, span, hn, hspan, hstart, hstop⟩ := hfound m hm
    refine or_iff_not_imp_left.mpr fun hempty => ?_
    obtain ⟨hsame, hedge⟩ := Engine.edgeAt_of_empty hcompiled hn (context_le hbase chunk) hspan
      (by omega)
    rw [hstart, Nat.add_sub_cancel]
    exact ⟨by omega, hedge⟩

/-- In front of a letter stands a word boundary. -/
theorem empty_at_edges_letter : ∃ sig,
    Signature.compile Signature.defaultSizeLimit { regex := "\\b" } = .ok sig ∧
      (∀ t ∈ [sig], ∃ limit p, Signature.compile limit p = .ok t) ∧
      (⟨0, 0, 0⟩ : Match) ∈ (⟨[sig], 65536⟩ : Engine).scanFrom [97] 0 ∧
      (⟨[sig], 65536⟩ : Engine).EdgeAt 0 [97] 0 := by
  obtain ⟨sig, hs, _, _, hscan⟩ := scan_boundary
  have hcompiled : ∀ t ∈ [sig], ∃ limit p, Signature.compile limit p = .ok t :=
    fun t ht => ⟨_, _, List.mem_singleton.mp ht ▸ hs⟩
  have hmem : (⟨0, 0, 0⟩ : Match) ∈ (⟨[sig], 65536⟩ : Engine).scanFrom [97] 0 := by
    rw [show (⟨[sig], 65536⟩ : Engine).scanFrom [97] 0 = _ from hscan]
    exact List.mem_cons_self
  have hedge := (empty_at_edges (e := ⟨[sig], 65536⟩) hcompiled).1 [97] 0 ⟨0, 0, 0⟩ hmem
  exact ⟨sig, hs, hcompiled, hmem, (hedge.resolve_left (Nat.lt_irrefl 0)).2⟩

/-- A pattern that is accepted, and is reported with no bytes. -/
theorem boundary_reported_empty : ∃ sig e s',
    Signature.compile Signature.defaultSizeLimit { regex := "\\b" } = .ok sig ∧
      Engine.build [sig] {} = .ok e ∧ e.scan [97] = [⟨0, 0, 0⟩, ⟨0, 1, 1⟩] ∧
      (Stream.new e 1).scan [97] = (s', .ok [⟨0, 1, 1⟩]) := by
  obtain ⟨sig, hs, hflags, hbuild, hscan⟩ := scan_boundary
  obtain ⟨regexText, flags, canonical, expression, literal, regex, setRegex⟩ := sig
  obtain rfl : flags = {} := hflags
  have hstream : (Stream.new _ 1).scan [97] = _ := scan_of_scanFrom hscan
  exact ⟨_, _, _, hs, hbuild, hscan, hstream⟩

end Stream
end TrafficRules
