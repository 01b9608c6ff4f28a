import TrafficRules.Proofs.Engine.Occurrences
import TrafficRules.Proofs.Stream.Additive
import TrafficRules.Proofs.Stream.Independence

/-! # Literals behind a history

Each chunk is searched behind the end of the data that a stream keeps, so the search for a literal goes
on from one byte of the data, the one behind the context (`Stream.resumption`), and not from where the
last match has stopped. Of what is found there the chunk reports the matches that end in it and start
where the last one reported has stopped (`Signature.feed`). Chunk by chunk this is all that a stream
reports of a literal (`Stream.reports_feeds`), and all that it counts (`Stream.holds_scanAll`).

If a chunk finds again the matches of all data that end in it (`Signature.Resumes`), it reports just
these (`Signature.spans_append_feed`), and chunks that all do so report what one search of all data
finds (`Signature.spans_append_feeds`). -/

namespace TrafficRules

namespace Regex.Span

theorem lastStop_append (free : Nat) (xs ys : List Span) :
    lastStop free (xs ++ ys) = lastStop (lastStop free xs) ys := by
  unfold lastStop
  rw [List.getLast?_append]
  cases ys.getLast? with
  | none => rfl
  | some span => rfl

theorem stop_le_lastStop {free : Nat} {span : Span} : ∀ {spans : List Span},
    spans.Pairwise Precedes → (∀ s ∈ spans, s.start ≤ s.stop) → span ∈ spans →
    span.stop ≤ lastStop free spans
  | s :: rest, hsorted, hle, hspan => by
      rw [List.pairwise_cons] at hsorted
      rw [List.forall_mem_cons] at hle
      rw [lastStop_cons]
      rcases List.mem_cons.mp hspan with rfl | hrest
      · cases rest with
        | nil => exact Nat.le_refl _
        | cons r more =>
            have : r.stop ≤ lastStop span.stop (r :: more) :=
              stop_le_lastStop hsorted.2 hle.2 List.mem_cons_self
            have := (hsorted.1 r List.mem_cons_self).stop_le
            have := hle.2 r List.mem_cons_self
            omega
      · exact stop_le_lastStop hsorted.2 hle.2 hrest

end Regex.Span

/-- The place in the data from which a chunk behind them is searched: behind the byte that is context
only, or at the start if nothing has been dropped. -/
def Stream.resumption (window : Nat) (data : Bytes) : Nat :=
  if window + 1 < data.length then data.length - window else 0

namespace Signature

/-- The matches that a chunk reports of a literal whose last match has stopped at `last`, with offsets
into all data. -/
def feed (s : Signature) (window last : Nat) (data chunk : Bytes) : List Regex.Span :=
  (s.spans (data ++ chunk) (Stream.resumption window data)).filter fun span =>
    data.length < span.stop && last ≤ span.start

/-- The matches that chunks report of a literal, one after the other. -/
def feeds (s : Signature) (window : Nat) : Nat → Bytes → List Bytes → List (List Regex.Span)
  | _, _, [] => []
  | last, data, chunk :: rest =>
      let found := s.feed window last data chunk
      found :: s.feeds window (Regex.Span.lastStop last found) (data ++ chunk) rest

end Signature

namespace Stream

variable {s s' : Stream} {e : Engine} {n c : Nat} {sig : Signature} {bytes data chunk : Bytes}
  {t : Track}

/-! ### What a stream reports -/

theorem Reads.resumption_eq (hr : s.Reads e data) :
    resumption s.window.toNat data = s.context + s.base := by
  have hbase := hr.base
  rw [resumption, context]
  split <;> split <;> omega

theorem Reads.due_literal (hr : s.Reads e data) (hlit : sig.literal = some bytes)
    (hmulti : sig.flags.singleMatch = false) (t : Track) (chunk : Bytes) :
    (s.due sig t chunk).map (Regex.Span.shift s.base) =
      sig.feed s.window.toNat t.lastEnd data chunk := by
  have hlength := hr.length
  rw [due, Track.reported, hmulti, if_neg Bool.false_ne_true, Track.fresh, Signature.feed,
    hr.resumption_eq, Signature.spans_drop hlit, ← hr.append chunk, List.filter_map]
  congr 1
  refine List.filter_congr fun span _ => ?_
  have hstop : s.buffer.length < span.stop ↔ data.length < span.stop + s.base := by omega
  rw [decide_eq_decide.mpr hstop]
  rfl

theorem lastEnd_behind_shift (single : Bool) (base : Nat) (t : Track) (spans : List Regex.Span) :
    (t.behind single base spans).lastEnd =
      Regex.Span.lastStop t.lastEnd (spans.map (Regex.Span.shift base)) := by
  unfold Track.behind Regex.Span.lastStop
  rw [List.getLast?_map]
  cases spans.getLast? with
  | none => rfl
  | some span => rfl

section
variable (hn : e.signatures[n]? = some sig) (hlit : sig.literal = some bytes) (hne : bytes ≠ [])
  (hmulti : sig.flags.singleMatch = false)
include hn hlit hne hmulti

/-- A chunk that has been taken has reported the feed of the literal. -/
theorem Fed.literal {found : List Match} (hr : s.Reads e data) (ht : s.Tally n t c)
    (h : s.Fed s' e data chunk found) :
    found.filter (fun m => m.number = n) =
        (sig.feed s.window.toNat t.lastEnd data chunk).map (Engine.matchAt n) ∧
      ∃ t', s'.Tally n t' (c + (sig.feed s.window.toNat t.lastEnd data chunk).length) ∧
        t'.lastEnd =
          Regex.Span.lastStop t.lastEnd (sig.feed s.window.toNat t.lastEnd data chunk) := by
  have hsig : sig.Proper := fun he => hne (Option.some.inj (hlit.symm.trans he))
  have hdue := hr.due_literal hlit hmulti t chunk
  rw [← hdue]
  refine ⟨?_, _, ?_, lastEnd_behind_shift sig.flags.singleMatch _ _ _⟩
  · rw [h.found hn hsig ht, List.map_map]
    rfl
  · rw [List.length_map]
    exact h.tally hn hsig ht

/-- What each chunk reports of a literal is its feed, up to a chunk that is not taken. -/
theorem reports_feeds : ∀ (chunks : List Bytes) {s : Stream} {data : Bytes} {t : Track} {c : Nat},
    s.Reads e data → s.Tally n t c →
    (s.reports chunks).map (fun found => found.filter fun m => m.number = n) <+:
      (sig.feeds s.window.toNat t.lastEnd data chunks).map (List.map (Engine.matchAt n))
  | [], _, _, _, _, _, _ => List.prefix_rfl
  | chunk :: rest, s, data, t, c, hr, ht => by
      rw [reports]
      cases hscan : s.scan chunk with
      | mk s' r =>
          cases r with
          | error fault => exact List.nil_prefix
          | ok found =>
              have hfed := scan_ok hr hscan
              obtain ⟨hfound, t', ht', hlast⟩ := Fed.literal hn hlit hne hmulti hr ht hfed
              have hrest := reports_feeds rest hfed.reads ht'
              have hwindow : s'.window = s.window := hfed.reads.window.trans hr.window.symm
              rw [hwindow, hlast] at hrest
              simp only [Signature.feeds, List.map_cons]
              exact List.cons_prefix_cons.mpr ⟨hfound, hrest⟩

/-- Behind chunks that have been taken the literal has been counted as often as it was reported. -/
theorem holds_scanAll : ∀ (chunks : List Bytes) {s : Stream} {data : Bytes} {t : Track} {c : Nat}
    {found : List Match}, s.Reads e data → s.Tally n t c → (s.scanAll chunks).2 = .ok found →
    (s.scanAll chunks).1.counts.Holds n
      (c + (sig.feeds s.window.toNat t.lastEnd data chunks).flatten.length)
  | [], _, _, _, _, _, _, ht, _ => ht.count
  | chunk :: rest, s, data, t, c, found, hr, ht, hok => by
      obtain ⟨s₁, first, later, hscan, hlater, _, hbehind⟩ := scanAll_cons_ok hok
      have hfed := scan_ok hr hscan
      obtain ⟨_, t', ht', hlast⟩ := Fed.literal hn hlit hne hmulti hr ht hfed
      have hrest := holds_scanAll rest hfed.reads ht' hlater
      have hwindow : s₁.window = s.window := hfed.reads.window.trans hr.window.symm
      rw [hwindow, hlast, Nat.add_assoc, ← List.length_append] at hrest
      rw [hbehind]
      exact hrest

end

end Stream

/-! ### What the feeds are -/

namespace Signature

variable {s : Signature} {bytes data chunk : Bytes} {window last : Nat} {span : Regex.Span}

/-- The matches of all data that end in the chunk are found when the search goes on. -/
def Resumes (s : Signature) (window : Nat) (data chunk : Bytes) : Prop :=
  ∀ span ∈ s.spans (data ++ chunk) 0, data.length < span.stop →
    span ∈ s.spans (data ++ chunk) (Stream.resumption window data)

/-- As long as nothing has been dropped, the search begins anew. -/
theorem resumes_of_short (s : Signature) (h : data.length ≤ window + 1) (chunk : Bytes) :
    s.Resumes window data chunk := by
  intro span hspan _
  rw [Stream.resumption, if_neg (Nat.not_lt.mpr h)]
  exact hspan

section
variable (hlit : s.literal = some bytes)
include hlit

/-- The matches in more data are those in the first data and others that lie behind them. -/
theorem spans_append (data chunk : Bytes) : ∃ later,
    s.spans (data ++ chunk) 0 = s.spans data 0 ++ later ∧
      ∀ span ∈ later, data.length < span.stop := by
  have hsplit := spans_literal_eq hlit (data ++ chunk) 0
  rw [List.drop_zero, Literal.occurrences_append, Regex.Span.separate_append] at hsplit
  refine ⟨_, by rw [hsplit, spans_literal_eq hlit data 0, List.drop_zero], fun span hspan => ?_⟩
  obtain ⟨k, hk, _, rfl, _⟩ :=
    Literal.mem_occurrences_iff.mp ((Regex.Span.separate_sublist _ _).subset hspan)
  dsimp only
  omega

variable (hne : bytes ≠ [])
include hne

theorem mem_feed (h : span ∈ s.feed window last data chunk) :
    Literal.Spelled s.flags.caseless bytes (data ++ chunk) span.start span.stop ∧
      data.length < span.stop ∧ last ≤ span.start := by
  obtain ⟨hspan, hends⟩ := List.mem_filter.mp h
  simp only [Bool.and_eq_true, decide_eq_true_eq] at hends
  exact ⟨(spelled_of_mem_spans hlit hne hspan).2, hends⟩

theorem precedes_feed (window last : Nat) (data chunk : Bytes) :
    (s.feed window last data chunk).Pairwise Regex.Span.Precedes :=
  (precedes_spans hlit hne _ _).filter _

/-- A chunk that resumes the search reports what it adds to the matches. -/
theorem spans_append_feed (h : s.Resumes window data chunk) :
    s.spans (data ++ chunk) 0 = s.spans data 0 ++
      s.feed window (Regex.Span.lastStop 0 (s.spans data 0)) data chunk := by
  obtain ⟨later, hsplit, hlater⟩ := spans_append hlit data chunk
  have hsorted := precedes_spans hlit hne (data ++ chunk) 0
  rw [hsplit, List.pairwise_append] at hsorted
  have hnonempty : ∀ span ∈ s.spans data 0 ++ later, span.start < span.stop :=
    fun span hspan => start_lt_of_mem_spans hlit hne (hsplit ▸ hspan)
  have hlast : ∀ span ∈ s.spans data 0, span.stop ≤ Regex.Span.lastStop 0 (s.spans data 0) :=
    fun span hspan => Regex.Span.stop_le_lastStop hsorted.1
      (fun x hx => Nat.le_of_lt (hnonempty x (List.mem_append_left _ hx))) hspan
  rw [hsplit]
  congr 1
  refine Regex.Span.eq_of_mem_iff hsorted.2.1 (precedes_feed hlit hne _ _ _ _)
    (fun span hspan => hnonempty span (List.mem_append_right _ hspan)) fun span => ⟨?_, ?_⟩
  · intro hspan
    have hmem : span ∈ s.spans (data ++ chunk) 0 := hsplit ▸ List.mem_append_right _ hspan
    have hbehind : Regex.Span.lastStop 0 (s.spans data 0) ≤ span.start := by
      unfold Regex.Span.lastStop
      cases hfront : (s.spans data 0).getLast? with
      | none => exact Nat.zero_le _
      | some front =>
          exact (hsorted.2.2 front (List.mem_of_getLast? hfront) span hspan).stop_le
    refine List.mem_filter.mpr ⟨h span hmem (hlater span hspan), ?_⟩
    simp only [Bool.and_eq_true, decide_eq_true_eq]
    exact ⟨hlater span hspan, hbehind⟩
  · intro hspan
    obtain ⟨hspelled, hends, hbehind⟩ := mem_feed hlit hne hspan
    -- the match of all data inside which this one starts is one of the later ones
    obtain ⟨cover, hcover, hle, hlt⟩ := exists_covering hlit hne (Nat.zero_le span.start) hspelled
    have hmem : cover ∈ later := by
      rcases List.mem_append.mp (hsplit ▸ hcover) with hfront | hlate
      · have := hlast cover hfront
        omega
      · exact hlate
    have hagain := h cover hcover (hlater cover hmem)
    obtain rfl := eq_of_mem_spans hlit hne hagain (List.mem_filter.mp hspan).1 hle hlt
    exact hmem

/-- Chunks that resume the search one after the other report what they add to the matches. -/
theorem spans_append_feeds : ∀ (chunks : List Bytes) (data : Bytes),
    (∀ front chunk back, chunks = front ++ chunk :: back →
      s.Resumes window (data ++ front.flatten) chunk) →
    s.spans (data ++ chunks.flatten) 0 = s.spans data 0 ++
      (s.feeds window (Regex.Span.lastStop 0 (s.spans data 0)) data chunks).flatten
  | [], data, _ => by
      rw [feeds, List.flatten_nil, List.flatten_nil, List.append_nil, List.append_nil]
  | chunk :: rest, data, h => by
      have hfirst := h [] chunk rest rfl
      rw [List.flatten_nil, List.append_nil] at hfirst
      have hfeed := spans_append_feed hlit hne hfirst
      have hrest := spans_append_feeds rest (data ++ chunk) fun front next back hsplit => by
        have := h (chunk :: front) next back (by rw [hsplit, List.cons_append])
        rwa [List.flatten_cons, ← List.append_assoc] at this
      rw [List.flatten_cons, ← List.append_assoc, hrest, feeds, List.flatten_cons,
        ← List.append_assoc, ← hfeed]
      congr 3
      rw [hfeed, Regex.Span.lastStop_append]

omit hne in
theorem spans_nil : s.spans [] 0 = [] := by
  rw [spans_literal_eq hlit]
  rfl

/-- The first chunk reports what a search of it finds. -/
theorem feed_nil (window : Nat) (chunk : Bytes) : s.feed window 0 [] chunk = s.spans chunk 0 := by
  have hshort : ([] : Bytes).length ≤ window + 1 := Nat.zero_le _
  have hfeed := spans_append_feed hlit hne (s.resumes_of_short hshort chunk)
  rw [spans_nil hlit, List.nil_append, List.nil_append] at hfeed
  exact hfeed.symm

/-- Chunks that resume the search one after the other report what one search of all data finds. -/
theorem flatten_feeds_of_resumes {chunks : List Bytes}
    (h : ∀ front chunk back, chunks = front ++ chunk :: back →
      s.Resumes window front.flatten chunk) :
    (s.feeds window 0 [] chunks).flatten = s.spans chunks.flatten 0 := by
  have hall := spans_append_feeds hlit hne chunks [] h
  rw [List.nil_append, spans_nil hlit, List.nil_append] at hall
  exact hall.symm

end
end Signature
end TrafficRules
