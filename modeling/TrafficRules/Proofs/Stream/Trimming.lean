import Mathlib.Data.List.PeriodicityLemma
import TrafficRules.Proofs.Stream.Chunking
import TrafficRules.Proofs.Stream.Occurrences

/-! # Literals and the end of the history

Behind bytes that have been dropped the search for a literal goes on at the byte behind the context and
not where the last match has stopped. If it is in step there with a search of all data, the two find
the same (`Signature.InStep`), and then the count of a literal does not depend on how the data are cut
(`Stream.get?_counts_eq`). If it is not, some cuts of a part of the data count differently
(`Stream.inStep_of_counts`).

The searches are in step in all data exactly if the literal does not overlap itself
(`Literal.OverlapsItself`): what overlaps itself has a period, and in data with this period a search
that starts one period later finds the literal one period later. -/

namespace TrafficRules

namespace Literal

variable {caseless : Bool} {literal input : Bytes} {i i' j j' k : Nat}

/-- The literal can start again inside itself. -/
def OverlapsItself (caseless : Bool) (literal : Bytes) : Prop :=
  ∃ k, 0 < k ∧ k < literal.length ∧ (literal.map (fold caseless)).HasPeriod k

/-- Two occurrences that overlap make the literal overlap itself. -/
theorem overlapsItself_of_spelled (h : Spelled caseless literal input i j)
    (h' : Spelled caseless literal input i' j') (hlt : i < i') (hinside : i' < j) :
    OverlapsItself caseless literal := by
  have hlength := h.length
  obtain ⟨found, rest, hdrop, _, hmap⟩ := h
  obtain ⟨found', rest', hdrop', _, hmap'⟩ := h'
  obtain ⟨k, rfl⟩ := Nat.exists_eq_add_of_le (Nat.le_of_lt hlt)
  have hfound : found.length = literal.length := by
    simpa only [List.length_map] using congrArg List.length hmap
  have hfound' : found'.length = literal.length := by
    simpa only [List.length_map] using congrArg List.length hmap'
  have hboth : found.drop k ++ rest = found' ++ rest' := by
    rw [← hdrop', ← List.drop_drop, hdrop, List.drop_append_of_le_length (by omega)]
  have hprefix : found.drop k <+: found' :=
    List.prefix_of_prefix_length_le (List.prefix_append _ rest) (hboth ▸ List.prefix_append _ _)
      (by rw [List.length_drop]; omega)
  have hdropped := hprefix.map (fold caseless)
  rw [List.map_drop, hmap, hmap', ← List.prefix_append_right_inj ((literal.map _).take k),
    List.take_append_drop] at hdropped
  exact ⟨k, by omega, by omega, hdropped⟩

theorem length_flatten_replicate {w : Bytes} (hk : k ≤ w.length) (n : Nat) :
    (List.replicate n (w.take k)).flatten.length = n * k := by
  rw [List.length_flatten, List.map_replicate, List.sum_replicate, List.length_take,
    Nat.min_eq_left hk, smul_eq_mul]

/-- Bytes with a period are a beginning of their first period over and over again. -/
theorem prefix_flatten_replicate {w : Bytes} (h : w.HasPeriod k) (hk : k ≤ w.length) {n : Nat}
    (hn : w.length ≤ n * k) : w <+: (List.replicate n (w.take k)).flatten := by
  have hmore : ∀ n, w <+: (List.replicate n (w.take k)).flatten ++ w := by
    intro n
    induction n with
    | zero => exact List.prefix_rfl
    | succ n ih =>
        rw [List.replicate_succ, List.flatten_cons, List.append_assoc]
        exact h.trans ((List.prefix_append_right_inj _).mpr ih)
  refine List.prefix_of_prefix_length_le (hmore n) (List.prefix_append _ w) ?_
  rwa [length_flatten_replicate hk]

/-- The first period over and over again spells the literal at each of its beginnings. -/
theorem spelled_replicate (hk : 0 < k) (hlt : k < literal.length)
    (h : (literal.map (fold caseless)).HasPeriod k) (n : Nat) :
    Spelled caseless literal (List.replicate (n + literal.length) (literal.take k)).flatten (n * k)
      (n * k + literal.length) := by
  have hlength := length_flatten_replicate (Nat.le_of_lt hlt) n
  have hwhole : (literal.map (fold caseless)).length ≤ literal.length * k := by
    rw [List.length_map]
    exact Nat.le_mul_of_pos_right _ hk
  have hprefix := prefix_flatten_replicate h (by rw [List.length_map]; omega) hwhole
  rw [← List.map_take, ← List.map_replicate, ← List.map_flatten] at hprefix
  have htake := List.prefix_iff_eq_take.mp hprefix
  rw [List.length_map, ← List.map_take] at htake
  rw [List.replicate_add, List.flatten_append]
  generalize (List.replicate literal.length (literal.take k)).flatten = periods at htake
  refine ⟨periods.take literal.length, periods.drop literal.length, ?_, ?_, htake.symm⟩
  · rw [← hlength, List.drop_left, List.take_append_drop]
  · have := congrArg List.length htake
    rw [List.length_map, List.length_map] at this
    rw [← this]

end Literal

/-- Spans of which there are as many up to each place beyond the first ones stop in the same places
there. -/
theorem Regex.Span.exists_stop_eq {xs ys : List Span} {x : Span} {k : Nat} (hx : x ∈ xs)
    (hlt : k < x.stop) (h : ∀ i, (xs.filter fun span => span.stop ≤ k + i).length =
      (ys.filter fun span => span.stop ≤ k + i).length) : ∃ y ∈ ys, y.stop = x.stop := by
  by_contra hnone
  obtain ⟨i, hi⟩ := Nat.exists_eq_add_of_lt hlt
  have hsame : ys.filter (fun span => span.stop ≤ k + i) =
      ys.filter fun span => span.stop ≤ k + (i + 1) := by
    refine List.filter_congr fun y hy => decide_eq_decide.mpr ⟨fun hle => by omega, fun hle => ?_⟩
    have : y.stop ≠ x.stop := fun heq => hnone ⟨y, hy, heq⟩
    omega
  have hsub : (xs.filter fun span => span.stop ≤ k + i).Sublist
      (xs.filter fun span => span.stop ≤ k + (i + 1)) := by
    refine List.monotone_filter_right xs fun span hle => ?_
    rw [decide_eq_true_eq] at hle ⊢
    omega
  have heq := hsub.eq_of_length (by rw [h, h, hsame])
  have hmem : x ∈ xs.filter fun span => span.stop ≤ k + (i + 1) :=
    List.mem_filter.mpr ⟨hx, decide_eq_true (by omega)⟩
  rw [← heq, List.mem_filter, decide_eq_true_eq] at hmem
  omega

namespace Signature

variable {s : Signature} {bytes data part front back : Bytes} {window : Nat}

/-- Wherever the data are cut, the search that goes on behind the cut finds again what the search of all
data finds there. -/
def InStep (s : Signature) (window : Nat) (data : Bytes) : Prop :=
  ∀ front back, data = front ++ back → s.Resumes window front back

section
variable (hlit : s.literal = some bytes)
include hlit

/-- What the search goes on to find in the first bytes of a chunk are the matches that stop there. -/
theorem Resumes.take (h : s.Resumes window front back) (n : Nat) :
    s.Resumes window front (back.take n) := by
  have htake : front ++ back.take n = (front ++ back).take (front.length + n) :=
    (List.take_length_add_append n).symm
  intro span hspan hends
  rw [htake, spans_take hlit, List.mem_filter] at hspan ⊢
  exact ⟨h span hspan.1 hends, hspan.2⟩

theorem InStep.mono (h : s.InStep window data) (hle : part <+: data) : s.InStep window part := by
  rintro front back rfl
  obtain ⟨rest, rfl⟩ := hle
  have := (h front (back ++ rest) (List.append_assoc ..)).take hlit back.length
  rwa [List.take_left] at this

variable (hne : bytes ≠ [])
include hne

/-- Of short data nothing is dropped in front of the last byte. -/
theorem inStep_of_short (h : data.length ≤ window + 2) : s.InStep window data := by
  rintro front back rfl
  cases back with
  | nil =>
      intro span hspan hends
      have hstop := (spelled_of_mem_spans hlit hne hspan).2.stop_le hne
      rw [List.append_nil] at hstop
      omega
  | cons b rest =>
      refine s.resumes_of_short ?_ _
      rw [List.length_append, List.length_cons] at h
      omega

/-- If two chunks of which the second one is cut short anywhere report as many matches as there are,
then the second one finds them all. -/
theorem resumes_of_lengths
    (h : ∀ n, (s.spans (front ++ back.take n) 0).length = (s.spans front 0).length +
      (s.feed window (Regex.Span.lastStop 0 (s.spans front 0)) front (back.take n)).length) :
    s.Resumes window front back := by
  obtain ⟨later, hsplit, _⟩ := spans_append hlit front back
  have hfront : ∀ span ∈ s.spans front 0, span.stop ≤ front.length :=
    fun span hspan => (spelled_of_mem_spans hlit hne hspan).2.stop_le hne
  have hcount : ∀ n, (later.filter fun span => span.stop ≤ front.length + n).length =
      ((s.feed window (Regex.Span.lastStop 0 (s.spans front 0)) front back).filter fun span =>
        span.stop ≤ front.length + n).length := by
    intro n
    have hn := h n
    rw [feed, ← List.take_length_add_append n, spans_take hlit, spans_take hlit, hsplit,
      List.filter_append, List.length_append, List.filter_eq_self.mpr fun span hspan => ?_,
      Nat.add_left_cancel_iff] at hn
    · rw [hn, feed, List.filter_filter, List.filter_filter]
      simp only [Bool.and_comm]
    · exact decide_eq_true (Nat.le_add_right_of_le (hfront span hspan))
  intro span hspan hends
  have hlater : span ∈ later := by
    refine (List.mem_append.mp (hsplit ▸ hspan)).resolve_left fun hmem => ?_
    have := hfront span hmem
    omega
  obtain ⟨other, hother, hstop⟩ := Regex.Span.exists_stop_eq hlater hends hcount
  have hlength := (spelled_of_mem_spans hlit hne hspan).2.length
  have hlength' := (mem_feed hlit hne hother).1.length
  have hsame : other = span := by
    obtain ⟨start, stop⟩ := span
    obtain ⟨start', stop'⟩ := other
    dsimp only at hstop hlength hlength'
    rw [hstop, show start' = start by omega]
  exact hsame ▸ (List.mem_filter.mp hother).1

/-- A literal that does not overlap itself is found wherever the search goes on. -/
theorem inStep_of_not_overlapsItself (hlen : bytes.length ≤ window)
    (h : ¬ Literal.OverlapsItself s.flags.caseless bytes) (data : Bytes) :
    s.InStep window data := by
  rintro front back rfl span hspan hends
  obtain ⟨_, hspelled⟩ := spelled_of_mem_spans hlit hne hspan
  have hlength := hspelled.length
  refine mem_spans_of_isolated hlit hne ?_ hspelled fun i' j' hother hlt => ?_
  · unfold Stream.resumption
    split <;> omega
  · by_contra hinside
    exact h (Literal.overlapsItself_of_spelled hother hspelled hlt (Nat.not_le.mp hinside))

/-- If the searches are in step in periods of a literal, then each match that stops far enough behind is
also found some periods before. -/
theorem InStep.exists_earlier {k n m : Nat} {span : Regex.Span}
    (h : s.InStep window (List.replicate n (bytes.take k)).flatten) (hk : 0 < k)
    (hle : k ≤ bytes.length) (hm : 1 < m) (hmn : m ≤ n)
    (hspan : span ∈ s.spans (List.replicate n (bytes.take k)).flatten 0)
    (hfar : window + m * k < span.stop) :
    ∃ earlier ∈ s.spans (List.replicate n (bytes.take k)).flatten 0,
      span = earlier.shift (m * k) := by
  obtain ⟨n, rfl⟩ := Nat.exists_eq_add_of_le hmn
  have hmk : 1 < m * k := Nat.lt_of_lt_of_le hm (Nat.le_mul_of_pos_right m hk)
  have hlength := Literal.length_flatten_replicate hle m
  have hstop := (spelled_of_mem_spans hlit hne hspan).2.stop_le hne
  -- the search behind the first `window + m * k` bytes goes on after `m` periods
  have hresume : Stream.resumption window
      ((List.replicate (m + n) (bytes.take k)).flatten.take (window + m * k)) = m * k := by
    rw [Stream.resumption, List.length_take, Nat.min_eq_left (by omega), if_pos (by omega)]
    omega
  have hagain := h _ _ (List.take_append_drop (window + m * k) _).symm span
    (by rwa [List.take_append_drop]) (by rw [List.length_take]; omega)
  rw [hresume, List.take_append_drop, ← Nat.zero_add (m * k), spans_drop hlit,
    List.replicate_add, List.flatten_append, ← hlength, List.drop_left] at hagain
  obtain ⟨earlier, hearlier, rfl⟩ := List.mem_map.mp hagain
  refine ⟨earlier, ?_, by rw [hlength]⟩
  have htake := spans_take hlit (List.replicate (m + n) (bytes.take k)).flatten 0 (n * k)
  rw [Nat.add_comm m n, List.replicate_add, List.flatten_append,
    ← Literal.length_flatten_replicate hle n, List.take_left] at htake
  rw [htake] at hearlier
  rw [Nat.add_comm m n, List.replicate_add, List.flatten_append]
  exact List.mem_of_mem_filter hearlier

/-- In data with the period of the literal the search gets out of step: it would find the same match
two periods and three periods before, where it overlaps itself. -/
theorem not_overlapsItself_of_inStep (h : ∀ data, s.InStep window data) :
    ¬ Literal.OverlapsItself s.flags.caseless bytes := by
  rintro ⟨k, hk, hlt, hperiod⟩
  have hspelled := Literal.spelled_replicate hk hlt hperiod (window + 3)
  obtain ⟨span, hspan, hstart, hstop⟩ := exists_covering hlit hne (Nat.zero_le _) hspelled
  have hfar : window + 3 * k < span.stop := by
    have : window ≤ window * k := Nat.le_mul_of_pos_right window hk
    rw [Nat.add_mul] at hstop
    omega
  obtain ⟨a, ha, hspan₂⟩ := InStep.exists_earlier hlit hne (h _) hk (Nat.le_of_lt hlt)
    (show 1 < 2 by decide) (by omega) hspan (by omega)
  obtain ⟨b, hb, hspan₃⟩ := InStep.exists_earlier hlit hne (h _) hk (Nat.le_of_lt hlt)
    (show 1 < 3 by decide) (by omega) hspan (by omega)
  have hlength := (spelled_of_mem_spans hlit hne hb).2.length
  have hapart : a.start = b.start + k := by
    have := congrArg Regex.Span.start (hspan₂.symm.trans hspan₃)
    simp only [Regex.Span.shift] at this
    omega
  have hsame := eq_of_mem_spans hlit hne hb ha (by omega) (by omega)
  rw [hsame] at hapart
  omega

end

end Signature

namespace Stream

variable {e : Engine} {s s' : Stream} {n : Nat} {sig : Signature} {bytes data chunk : Bytes}
  {a b chunks : List Bytes} {found : List Match}

/-! ### Signatures that are reported once -/

/-- A signature has not been counted, or once and for good. -/
def Once (s : Stream) (n : Nat) : Prop :=
  ∃ t c, s.Tally n t c ∧ c ≤ 1 ∧ (0 < c → t.fired = true)

theorem Once.step (hn : e.signatures[n]? = some sig) (hsig : sig.Proper)
    (hsingle : sig.flags.singleMatch = true) (h : s.Once n) (hfed : s.Fed s' e data chunk found) :
    s'.Once n := by
  obtain ⟨t, c, htally, hle, hfired⟩ := h
  have htally' := hfed.tally hn hsig htally
  by_cases ht : t.fired = true
  · have hdue : s.due sig t chunk = [] := by
      rw [due, Track.reported, hsingle, if_pos rfl, if_pos ht]
    rw [hdue] at htally'
    exact ⟨t, c, htally', hle, hfired⟩
  · have hc : c = 0 := by
      by_contra hpos
      exact ht (hfired (Nat.pos_of_ne_zero hpos))
    have hdue : (s.due sig t chunk).length ≤ 1 := by
      rw [due, Track.reported, hsingle, if_pos rfl, if_neg ht]
      exact List.length_take_le 1 _
    refine ⟨_, _, htally', by omega, fun hpos => ?_⟩
    cases hlast : (s.due sig t chunk).getLast? with
    | none =>
        rw [List.getLast?_eq_none_iff.mp hlast, List.length_nil] at hpos
        omega
    | some span =>
        rw [Track.behind, hlast]
        exact hsingle

/-- Behind chunks that have been taken a literal that is reported once has been counted if it has
occurred. -/
theorem holds_once (hp : e.Proper) (hn : e.signatures[n]? = some sig)
    (hlit : sig.literal = some bytes) (hlen : bytes.length ≤ e.openStream.window.toNat)
    (hsingle : sig.flags.singleMatch = true)
    (hok : (e.openStream.scanAll chunks).2 = .ok found) :
    ∃ c ≤ 1, (e.openStream.scanAll chunks).1.counts.Holds n c ∧
      (0 < c ↔ Literal.Occurs sig.flags.caseless bytes chunks.flatten) := by
  have hfresh : e.openStream.Once n :=
    ⟨_, 0, tally_openStream (List.getElem?_eq_some_iff.mp hn).1, Nat.zero_le 1,
      fun h => absurd h (Nat.lt_irrefl 0)⟩
  obtain ⟨hdetects, t, c, htally, hle, _⟩ := scanAll_ok
    (P := fun s data => s.Detects e data ∧ s.Once n) (fun hr h hfed =>
      ⟨detects_of_took hr h.1 (hfed.took hp hr),
        h.2.step hn (hp.of_getElem? hn) hsingle hfed⟩)
    chunks (reads_openStream e) ⟨detects_openStream hp, hfresh⟩ hok
  obtain ⟨_, c', htally', _, hoccurs⟩ := hdetects hn hlit hlen
  have hc : c' = c := by rw [← htally'.count.toNat_of, htally.count.toNat_of]
  exact ⟨c, hle, htally.count, hc ▸ hoccurs⟩

/-! ### Signatures that are reported again -/

/-- A fresh stream has counted a literal as often as its chunks reported it. -/
theorem holds_feeds (hn : e.signatures[n]? = some sig) (hlit : sig.literal = some bytes)
    (hne : bytes ≠ []) (hmulti : sig.flags.singleMatch = false)
    (hok : (e.openStream.scanAll chunks).2 = .ok found) :
    (e.openStream.scanAll chunks).1.counts.Holds n
      (sig.feeds e.openStream.window.toNat 0 [] chunks).flatten.length := by
  have htally := tally_openStream (List.getElem?_eq_some_iff.mp hn).1
  have hcount := holds_scanAll hn hlit hne hmulti chunks (reads_openStream e) htally hok
  rwa [Nat.zero_add] at hcount

theorem holds_of_inStep (hn : e.signatures[n]? = some sig) (hlit : sig.literal = some bytes)
    (hne : bytes ≠ []) (hmulti : sig.flags.singleMatch = false)
    (h : sig.InStep e.openStream.window.toNat chunks.flatten)
    (hok : (e.openStream.scanAll chunks).2 = .ok found) :
    (e.openStream.scanAll chunks).1.counts.Holds n (sig.spans chunks.flatten 0).length := by
  have hcount := holds_feeds hn hlit hne hmulti hok
  rw [Signature.flatten_feeds_of_resumes hlit hne] at hcount
  · exact hcount
  · rintro front chunk back rfl
    have := (h front.flatten (chunk ++ back.flatten) (by simp)).take hlit chunk.length
    rwa [List.take_left] at this

/-- Cuts of data in which the searches are in step count a literal alike. -/
theorem get?_counts_eq (hp : e.Proper) (hn : e.signatures[n]? = some sig)
    (hlit : sig.literal = some bytes) (hlen : bytes.length ≤ e.openStream.window.toNat)
    (h : sig.flags.singleMatch = true ∨ sig.InStep e.openStream.window.toNat a.flatten)
    (hab : b.flatten = a.flatten) (ha : ∃ found, (e.openStream.scanAll a).2 = .ok found)
    (hb : ∃ found, (e.openStream.scanAll b).2 = .ok found) :
    (e.openStream.scanAll a).1.counts.get? n = (e.openStream.scanAll b).1.counts.get? n := by
  obtain ⟨_, ha⟩ := ha
  obtain ⟨_, hb⟩ := hb
  have hne : bytes ≠ [] := fun hnil => hp.of_getElem? hn (hnil ▸ hlit)
  cases hsingle : sig.flags.singleMatch with
  | true =>
      obtain ⟨c, hc, hcount, hoccurs⟩ := holds_once hp hn hlit hlen hsingle ha
      obtain ⟨c', hc', hcount', hoccurs'⟩ := holds_once hp hn hlit hlen hsingle hb
      rw [hab, ← hoccurs] at hoccurs'
      obtain rfl : c = c' := by omega
      exact hcount.get?.trans hcount'.get?.symm
  | false =>
      have hstep := h.resolve_left (by rw [hsingle]; exact Bool.false_ne_true)
      have hcount := holds_of_inStep hn hlit hne hsingle hstep ha
      have hcount' := holds_of_inStep hn hlit hne hsingle (hab ▸ hstep) hb
      rw [hab] at hcount'
      exact hcount.get?.trans hcount'.get?.symm

/-- If no part of the data counts a literal in one chunk otherwise than in two, the searches are in
step. -/
theorem inStep_of_counts (hp : e.Proper) (hw : e.openStream.window.toNat + 1 < offsetBound)
    (hn : e.signatures[n]? = some sig) (hlit : sig.literal = some bytes)
    (hmulti : sig.flags.singleMatch = false) (hfew : 2 * data.length < UInt32.size)
    (h : ∀ a b : List Bytes, a.flatten <+: data → b.flatten = a.flatten →
      (e.openStream.scanAll a).1.counts.get? n = (e.openStream.scanAll b).1.counts.get? n) :
    sig.InStep e.openStream.window.toNat data := by
  have hne : bytes ≠ [] := fun hnil => hp.of_getElem? hn (hnil ▸ hlit)
  rintro front back rfl
  refine Signature.resumes_of_lengths hlit hne fun k => ?_
  have hpart : front ++ back.take k <+: front ++ back :=
    (List.prefix_append_right_inj front).mpr (List.take_prefix k back)
  generalize back.take k = chunk at hpart ⊢
  have hlength := hpart.length_le
  have hone : [front ++ chunk].flatten = front ++ chunk := List.flatten_singleton
  have htwo : [front, chunk].flatten = front ++ chunk := by
    rw [List.flatten_cons, List.flatten_singleton]
  obtain ⟨_, hok⟩ := scanAll_taken hp hw (show 2 * [front ++ chunk].flatten.length < _ by
    rw [hone]; omega)
  obtain ⟨_, hok'⟩ := scanAll_taken hp hw (show 2 * [front, chunk].flatten.length < _ by
    rw [htwo]; omega)
  have hcount := holds_feeds hn hlit hne hmulti hok
  have hcount' := holds_feeds hn hlit hne hmulti hok'
  have heq := h [front ++ chunk] [front, chunk] (by rwa [hone]) (htwo.trans hone.symm)
  have hsame : (sig.feeds e.openStream.window.toNat 0 [] [front ++ chunk]).flatten.length =
      (sig.feeds e.openStream.window.toNat 0 [] [front, chunk]).flatten.length := by
    rw [← hcount.toNat_of, ← hcount'.toNat_of, Counts.of, Counts.of, heq]
  simp only [Signature.feeds, Signature.feed_nil hlit hne, List.flatten_cons, List.flatten_nil,
    List.append_nil, List.nil_append, List.length_append] at hsame
  exact hsame

/-- **Counts behind a history.** Let an engine be built for compiled signatures and let a stream of it
look back at least as far as a literal.

* If the literal is reported once, or if in the data its searches are in step, then its count does not
  depend on how the data are cut.
* Few data are taken in any cut, and then this condition is exact: it holds if and only if no part of
  the data has a count of the literal that depends on how it is cut.
* The searches are in step in data of which nothing is dropped in front of the last byte.
* They are in step in all data if and only if the literal does not overlap itself. -/
theorem counts_trimming {P : List Signature} {c : EngineConfig}
    (hP : ∀ s ∈ P, ∃ limit p, Signature.compile limit p = .ok s) (he : Engine.build P c = .ok e)
    (hn : P[n]? = some sig) (hlit : sig.literal = some bytes) {window : UInt64}
    (hlen : bytes.length ≤ window.toNat) (hw : window.toNat + 1 < offsetBound) :
    let fed := fun chunks => (Stream.new e window).scanAll chunks
    let single := sig.flags.singleMatch = true
    (∀ a b : List Bytes, b.flatten = a.flatten → (single ∨ sig.InStep window.toNat a.flatten) →
      (∃ found, (fed a).2 = .ok found) → (∃ found, (fed b).2 = .ok found) →
      (fed a).1.counts.get? n = (fed b).1.counts.get? n) ∧
    (∀ data : Bytes, 2 * data.length < UInt32.size →
      (∀ a : List Bytes, a.flatten = data → ∃ found, (fed a).2 = .ok found) ∧
      ((single ∨ sig.InStep window.toNat data) ↔
        ∀ a b : List Bytes, a.flatten <+: data → b.flatten = a.flatten →
          (fed a).1.counts.get? n = (fed b).1.counts.get? n)) ∧
    (∀ data : Bytes, data.length ≤ window.toNat + 2 → sig.InStep window.toNat data) ∧
    ((∀ data : Bytes, sig.InStep window.toNat data) ↔
      ¬ Literal.OverlapsItself sig.flags.caseless bytes) := by
  obtain ⟨rfl, _⟩ := Engine.build_ok_iff.mp he
  intro fed single
  -- the stream is that of an engine with this window
  let d : Engine := ⟨P, window⟩
  have hp : d.Proper := Engine.proper_of_compiled hP
  have hne : bytes ≠ [] := fun hnil => hp.of_getElem? hn (hnil ▸ hlit)
  have hwindow : d.openStream.window = window :=
    window_of_pos (Nat.lt_of_lt_of_le (List.length_pos_iff.mpr hne) hlen)
  have hfed : ∀ chunks, (fed chunks).2 = (d.openStream.scanAll chunks).2 ∧
      (fed chunks).1.counts = (d.openStream.scanAll chunks).1.counts := by
    intro chunks
    rw [show fed chunks = _ from scanAll_new P c.streamWindow window chunks]
    exact ⟨rfl, rfl⟩
  simp only [(hfed _).1, (hfed _).2]
  have hsame : ∀ a b : List Bytes, b.flatten = a.flatten →
      (single ∨ sig.InStep window.toNat a.flatten) →
      (∃ found, (d.openStream.scanAll a).2 = .ok found) →
      (∃ found, (d.openStream.scanAll b).2 = .ok found) →
      (d.openStream.scanAll a).1.counts.get? n = (d.openStream.scanAll b).1.counts.get? n :=
    fun a b hab h ha hb =>
      get?_counts_eq hp hn hlit (hwindow ▸ hlen) (hwindow ▸ h) hab ha hb
  have htaken : ∀ data : Bytes, 2 * data.length < UInt32.size → ∀ a : List Bytes,
      a.flatten = data → ∃ found, (d.openStream.scanAll a).2 = .ok found := by
    rintro _ hfew a rfl
    exact scanAll_taken hp (hwindow ▸ hw) hfew
  refine ⟨hsame, fun data hfew => ⟨htaken data hfew, ⟨?_, ?_⟩⟩, fun data hshort =>
    Signature.inStep_of_short hlit hne hshort, ⟨Signature.not_overlapsItself_of_inStep hlit hne, ?_⟩⟩
  · intro h a b ha hab
    have hle := ha.length_le
    exact hsame a b hab (h.imp_right fun hstep => hstep.mono hlit ha)
      (htaken a.flatten (by omega) a rfl) (htaken a.flatten (by omega) b hab)
  · intro h
    cases hsingle : sig.flags.singleMatch with
    | true => exact Or.inl hsingle
    | false =>
        have := inStep_of_counts hp (hwindow ▸ hw) hn hlit hsingle hfew h
        exact Or.inr (hwindow ▸ this)
  · exact fun h data => Signature.inStep_of_not_overlapsItself hlit hne hlen h data

/-- Two letters again and again, and a stream that looks back by two bytes. -/
theorem counts_trimming_letters : ∃ s, Signature.compile 100000 { regex := "ab" } = .ok s ∧
    ((Stream.new ⟨[s], 65536⟩ 2).scanAll [[97, 98, 97, 98, 97, 98]]).1.counts.get? 0 =
      ((Stream.new ⟨[s], 65536⟩ 2).scanAll [[97, 98, 97, 98, 97], [98]]).1.counts.get? 0 := by
  have hok : (Signature.compile 100000 { regex := "ab" }).toBool = true := by decide +kernel
  have hab : Signature.literal? "ab" {} = some [97, 98] := by decide +kernel
  cases hc : Signature.compile 100000 { regex := "ab" } with
  | error fault =>
      rw [hc] at hok
      cases hok
  | ok s =>
      have hlit := (Signature.literal_of_compile hc).trans hab
      have hbuild : Engine.build [s] {} = .ok ⟨[s], 65536⟩ :=
        Engine.build_of_literals (by simp [hlit]) rfl
      have hP : ∀ t ∈ [s], ∃ limit p, Signature.compile limit p = .ok t :=
        fun t ht => ⟨_, _, List.mem_singleton.mp ht ▸ hc⟩
      obtain ⟨_, hfew, _, hoverlaps⟩ := counts_trimming (n := 0) hP hbuild rfl hlit
        (show [97, 98].length ≤ (2 : UInt64).toNat by decide) (by decide)
      have hapart : ¬ Literal.OverlapsItself s.flags.caseless [97, 98] := by
        rw [Signature.flags_of_compile hc]
        rintro ⟨k, hk, hlt, hperiod⟩
        obtain rfl : k = 1 := Nat.le_antisymm (Nat.le_of_lt_succ hlt) hk
        exact absurd hperiod (by unfold List.HasPeriod; decide)
      exact ⟨s, rfl, (hfew [97, 98, 97, 98, 97, 98] (by decide)).2.mp
        (Or.inr (hoverlaps.mpr hapart _)) _ _ List.prefix_rfl rfl⟩

/-- A literal that overlaps itself: behind the bytes that have been dropped the search starts inside the
last match, and so it misses the next one. -/
theorem counts_depend_on_history :
    ∃ s e, Signature.compile Signature.defaultSizeLimit { regex := "aa" } = .ok s ∧
      s.literal = some [97, 97] ∧ Engine.build [s] { streamWindow := 2 } = .ok e ∧
      [97, 97].length ≤ e.openStream.window.toNat ∧
      e.openStream.window.toNat + 1 < offsetBound ∧
      (∃ found, (e.openStream.scanAll [[97, 97, 97, 97, 97, 97]]).2 = .ok found) ∧
      (∃ found, (e.openStream.scanAll [[97, 97, 97, 97, 97], [97]]).2 = .ok found) ∧
      (e.openStream.scanAll [[97, 97, 97, 97, 97, 97]]).1.counts.get? 0 = some 3 ∧
      (e.openStream.scanAll [[97, 97, 97, 97, 97], [97]]).1.counts.get? 0 = some 2 := by
  have hok : (Signature.compile Signature.defaultSizeLimit { regex := "aa" }).toBool = true := by
    decide +kernel
  have haa : Signature.literal? "aa" {} = some [97, 97] := by decide +kernel
  cases hc : Signature.compile Signature.defaultSizeLimit { regex := "aa" } with
  | error fault =>
      rw [hc] at hok
      cases hok
  | ok s =>
      have hlit := (Signature.literal_of_compile hc).trans haa
      have hflags := Signature.flags_of_compile hc
      have hbuild : Engine.build [s] { streamWindow := 2 } = .ok ⟨[s], 2⟩ :=
        Engine.build_of_literals (by simp [hlit]) rfl
      have hp : Engine.Proper ⟨[s], 2⟩ :=
        fun t ht => List.mem_singleton.mp ht ▸ Signature.proper_of_compile hc
      have hwindow : (Engine.openStream ⟨[s], 2⟩).window = 2 :=
        window_of_pos (show 0 < (2 : UInt64).toNat by decide)
      have hlen : [97, 97].length ≤ (Engine.openStream ⟨[s], 2⟩).window.toNat := by
        rw [hwindow]
        decide
      have hroom : (Engine.openStream ⟨[s], 2⟩).window.toNat + 1 < offsetBound := by
        rw [hwindow]
        decide
      have hmulti : s.flags.singleMatch = false := by rw [hflags]
      obtain ⟨_, hone⟩ := scanAll_taken hp hroom
        (show 2 * ([[97, 97, 97, 97, 97, 97]] : List Bytes).flatten.length < _ by decide)
      obtain ⟨_, htwo⟩ := scanAll_taken hp hroom
        (show 2 * ([[97, 97, 97, 97, 97], [97]] : List Bytes).flatten.length < _ by decide)
      have hcount := (holds_feeds (n := 0) rfl hlit (List.cons_ne_nil _ _) hmulti hone).get?
      have hcount' := (holds_feeds (n := 0) rfl hlit (List.cons_ne_nil _ _) hmulti htwo).get?
      simp only [Signature.feeds, Signature.feed, Signature.spans_literal_eq hlit, hflags, hwindow]
        at hcount hcount'
      exact ⟨s, _, rfl, hlit, hbuild, hlen, hroom, ⟨_, hone⟩, ⟨_, htwo⟩, hcount, hcount'⟩

end Stream
end TrafficRules
