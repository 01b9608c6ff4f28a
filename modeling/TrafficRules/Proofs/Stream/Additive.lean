import TrafficRules.Proofs.Stream.Tracks

/-! # Signatures that count the same in any cut

A match that ended in an earlier chunk stays reported although the bytes that follow it may lead to
another one. A signature is *additive* on data if each part of them counts the same read at once or in
two chunks (`Signature.Additive`). Then any further chunk keeps up the count that the data have when
they are read at once (`Track.Credited.step`).

What settles it is whether more bytes can change the matches that end before them
(`additive_of_stable`). Those of a literal they cannot (`additive_of_literal`). -/

namespace TrafficRules
namespace Stream

/-! ### Ends of sorted lists -/

variable {spans : List Regex.Span} {p q : Regex.Span → Bool}

/-- What holds of a span holds of the ones behind it. -/
def Upward (p : Regex.Span → Bool) : Prop :=
  ∀ {a b : Regex.Span}, a.start ≤ a.stop → a.stop ≤ b.start → b.start ≤ b.stop → p a → p b

theorem Ordered.filter_suffix (hp : Upward p) : ∀ {spans : List Regex.Span}, Ordered spans →
    spans.filter p <:+ spans
  | [], _ => List.suffix_rfl
  | a :: rest, h => by
      by_cases ha : p a = true
      · have hall : (a :: rest).filter p = a :: rest := by
          refine List.filter_eq_self.mpr fun b hb => ?_
          rcases List.mem_cons.mp hb with rfl | hb
          · exact ha
          · exact hp (h.start_le a List.mem_cons_self)
              ((List.pairwise_cons.mp h.sorted).1 b hb).stop_le
              (h.start_le b (List.mem_cons_of_mem a hb)) ha
        exact ⟨[], hall⟩
      · rw [List.filter_cons_of_neg ha]
        exact (h.tail.filter_suffix hp).trans (List.suffix_cons a rest)

/-- Two ends of a list that are as long as each other are the same. -/
theorem Ordered.filter_eq (h : Ordered spans) (hp : Upward p) (hq : Upward q)
    (hlen : (spans.filter p).length = (spans.filter q).length) :
    spans.filter p = spans.filter q :=
  (List.suffix_of_suffix_length_le (h.filter_suffix hp) (h.filter_suffix hq)
    (Nat.le_of_eq hlen)).eq_of_length hlen

/-- An end that is not empty has the last span of the list. -/
theorem Ordered.getLast?_filter (h : Ordered spans) (hp : Upward p) (hne : spans.filter p ≠ []) :
    (spans.filter p).getLast? = spans.getLast? := by
  obtain ⟨front, hfront⟩ := h.filter_suffix hp
  have hlast := congrArg List.getLast? hfront
  rw [List.getLast?_append] at hlast
  cases hl : (spans.filter p).getLast? with
  | none => exact absurd (List.getLast?_eq_none_iff.mp hl) hne
  | some span =>
      rw [hl, Option.some_or] at hlast
      exact hlast

theorem upward_fresh (first free base : Nat) : Upward fun span =>
    first < span.stop && free ≤ span.start + base := by
  intro a b h₁ h₂ h₃ ha
  simp only [Bool.and_eq_true, decide_eq_true_eq] at ha ⊢
  omega

end Stream

namespace Signature

/-- The matches that are reported of data that are read at once. -/
def reports (s : Signature) (data : Bytes) : List Regex.Span :=
  (s.spans data 0).filter fun span => 0 < span.stop

/-- What a number of matches counts; a signature may ask to be reported once only. -/
def credit (s : Signature) (n : Nat) : Nat := if s.flags.singleMatch then min 1 n else n

/-- The matches that end in a chunk and start where the last one before has ended, if the data before
were read at once. -/
def added (s : Signature) (data chunk : Bytes) : List Regex.Span :=
  (s.spans (data ++ chunk) 0).filter fun span =>
    data.length < span.stop && Regex.Span.lastStop 0 (s.reports data) ≤ span.start

/-- Each part of the data counts the same read at once or in two chunks. -/
def Additive (s : Signature) (data : Bytes) : Prop :=
  ∀ front chunk, front ++ chunk <+: data →
    s.credit (s.reports (front ++ chunk)).length =
      s.credit ((s.reports front).length + (s.added front chunk).length)

variable {s : Signature}

theorem Additive.mono {part data : Bytes} (h : s.Additive data) (hle : part <+: data) :
    s.Additive part := fun front chunk hpart => h front chunk (hpart.trans hle)

theorem ordered_spans (hs : s.Proper) (data : Bytes) : Stream.Ordered (s.spans data 0) := by
  obtain ⟨hbounds, hsorted⟩ := spans_sorted hs (Nat.zero_le data.length)
  exact ⟨fun x hx => (hbounds x hx).start_le, hsorted⟩

theorem stop_le_of_mem_spans (hs : s.Proper) {data : Bytes} {span : Regex.Span}
    (h : span ∈ s.spans data 0) : span.stop ≤ data.length :=
  ((spans_sorted hs (Nat.zero_le data.length)).1 span h).stop_le

end Signature

namespace Track

variable {s : Signature} {t : Track}

/-- A fresh track reports of data that are read at once what they count. -/
theorem length_reported_fresh (s : Signature) (data : Bytes) :
    (Track.reported s.flags.singleMatch 0 0 {} (s.spans data 0)).length =
      s.credit (s.reports data).length := by
  have hfresh : Track.fresh 0 0 {} (s.spans data 0) = s.reports data :=
    List.filter_congr fun span _ => by simp
  rw [reported, hfresh, Signature.credit]
  split
  · rw [if_neg (by simp), List.length_take]
  · rfl

/-- Nothing is reported of data without a further chunk. -/
theorem reported_nil (hs : s.Proper) (single : Bool) (t : Track) (data : Bytes) :
    t.reported single 0 data.length (s.spans data 0) = [] := by
  refine List.eq_nil_iff_forall_not_mem.mpr fun span hspan => ?_
  have hmem := List.mem_filter.mp ((reported_sublist t _).subset hspan)
  have hle := Signature.stop_le_of_mem_spans hs hmem.1
  have hlt := hmem.2
  rw [decide_eq_true_eq] at hlt
  omega

theorem lastEnd_behind (single : Bool) (t : Track) (spans : List Regex.Span) :
    (t.behind single 0 spans).lastEnd = Regex.Span.lastStop t.lastEnd spans := by
  unfold behind Regex.Span.lastStop
  cases spans.getLast? with
  | none => rfl
  | some span => rfl

/-- A signature that may be reported again reports what starts behind its last end. -/
theorem fresh_eq_added {data chunk : Bytes}
    (h : t.lastEnd = Regex.Span.lastStop 0 (s.reports data)) :
    t.fresh 0 data.length (s.spans (data ++ chunk) 0) = s.added data chunk := by
  unfold fresh Signature.added
  rw [h]
  rfl

/-- The track of data that were read at once reports the matches that are added. -/
theorem length_reported_behind (s : Signature) (data chunk : Bytes) :
    s.credit (s.reports data).length +
      ((Track.behind s.flags.singleMatch 0 {}
          (Track.reported s.flags.singleMatch 0 0 {} (s.spans data 0))).reported
        s.flags.singleMatch 0 data.length (s.spans (data ++ chunk) 0)).length =
      s.credit ((s.reports data).length + (s.added data chunk).length) := by
  have hfresh : Track.fresh 0 0 {} (s.spans data 0) = s.reports data :=
    List.filter_congr fun span _ => by simp
  unfold reported Signature.credit
  rw [hfresh]
  cases hsingle : s.flags.singleMatch with
  | false =>
      simp only [Bool.false_eq_true, if_false]
      rw [fresh_eq_added (lastEnd_behind false {} _)]
  | true =>
      simp only [if_true, Bool.false_eq_true, if_false]
      cases hr : s.reports data with
      | nil =>
          -- nothing has been reported, so the track is still fresh
          have hadded : Track.fresh 0 data.length {} (s.spans (data ++ chunk) 0) =
              s.added data chunk := fresh_eq_added (by rw [hr]; rfl)
          show min 1 0 + (List.take 1 (Track.fresh 0 data.length {} _)).length = _
          rw [hadded, List.length_take, List.length_nil]
          omega
      | cons span rest =>
          show min 1 (rest.length + 1) + 0 = min 1 (rest.length + 1 + _)
          omega

/-- With any chunk that may follow the count comes to what the data count when they are read at
once. -/
structure Credited (s : Signature) (whole data : Bytes) (t : Track) (c : Nat) : Prop where
  zero : c = 0 → t = {}
  fired : s.flags.singleMatch = true → 0 < c → t.fired = true
  next : ∀ chunk, data ++ chunk <+: whole →
    c + (t.reported s.flags.singleMatch 0 data.length (s.spans (data ++ chunk) 0)).length =
      s.credit (s.reports (data ++ chunk)).length

theorem credited_fresh (s : Signature) (whole : Bytes) : Credited s whole [] {} 0 := by
  refine ⟨fun _ => rfl, fun _ h => absurd h (Nat.lt_irrefl 0), fun chunk _ => ?_⟩
  rw [Nat.zero_add]
  exact length_reported_fresh s chunk

/-- The last match that is reported of a signature is the last one of the data. -/
theorem lastStop_reported (hs : s.Proper) {data chunk : Bytes}
    (hne : t.fresh 0 data.length (s.spans (data ++ chunk) 0) ≠ []) (free : Nat) :
    Regex.Span.lastStop free (t.fresh 0 data.length (s.spans (data ++ chunk) 0)) =
      Regex.Span.lastStop 0 (s.reports (data ++ chunk)) := by
  have ho := Signature.ordered_spans hs (data ++ chunk)
  have hreports : s.reports (data ++ chunk) ≠ [] := by
    obtain ⟨span, hspan⟩ := List.exists_mem_of_ne_nil _ hne
    obtain ⟨hmem, hp⟩ := List.mem_filter.mp hspan
    simp only [Bool.and_eq_true, decide_eq_true_eq] at hp
    exact List.ne_nil_of_mem (List.mem_filter.mpr ⟨hmem, by simp; omega⟩)
  have hup : Stream.Upward fun span => 0 < span.stop := by
    intro a b h₁ h₂ h₃ ha
    simp only [decide_eq_true_eq] at ha ⊢
    omega
  have hlast := (ho.getLast?_filter (Stream.upward_fresh data.length t.lastEnd 0) hne).trans
    (ho.getLast?_filter hup hreports).symm
  unfold Regex.Span.lastStop
  cases hl : (s.reports (data ++ chunk)).getLast? with
  | none => exact absurd (List.getLast?_eq_none_iff.mp hl) hreports
  | some span =>
      have hfound : (t.fresh 0 data.length (s.spans (data ++ chunk) 0)).getLast? = some span :=
        hlast.trans hl
      rw [hfound]
      rfl

/-- A signature that may be reported again: if a chunk reports nothing, the matches that a further
one adds are the same ones from either track. -/
theorem length_fresh_of_none (hs : s.Proper) {data chunk more : Bytes}
    (hlen : (t.fresh 0 data.length (s.spans (data ++ chunk ++ more) 0)).length =
      (s.added (data ++ chunk) more).length) :
    (t.fresh 0 (data ++ chunk).length (s.spans (data ++ chunk ++ more) 0)).length =
      (s.added (data ++ chunk) more).length := by
  have ho := Signature.ordered_spans hs (data ++ chunk ++ more)
  -- both are ends of the matches, and equally long
  have hsame : t.fresh 0 data.length (s.spans (data ++ chunk ++ more) 0) =
      s.added (data ++ chunk) more :=
    ho.filter_eq (Stream.upward_fresh _ _ 0)
      (Stream.upward_fresh _ (Regex.Span.lastStop 0 (s.reports (data ++ chunk))) 0) hlen
  have hall : t.fresh 0 (data ++ chunk).length (s.spans (data ++ chunk ++ more) 0) =
      (t.fresh 0 data.length (s.spans (data ++ chunk ++ more) 0)).filter
        fun span => (data ++ chunk).length < span.stop := by
    unfold fresh
    rw [List.filter_filter]
    refine List.filter_congr fun span _ => ?_
    by_cases h : (data ++ chunk).length < span.stop
    · have hdata : data.length < span.stop := by
        rw [List.length_append] at h
        omega
      simp only [h, hdata, decide_true, Bool.true_and]
    · simp only [h, decide_false, Bool.false_and]
  rw [hall, hsame]
  refine congrArg List.length (List.filter_eq_self.mpr fun span hspan => ?_)
  have := (List.mem_filter.mp hspan).2
  simp only [Bool.and_eq_true] at this
  exact this.1

theorem fired_behind {due : List Regex.Span} {c : Nat} (h : 0 < c → t.fired = true)
    (hc : 0 < c + due.length) : (t.behind true 0 due).fired = true := by
  unfold behind
  cases hl : due.getLast? with
  | none =>
      rw [List.getLast?_eq_none_iff.mp hl, List.length_nil] at hc
      exact h hc
  | some span => rfl

/-- If parts of the data count the same in one chunk or two, each chunk keeps up the count. -/
theorem Credited.step (hs : s.Proper) {whole data chunk : Bytes} {c : Nat}
    (ha : s.Additive whole) (h : Credited s whole data t c) (hle : data ++ chunk <+: whole) :
    Credited s whole (data ++ chunk)
      (t.behind s.flags.singleMatch 0
        (t.reported s.flags.singleMatch 0 data.length (s.spans (data ++ chunk) 0)))
      (c + (t.reported s.flags.singleMatch 0 data.length (s.spans (data ++ chunk) 0)).length) := by
  have hcount := h.next chunk hle
  have hzero : c + (t.reported s.flags.singleMatch 0 data.length
      (s.spans (data ++ chunk) 0)).length = 0 →
      t.behind s.flags.singleMatch 0 (t.reported s.flags.singleMatch 0 data.length
        (s.spans (data ++ chunk) 0)) = {} := by
    intro hc
    rw [List.eq_nil_of_length_eq_zero (Nat.eq_zero_of_add_eq_zero_left hc)]
    exact h.zero (by omega)
  refine ⟨hzero, fun hsingle hc => ?_, fun more hmore => ?_⟩
  · rw [hsingle] at hc ⊢
    exact fired_behind (h.fired hsingle) hc
  · have hsum := ha (data ++ chunk) more hmore
    have hnext := h.next (chunk ++ more) (by rw [← List.append_assoc]; exact hmore)
    rw [← List.append_assoc] at hnext
    have hfired := h.fired
    unfold Signature.credit at hcount hsum hnext ⊢
    cases hsingle : s.flags.singleMatch with
    | true =>
        simp only [hsingle, if_true] at hcount hsum hzero hfired ⊢
        generalize t.reported true 0 data.length (s.spans (data ++ chunk) 0) = due
          at hcount hzero ⊢
        by_cases hc : c + due.length = 0
        · -- nothing has been reported, so the track is still fresh
          have hnil : s.reports (data ++ chunk) = [] :=
            List.eq_nil_of_length_eq_zero (by omega)
          have hadded : Track.fresh 0 (data ++ chunk).length {} (s.spans (data ++ chunk ++ more) 0) =
              s.added (data ++ chunk) more := fresh_eq_added (by rw [hnil]; rfl)
          rw [hzero hc, reported, if_pos rfl, if_neg (by simp), hadded, List.length_take]
          omega
        · have := fired_behind (hfired trivial) (Nat.pos_of_ne_zero hc)
          rw [reported, if_pos rfl, if_pos this, List.length_nil]
          omega
    | false =>
        simp only [hsingle, Bool.false_eq_true, if_false, reported] at hcount hsum hnext ⊢
        by_cases hdue : t.fresh 0 data.length (s.spans (data ++ chunk) 0) = []
        · rw [hdue, List.length_nil] at hcount ⊢
          show c + 0 + (t.fresh 0 (data ++ chunk).length (s.spans (data ++ chunk ++ more) 0)).length = _
          rw [length_fresh_of_none hs (by omega)]
          omega
        · rw [fresh_eq_added ((lastEnd_behind false t _).trans (lastStop_reported hs hdue _))]
          omega

end Track

namespace Signature

variable {s : Signature}

/-! ### Matches that later bytes do not change -/

/-- If more bytes leave the matches alone that end before them, data count the same in any cut. -/
theorem additive_of_stable (hs : s.Proper) {data : Bytes}
    (h : ∀ front chunk, front ++ chunk <+: data →
      ∃ later, s.spans (front ++ chunk) 0 = s.spans front 0 ++ later ∧
        ∀ span ∈ later, front.length < span.stop) : s.Additive data := by
  intro front chunk hle
  obtain ⟨later, hspans, hlater⟩ := h front chunk hle
  have ho := ordered_spans hs (front ++ chunk)
  rw [hspans] at ho
  have hreports : s.reports (front ++ chunk) = s.reports front ++ later := by
    rw [reports, hspans, List.filter_append]
    congr 1
    refine List.filter_eq_self.mpr fun span hspan => ?_
    have := hlater span hspan
    rw [decide_eq_true_eq]
    omega
  have hadded : s.added front chunk = later := by
    rw [added, hspans, List.filter_append]
    have hold : (s.spans front 0).filter (fun span => front.length < span.stop &&
        Regex.Span.lastStop 0 (s.reports front) ≤ span.start) = [] := by
      refine List.filter_eq_nil_iff.mpr fun span hspan => ?_
      have := stop_le_of_mem_spans hs hspan
      simp only [Bool.and_eq_true, decide_eq_true_eq]
      omega
    rw [hold, List.nil_append]
    refine List.filter_eq_self.mpr fun span hspan => ?_
    have hlast : Regex.Span.lastStop 0 (s.reports front) ≤ span.start := by
      unfold Regex.Span.lastStop
      cases hl : (s.reports front).getLast? with
      | none => exact Nat.zero_le _
      | some last =>
          have hmem := (List.mem_filter.mp (List.mem_of_getLast? hl)).1
          exact ((List.pairwise_append.mp ho.sorted).2.2 last hmem span hspan).stop_le
    simp only [hlater span hspan, hlast, decide_true, Bool.and_self]
  rw [hreports, hadded, List.length_append]

/-- Literals count the same in any cut. -/
theorem additive_of_literal (hs : s.Proper) {literal : Bytes} (hlit : s.literal = some literal)
    (data : Bytes) : s.Additive data := by
  refine additive_of_stable hs fun front chunk _ => ?_
  simp only [spans, hlit, List.drop_zero]
  rw [Literal.occurrences_append, Regex.Span.separate_append]
  refine ⟨_, rfl, fun span hspan => ?_⟩
  obtain ⟨n, hn, _, rfl, _⟩ :=
    Literal.mem_occurrences_iff.mp ((Regex.Span.separate_sublist _ _).subset hspan)
  dsimp only
  omega

end Signature
end TrafficRules
