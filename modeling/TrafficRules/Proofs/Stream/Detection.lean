import TrafficRules.Proofs.Stream.History

/-! # Literals in a stream

A literal that is no longer than a stream looks back has a count above zero exactly if it occurs in
the data given so far, however these were cut into chunks (`Stream.detects_of_took`). As long as it has
not occurred its track is as it was at first, and what occurs first ends in the last chunk and lies
within the history behind the context. -/

namespace TrafficRules

namespace Literal

variable {caseless : Bool} {literal input : Bytes}

theorem Occurs.append_left (h : Occurs caseless literal input) (front : Bytes) :
    Occurs caseless literal (front ++ input) := by
  obtain ⟨before, found, after, rfl, hm⟩ := h
  exact ⟨front ++ before, found, after, by simp only [List.append_assoc], hm⟩

theorem Occurs.append_right (h : Occurs caseless literal input) (back : Bytes) :
    Occurs caseless literal (input ++ back) := by
  obtain ⟨before, found, after, rfl, hm⟩ := h
  exact ⟨before, found, after ++ back, by simp only [List.append_assoc], hm⟩

theorem Occurs.of_drop {n : Nat} (h : Occurs caseless literal (input.drop n)) :
    Occurs caseless literal input := by
  have := h.append_left (input.take n)
  rw [List.take_append_drop] at this
  exact this

theorem Occurs.of_take {n : Nat} (h : Occurs caseless literal (input.take n)) :
    Occurs caseless literal input := by
  have := h.append_right (input.drop n)
  rw [List.take_append_drop] at this
  exact this

theorem Ends.occurs (h : Ends caseless literal input) : Occurs caseless literal input := by
  obtain ⟨before, found, rfl, hm⟩ := h
  exact ⟨before, found, [], (List.append_nil _).symm, hm⟩

end Literal

namespace Signature

variable {s : Signature} {bytes haystack : Bytes} {start : Nat}

/-- The matches of a literal are occurrences of it. -/
theorem ends_of_mem_spans (hs : s.literal = some bytes) {span : Regex.Span}
    (h : span ∈ s.spans haystack start) :
    ∃ n, span.stop = start + n ∧
      Literal.Ends s.flags.caseless bytes ((haystack.drop start).take n) := by
  rw [spans, hs] at h
  obtain ⟨n, _, _, rfl, he⟩ :=
    Literal.mem_occurrences_iff.mp ((Regex.Span.separate_sublist _ start).subset h)
  exact ⟨n, rfl, he⟩

/-- A literal that occurs has a match. -/
theorem spans_ne_nil (hs : s.literal = some bytes) {n : Nat} (hn : 0 < n)
    (hle : n ≤ (haystack.drop start).length)
    (h : Literal.Ends s.flags.caseless bytes ((haystack.drop start).take n)) :
    s.spans haystack start ≠ [] := by
  rw [spans, hs]
  exact Regex.Span.separate_ne_nil (Literal.mem_occurrences_iff.mpr ⟨n, hn, hle, rfl, h⟩)
    fun span hspan => (occurrence_bounds hspan).1

end Signature

namespace Stream

/-- The count of a literal tells whether it has occurred. -/
def Detects (s : Stream) (e : Engine) (data : Bytes) : Prop :=
  ∀ {n sig bytes}, e.signatures[n]? = some sig → sig.literal = some bytes →
    bytes.length ≤ e.openStream.window.toNat →
    ∃ t c, s.Tally n t c ∧ (c = 0 → t = {}) ∧
      (0 < c ↔ Literal.Occurs sig.flags.caseless bytes data)

variable {e : Engine} {s s' : Stream} {data chunk : Bytes}

theorem detects_openStream (hp : e.Proper) : e.openStream.Detects e [] := by
  intro n sig bytes hn hlit _
  refine ⟨{}, 0, tally_openStream (List.getElem?_eq_some_iff.mp hn).1, fun _ => rfl,
    fun h => absurd h (Nat.lt_irrefl 0), ?_⟩
  rintro ⟨before, found, after, he, hm⟩
  have hfound : found = [] := by
    have := (List.append_eq_nil_iff.mp he.symm).1
    exact (List.append_eq_nil_iff.mp this).2
  rw [hfound, List.map_nil] at hm
  exact absurd (List.map_eq_nil_iff.mp hm.symm ▸ hlit) (hp.of_getElem? hn)

/-- What is no longer than the stream looks back and ends in a chunk lies behind the context. -/
theorem Reads.ends (h : s.Reads e data) {caseless : Bool} {literal : Bytes}
    (hl : literal.length ≤ e.openStream.window.toNat)
    (he : Literal.Ends caseless literal (data ++ chunk)) :
    Literal.Ends caseless literal ((s.buffer ++ chunk).drop s.context) := by
  have hlen := he.length_le
  rw [h.append, List.drop_drop]
  rw [← List.take_append_drop (s.base + s.context) (data ++ chunk)] at he
  refine he.of_append ?_
  have hbase := h.base
  rw [h.window] at hbase
  rw [List.length_append] at hlen
  rw [List.length_drop, List.length_append, context]
  split <;> omega

/-- The first chunk by which a literal has occurred reports it. -/
theorem due_ne_nil (hr : s.Reads e data) {sig : Signature} {bytes : Bytes}
    (hlit : sig.literal = some bytes) (hl : bytes.length ≤ e.openStream.window.toNat)
    (hold : ¬ Literal.Occurs sig.flags.caseless bytes data)
    (hnew : Literal.Occurs sig.flags.caseless bytes (data ++ chunk)) :
    s.due sig {} chunk ≠ [] := by
  have hctx : s.context ≤ s.buffer.length := by
    have := hr.context_le []
    rw [List.append_nil] at this
    exact this
  obtain ⟨n, hn, he⟩ := Literal.occurs_iff.mp hnew
  rw [List.length_append] at hn
  have hlate : data.length < n := by
    refine Nat.lt_of_not_le fun hle => hold ?_
    rw [List.take_append_of_le_length hle] at he
    exact he.occurs.of_take
  have hspans : sig.spans (s.buffer ++ chunk) s.context ≠ [] := by
    have hcut : (data ++ chunk).take n = data ++ chunk.take (n - data.length) := by
      rw [List.take_append, List.take_of_length_le (Nat.le_of_lt hlate)]
    rw [hcut] at he
    have hends := hr.ends hl he
    have hpart : (s.buffer ++ chunk.take (n - data.length)).drop s.context =
        ((s.buffer ++ chunk).drop s.context).take
          (s.buffer.length + (n - data.length) - s.context) := by
      have hback : (s.buffer.drop s.context).take
          (s.buffer.length + (n - data.length) - s.context) = s.buffer.drop s.context :=
        List.take_of_length_le (by rw [List.length_drop]; omega)
      have hfront : s.buffer.length + (n - data.length) - s.context -
          (s.buffer.length - s.context) = n - data.length := by omega
      rw [List.drop_append_of_le_length hctx, List.drop_append_of_le_length hctx, List.take_append,
        hback, List.length_drop, hfront]
    rw [hpart] at hends
    refine Signature.spans_ne_nil hlit ?_ ?_ hends
    · omega
    · rw [List.length_drop, List.length_append]
      omega
  -- no match ends in the history, where the literal would have occurred before
  have hfresh : Track.fresh s.base s.buffer.length {} (sig.spans (s.buffer ++ chunk) s.context) =
      sig.spans (s.buffer ++ chunk) s.context := by
    refine List.filter_eq_self.mpr fun span hspan => ?_
    have hlt : s.buffer.length < span.stop := by
      refine Nat.lt_of_not_le fun hle => hold ?_
      obtain ⟨k, hk, hends⟩ := Signature.ends_of_mem_spans hlit hspan
      rw [List.drop_append_of_le_length hctx,
        List.take_append_of_le_length (by rw [List.length_drop]; omega), hr.buffer] at hends
      exact hends.occurs.of_take.of_drop.of_drop
    simp [hlt]
  rw [due, Track.reported, hfresh]
  intro hnil
  split at hnil
  · simp only [Bool.false_eq_true, if_false, List.take_eq_nil_iff, Nat.one_ne_zero, false_or]
      at hnil
    exact hspans hnil
  · exact hspans hnil

theorem detects_of_took (hr : s.Reads e data) (hd : s.Detects e data) (ht : s.Took s' chunk) :
    s'.Detects e (data ++ chunk) := by
  intro n sig bytes hn hlit hl
  obtain ⟨t, c, htally, hzero, hcount⟩ := hd hn hlit hl
  refine ⟨_, _, ht (hr.engine.symm ▸ hn) htally, ?_, ?_⟩
  · intro hc
    have hdue : s.due sig t chunk = [] := List.eq_nil_of_length_eq_zero (by omega)
    rw [hdue]
    exact hzero (by omega)
  · constructor
    · intro hpos
      by_cases hc : 0 < c
      · exact (hcount.mp hc).append_right chunk
      · have hdue : 0 < (s.due sig t chunk).length := by omega
        obtain ⟨span, hspan⟩ := List.exists_mem_of_length_pos hdue
        have hmem := List.mem_filter.mp ((Track.reported_sublist t _).subset hspan)
        obtain ⟨k, _, he⟩ := Signature.ends_of_mem_spans hlit hmem.1
        rw [hr.append] at he
        exact he.occurs.of_take.of_drop.of_drop
    · intro hocc
      by_cases hc : 0 < c
      · omega
      · have hne := due_ne_nil hr hlit hl (fun h => hc (hcount.mpr h)) hocc
        rw [hzero (by omega)]
        have := List.length_pos_iff.mpr hne
        omega

end Stream

/-- What a fresh stream has done to its chunks: it has taken all of them, or stopped at a count. -/
theorem feed_cases {e : Engine} (hp : e.Proper)
    (hw : e.openStream.window.toNat + 1 < Stream.offsetBound) {chunks : List Bytes}
    (hlen : chunks.flatten.length < UInt32.size) :
    ((∃ found, (e.openStream.scanAll chunks).2 = .ok found) ∧
      (e.openStream.scanAll chunks).1.Detects e chunks.flatten) ∨
    (∃ fault, (e.openStream.scanAll chunks).2 = .error fault) ∧
      ∃ n s, e.signatures[n]? = some s ∧ s.literal = none ∧
        (e.openStream.scanAll chunks).1.counts.get? n = some 0xFFFFFFFF ∧
        UInt32.size ≤ 2 * chunks.flatten.length := by
  have hbound : ([] ++ chunks.flatten).length < Stream.offsetBound :=
    Nat.lt_trans (by simpa using hlen) (by decide)
  have hkeep : ∀ {s s' : Stream} {data chunk : Bytes}, s.Reads e data → s.Detects e data →
      s'.Reads e (data ++ chunk) → s.Took s' chunk → s'.Detects e (data ++ chunk) :=
    fun hr hd _ ht => Stream.detects_of_took hr hd ht
  rcases Stream.scanAll_cases hp hw hkeep chunks (Stream.reads_openStream e)
    (Stream.bounded_openStream e) (Stream.detects_openStream hp) hbound rfl with
    ⟨hok, _, _, hd⟩ | ⟨hfault, hfull⟩
  · exact Or.inl ⟨hok, hd⟩
  · have hhalf := hfull.length_ge
    obtain ⟨n, s, hn, hc, hsize⟩ := hfull
    rw [List.nil_append] at hsize hhalf
    refine Or.inr ⟨hfault, n, s, hn, ?_, hc, hhalf⟩
    cases hlit : s.literal with
    | none => rfl
    | some bytes =>
        rw [Signature.weight, hlit, Option.isSome_some, if_pos rfl] at hsize
        omega

end TrafficRules
