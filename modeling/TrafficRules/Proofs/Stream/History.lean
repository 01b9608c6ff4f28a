import TrafficRules.Proofs.Stream.Tracks

/-! # What a stream knows of its data

After any chunks a stream holds the end of the data given so far (`Stream.Reads`): as many bytes as it
looks back and one more, or all of them. So each chunk is searched behind that part of the data, and
what it reports of a signature (`Stream.due`) depends on the data and on the track of this signature.

A chunk is taken unless a count overflows (`scan_cases`). A signature is reported at most twice for
each byte, and a literal once (`Stream.length_due_le`), so it takes as many bytes to come to that
(`scanAll_cases`). -/

namespace TrafficRules

/-- How often a signature may be reported for each byte. An expression may match once more at the end
of a match, with no bytes. -/
def Signature.weight (s : Signature) : Nat := if s.literal.isSome then 1 else 2

/-- At most so many matches of a signature end in a stretch of the haystack. -/
theorem Signature.length_spans_le {s : Signature} (hs : s.Proper) {haystack : Bytes}
    {start first : Nat} (hstart : start ≤ haystack.length) :
    ((s.spans haystack start).filter fun span => first < span.stop).length ≤
      s.weight * (haystack.length - first) := by
  obtain ⟨hbounds, hsorted⟩ := spans_sorted hs hstart
  have hends : ∀ span ∈ (s.spans haystack start).filter (fun span => first < span.stop),
      span.Between start haystack.length ∧ first < span.stop := by
    intro span h
    obtain ⟨hmem, hlt⟩ := List.mem_filter.mp h
    exact ⟨hbounds span hmem, by simpa using hlt⟩
  unfold weight
  cases hlit : s.literal with
  | none =>
      simp only [Option.isSome_none, Bool.false_eq_true, if_false]
      refine Regex.length_le_of_sorted first haystack.length (hsorted.filter _) fun span h => ?_
      obtain ⟨hb, hlt⟩ := hends span h
      exact ⟨hb.start_le, hlt, hb.stop_le⟩
  | some bytes =>
      simp only [Option.isSome_some, if_true, Nat.one_mul]
      rw [← List.length_map Regex.Span.stop]
      refine Regex.length_le_of_increasing ?_ ?_
      · rw [List.pairwise_map]
        refine (hsorted.filter _).imp_of_mem fun {a b} ha hb hab => ?_
        -- the later one has bytes behind the end of the earlier one
        have hmem := (List.mem_filter.mp hb).1
        rw [spans, hlit] at hmem
        have hocc := occurrence_bounds ((Regex.Span.separate_sublist _ start).subset hmem)
        have hpos : 0 < bytes.length := List.length_pos_iff.mpr fun he => hs (he ▸ hlit)
        have := hab.stop_le
        omega
      · intro n hn
        obtain ⟨span, h, rfl⟩ := List.mem_map.mp hn
        obtain ⟨hb, hlt⟩ := hends span h
        exact ⟨hlt, hb.stop_le⟩

namespace Engine

variable {e : Engine}

/-- No signature is the literal that occurs everywhere. -/
def Proper (e : Engine) : Prop := ∀ s ∈ e.signatures, s.Proper

theorem isSingleMatch_eq {n : Nat} {s : Signature} (hn : e.signatures[n]? = some s) :
    e.isSingleMatch n = s.flags.singleMatch := by
  rw [isSingleMatch, hn]
  rfl

theorem proper_of_compiled
    (h : ∀ s ∈ e.signatures, ∃ limit p, Signature.compile limit p = .ok s) : e.Proper := by
  intro s hs
  obtain ⟨limit, p, hcompile⟩ := h s hs
  exact Signature.proper_of_compile hcompile

theorem Proper.of_getElem? (h : e.Proper) {n : Nat} {s : Signature}
    (hn : e.signatures[n]? = some s) : s.Proper := h s (List.mem_of_getElem? hn)

theorem stop_le_of_mem_scanFrom (h : e.Proper) {haystack : Bytes} {start : Nat}
    (hstart : start ≤ haystack.length) {m : Match} (hm : m ∈ e.scanFrom haystack start) :
    m.stop ≤ haystack.length := by
  have hlt : m.number < e.signatures.length := number_lt_of_mem_scanFrom hm
  have hn := List.getElem?_eq_getElem hlt
  have hmem : m ∈ (e.scanFrom haystack start).filter fun k => k.number = m.number :=
    List.mem_filter.mpr ⟨hm, by simp⟩
  rw [scanFrom_filter hn (h.of_getElem? hn) hstart] at hmem
  obtain ⟨span, hspan, he⟩ := List.mem_map.mp hmem
  rw [← he]
  exact ((Signature.spans_sorted (h.of_getElem? hn) hstart).1 span hspan).stop_le

end Engine

namespace Stream

/-- The history is the end of the data, as far as the stream looks back. -/
structure Reads (s : Stream) (e : Engine) (data : Bytes) : Prop where
  engine : s.engine = e
  window : s.window = e.openStream.window
  base : s.base = data.length - (s.window.toNat + 1)
  buffer : s.buffer = data.drop s.base
  tracks : s.tracks.length = e.size

theorem reads_openStream (e : Engine) : e.openStream.Reads e [] :=
  ⟨rfl, rfl, (Nat.zero_sub _).symm, rfl, List.length_replicate⟩

/-- The length of the context that is not searched. -/
def context (s : Stream) : Nat := if 0 < s.base then 1 else 0

/-- The matches of a signature that a chunk reports. -/
def due (s : Stream) (sig : Signature) (t : Track) (chunk : Bytes) : List Regex.Span :=
  t.reported sig.flags.singleMatch s.base s.buffer.length (sig.spans (s.buffer ++ chunk) s.context)

/-- What a chunk does to every signature. -/
def Took (s s' : Stream) (chunk : Bytes) : Prop :=
  ∀ {n sig t c}, s.engine.signatures[n]? = some sig → s.Tally n t c →
    s'.Tally n (t.behind sig.flags.singleMatch s.base (s.due sig t chunk))
      (c + (s.due sig t chunk).length)

/-- A count has reached its greatest value, after as many bytes as that takes. -/
def Full (s : Stream) (e : Engine) (length : Nat) : Prop :=
  ∃ n sig, e.signatures[n]? = some sig ∧ s.counts.get? n = some 0xFFFFFFFF ∧
    UInt32.size ≤ sig.weight * length

/-- Every signature has a tally, and it has been reported for the data so far. -/
def Bounded (s : Stream) (e : Engine) (data : Bytes) : Prop :=
  ∀ {n sig}, e.signatures[n]? = some sig →
    ∃ t c, s.Tally n t c ∧ c ≤ sig.weight * data.length

variable {e : Engine} {s s' : Stream} {data chunk : Bytes}

theorem Reads.length (h : s.Reads e data) : s.base + s.buffer.length = data.length := by
  have := h.base
  rw [h.buffer, List.length_drop]
  omega

theorem Reads.context_le (h : s.Reads e data) (chunk : Bytes) :
    s.context ≤ (s.buffer ++ chunk).length := by
  have hbase := h.base
  have hlen := h.length
  rw [context, List.length_append]
  split <;> omega

theorem tally_openStream {n : Nat} (hn : n < e.size) : e.openStream.Tally n {} 0 := by
  refine ⟨?_, ⟨rfl, by decide⟩⟩
  show (List.replicate e.size _)[n]? = _
  rw [List.getElem?_replicate, if_pos hn]

theorem bounded_openStream (e : Engine) : e.openStream.Bounded e [] := by
  intro n sig hn
  exact ⟨_, 0, tally_openStream (List.getElem?_eq_some_iff.mp hn).1, Nat.zero_le _⟩

/-- The matches that a chunk reports are as many as its bytes allow. -/
theorem length_due_le {sig : Signature} (hsig : sig.Proper) (h : s.Reads e data) (t : Track)
    (chunk : Bytes) : (s.due sig t chunk).length ≤ sig.weight * chunk.length := by
  refine Nat.le_trans (Track.reported_sublist t _).length_le ?_
  have hends : ((sig.spans (s.buffer ++ chunk) s.context).filter fun span =>
      s.buffer.length < span.stop).length ≤
        sig.weight * ((s.buffer ++ chunk).length - s.buffer.length) :=
    Signature.length_spans_le hsig (h.context_le chunk)
  rw [List.length_append, Nat.add_sub_cancel_left] at hends
  exact hends

/-- A signature has come to the greatest count, and the chunk reports more of it. -/
def Bursts (s s' : Stream) (e : Engine) (chunk : Bytes) : Prop :=
  ∃ n sig, e.signatures[n]? = some sig ∧ ∀ {t c}, s.Tally n t c →
    s'.counts.get? n = some 0xFFFFFFFF ∧ UInt32.size ≤ c + (s.due sig t chunk).length

/-- What has overflowed had come to the greatest count with the matches before. -/
theorem Overflow.bursts (hp : e.Proper) (hr : s.Reads e data)
    (h : Overflow { s with buffer := s.buffer ++ chunk } s' s.buffer.length
      (e.scanFrom (s.buffer ++ chunk) s.context)) : s.Bursts s' e chunk := by
  obtain rfl := hr.engine
  obtain ⟨before, m, after, s₁, u, hms, hnoted, hu, haccept, ⟨fault, hi⟩, hcounts⟩ := h.at_match
  have hmem : m ∈ s.engine.scanFrom (s.buffer ++ chunk) s.context := by
    rw [hms]
    simp
  have hlt : m.number < s.engine.signatures.length := Engine.number_lt_of_mem_scanFrom hmem
  obtain ⟨sig, hn⟩ : ∃ sig, s.engine.signatures[m.number]? = some sig :=
    ⟨_, List.getElem?_eq_getElem hlt⟩
  have hsig := hp.of_getElem? hn
  have hctx := hr.context_le chunk
  refine ⟨m.number, sig, hn, fun {t c} ht => ?_⟩
  -- the matches of the signature before this one
  have hspans := Engine.scanFrom_filter hn hsig hctx
  rw [hms, List.filter_append, List.filter_cons_of_pos (by simp)] at hspans
  obtain ⟨spans₁, spans₂, hsplit, hbefore, hfrom⟩ := List.map_eq_append_iff.mp hspans.symm
  obtain ⟨span, spans₃, rfl, hspan, _⟩ := List.map_eq_cons_iff.mp hfrom
  obtain ⟨hbounds, hsorted⟩ := Signature.spans_sorted hsig hctx
  rw [hsplit] at hbounds hsorted
  have hle : ∀ x ∈ spans₁ ++ span :: spans₃, x.start ≤ x.stop := fun x hx => (hbounds x hx).start_le
  obtain ⟨hsorted₁, hsorted₂, _⟩ := List.pairwise_append.mp hsorted
  have hordered : Ordered spans₁ := ⟨fun x hx => hle x (List.mem_append_left _ hx), hsorted₁⟩
  have htally := hnoted.tally ⟨ht.track, ht.count⟩ hordered hbefore.symm
  have hmax := htally.count.of_increment_error hi
  refine ⟨hcounts ▸ htally.count.full hmax, ?_⟩
  -- this one is reported behind them
  have huniq := Option.some.inj (hu.symm.trans htally.track)
  have hspan_eq : (⟨m.start, m.stop⟩ : Regex.Span) = span := by rw [← hspan]; rfl
  rw [huniq, hspan_eq] at haccept
  dsimp only at hmax haccept
  rw [Engine.isSingleMatch_eq hn] at hmax haccept
  have hrest : ∀ x ∈ spans₃, span.stop ≤ x.start ∧ x.start ≤ x.stop := fun x hx =>
    ⟨((List.pairwise_cons.mp hsorted₂).1 x hx).stop_le,
      hle x (List.mem_append_right _ (List.mem_cons_of_mem span hx))⟩
  have hspan_le : span.start ≤ span.stop := hle span (List.mem_append_right _ List.mem_cons_self)
  rw [due, hsplit, Track.reported_append t hle hsorted, Track.reported_take haccept hspan_le hrest,
    List.length_append, List.length_cons]
  omega

/-- What has overflowed has been reported for the bytes of the data. -/
theorem Bursts.full (hp : e.Proper) (hr : s.Reads e data) (hb : s.Bounded e data)
    (h : s.Bursts s' e chunk) : s'.Full e (data ++ chunk).length := by
  obtain ⟨n, sig, hn, hfull⟩ := h
  obtain ⟨t, c, ht, hc⟩ := hb hn
  obtain ⟨hmax, hsize⟩ := hfull ht
  have hdue := length_due_le (hp.of_getElem? hn) hr t chunk
  refine ⟨n, sig, hn, hmax, ?_⟩
  rw [List.length_append, Nat.mul_add]
  omega

/-- Trimming gives up only where an offset would leave its range. -/
theorem trim_ok (hw : s.window.toNat + 1 < offsetBound)
    (hb : s.base + s.buffer.length < offsetBound) :
    s.trim = .ok { s with
      buffer := s.buffer.drop (s.buffer.length - (s.window.toNat + 1))
      base := s.base + (s.buffer.length - (s.window.toNat + 1)) } := by
  unfold trim
  rw [if_neg (Nat.not_le.mpr hw)]
  dsimp only
  rw [if_neg (by omega)]

theorem trim_eq_ok (h : s.trim = .ok s') :
    s' = { s with
      buffer := s.buffer.drop (s.buffer.length - (s.window.toNat + 1))
      base := s.base + (s.buffer.length - (s.window.toNat + 1)) } := by
  unfold trim at h
  split at h
  · cases h
  · dsimp only at h
    split at h
    · cases h
    · exact (Except.ok.inj h).symm

/-- A chunk that has been taken stands behind the data, and of every signature that is proper it has
reported what was due. -/
structure Fed (s s' : Stream) (e : Engine) (data chunk : Bytes) (found : List Match) : Prop where
  reads : s'.Reads e (data ++ chunk)
  tally : ∀ {n sig t c}, e.signatures[n]? = some sig → sig.Proper → s.Tally n t c →
    s'.Tally n (t.behind sig.flags.singleMatch s.base (s.due sig t chunk))
      (c + (s.due sig t chunk).length)
  found : ∀ {n sig t c}, e.signatures[n]? = some sig → sig.Proper → s.Tally n t c →
    found.filter (fun m => m.number = n) = (s.due sig t chunk).map (placed s.base n)

/-- The history and a chunk are the end of the data. -/
theorem Reads.append (h : s.Reads e data) (chunk : Bytes) :
    s.buffer ++ chunk = (data ++ chunk).drop s.base := by
  have := h.length
  rw [h.buffer, List.drop_append_of_le_length (by omega)]

/-- A chunk that has been taken: its matches have been noted, and the history has been trimmed. -/
theorem scan_eq_ok {found : List Match} (h : s.scan chunk = (s', .ok found)) :
    ∃ s₁, Stream.noteAll { s with buffer := s.buffer ++ chunk } s.buffer.length
        (s.engine.scanFrom (s.buffer ++ chunk) s.context) = (s₁, .ok found) ∧
      s₁.trim = .ok s' := by
  unfold scan at h
  dsimp only at h
  generalize hnoted : Stream.noteAll _ s.buffer.length _ = noted at h
  obtain ⟨s₁, r₁⟩ := noted
  cases r₁ with
  | error fault => cases h
  | ok found₁ =>
      dsimp only at h
      cases htrim : s₁.trim with
      | error fault =>
          rw [htrim] at h
          cases h
      | ok s₂ =>
          rw [htrim] at h
          obtain ⟨rfl, hfound⟩ := Prod.mk.inj h
          cases hfound
          exact ⟨s₁, hnoted, htrim⟩

theorem scan_ok (hr : s.Reads e data) {found : List Match} (h : s.scan chunk = (s', .ok found)) :
    s.Fed s' e data chunk found := by
  obtain rfl := hr.engine
  have hctx := hr.context_le chunk
  obtain ⟨s₁, hnoted, htrim⟩ := scan_eq_ok h
  have hreported := noteAll_ok _ hnoted fun m hm =>
    hr.tracks.symm ▸ Engine.number_lt_of_mem_scanFrom hm
  obtain ⟨hengine, hwindow, hbuffer, hbase, htracks⟩ := hreported.noted.notes
  dsimp only at hengine hwindow hbuffer hbase htracks
  obtain rfl := trim_eq_ok htrim
  -- the matches of a signature among those of the chunk
  have hspans : ∀ {n sig}, s.engine.signatures[n]? = some sig → sig.Proper →
      Ordered (sig.spans (s.buffer ++ chunk) s.context) ∧
      (s.engine.scanFrom (s.buffer ++ chunk) s.context).filter (fun m => m.number = n) =
        (sig.spans (s.buffer ++ chunk) s.context).map (Engine.matchAt n) := by
    intro n sig hn hsig
    obtain ⟨hbounds, hsorted⟩ := Signature.spans_sorted hsig hctx
    exact ⟨⟨fun x hx => (hbounds x hx).start_le, hsorted⟩, Engine.scanFrom_filter hn hsig hctx⟩
  refine ⟨⟨hengine, hwindow.trans hr.window, ?_, ?_, htracks.trans hr.tracks⟩, ?_, ?_⟩
  · show s₁.base + _ = _
    have := hr.base
    have := hr.length
    rw [hbase, hbuffer, hwindow, List.length_append, List.length_append]
    omega
  · show s₁.buffer.drop _ = (data ++ chunk).drop (s₁.base + _)
    rw [hbase, hbuffer, hr.append chunk, List.drop_drop]
  · intro n sig t c hn hsig ht
    obtain ⟨hordered, hfilter⟩ := hspans hn hsig
    have := hreported.noted.tally (n := n) ⟨ht.track, ht.count⟩ hordered hfilter
    dsimp only at this
    rw [Engine.isSingleMatch_eq hn] at this
    exact ⟨this.track, this.count⟩
  · intro n sig t c hn hsig ht
    obtain ⟨hordered, hfilter⟩ := hspans hn hsig
    have := hreported.found (n := n) ⟨ht.track, ht.count⟩ hordered hfilter
    dsimp only at this
    rw [Engine.isSingleMatch_eq hn] at this
    exact this

/-- A chunk is taken, or a count overflows. -/
theorem scan_ok_or_bursts (hp : e.Proper) (hw : e.openStream.window.toNat + 1 < offsetBound)
    (hr : s.Reads e data) (hlen : (data ++ chunk).length < offsetBound)
    {r : Except Fault (List Match)} (h : s.scan chunk = (s', r)) :
    (∃ found, r = .ok found) ∨ (∃ fault, r = .error fault) ∧ s.Bursts s' e chunk := by
  obtain rfl := hr.engine
  have hlength := hr.length
  have hctx := hr.context_le chunk
  rw [List.length_append] at hlen
  have hmatches : ∀ m ∈ s.engine.scanFrom (s.buffer ++ chunk) s.context,
      m.number < s.tracks.length ∧ m.stop + s.base < offsetBound := by
    intro m hm
    have := Engine.stop_le_of_mem_scanFrom hp hctx hm
    rw [List.length_append] at this
    refine ⟨?_, by omega⟩
    rw [hr.tracks]
    exact Engine.number_lt_of_mem_scanFrom hm
  unfold scan at h
  dsimp only at h
  generalize hnoted : Stream.noteAll _ s.buffer.length _ = noted at h
  obtain ⟨s₁, r₁⟩ := noted
  rcases noteAll_cases _ hnoted hmatches with ⟨⟨found, rfl⟩, hn⟩ | ⟨⟨fault, rfl⟩, ho⟩
  · obtain ⟨_, hwindow, hbuffer, hbase, _⟩ := hn.notes
    dsimp only at hwindow hbuffer hbase
    rw [← hr.window, ← hwindow] at hw
    have htrim := trim_ok hw (s := s₁) (by rw [hbase, hbuffer, List.length_append]; omega)
    dsimp only at h
    rw [htrim] at h
    obtain ⟨rfl, rfl⟩ := Prod.mk.inj h
    exact Or.inl ⟨found, rfl⟩
  · obtain ⟨rfl, rfl⟩ := Prod.mk.inj h
    exact Or.inr ⟨⟨fault, rfl⟩, ho.bursts hp hr⟩

theorem Fed.took {found : List Match} (hp : e.Proper) (hr : s.Reads e data)
    (h : s.Fed s' e data chunk found) : s.Took s' chunk := by
  intro n sig t c hsig ht
  rw [hr.engine] at hsig
  exact h.tally hsig (hp.of_getElem? hsig) ht

/-- What a chunk does to a stream: it is taken, or a count overflows. -/
theorem scan_cases (hp : e.Proper) (hw : e.openStream.window.toNat + 1 < offsetBound)
    (hr : s.Reads e data) (hb : s.Bounded e data) (hlen : (data ++ chunk).length < offsetBound)
    {r : Except Fault (List Match)} (h : s.scan chunk = (s', r)) :
    ((∃ found, r = .ok found) ∧ s'.Reads e (data ++ chunk) ∧ s.Took s' chunk) ∨
      (∃ fault, r = .error fault) ∧ s'.Full e (data ++ chunk).length := by
  rcases scan_ok_or_bursts hp hw hr hlen h with ⟨found, rfl⟩ | ⟨hfault, hbursts⟩
  · have hfed := scan_ok hr h
    exact Or.inl ⟨⟨found, rfl⟩, hfed.reads, hfed.took hp hr⟩
  · exact Or.inr ⟨hfault, hbursts.full hp hr hb⟩

theorem Took.bounded (hp : e.Proper) (hr : s.Reads e data) (hb : s.Bounded e data)
    (h : s.Took s' chunk) : s'.Bounded e (data ++ chunk) := by
  intro n sig hn
  obtain ⟨t, c, ht, hc⟩ := hb hn
  refine ⟨_, _, h (hr.engine.symm ▸ hn) ht, ?_⟩
  have := length_due_le (hp.of_getElem? hn) hr t chunk
  rw [List.length_append, Nat.mul_add]
  omega

theorem Full.mono {short long : Nat} (h : s.Full e short) (hle : short ≤ long) :
    s.Full e long := by
  obtain ⟨n, sig, hn, hc, hs⟩ := h
  exact ⟨n, sig, hn, hc, Nat.le_trans hs (Nat.mul_le_mul_left _ hle)⟩

/-- A count overflows after half as many bytes as it can tell at the least. -/
theorem Full.length_ge {length : Nat} (h : s.Full e length) : UInt32.size ≤ 2 * length := by
  obtain ⟨n, sig, _, _, hs⟩ := h
  rw [Signature.weight] at hs
  split at hs
  · omega
  · exact hs

/-- What every chunk keeps holds behind all of them, and all of them are taken unless a count
overflows. -/
theorem scanAll_cases {P : Stream → Bytes → Prop} (hp : e.Proper)
    (hw : e.openStream.window.toNat + 1 < offsetBound)
    (step : ∀ {s s' : Stream} {data chunk : Bytes}, s.Reads e data → P s data →
      s'.Reads e (data ++ chunk) → s.Took s' chunk → P s' (data ++ chunk)) :
    ∀ (chunks : List Bytes) {s s' : Stream} {data : Bytes} {r : Except Fault (List Match)},
      s.Reads e data → s.Bounded e data → P s data →
      (data ++ chunks.flatten).length < offsetBound → s.scanAll chunks = (s', r) →
      ((∃ found, r = .ok found) ∧ s'.Reads e (data ++ chunks.flatten) ∧
        s'.Bounded e (data ++ chunks.flatten) ∧ P s' (data ++ chunks.flatten)) ∨
      (∃ fault, r = .error fault) ∧ s'.Full e (data ++ chunks.flatten).length
  | [], s, s', data, r, hr, hb, hP, _, h => by
      rw [scanAll] at h
      obtain ⟨rfl, rfl⟩ := Prod.mk.inj h
      rw [List.flatten_nil, List.append_nil]
      exact Or.inl ⟨⟨[], rfl⟩, hr, hb, hP⟩
  | chunk :: rest, s, s', data, r, hr, hb, hP, hlen, h => by
      rw [scanAll] at h
      rw [List.flatten_cons, ← List.append_assoc] at hlen ⊢
      have hle : (data ++ chunk).length ≤ (data ++ chunk ++ rest.flatten).length :=
        (List.prefix_append (data ++ chunk) rest.flatten).length_le
      generalize hscan : s.scan chunk = scanned at h
      obtain ⟨s₁, r₁⟩ := scanned
      rcases scan_cases hp hw hr hb (Nat.lt_of_le_of_lt hle hlen) hscan with
        ⟨⟨found, rfl⟩, hr₁, ht⟩ | ⟨⟨fault, rfl⟩, hf⟩
      · dsimp only at h
        generalize hlater : s₁.scanAll rest = later at h
        obtain ⟨s₂, r₂⟩ := later
        obtain ⟨rfl, rfl⟩ := Prod.mk.inj h
        rcases scanAll_cases hp hw step rest hr₁ (ht.bounded hp hr hb) (step hr hP hr₁ ht) hlen
          hlater with ⟨⟨found', rfl⟩, hrest⟩ | ⟨⟨fault, rfl⟩, hf⟩
        · exact Or.inl ⟨⟨_, rfl⟩, hrest⟩
        · exact Or.inr ⟨⟨fault, rfl⟩, hf⟩
      · dsimp only at h
        obtain ⟨rfl, rfl⟩ := Prod.mk.inj h
        exact Or.inr ⟨⟨fault, rfl⟩, hf.mono hle⟩

/-- A stream takes all chunks unless the count of a signature overflows. -/
theorem scanAll_taken_or_full (hp : e.Proper) (hw : e.openStream.window.toNat + 1 < offsetBound)
    {chunks : List Bytes} (hlen : chunks.flatten.length < offsetBound) :
    (∃ found, (e.openStream.scanAll chunks).2 = .ok found) ∨
      (e.openStream.scanAll chunks).1.Full e chunks.flatten.length := by
  rcases scanAll_cases hp hw (P := fun _ _ => True) (fun _ _ _ _ => trivial) chunks
    (reads_openStream e) (bounded_openStream e) trivial hlen rfl with ⟨hok, _⟩ | ⟨_, hfull⟩
  · exact Or.inl hok
  · exact Or.inr hfull

/-- All chunks are taken if the first one is and behind it the others are. -/
theorem scanAll_cons_ok {rest : List Bytes} {found : List Match}
    (h : (s.scanAll (chunk :: rest)).2 = .ok found) :
    ∃ s₁ first later, s.scan chunk = (s₁, .ok first) ∧ (s₁.scanAll rest).2 = .ok later ∧
      found = first ++ later ∧ (s.scanAll (chunk :: rest)).1 = (s₁.scanAll rest).1 := by
  rw [scanAll] at h ⊢
  generalize s.scan chunk = scanned at h ⊢
  obtain ⟨s₁, r₁⟩ := scanned
  cases r₁ with
  | error fault => cases h
  | ok first =>
      dsimp only at h ⊢
      cases hlater : (s₁.scanAll rest).2 with
      | error fault =>
          rw [hlater] at h
          cases h
      | ok later =>
          rw [hlater] at h
          exact ⟨s₁, first, later, rfl, hlater, (Except.ok.inj h).symm, rfl⟩


/-- What every chunk that is taken keeps holds behind chunks that are all taken. -/
theorem scanAll_ok {P : Stream → Bytes → Prop}
    (step : ∀ {s s' : Stream} {data chunk : Bytes} {found : List Match}, s.Reads e data → P s data →
      s.Fed s' e data chunk found → P s' (data ++ chunk)) :
    ∀ (chunks : List Bytes) {s : Stream} {data : Bytes} {found : List Match}, s.Reads e data →
      P s data → (s.scanAll chunks).2 = .ok found →
      P (s.scanAll chunks).1 (data ++ chunks.flatten)
  | [], s, data, found, _, hP, _ => by
      rw [List.flatten_nil, List.append_nil]
      exact hP
  | chunk :: rest, s, data, found, hr, hP, hok => by
      obtain ⟨s₁, first, later, hscan, hlater, _, hbehind⟩ := scanAll_cons_ok hok
      have hfed := scan_ok hr hscan
      rw [hbehind, List.flatten_cons, ← List.append_assoc]
      exact scanAll_ok step rest hfed.reads (step hr hP hfed) hlater

end Stream
end TrafficRules
