import TrafficRules.Engine.Stream
import TrafficRules.Proofs.Counts
import TrafficRules.Proofs.Engine.Matches

/-! # What a chunk reports of one signature

A stream keeps for each signature a track and a count (`Stream.Tally`). A chunk changes them by the
matches of this signature alone, whatever else is noted in between (`Stream.Noted`): of the matches
that end in the chunk those are reported that start where the last one reported has ended, or of a
signature that is reported once the first of these (`Track.reported`).

Noting fails only where a count has reached its greatest value (`noteAll_cases`). -/

namespace TrafficRules

namespace Track

/-- The matches that end in the chunk and start where the last one reported has ended. `previous` is
the length of the history and `base` the number of bytes before it. -/
def fresh (base previous : Nat) (t : Track) (spans : List Regex.Span) : List Regex.Span :=
  spans.filter fun span => previous < span.stop && t.lastEnd ≤ span.start + base

/-- The matches of a signature that a chunk reports. -/
def reported (single : Bool) (base previous : Nat) (t : Track) (spans : List Regex.Span) :
    List Regex.Span :=
  if single then if t.fired then [] else (t.fresh base previous spans).take 1
  else t.fresh base previous spans

/-- The track behind the matches that were reported. -/
def behind (single : Bool) (base : Nat) (t : Track) (spans : List Regex.Span) : Track :=
  match spans.getLast? with
  | some span => ⟨span.stop + base, single⟩
  | none => t

variable {single : Bool} {base previous : Nat} {t : Track} {span : Regex.Span}
  {spans : List Regex.Span}

/-- A match is reported now. -/
structure Accepts (single : Bool) (base previous : Nat) (t : Track) (span : Regex.Span) : Prop where
  ends : previous < span.stop
  behind : t.lastEnd ≤ span.start + base
  unfired : (single && t.fired) = false

theorem behind_cons (t : Track) (span : Regex.Span) (spans : List Regex.Span) :
    t.behind single base (span :: spans) =
      Track.behind single base ⟨span.stop + base, single⟩ spans := by
  cases spans with
  | nil => rfl
  | cons s rest =>
      unfold behind
      rw [List.getLast?_cons_cons, List.getLast?_cons]

/-- Behind a match that is not reported the same ones are reported as without it. -/
theorem reported_skip (h : ¬ Accepts single base previous t span) :
    t.reported single base previous (span :: spans) = t.reported single base previous spans := by
  unfold reported
  by_cases hs : single = true ∧ t.fired = true
  · rw [if_pos hs.1, if_pos hs.1, if_pos hs.2, if_pos hs.2]
  · have hopen : (single && t.fired) = false := by
      cases single <;> cases hf : t.fired <;> simp_all
    have hnot : (previous < span.stop && t.lastEnd ≤ span.start + base : Bool) = false := by
      by_cases h₁ : previous < span.stop
      · by_cases h₂ : t.lastEnd ≤ span.start + base
        · exact absurd ⟨h₁, h₂, hopen⟩ h
        · simp [h₂]
      · simp [h₁]
    have hfresh : t.fresh base previous (span :: spans) = t.fresh base previous spans := by
      unfold fresh
      rw [List.filter_cons_of_neg]
      simpa using hnot
    rw [hfresh]

/-- A match that is reported stands before those that follow. -/
theorem reported_take (h : Accepts single base previous t span) (hle : span.start ≤ span.stop)
    (hrest : ∀ s ∈ spans, span.stop ≤ s.start ∧ s.start ≤ s.stop) :
    t.reported single base previous (span :: spans) =
      span :: Track.reported single base previous ⟨span.stop + base, single⟩ spans := by
  obtain ⟨h₁, h₂, h₃⟩ := h
  have hfresh : t.fresh base previous (span :: spans) = span :: t.fresh base previous spans := by
    unfold fresh
    rw [List.filter_cons_of_pos]
    simp [h₁, h₂]
  cases single with
  | true =>
      simp only [Bool.true_and] at h₃
      simp [reported, hfresh, h₃]
  | false =>
      -- what starts behind this match ends in the chunk and starts behind the last one reported
      have hall : t.fresh base previous spans =
          Track.fresh base previous ⟨span.stop + base, false⟩ spans := by
        refine List.filter_congr fun s hs => ?_
        obtain ⟨g₁, g₂⟩ := hrest s hs
        have e₁ : previous < s.stop := by omega
        have e₂ : t.lastEnd ≤ s.start + base := by omega
        have e₃ : span.stop + base ≤ s.start + base := by omega
        simp [e₁, e₂, e₃]
      simp [reported, hfresh, hall]

theorem reported_of_nil (t : Track) : t.reported single base previous [] = [] := by
  simp [reported, fresh]

/-- What is reported of matches one behind the other is what is reported of the first ones, and then
of the others by the track behind these. -/
theorem reported_append (t : Track) {xs ys : List Regex.Span}
    (hle : ∀ s ∈ xs ++ ys, s.start ≤ s.stop) (hsorted : (xs ++ ys).Pairwise Regex.Span.Precedes) :
    t.reported single base previous (xs ++ ys) =
      t.reported single base previous xs ++
        (t.behind single base (t.reported single base previous xs)).reported single base previous
          ys := by
  induction xs generalizing t with
  | nil =>
      rw [reported_of_nil]
      rfl
  | cons x xs ih =>
      rw [List.cons_append] at hle hsorted ⊢
      obtain ⟨hx, hxs⟩ := List.pairwise_cons.mp hsorted
      rw [List.forall_mem_cons] at hle
      by_cases ha : Accepts single base previous t x
      · have hrest : ∀ s ∈ xs ++ ys, x.stop ≤ s.start ∧ s.start ≤ s.stop :=
          fun s hs => ⟨(hx s hs).stop_le, hle.2 s hs⟩
        rw [reported_take ha hle.1 hrest,
          reported_take ha hle.1 fun s hs => hrest s (List.mem_append_left ys hs), behind_cons,
          ih _ hle.2 hxs, List.cons_append]
      · rw [reported_skip ha, reported_skip ha, ih t hle.2 hxs]

theorem reported_sublist (t : Track) (spans : List Regex.Span) :
    (t.reported single base previous spans).Sublist
      (spans.filter fun span => previous < span.stop) := by
  have hfresh : (t.fresh base previous spans).Sublist
      (spans.filter fun span => previous < span.stop) := by
    unfold fresh
    rw [← List.filter_filter]
    exact List.filter_sublist.filter _
  unfold reported
  split
  · split
    · exact List.nil_sublist _
    · exact (List.take_sublist 1 _).trans hfresh
  · exact hfresh

end Track

namespace Counts

/-- A table of counts holds this count under a number; none that is zero is held. -/
structure Holds (counts : Counts) (n c : Nat) : Prop where
  get? : counts.get? n = if c = 0 then none else some (UInt32.ofNat c)
  lt : c < UInt32.size

variable {counts counts' : Counts} {n k c : Nat}

theorem Holds.of_eq (h : counts.Holds n c) : counts.of n = UInt32.ofNat c := by
  unfold Counts.of
  rw [h.get?]
  split
  · rename_i hc
    rw [hc]
    rfl
  · rfl

theorem Holds.toNat_of (h : counts.Holds n c) : (counts.of n).toNat = c := by
  rw [h.of_eq, UInt32.toNat_ofNat', Nat.mod_eq_of_lt h.lt]

theorem Holds.increment (h : counts.Holds n c) (hi : counts.increment n = .ok counts') :
    counts'.Holds n (c + 1) := by
  obtain ⟨hmax, rfl⟩ := increment_ok hi
  have hlt : c + 1 < UInt32.size := by
    rw [← h.toNat_of]
    exact ne_greatest_iff.mp hmax
  refine ⟨?_, hlt⟩
  rw [Table.get?_insert, if_pos rfl, if_neg (Nat.succ_ne_zero c), h.of_eq, UInt32.ofNat_add]
  rfl

/-- The counts under the other numbers stay. -/
theorem Holds.of_increment (h : counts.Holds n c) (hi : counts.increment k = .ok counts')
    (hk : k ≠ n) : counts'.Holds n c := by
  obtain ⟨_, rfl⟩ := increment_ok hi
  refine ⟨?_, h.lt⟩
  rw [Table.get?_insert, if_neg hk]
  exact h.get?

/-- A count fails to grow only at its greatest value. -/
theorem Holds.of_increment_error (h : counts.Holds n c) {fault : Fault}
    (hi : counts.increment n = .error fault) : c + 1 = UInt32.size := by
  unfold Counts.increment at hi
  split at hi
  · rename_i hmax
    have := h.toNat_of
    rw [hmax] at this
    rw [← this]
    rfl
  · cases hi

theorem Holds.full (h : counts.Holds n c) (hc : c + 1 = UInt32.size) :
    counts.get? n = some 0xFFFFFFFF := by
  have hmax : c = UInt32.size - 1 := by omega
  rw [h.get?, hmax]
  rfl

end Counts

namespace Stream

/-- What a stream keeps of the signature with a number. -/
structure Tally (s : Stream) (n : Nat) (t : Track) (c : Nat) : Prop where
  track : s.tracks[n]? = some t
  count : s.counts.Holds n c

/-- The stream has changed in its tracks and counts only. -/
structure Notes (s s' : Stream) : Prop where
  engine : s'.engine = s.engine
  window : s'.window = s.window
  buffer : s'.buffer = s.buffer
  base : s'.base = s.base
  tracks : s'.tracks.length = s.tracks.length

theorem Notes.refl (s : Stream) : s.Notes s := ⟨rfl, rfl, rfl, rfl, rfl⟩

variable {s s' : Stream} {previous n c : Nat} {t : Track}

/-- Noting a match changes tracks and counts only. -/
theorem note_fst (s : Stream) (previous : Nat) (m : Match) :
    ∃ tracks counts, (s.note previous m).1 = { s with tracks := tracks, counts := counts } := by
  unfold note
  split
  · exact ⟨_, _, rfl⟩
  · split
    · exact ⟨_, _, rfl⟩
    · dsimp only
      split
      · exact ⟨_, _, rfl⟩
      · split
        · exact ⟨_, _, rfl⟩
        · split
          · exact ⟨_, _, rfl⟩
          · split <;> exact ⟨_, _, rfl⟩

theorem noteAll_fst (previous : Nat) : ∀ (ms : List Match) (s : Stream),
    ∃ tracks counts, (s.noteAll previous ms).1 = { s with tracks := tracks, counts := counts }
  | [], s => ⟨_, _, rfl⟩
  | m :: rest, s => by
      obtain ⟨tracks, counts, hnote⟩ := s.note_fst previous m
      rw [noteAll]
      generalize s.note previous m = noted at hnote ⊢
      obtain ⟨s₁, r⟩ := noted
      subst hnote
      cases r with
      | error fault => exact ⟨tracks, counts, rfl⟩
      | ok r => cases r <;> exact noteAll_fst previous rest _

/-- What noting one match does. -/
theorem note_cases {m : Match} {r : Except Fault (Option Match)}
    (h : s.note previous m = (s', r)) (hlt : m.number < s.tracks.length)
    (hb : m.stop + s.base < offsetBound) :
    ∃ t, s.tracks[m.number]? = some t ∧
      ((¬ t.Accepts (s.engine.isSingleMatch m.number) s.base previous ⟨m.start, m.stop⟩ ∧
          s' = s ∧ r = .ok none) ∨
        t.Accepts (s.engine.isSingleMatch m.number) s.base previous ⟨m.start, m.stop⟩ ∧
          ((∃ counts, s.counts.increment m.number = .ok counts ∧
            s' = { s with
              tracks := s.tracks.set m.number ⟨m.stop + s.base, s.engine.isSingleMatch m.number⟩
              counts := counts } ∧
            r = .ok (some ⟨m.number, m.start + s.base, m.stop + s.base⟩)) ∨
          ∃ fault, s.counts.increment m.number = .error fault ∧ s'.counts = s.counts ∧
            r = .error fault)) := by
  obtain ⟨t, ht⟩ : ∃ t, s.tracks[m.number]? = some t := ⟨_, List.getElem?_eq_getElem hlt⟩
  refine ⟨t, ht, ?_⟩
  unfold note at h
  split at h
  · rename_i hold
    obtain ⟨rfl, rfl⟩ := Prod.mk.inj h
    exact Or.inl ⟨fun ha => absurd ha.ends (Nat.not_lt.mpr hold), rfl, rfl⟩
  · rename_i hnew
    rw [if_neg (Nat.not_le.mpr hb)] at h
    dsimp only at h
    rw [ht] at h
    dsimp only at h
    split at h
    · rename_i hlast
      obtain ⟨rfl, rfl⟩ := Prod.mk.inj h
      exact Or.inl ⟨fun ha => absurd ha.behind (Nat.not_le.mpr hlast), rfl, rfl⟩
    · rename_i hlast
      split at h
      · rename_i hfired
        obtain ⟨rfl, rfl⟩ := Prod.mk.inj h
        refine Or.inl ⟨fun ha => ?_, rfl, rfl⟩
        rw [ha.unfired] at hfired
        cases hfired
      · rename_i hfired
        refine Or.inr ⟨⟨Nat.not_le.mp hnew, Nat.not_lt.mp hlast, by simpa using hfired⟩, ?_⟩
        cases hi : s.counts.increment m.number with
        | error fault =>
            rw [hi] at h
            obtain ⟨rfl, rfl⟩ := Prod.mk.inj h
            exact Or.inr ⟨fault, rfl, rfl, rfl⟩
        | ok counts =>
            rw [hi] at h
            obtain ⟨rfl, rfl⟩ := Prod.mk.inj h
            exact Or.inl ⟨counts, rfl, rfl, rfl⟩

/-- Spans that do not overlap, one behind the other. -/
structure Ordered (spans : List Regex.Span) : Prop where
  start_le : ∀ span ∈ spans, span.start ≤ span.stop
  sorted : spans.Pairwise Regex.Span.Precedes

theorem Ordered.tail {span : Regex.Span} {spans : List Regex.Span} (h : Ordered (span :: spans)) :
    Ordered spans :=
  ⟨fun s hs => h.start_le s (List.mem_cons_of_mem span hs), (List.pairwise_cons.mp h.sorted).2⟩

/-- What noting matches does to every signature, given by its own matches among them. -/
structure Noted (s s' : Stream) (previous : Nat) (ms : List Match) : Prop where
  notes : s.Notes s'
  tally : ∀ {n t c spans}, s.Tally n t c → Ordered spans →
    ms.filter (fun m => m.number = n) = spans.map (Engine.matchAt n) →
    s'.Tally n
      (t.behind (s.engine.isSingleMatch n) s.base
        (t.reported (s.engine.isSingleMatch n) s.base previous spans))
      (c + (t.reported (s.engine.isSingleMatch n) s.base previous spans).length)

theorem Noted.nil (s : Stream) (previous : Nat) : s.Noted s previous [] := by
  refine ⟨Notes.refl s, fun {n t c spans} ht _ hs => ?_⟩
  rw [List.filter_nil] at hs
  rw [List.map_eq_nil_iff.mp hs.symm, Track.reported_of_nil]
  exact ht

/-- A match that is not reported changes nothing. -/
theorem Noted.skip {m : Match} {ms : List Match} {u : Track}
    (hu : s.tracks[m.number]? = some u)
    (hskip : ¬ u.Accepts (s.engine.isSingleMatch m.number) s.base previous ⟨m.start, m.stop⟩)
    (h : s.Noted s' previous ms) : s.Noted s' previous (m :: ms) := by
  refine ⟨h.notes, fun {n t c spans} ht ho hs => ?_⟩
  by_cases hn : m.number = n
  · rw [List.filter_cons_of_pos (by simpa using hn)] at hs
    cases spans with
    | nil => cases hs
    | cons span rest =>
        rw [List.map_cons, List.cons.injEq] at hs
        obtain ⟨rfl, hs⟩ := hs
        have hut : u = t := Option.some.inj (hu.symm.trans ht.track)
        rw [Track.reported_skip (hut ▸ hskip)]
        exact h.tally ht ho.tail hs
  · rw [List.filter_cons_of_neg (by simpa using hn)] at hs
    exact h.tally ht ho hs

/-- A match that is reported moves the track of its signature and counts once. -/
theorem Noted.take {m : Match} {ms : List Match} {u : Track} {counts : Counts}
    (hu : s.tracks[m.number]? = some u)
    (htake : u.Accepts (s.engine.isSingleMatch m.number) s.base previous ⟨m.start, m.stop⟩)
    (hi : s.counts.increment m.number = .ok counts)
    (h : Noted { s with
      tracks := s.tracks.set m.number ⟨m.stop + s.base, s.engine.isSingleMatch m.number⟩
      counts := counts } s' previous ms) : s.Noted s' previous (m :: ms) := by
  have hlt : m.number < s.tracks.length := (List.getElem?_eq_some_iff.mp hu).1
  refine ⟨⟨h.notes.engine, h.notes.window, h.notes.buffer, h.notes.base,
    h.notes.tracks.trans List.length_set⟩, fun {n t c spans} ht ho hs => ?_⟩
  by_cases hn : m.number = n
  · rw [List.filter_cons_of_pos (by simpa using hn)] at hs
    cases spans with
    | nil => cases hs
    | cons span rest =>
        rw [List.map_cons, List.cons.injEq] at hs
        obtain ⟨rfl, hs⟩ := hs
        have hut : u = t := Option.some.inj (hu.symm.trans ht.track)
        subst hut
        have hspan := ho.start_le span List.mem_cons_self
        have hrest : ∀ x ∈ rest, span.stop ≤ x.start ∧ x.start ≤ x.stop := fun x hx =>
          ⟨((List.pairwise_cons.mp ho.sorted).1 x hx).stop_le,
            ho.start_le x (List.mem_cons_of_mem span hx)⟩
        have hspans : u.Accepts (s.engine.isSingleMatch n) s.base previous span := htake
        have hnext := h.tally
          ⟨List.getElem?_set_self hlt, ht.count.increment hi⟩ ho.tail hs
        rw [Track.reported_take hspans hspan hrest, Track.behind_cons, List.length_cons,
          ← Nat.add_assoc, Nat.add_right_comm]
        exact hnext
  · rw [List.filter_cons_of_neg (by simpa using hn)] at hs
    refine h.tally ⟨?_, ht.count.of_increment hi hn⟩ ho hs
    rw [List.getElem?_set_ne hn]
    exact ht.track

/-! ### What is reported -/

/-- A match in the buffer, with offsets into the whole stream. -/
def placed (base n : Nat) (span : Regex.Span) : Match := ⟨n, span.start + base, span.stop + base⟩

/-- What noting one match has done if it has come to its end. -/
theorem note_ok {m : Match} {r : Option Match} (h : s.note previous m = (s', .ok r))
    (hlt : m.number < s.tracks.length) :
    ∃ t, s.tracks[m.number]? = some t ∧
      ((¬ t.Accepts (s.engine.isSingleMatch m.number) s.base previous ⟨m.start, m.stop⟩ ∧
          s' = s ∧ r = none) ∨
        t.Accepts (s.engine.isSingleMatch m.number) s.base previous ⟨m.start, m.stop⟩ ∧
          ∃ counts, s.counts.increment m.number = .ok counts ∧
            s' = { s with
              tracks := s.tracks.set m.number ⟨m.stop + s.base, s.engine.isSingleMatch m.number⟩
              counts := counts } ∧
            r = some (placed s.base m.number ⟨m.start, m.stop⟩)) := by
  by_cases hold : m.stop ≤ previous
  · refine ⟨_, List.getElem?_eq_getElem hlt, Or.inl ⟨fun ha => ?_, ?_⟩⟩
    · exact absurd ha.ends (Nat.not_lt.mpr hold)
    · rw [note, if_pos hold] at h
      cases h
      exact ⟨rfl, rfl⟩
  · by_cases hb : m.stop + s.base < offsetBound
    · obtain ⟨t, ht, ⟨hskip, hs, hr⟩ | ⟨htake, ⟨counts, hi, hs, hr⟩ | ⟨_, _, _, hr⟩⟩⟩ :=
        note_cases h hlt hb
      · exact ⟨t, ht, Or.inl ⟨hskip, hs, Except.ok.inj hr⟩⟩
      · exact ⟨t, ht, Or.inr ⟨htake, counts, hi, hs, Except.ok.inj hr⟩⟩
      · cases hr
    · rw [note, if_neg hold, if_pos (Nat.not_lt.mp hb)] at h
      cases h

/-- What noting matches does to every signature and reports of it, given by its own matches. -/
structure Reported (s s' : Stream) (previous : Nat) (ms found : List Match) : Prop where
  noted : s.Noted s' previous ms
  found : ∀ {n t c spans}, s.Tally n t c → Ordered spans →
    ms.filter (fun m => m.number = n) = spans.map (Engine.matchAt n) →
    found.filter (fun m => m.number = n) =
      (t.reported (s.engine.isSingleMatch n) s.base previous spans).map (placed s.base n)

theorem Reported.nil (s : Stream) (previous : Nat) : s.Reported s previous [] [] := by
  refine ⟨Noted.nil s previous, fun {n t c spans} _ _ hs => ?_⟩
  rw [List.filter_nil] at hs
  rw [List.map_eq_nil_iff.mp hs.symm, Track.reported_of_nil]
  rfl

theorem Reported.skip {m : Match} {ms found : List Match} {u : Track}
    (hu : s.tracks[m.number]? = some u)
    (hskip : ¬ u.Accepts (s.engine.isSingleMatch m.number) s.base previous ⟨m.start, m.stop⟩)
    (h : s.Reported s' previous ms found) : s.Reported s' previous (m :: ms) found := by
  refine ⟨h.noted.skip hu hskip, fun {n t c spans} ht ho hs => ?_⟩
  by_cases hn : m.number = n
  · rw [List.filter_cons_of_pos (by simpa using hn)] at hs
    cases spans with
    | nil => cases hs
    | cons span rest =>
        rw [List.map_cons, List.cons.injEq] at hs
        obtain ⟨rfl, hs⟩ := hs
        have hut : u = t := Option.some.inj (hu.symm.trans ht.track)
        rw [Track.reported_skip (hut ▸ hskip)]
        exact h.found ht ho.tail hs
  · rw [List.filter_cons_of_neg (by simpa using hn)] at hs
    exact h.found ht ho hs

theorem Reported.take {m : Match} {ms found : List Match} {u : Track} {counts : Counts}
    (hu : s.tracks[m.number]? = some u)
    (htake : u.Accepts (s.engine.isSingleMatch m.number) s.base previous ⟨m.start, m.stop⟩)
    (hi : s.counts.increment m.number = .ok counts)
    (h : Reported { s with
      tracks := s.tracks.set m.number ⟨m.stop + s.base, s.engine.isSingleMatch m.number⟩
      counts := counts } s' previous ms found) :
    s.Reported s' previous (m :: ms) (placed s.base m.number ⟨m.start, m.stop⟩ :: found) := by
  have hlt : m.number < s.tracks.length := (List.getElem?_eq_some_iff.mp hu).1
  refine ⟨h.noted.take hu htake hi, fun {n t c spans} ht ho hs => ?_⟩
  by_cases hn : m.number = n
  · rw [List.filter_cons_of_pos (by simpa using hn)] at hs
    cases spans with
    | nil => cases hs
    | cons span rest =>
        rw [List.map_cons, List.cons.injEq] at hs
        obtain ⟨rfl, hs⟩ := hs
        have hut : u = t := Option.some.inj (hu.symm.trans ht.track)
        subst hut
        have hrest : ∀ x ∈ rest, span.stop ≤ x.start ∧ x.start ≤ x.stop := fun x hx =>
          ⟨((List.pairwise_cons.mp ho.sorted).1 x hx).stop_le,
            ho.start_le x (List.mem_cons_of_mem span hx)⟩
        have hspans : u.Accepts (s.engine.isSingleMatch n) s.base previous span := htake
        rw [Track.reported_take hspans (ho.start_le span List.mem_cons_self) hrest, List.map_cons,
          List.filter_cons_of_pos (by simp [placed, Engine.matchAt])]
        exact congrArg _
          (h.found ⟨List.getElem?_set_self hlt, ht.count.increment hi⟩ ho.tail hs)
  · rw [List.filter_cons_of_neg (by simpa using hn)] at hs
    rw [List.filter_cons_of_neg (by rw [decide_eq_true_eq]; exact hn)]
    refine h.found ⟨?_, ht.count.of_increment hi hn⟩ ho hs
    rw [List.getElem?_set_ne hn]
    exact ht.track

/-- Noting matches that has come to its end has reported of every signature what is due of it. -/
theorem noteAll_ok : ∀ (ms : List Match) {s s' : Stream} {found : List Match},
    s.noteAll previous ms = (s', .ok found) → (∀ m ∈ ms, m.number < s.tracks.length) →
    s.Reported s' previous ms found
  | [], s, s', found, h, _ => by
      rw [noteAll] at h
      cases h
      exact Reported.nil s previous
  | m :: rest, s, s', found, h, hlt => by
      have hrest : ∀ k ∈ rest, k.number < s.tracks.length :=
        fun k hk => hlt k (List.mem_cons_of_mem m hk)
      rw [noteAll] at h
      generalize hnote : s.note previous m = noted at h
      obtain ⟨s₁, r₁⟩ := noted
      cases r₁ with
      | error fault => cases h
      | ok r =>
          obtain ⟨t, ht, ⟨hskip, rfl, rfl⟩ | ⟨htake, counts, hi, rfl, rfl⟩⟩ :=
            note_ok hnote (hlt m List.mem_cons_self)
          · exact (noteAll_ok rest h hrest).skip ht hskip
          · dsimp only at h
            generalize hlater : Stream.noteAll _ previous rest = later at h
            obtain ⟨s₂, r₂⟩ := later
            cases r₂ with
            | error fault => cases h
            | ok found' =>
                cases h
                rw [← List.length_set (i := m.number)
                  (a := (⟨m.stop + s.base, s.engine.isSingleMatch m.number⟩ : Track))] at hrest
                exact (noteAll_ok rest hlater hrest).take ht htake hi

/-! ### Where noting fails -/

/-- Where noting has failed: at a match that is due, whose count cannot grow. -/
structure Overflow (s s' : Stream) (previous : Nat) (ms : List Match) : Prop where
  at_match : ∃ before m after s₁ t, ms = before ++ m :: after ∧ s.Noted s₁ previous before ∧
    s₁.tracks[m.number]? = some t ∧
    t.Accepts (s.engine.isSingleMatch m.number) s.base previous ⟨m.start, m.stop⟩ ∧
    (∃ fault, s₁.counts.increment m.number = .error fault) ∧ s'.counts = s₁.counts

/-- Noting matches either does to every signature what its own matches do, or fails at a count. -/
theorem noteAll_cases : ∀ (ms : List Match) {s s' : Stream} {r : Except Fault (List Match)},
    s.noteAll previous ms = (s', r) →
    (∀ m ∈ ms, m.number < s.tracks.length ∧ m.stop + s.base < offsetBound) →
    ((∃ found, r = .ok found) ∧ s.Noted s' previous ms) ∨
      (∃ fault, r = .error fault) ∧ s.Overflow s' previous ms
  | [], s, s', r, h, _ => by
      rw [noteAll] at h
      obtain ⟨rfl, rfl⟩ := Prod.mk.inj h
      exact Or.inl ⟨⟨[], rfl⟩, Noted.nil s previous⟩
  | m :: rest, s, s', r, h, hb => by
      obtain ⟨hlt, hstop⟩ := hb m List.mem_cons_self
      have hrest : ∀ m ∈ rest, m.number < s.tracks.length ∧ m.stop + s.base < offsetBound :=
        fun k hk => hb k (List.mem_cons_of_mem m hk)
      rw [noteAll] at h
      generalize hnote : s.note previous m = noted at h
      obtain ⟨s₁, r₁⟩ := noted
      obtain ⟨t, ht, ⟨hskip, rfl, rfl⟩ | ⟨htake, ⟨counts, hi, rfl, rfl⟩ | ⟨fault, hi, hc, rfl⟩⟩⟩ :=
        note_cases hnote hlt hstop
      · dsimp only at h
        rcases noteAll_cases rest h hrest with ⟨hr, hn⟩ | ⟨hr, hn⟩
        · exact Or.inl ⟨hr, hn.skip ht hskip⟩
        · obtain ⟨before, k, after, s₂, u, rfl, h₁, h₂⟩ := hn.at_match
          exact Or.inr ⟨hr, m :: before, k, after, s₂, u, rfl, h₁.skip ht hskip, h₂⟩
      · dsimp only at h
        generalize hlater : Stream.noteAll _ previous rest = later at h
        obtain ⟨s₂, r₂⟩ := later
        obtain ⟨rfl, rfl⟩ := Prod.mk.inj h
        have hrest' := hrest
        rw [← List.length_set (i := m.number)
          (a := (⟨m.stop + s.base, s.engine.isSingleMatch m.number⟩ : Track))] at hrest'
        rcases noteAll_cases rest hlater hrest' with ⟨⟨found, rfl⟩, hn⟩ | ⟨⟨fault, rfl⟩, hn⟩
        · exact Or.inl ⟨⟨_, rfl⟩, hn.take ht htake hi⟩
        · obtain ⟨before, k, after, s₃, u, rfl, h₁, h₂⟩ := hn.at_match
          exact Or.inr ⟨⟨fault, rfl⟩, m :: before, k, after, s₃, u, rfl, h₁.take ht htake hi, h₂⟩
      · dsimp only at h
        obtain ⟨rfl, rfl⟩ := Prod.mk.inj h
        exact Or.inr ⟨⟨fault, rfl⟩, [], m, rest, s, t, rfl, Noted.nil s previous, ht, htake,
          ⟨fault, hi⟩, hc⟩

end Stream
end TrafficRules
