import TrafficRules.Proofs.Engine.Prefilter
import TrafficRules.Proofs.Stream.Independence

/-! # What holds of a stream at all times

However the data come in chunks, and however far a stream looks back, its fields stay in step
(`Stream.scan_sound`): the history is the end of the data, offsets count from their start, the matches
of a signature lie one behind the other over all chunks, and the count of a signature is the number of
them.

What a stream reports of a signature is a function of the data and of the window alone
(`Stream.reportsOf`), and a signature is what a count overflows for if there are too many of these.
The invariant (`Keeps`) holds between what has been reported and what is still to come, signature by
signature; the order of the matches of all signatures is that of the scan (`noteAll_sublist`). -/

namespace TrafficRules

namespace Track

variable {single : Bool} {base previous n : Nat} {t : Track} {span : Regex.Span}
  {spans : List Regex.Span} {ms : List Match}

/-- The matches reported of a signature, and its track behind them. -/
structure Follows (single : Bool) (t : Track) (ms : List Match) : Prop where
  disjoint : ms.Pairwise fun a b => a.stop ≤ b.start
  behind : ∀ m ∈ ms, m.stop ≤ t.lastEnd
  fired : single = true → ms ≠ [] → t.fired = true
  once : single = true → ms.length ≤ 1

theorem follows_nil (single : Bool) (t : Track) : t.Follows single [] :=
  ⟨List.Pairwise.nil, by simp, by simp, by simp⟩

/-- One match more. -/
theorem Follows.push (h : t.Follows single ms) (hle : span.start ≤ span.stop)
    (hbehind : t.lastEnd ≤ span.start + base) (hfirst : single = true → ms = []) :
    Follows single ⟨span.stop + base, single⟩ (ms ++ [Stream.placed base n span]) := by
  refine ⟨?_, fun m hm => ?_, fun hs _ => hs, fun hs => ?_⟩
  · refine List.pairwise_append.mpr ⟨h.disjoint, List.pairwise_singleton _ _, fun a ha b hb => ?_⟩
    rw [List.mem_singleton.mp hb]
    exact Nat.le_trans (h.behind a ha) hbehind
  · rcases List.mem_append.mp hm with hm | hm
    · have := h.behind m hm
      dsimp only
      omega
    · rw [List.mem_singleton.mp hm]
      exact Nat.le_refl _
  · rw [hfirst hs]
    simp

/-- Matches one behind the other. -/
theorem Follows.extend : ∀ {spans : List Regex.Span} {t : Track} {ms : List Match},
    t.Follows single ms → Stream.Ordered spans → (∀ s ∈ spans, t.lastEnd ≤ s.start + base) →
    (single = true → ms.length + spans.length ≤ 1) →
    (t.behind single base spans).Follows single (ms ++ spans.map (Stream.placed base n))
  | [], t, ms, h, _, _, _ => by
      rw [List.map_nil, List.append_nil]
      exact h
  | span :: rest, t, ms, h, ho, hbehind, honce => by
      rw [List.forall_mem_cons] at hbehind
      have hfirst : single = true → ms = [] ∧ rest = [] := by
        intro hs
        have := honce hs
        rw [List.length_cons] at this
        exact ⟨List.length_eq_zero_iff.mp (by omega), List.length_eq_zero_iff.mp (by omega)⟩
      have hpushed := h.push (n := n) (ho.start_le span List.mem_cons_self) hbehind.1
        fun hs => (hfirst hs).1
      rw [behind_cons, List.map_cons, List.append_cons]
      refine hpushed.extend ho.tail (fun s hs => ?_) fun hs => ?_
      · exact Nat.add_le_add_right ((List.pairwise_cons.mp ho.sorted).1 s hs).stop_le base
      · rw [(hfirst hs).1, (hfirst hs).2]
        simp

theorem lastEnd_le_of_mem_reported (h : span ∈ t.reported single base previous spans) :
    t.lastEnd ≤ span.start + base := by
  have hfresh : ∀ s ∈ t.fresh base previous spans, t.lastEnd ≤ s.start + base := by
    intro s hs
    have := (List.mem_filter.mp hs).2
    simp only [Bool.and_eq_true, decide_eq_true_eq] at this
    exact this.2
  unfold reported at h
  split_ifs at h
  · cases h
  · exact hfresh span ((List.take_sublist 1 _).subset h)
  · exact hfresh span h

theorem length_reported_single (h : single = true) :
    (t.reported single base previous spans).length ≤ if t.fired = true then 0 else 1 := by
  unfold reported
  rw [if_pos h]
  split_ifs
  · exact Nat.le_refl 0
  · rw [List.length_take]
    exact Nat.min_le_left 1 _

/-- What a chunk reports follows on what was reported before. -/
theorem Follows.reported (h : t.Follows single ms) (ho : Stream.Ordered spans) :
    (t.behind single base (t.reported single base previous spans)).Follows single
      (ms ++ (t.reported single base previous spans).map (Stream.placed base n)) := by
  have hsub : (t.reported single base previous spans).Sublist spans :=
    (reported_sublist t spans).trans List.filter_sublist
  refine h.extend ⟨fun s hs => ho.start_le s (hsub.subset hs), ho.sorted.sublist hsub⟩
    (fun s hs => lastEnd_le_of_mem_reported hs) fun hs => ?_
  have hlength : (t.reported single base previous spans).length ≤
      if t.fired = true then 0 else 1 := length_reported_single hs
  by_cases hms : ms = []
  · rw [hms]
    split at hlength <;> simp only [List.length_nil] <;> omega
  · rw [if_pos (h.fired hs hms)] at hlength
    have := h.once hs
    omega

end Track

namespace Stream

variable {s s' : Stream} {e : Engine} {previous : Nat} {data chunk : Bytes} {found log : List Match}

/-! ### The order of reports -/

/-- Matches are reported in the order in which they are noted. -/
theorem noteAll_sublist : ∀ (ms : List Match) {s s' : Stream} {found : List Match},
    s.noteAll previous ms = (s', .ok found) → (∀ m ∈ ms, m.number < s.tracks.length) →
    ∃ taken : List Match, taken.Sublist ms ∧
      found = taken.map fun m => placed s.base m.number ⟨m.start, m.stop⟩
  | [], s, s', found, h, _ => by
      rw [noteAll] at h
      cases h
      exact ⟨[], List.Sublist.refl [], rfl⟩
  | m :: rest, s, s', found, h, hlt => by
      have hrest : ∀ k ∈ rest, k.number < s.tracks.length :=
        fun k hk => hlt k (List.mem_cons_of_mem m hk)
      rw [noteAll] at h
      generalize hnote : s.note previous m = noted at h
      obtain ⟨s₁, r₁⟩ := noted
      cases r₁ with
      | error fault => cases h
      | ok r =>
          obtain ⟨t, _, ⟨_, rfl, rfl⟩ | ⟨_, counts, _, rfl, rfl⟩⟩ :=
            note_ok hnote (hlt m List.mem_cons_self)
          · obtain ⟨taken, hsub, hfound⟩ := noteAll_sublist rest h hrest
            exact ⟨taken, hsub.cons m, hfound⟩
          · dsimp only at h
            generalize hlater : Stream.noteAll _ previous rest = later at h
            obtain ⟨s₂, r₂⟩ := later
            cases r₂ with
            | error fault => cases h
            | ok found' =>
                cases h
                rw [← List.length_set (i := m.number)
                  (a := (⟨m.stop + s.base, s.engine.isSingleMatch m.number⟩ : Track))] at hrest
                obtain ⟨taken, hsub, hfound⟩ := noteAll_sublist rest hlater hrest
                exact ⟨m :: taken, hsub.cons_cons m, by rw [hfound]; rfl⟩

theorem scan_sublist (hr : s.Reads e data) (h : s.scan chunk = (s', .ok found)) :
    ∃ taken : List Match, taken.Sublist (e.scanFrom (s.buffer ++ chunk) s.context) ∧
      found = taken.map fun m => placed s.base m.number ⟨m.start, m.stop⟩ := by
  obtain rfl := hr.engine
  obtain ⟨_, hnoted, _⟩ := scan_eq_ok h
  have hsub := noteAll_sublist _ hnoted fun m hm =>
    hr.tracks.symm ▸ Engine.number_lt_of_mem_scanFrom hm
  exact hsub

theorem number_lt_of_scan (hr : s.Reads e data) (h : s.scan chunk = (s', .ok found)) {m : Match}
    (hm : m ∈ found) : m.number < e.size := by
  obtain ⟨taken, hsub, rfl⟩ := scan_sublist hr h
  obtain ⟨k, hk, rfl⟩ := List.mem_map.mp hm
  have hlt := Engine.number_lt_of_mem_scanFrom (hsub.subset hk)
  exact hlt

/-! ### What is reported and what is still to come -/

/-- The matches that a stream reports of a signature in chunks, its count left aside: `t` is the track of
the signature and `data` is what came before. -/
def reportsOf (window n : Nat) (sig : Signature) (t : Track) (data : Bytes) :
    List Bytes → List Match
  | [] => []
  | chunk :: rest =>
      let base := data.length - (window + 1)
      let due := t.reported sig.flags.singleMatch base (data.length - base)
        (sig.spans ((data ++ chunk).drop base) (if 0 < base then 1 else 0))
      due.map (placed base n) ++
        reportsOf window n sig (t.behind sig.flags.singleMatch base due) (data ++ chunk) rest

theorem Reads.reportsOf_cons (hr : s.Reads e data) (n : Nat) (sig : Signature) (t : Track)
    (chunk : Bytes) (rest : List Bytes) :
    reportsOf s.window.toNat n sig t data (chunk :: rest) =
      (s.due sig t chunk).map (placed s.base n) ++
        reportsOf s.window.toNat n sig
          (t.behind sig.flags.singleMatch s.base (s.due sig t chunk)) (data ++ chunk) rest := by
  have hlength : s.buffer.length = data.length - s.base := by
    rw [hr.buffer, List.length_drop]
  rw [reportsOf, due, context, hr.append chunk, hlength, hr.base]

theorem exists_reads (e : Engine) (data : Bytes) : ∃ s : Stream, s.Reads e data :=
  ⟨{ e.openStream with
    base := data.length - (e.openStream.window.toNat + 1)
    buffer := data.drop (data.length - (e.openStream.window.toNat + 1)) },
    rfl, rfl, rfl, rfl, List.length_replicate⟩

/-- A signature is reported as often as the bytes allow. -/
theorem length_reportsOf_le {sig : Signature} (hsig : sig.Proper) (e : Engine) (n : Nat) :
    ∀ (chunks : List Bytes) (t : Track) (data : Bytes),
      (reportsOf e.openStream.window.toNat n sig t data chunks).length ≤
        sig.weight * chunks.flatten.length
  | [], _, _ => Nat.zero_le _
  | chunk :: rest, t, data => by
      obtain ⟨s, hr⟩ := exists_reads e data
      have hdue := length_due_le hsig hr t chunk
      have hrest := length_reportsOf_le hsig e n rest
        (t.behind sig.flags.singleMatch s.base (s.due sig t chunk)) (data ++ chunk)
      rw [← hr.window] at hrest ⊢
      rw [hr.reportsOf_cons, List.length_append, List.length_map, List.flatten_cons,
        List.length_append, Nat.mul_add]
      exact Nat.add_le_add hdue hrest

/-- A stream between the chunks that it took, with the matches `log` reported of them, and those that
are still to come. `all` are all these chunks. -/
structure Keeps (e : Engine) (all : List Bytes) (s : Stream) (data : Bytes) (log : List Match)
    (rest : List Bytes) : Prop where
  reads : s.Reads e data
  numbers : ∀ m ∈ log, m.number < e.size
  follows : ∀ {n sig}, e.signatures[n]? = some sig → ∃ t,
    s.Tally n t (log.filter fun m => m.number = n).length ∧
      t.Follows sig.flags.singleMatch (log.filter fun m => m.number = n) ∧
      reportsOf e.openStream.window.toNat n sig {} [] all =
        log.filter (fun m => m.number = n) ++
          reportsOf e.openStream.window.toNat n sig t data rest

theorem keeps_openStream (e : Engine) (all : List Bytes) : Keeps e all e.openStream [] [] all := by
  refine ⟨reads_openStream e, by simp, fun {n sig} hn => ⟨{}, ?_, ?_, rfl⟩⟩
  · exact tally_openStream (List.getElem?_eq_some_iff.mp hn).1
  · exact Track.follows_nil _ _

section Steps

variable {all rest : List Bytes} (hp : e.Proper)
  (hw : e.openStream.window.toNat + 1 < offsetBound)
  (hfew : ∀ {n sig}, e.signatures[n]? = some sig →
    (reportsOf e.openStream.window.toNat n sig {} [] all).length < UInt32.size)
include hp hw hfew

/-- A chunk is taken if no signature is reported too often in all chunks. -/
theorem Keeps.scan (h : Keeps e all s data log (chunk :: rest))
    (hlen : (data ++ chunk).length < offsetBound) : ∃ s' found, s.scan chunk = (s', .ok found) ∧
      s.Fed s' e data chunk found ∧ Keeps e all s' (data ++ chunk) (log ++ found) rest := by
  obtain ⟨hr, hnumbers, hfollows⟩ := h
  generalize hscan : s.scan chunk = scanned
  obtain ⟨s', r⟩ := scanned
  rcases scan_ok_or_bursts hp hw hr hlen hscan with ⟨found, rfl⟩ | ⟨_, n, sig, hn, hburst⟩
  · have hfed := scan_ok hr hscan
    refine ⟨s', found, rfl, hfed, hfed.reads, fun m hm => ?_, fun {n sig} hn => ?_⟩
    · rcases List.mem_append.mp hm with hm | hm
      · exact hnumbers m hm
      · exact number_lt_of_scan hr hscan hm
    · obtain ⟨t, ht, htrack, hall⟩ := hfollows hn
      have hsig := hp.of_getElem? hn
      obtain ⟨hbounds, hsorted⟩ := Signature.spans_sorted hsig (hr.context_le chunk)
      have hfound := hfed.found hn hsig ht
      rw [← hr.window, hr.reportsOf_cons, ← List.append_assoc] at hall
      refine ⟨t.behind sig.flags.singleMatch s.base (s.due sig t chunk), ?_, ?_, ?_⟩
      · rw [List.filter_append, List.length_append, hfound, List.length_map]
        exact hfed.tally hn hsig ht
      · rw [List.filter_append, hfound]
        exact htrack.reported ⟨fun x hx => (hbounds x hx).start_le, hsorted⟩
      · rw [← hr.window, List.filter_append, hfound]
        exact hall
  · -- a count that overflows is that of a signature that is reported too often
    obtain ⟨t, ht, _, hall⟩ := hfollows hn
    have hlt := hfew hn
    have hge := (hburst ht).2
    rw [hall, ← hr.window, hr.reportsOf_cons] at hlt
    simp only [List.length_append, List.length_map] at hlt
    omega

/-- All chunks are taken. -/
theorem Keeps.scanAll : ∀ (chunks : List Bytes) {s : Stream} {data : Bytes} {log : List Match},
    Keeps e all s data log (chunks ++ rest) → (data ++ chunks.flatten).length < offsetBound →
    ∃ s' found, s.scanAll chunks = (s', .ok found) ∧
      Keeps e all s' (data ++ chunks.flatten) (log ++ found) rest
  | [], s, data, log, h, _ => by
      refine ⟨s, [], rfl, ?_⟩
      rw [List.flatten_nil, List.append_nil, List.append_nil]
      exact h
  | chunk :: more, s, data, log, h, hlen => by
      rw [List.flatten_cons, ← List.append_assoc] at hlen ⊢
      have hle : (data ++ chunk).length ≤ (data ++ chunk ++ more.flatten).length :=
        (List.prefix_append (data ++ chunk) more.flatten).length_le
      obtain ⟨s₁, first, hscan, _, h₁⟩ := Keeps.scan hp hw hfew h (Nat.lt_of_le_of_lt hle hlen)
      obtain ⟨s₂, later, hlater, h₂⟩ := Keeps.scanAll more h₁ hlen
      refine ⟨s₂, first ++ later, ?_, ?_⟩
      · rw [Stream.scanAll, hscan]
        dsimp only
        rw [hlater]
        rfl
      · rw [← List.append_assoc]
        exact h₂

end Steps

/-! ### Looking back further than the engine says -/

/-- The stream with another engine. -/
def withEngine (s : Stream) (e : Engine) : Stream := { s with engine := e }

/-- All that a stream asks its engine for is decided by the signatures. -/
theorem note_withEngine (h : e.signatures = s.engine.signatures) (previous : Nat) (m : Match) :
    (s.withEngine e).note previous m =
      ((s.note previous m).1.withEngine e, (s.note previous m).2) := by
  have hsingle : e.isSingleMatch m.number = s.engine.isSingleMatch m.number := by
    rw [Engine.isSingleMatch, Engine.isSingleMatch, h]
  unfold note withEngine
  dsimp only
  rw [hsingle]
  split
  · rfl
  · split
    · rfl
    · split
      · rfl
      · split
        · rfl
        · split
          · rfl
          · split <;> rfl

theorem noteAll_withEngine (previous : Nat) : ∀ (ms : List Match) {s : Stream},
    e.signatures = s.engine.signatures → (s.withEngine e).noteAll previous ms =
      ((s.noteAll previous ms).1.withEngine e, (s.noteAll previous ms).2)
  | [], s, _ => rfl
  | m :: rest, s, h => by
      rw [noteAll, noteAll, note_withEngine h]
      obtain ⟨tracks, counts, hnote⟩ := s.note_fst previous m
      generalize s.note previous m = noted at hnote ⊢
      obtain ⟨s₁, r⟩ := noted
      have h₁ : e.signatures = s₁.engine.signatures := by
        rw [show s₁ = _ from hnote]
        exact h
      cases r with
      | error fault => rfl
      | ok r =>
          cases r with
          | none => exact noteAll_withEngine previous rest h₁
          | some k =>
              dsimp only
              rw [noteAll_withEngine previous rest h₁]

/-- What a chunk is taken by, behind its matches. -/
def trimmed : Stream × Except Fault (List Match) → Stream × Except Fault (List Match)
  | (s, .error fault) => (s, .error fault)
  | (s, .ok found) =>
      match s.trim with
      | .error fault => (s, .error fault)
      | .ok s => (s, .ok found)

theorem scan_eq (s : Stream) (chunk : Bytes) :
    s.scan chunk = trimmed (Stream.noteAll { s with buffer := s.buffer ++ chunk } s.buffer.length
      (s.engine.scanFrom (s.buffer ++ chunk) s.context)) := rfl

theorem trimmed_withEngine (e : Engine) (r : Stream × Except Fault (List Match)) :
    trimmed (r.1.withEngine e, r.2) = ((trimmed r).1.withEngine e, (trimmed r).2) := by
  obtain ⟨s, r⟩ := r
  cases r with
  | error fault => rfl
  | ok found =>
      unfold trimmed trim withEngine
      dsimp only
      split_ifs <;> rfl

theorem engine_trimmed (r : Stream × Except Fault (List Match)) :
    (trimmed r).1.engine = r.1.engine := by
  obtain ⟨s, r⟩ := r
  cases r with
  | error fault => rfl
  | ok found =>
      unfold trimmed trim
      dsimp only
      split_ifs <;> rfl

theorem engine_scan (s : Stream) (chunk : Bytes) : (s.scan chunk).1.engine = s.engine := by
  rw [scan_eq, engine_trimmed]
  obtain ⟨tracks, counts, hnoted⟩ := noteAll_fst s.buffer.length
    (s.engine.scanFrom (s.buffer ++ chunk) s.context) { s with buffer := s.buffer ++ chunk }
  rw [hnoted]

theorem scan_withEngine (h : e.signatures = s.engine.signatures) (chunk : Bytes) :
    (s.withEngine e).scan chunk = ((s.scan chunk).1.withEngine e, (s.scan chunk).2) := by
  have hscan : e.scanFrom (s.buffer ++ chunk) s.context =
      s.engine.scanFrom (s.buffer ++ chunk) s.context := by
    unfold Engine.scanFrom Engine.literalMatches Engine.expressionMatches Engine.literals
      Engine.expressions Engine.size
    rw [h]
  have hnoted := noteAll_withEngine (s := { s with buffer := s.buffer ++ chunk }) s.buffer.length
    (s.engine.scanFrom (s.buffer ++ chunk) s.context) h
  rw [scan_eq s, ← trimmed_withEngine, ← hnoted, ← hscan]
  rfl

theorem scanAll_withEngine : ∀ (chunks : List Bytes) {s : Stream},
    e.signatures = s.engine.signatures → (s.withEngine e).scanAll chunks =
      ((s.scanAll chunks).1.withEngine e, (s.scanAll chunks).2)
  | [], s, _ => rfl
  | chunk :: rest, s, h => by
      have h₁ : e.signatures = (s.scan chunk).1.engine.signatures := by
        rw [s.engine_scan chunk]
        exact h
      rw [scanAll, scanAll, scan_withEngine h]
      generalize s.scan chunk = scanned at h₁ ⊢
      obtain ⟨s₁, r⟩ := scanned
      cases r with
      | error fault => rfl
      | ok found =>
          dsimp only
          rw [scanAll_withEngine rest h₁]

/-! ### At all times -/

/-- A stream that looks back by `window` bytes, behind the data that it took and all matches that it
reported of them. -/
structure Invariant (e : Engine) (window : Nat) (s : Stream) (data : Bytes) (log : List Match) :
    Prop where
  /-- The history is the end of the data, as far back as the window and one byte. -/
  buffer : s.buffer = data.drop (data.length - (window + 1))
  position : s.position = data.length
  numbers : ∀ m ∈ log, m.number < e.size
  /-- The matches of a signature do not overlap and are reported in the order of the data. -/
  disjoint : ∀ n, (log.filter fun m => m.number = n).Pairwise fun a b => a.stop ≤ b.start
  counts : ∀ n < e.size, (s.counts.of n).toNat = (log.filter fun m => m.number = n).length
  single : ∀ n, e.isSingleMatch n = true → (log.filter fun m => m.number = n).length ≤ 1

/-- The matches that a stream `s` behind some data reports of a chunk. -/
structure Feed (e : Engine) (s : Stream) (data chunk : Bytes) (found : List Match) : Prop where
  /-- They end in the chunk. -/
  within : ∀ m ∈ found,
    data.length < m.stop ∧ m.stop ≤ (data ++ chunk).length ∧ m.start ≤ m.stop
  /-- They are found in the data from the history on, and offsets count from the start of all data. -/
  occurs : ∀ m ∈ found, ∃ sig span, e.signatures[m.number]? = some sig ∧
    span ∈ sig.spans ((data ++ chunk).drop s.base) s.context ∧ m = placed s.base m.number span
  sorted : found.Pairwise fun a b => a.stop < b.stop ∨ a.stop = b.stop ∧
    (a.number < b.number ∨ a.number = b.number ∧ a.start ≤ b.start)

theorem Keeps.invariant {all rest : List Bytes} (h : Keeps e all s data log rest) :
    Invariant e e.openStream.window.toNat s data log := by
  obtain ⟨hr, hnumbers, hfollows⟩ := h
  have hnone : ∀ {n}, e.signatures[n]? = none → log.filter (fun m => m.number = n) = [] := by
    intro n hn
    refine List.filter_eq_nil_iff.mpr fun m hm he => ?_
    have hlt := hnumbers m hm
    rw [decide_eq_true_eq.mp he] at hlt
    exact absurd hlt (Nat.not_lt.mpr (List.getElem?_eq_none_iff.mp hn))
  refine ⟨?_, hr.length, hnumbers, fun n => ?_, fun n hn => ?_, fun n hsingle => ?_⟩
  · rw [← hr.window, ← hr.base]
    exact hr.buffer
  · cases hn : e.signatures[n]? with
    | none =>
        rw [hnone hn]
        exact List.Pairwise.nil
    | some sig =>
        obtain ⟨t, _, htrack, _⟩ := hfollows hn
        exact htrack.disjoint
  · obtain ⟨t, ht, _⟩ := hfollows (List.getElem?_eq_getElem hn)
    exact ht.count.toNat_of
  · cases hn : e.signatures[n]? with
    | none =>
        rw [hnone hn]
        exact Nat.zero_le 1
    | some sig =>
        obtain ⟨t, _, htrack, _⟩ := hfollows hn
        exact htrack.once ((Engine.isSingleMatch_eq hn).symm.trans hsingle)

theorem Keeps.feed {all rest : List Bytes} (hp : e.Proper) (h : Keeps e all s data log rest)
    (hscan : s.scan chunk = (s', .ok found)) : Feed e s data chunk found := by
  have hr := h.reads
  have hfed := scan_ok hr hscan
  have hlength := hr.length
  obtain ⟨taken, hsub, htaken⟩ := scan_sublist hr hscan
  -- each match is one that is due of its signature
  have hdue : ∀ m ∈ found, ∃ sig t span, e.signatures[m.number]? = some sig ∧
      span ∈ s.due sig t chunk ∧ m = placed s.base m.number span := by
    intro m hm
    have hn := List.getElem?_eq_getElem (number_lt_of_scan hr hscan hm)
    obtain ⟨t, ht, _⟩ := h.follows hn
    have hmem : m ∈ found.filter fun k => k.number = m.number :=
      List.mem_filter.mpr ⟨hm, by simp⟩
    rw [hfed.found hn (hp.of_getElem? hn) ht] at hmem
    obtain ⟨span, hspan, he⟩ := List.mem_map.mp hmem
    exact ⟨_, t, span, hn, hspan, he.symm⟩
  refine ⟨fun m hm => ?_, fun m hm => ?_, ?_⟩
  · obtain ⟨sig, t, span, hn, hspan, he⟩ := hdue m hm
    obtain ⟨hmem, hends⟩ := List.mem_filter.mp ((Track.reported_sublist t _).subset hspan)
    have hbounds := (Signature.spans_sorted (hp.of_getElem? hn) (hr.context_le chunk)).1 span hmem
    have hstart := hbounds.start_le
    have hstop := hbounds.stop_le
    rw [decide_eq_true_eq] at hends
    rw [List.length_append] at hstop
    rw [he, List.length_append]
    dsimp only [placed]
    omega
  · obtain ⟨sig, t, span, hn, hspan, he⟩ := hdue m hm
    refine ⟨sig, span, hn, ?_, he⟩
    rw [← hr.append chunk]
    exact (List.mem_filter.mp ((Track.reported_sublist t _).subset hspan)).1
  · rw [htaken, List.pairwise_map]
    refine ((e.sorted_scanFrom (s.buffer ++ chunk) s.context).sublist hsub).imp fun {a b} hab => ?_
    rw [Engine.le_iff] at hab
    dsimp only [placed]
    omega

/-- **A stream at all times.** Let an engine be built for compiled signatures, let a stream of it look
back by any window that leaves room for one byte more, and let it take any chunks that are shorter than
the greatest offset, of which no signature is reported too often for its count. Then each chunk is
taken, what it reports are matches that end in it, and behind it the fields of the stream are in step with
the data and with all that was reported. -/
theorem scan_sound {P : List Signature} {c : EngineConfig}
    (hP : ∀ s ∈ P, ∃ limit p, Signature.compile limit p = .ok s) (he : Engine.build P c = .ok e)
    {window : UInt64} (hw : window.toNat + 1 < offsetBound) {before : List Bytes}
    (hlen : (before.flatten ++ chunk).length < offsetBound)
    (hfew : ∀ n sig, P[n]? = some sig →
      (reportsOf (max window 1).toNat n sig {} [] (before ++ [chunk])).length < UInt32.size) :
    ∃ s log s' found, (Stream.new e window).scanAll before = (s, .ok log) ∧
      s.scan chunk = (s', .ok found) ∧
      Feed e s before.flatten chunk found ∧
      Invariant e (max window 1).toNat s' (before.flatten ++ chunk) (log ++ found) ∧
      ∀ n sig, P[n]? = some sig → (log ++ found).filter (fun m => m.number = n) =
        reportsOf (max window 1).toNat n sig {} [] (before ++ [chunk]) := by
  obtain ⟨rfl, _⟩ := Engine.build_ok_iff.mp he
  -- the stream is that of an engine with this window
  have hp : Engine.Proper ⟨P, window⟩ := by
    intro s hs
    obtain ⟨limit, p, hcompile⟩ := hP s hs
    exact Signature.proper_of_compile hcompile
  have hroom : (Engine.openStream ⟨P, window⟩).window.toNat + 1 < offsetBound := by
    show (if window ≤ 1 then 1 else window).toNat + 1 < offsetBound
    split_ifs
    · decide
    · exact hw
  have hle : before.flatten.length ≤ (before.flatten ++ chunk).length :=
    (List.prefix_append before.flatten chunk).length_le
  obtain ⟨s, log, hbefore, hs⟩ := Keeps.scanAll hp hroom (fun {n sig} hn => hfew n sig hn) before
    (keeps_openStream ⟨P, window⟩ (before ++ [chunk])) (Nat.lt_of_le_of_lt hle hlen)
  obtain ⟨s', found, hscan, _, hs'⟩ := Keeps.scan hp hroom (fun {n sig} hn => hfew n sig hn) hs hlen
  have hsignatures : s.engine.signatures = P := by rw [hs.reads.engine]
  have hfeed := hs.feed hp hscan
  have hinvariant := hs'.invariant
  refine ⟨s.withEngine ⟨P, c.streamWindow⟩, log, s'.withEngine ⟨P, c.streamWindow⟩, found,
    ?_, ?_, ?_, ?_, fun n sig hn => ?_⟩
  · have hover := scanAll_withEngine (e := ⟨P, c.streamWindow⟩)
      (s := Engine.openStream ⟨P, window⟩) before rfl
    rw [hbefore] at hover
    exact hover
  · rw [scan_withEngine hsignatures.symm, hscan]
  · exact ⟨hfeed.within, hfeed.occurs, hfeed.sorted⟩
  · exact ⟨hinvariant.buffer, hinvariant.position, hinvariant.numbers, hinvariant.disjoint,
      hinvariant.counts, hinvariant.single⟩
  · obtain ⟨t, _, _, hall⟩ := hs'.follows hn
    rw [show (max window 1).toNat = (Engine.openStream ⟨P, window⟩).window.toNat from rfl, hall,
      reportsOf, List.append_nil]
    rfl

/-- A literal that is cut in two, in a stream that looks back by one byte at the least. -/
theorem scan_sound_letters : ∃ a s log s' found,
    Signature.compile 100000 { regex := "ab" } = .ok a ∧
      (Stream.new ⟨[a], 65536⟩ 0).scanAll [[97]] = (s, .ok log) ∧
      s.scan [98, 120] = (s', .ok found) ∧ Feed ⟨[a], 65536⟩ s [97] [98, 120] found ∧
      Invariant ⟨[a], 65536⟩ 1 s' [97, 98, 120] (log ++ found) := by
  have hok : (Signature.compile 100000 { regex := "ab" }).toBool = true := by decide +kernel
  have hab : Signature.literal? "ab" {} = some [97, 98] := by decide +kernel
  cases ha : Signature.compile 100000 { regex := "ab" } with
  | error fault =>
      rw [ha] at hok
      cases hok
  | ok a =>
      have hla := (Signature.literal_of_compile ha).trans hab
      have hbuild : Engine.build [a] {} = .ok ⟨[a], 65536⟩ := by
        refine Engine.build_ok_iff.mpr ⟨rfl, fun hmax => absurd rfl hmax, ?_⟩
        rw [Engine.setSize_of_literals (by simp [hla])]
        exact Nat.zero_le _
      have hP : ∀ s ∈ [a], ∃ limit p, Signature.compile limit p = .ok s :=
        fun s hs => ⟨_, _, List.mem_singleton.mp hs ▸ ha⟩
      have hfew : ∀ n sig, [a][n]? = some sig →
          (reportsOf (max (0 : UInt64) 1).toNat n sig {} [] ([[97]] ++ [[98, 120]])).length <
            UInt32.size := by
        intro n sig hn
        have hsig : sig.Proper := by
          obtain ⟨limit, p, hcompile⟩ := hP sig (List.mem_of_getElem? hn)
          exact Signature.proper_of_compile hcompile
        have hle := length_reportsOf_le hsig ⟨[a], 0⟩ n ([[97]] ++ [[98, 120]]) {} []
        have hweight : sig.weight ≤ 2 := by
          unfold Signature.weight
          split <;> omega
        have hmul := Nat.mul_le_mul_right ([[97]] ++ [[98, 120]]).flatten.length hweight
        exact Nat.lt_of_le_of_lt (hle.trans hmul) (by decide)
      have hwindow : (0 : UInt64).toNat + 1 < offsetBound := by decide
      have hlength : ([[97]].flatten ++ [98, 120] : Bytes).length < offsetBound := by decide
      obtain ⟨s, log, s', found, hbefore, hscan, hfeed, hinvariant, _⟩ :=
        scan_sound hP hbuild hwindow hlength hfew
      exact ⟨a, s, log, s', found, rfl, hbefore, hscan, hfeed, hinvariant⟩

end Stream
end TrafficRules
