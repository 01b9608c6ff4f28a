import TrafficRules.Proofs.Engine.Matching
import TrafficRules.Proofs.Stream.Invariant
import TrafficRules.Settings

/-! # Streams under accepted settings

Settings are accepted if their times and sizes are positive and a few texts are in order
(`Settings.validate_ok_iff`). So a stream under accepted settings looks back exactly as far as they say.

Whatever the signatures are, and however fewer than 2^31 bytes come in chunks, all that such a stream
computes stays in its range (`Stream.InRange`), but for one number: it keeps one byte more than it looks
back, and for the greatest of all windows there is no such number. Accepted settings may have it, and then
no chunk is taken (`Stream.accepted_feeds`). -/

namespace TrafficRules

/-! ### Accepted settings -/

/-- Which settings are accepted. Numbers have no upper bound. -/
theorem Settings.validate_ok_iff {isDirectory : String → Bool} {s : Settings} :
    s.validate isDirectory = .ok () ↔ s.storage.writeTimeout ≠ 0 ∧
      (∀ path, s.storage.path = some path → isDirectory path = false) ∧
      s.engine.streamWindow ≠ 0 ∧ (s.engine.patternSizeLimit ≠ 0 ∧ s.engine.setSizeLimit ≠ 0) ∧
      s.flag.regex ≠ some "" ∧ s.logging.format ∈ logFormats := by
  have hformat : (if s.logging.format ∉ logFormats then
      throw (BadSetting.logFormat s.logging.format) else pure () : Except BadSetting Unit) = .ok () ↔
        s.logging.format ∈ logFormats := by
    by_cases h : s.logging.format ∈ logFormats
    · rw [if_neg (not_not_intro h)]
      exact ⟨fun _ => h, fun _ => rfl⟩
    · rw [if_pos h]
      exact ⟨fun hthrow => (by cases hthrow), fun hmem => absurd hmem h⟩
  unfold validate
  simp only [guard_ok_iff]
  cases hpath : s.storage.path with
  | none => simp only [guard_ok_iff, hformat, not_or, ne_eq, reduceCtorEq, false_imp_iff,
      implies_true, true_and]
  | some path => simp only [guard_ok_iff, hformat, not_or, ne_eq, Bool.not_eq_true, Option.some.injEq,
      forall_eq']

namespace Stream

variable {e : Engine} {s s' : Stream} {data chunk : Bytes} {found log : List Match}

/-! ### Where a feed is given up -/

theorem note_fails (s : Stream) (previous : Nat) (m : Match) :
    FailsWith (· = Fault.outOfRange) (s.note previous m).2 := by
  unfold note
  split
  · exact .ok none
  · split
    · exact .error rfl
    · dsimp only
      split
      · exact .error rfl
      · split
        · exact .ok none
        · split
          · exact .ok none
          · unfold Counts.increment
            split_ifs
            · exact .error rfl
            · exact .ok _

/-- No match is given up but for a number out of range. -/
theorem noteAll_fails (previous : Nat) : ∀ (ms : List Match) (s : Stream),
    FailsWith (· = Fault.outOfRange) (s.noteAll previous ms).2
  | [], _ => .ok []
  | m :: rest, s => by
      have hnote := note_fails s previous m
      rw [noteAll]
      generalize s.note previous m = noted at hnote ⊢
      obtain ⟨s₁, r⟩ := noted
      cases r with
      | error fault => exact .error (hnote fault rfl)
      | ok r =>
          cases r with
          | none => exact noteAll_fails previous rest s₁
          | some reported => exact (noteAll_fails previous rest s₁).map (reported :: ·)

/-- For the greatest window there is no number of bytes to keep. -/
theorem scan_of_greatest_window (h : s.window.toNat + 1 = offsetBound) (chunk : Bytes) :
    (s.scan chunk).2 = .error .outOfRange := by
  have hfails := noteAll_fails s.buffer.length (s.engine.scanFrom (s.buffer ++ chunk) s.context)
    { s with buffer := s.buffer ++ chunk }
  obtain ⟨tracks, counts, hnoted⟩ := noteAll_fst s.buffer.length
    (s.engine.scanFrom (s.buffer ++ chunk) s.context) { s with buffer := s.buffer ++ chunk }
  unfold scan
  dsimp only
  rw [← context]
  generalize Stream.noteAll _ s.buffer.length _ = noted at hfails hnoted ⊢
  obtain ⟨s₁, r⟩ := noted
  cases r with
  | error fault => exact congrArg Except.error (hfails fault rfl)
  | ok found =>
      dsimp only at hnoted
      have htrim : s₁.trim = .error .outOfRange := by
        unfold trim
        rw [hnoted, if_pos (Nat.le_of_eq h.symm)]
      dsimp only
      rw [htrim]

theorem scanAll_of_greatest_window (h : s.window.toNat + 1 = offsetBound) (chunk : Bytes)
    (rest : List Bytes) : (s.scanAll (chunk :: rest)).2 = .error .outOfRange := by
  have hscan := scan_of_greatest_window h chunk
  rw [scanAll]
  generalize s.scan chunk = scanned at hscan ⊢
  obtain ⟨s₁, r⟩ := scanned
  dsimp only at hscan
  rw [hscan]

/-! ### What a feed computes -/

/-- A feed that takes a stream from `s` to `s'` and reports `found` has computed nothing out of range. -/
structure InRange (s s' : Stream) (chunk : Bytes) (found : List Match) : Prop where
  /-- The search starts in the history and the chunk. -/
  context : s.context ≤ (s.buffer ++ chunk).length
  /-- What is looked for stands under numbers of the engine. -/
  literals : ∀ caseless, ∀ l ∈ s.engine.literals caseless, l.number < s.engine.size
  expressions : ∀ x ∈ s.engine.expressions, x.1 < s.engine.size
  /-- What is found lies in what has been searched, under the number of a track. -/
  places : ∀ m ∈ s.engine.scanFrom (s.buffer ++ chunk) s.context, m.number < s.tracks.length ∧
    s.context ≤ m.start ∧ m.start ≤ m.stop ∧ m.stop ≤ (s.buffer ++ chunk).length
  /-- Offsets have room, up to the one behind the end. -/
  offsets : s.base + (s.buffer ++ chunk).length + 1 < offsetBound
  /-- Counts grow by what is reported. -/
  counts : ∀ n < s.engine.size, (s'.counts.of n).toNat =
    (s.counts.of n).toNat + (found.filter fun m => m.number = n).length
  /-- There is a number of bytes to keep. -/
  window : s.window.toNat + 1 < offsetBound
  /-- What is dropped is there, and its bytes are counted. -/
  dropped : ∃ dropped, s.buffer ++ chunk = dropped ++ s'.buffer ∧
    s'.base = s.base + dropped.length ∧ s'.buffer.length ≤ s.window.toNat + 1

theorem exists_dropped (h : s.scan chunk = (s', .ok found)) :
    ∃ dropped, s.buffer ++ chunk = dropped ++ s'.buffer ∧ s'.base = s.base + dropped.length ∧
      s'.buffer.length ≤ s.window.toNat + 1 := by
  obtain ⟨s₁, hnoted, htrim⟩ := scan_eq_ok h
  obtain ⟨tracks, counts, hfst⟩ := noteAll_fst s.buffer.length
    (s.engine.scanFrom (s.buffer ++ chunk) s.context) { s with buffer := s.buffer ++ chunk }
  rw [hnoted] at hfst
  dsimp only at hfst
  obtain rfl := trim_eq_ok htrim
  rw [hfst]
  dsimp only
  refine ⟨_, (List.take_append_drop _ _).symm, ?_, ?_⟩
  · rw [List.length_take]
    omega
  · rw [List.length_drop]
    omega

theorem Keeps.inRange {all rest : List Bytes} (hp : e.Proper)
    (hw : e.openStream.window.toNat + 1 < offsetBound)
    (h : Keeps e all s data log (chunk :: rest)) (h' : Keeps e all s' (data ++ chunk) (log ++ found) rest)
    (hscan : s.scan chunk = (s', .ok found)) (hlen : (data ++ chunk).length + 1 < offsetBound) :
    s.InRange s' chunk found := by
  have hr := h.reads
  obtain rfl := hr.engine
  refine ⟨hr.context_le chunk, fun _ _ => Engine.number_lt_of_mem_literals,
    fun _ => Engine.number_lt_of_mem_expressions, fun m hm => ?_, ?_, fun n hn => ?_, ?_,
    exists_dropped hscan⟩
  · obtain ⟨hstart, sig, hn, hspan⟩ := Engine.exists_span_of_mem_scanFrom hp hm
    have hbounds := (Signature.spans_sorted (hp.of_getElem? hn) hstart).1 _ hspan
    refine ⟨?_, hbounds.first_le, hbounds.start_le, hbounds.stop_le⟩
    rw [hr.tracks]
    exact Engine.number_lt_of_mem_scanFrom hm
  · have := hr.length
    rw [List.length_append] at hlen ⊢
    omega
  · rw [h'.invariant.counts n hn, h.invariant.counts n hn, List.filter_append, List.length_append]
  · rw [hr.window]
    exact hw

/-- The stream of an engine looks back as far as the engine says. -/
theorem window_openStream (h : e.window ≠ 0) : e.openStream.window = e.window := by
  show (if e.window ≤ 1 then 1 else e.window) = e.window
  split_ifs with hle
  · rw [UInt64.le_iff_toNat_le] at hle
    rw [ne_eq, ← UInt64.toNat_inj] at h
    rw [← UInt64.toNat_inj]
    have hone : (1 : UInt64).toNat = 1 := rfl
    have hzero : (0 : UInt64).toNat = 0 := rfl
    omega
  · rfl

theorem room_of_ne_greatest {window : UInt64} (h : window ≠ 0xFFFFFFFFFFFFFFFF) :
    window.toNat + 1 < offsetBound := by
  have hlt : window.toNat < offsetBound := window.toNat_lt
  rw [ne_eq, ← UInt64.toNat_inj] at h
  have hgreatest : (0xFFFFFFFFFFFFFFFF : UInt64).toNat + 1 = offsetBound := rfl
  omega

/-- Too few bytes for any count to overflow. -/
theorem length_reportsOf_lt {sig : Signature} (hsig : sig.Proper) (e : Engine) (n : Nat)
    {chunks : List Bytes} (hlen : chunks.flatten.length < 2 ^ 31) :
    (reportsOf e.openStream.window.toNat n sig {} [] chunks).length < UInt32.size := by
  have hle := length_reportsOf_le hsig e n chunks {} []
  have hweight : sig.weight ≤ 2 := by
    unfold Signature.weight
    split <;> omega
  have hmul := Nat.mul_le_mul_right chunks.flatten.length hweight
  have hsize : UInt32.size = 2 * 2 ^ 31 := rfl
  omega

/-- **Feeds under accepted settings.** Let an engine be built for compiled signatures as accepted settings
say, and let a stream of it be fed fewer than 2^31 bytes in any chunks. If the window is any but the
greatest, each chunk is taken with all numbers in their ranges, and the stream looks back as far as the
settings say. The greatest window is accepted too, and then no feed goes through. -/
theorem accepted_feeds {isDirectory : String → Bool} {settings : Settings}
    (hs : settings.validate isDirectory = .ok ()) {P : List Signature}
    (hP : ∀ s ∈ P, ∃ limit p, Signature.compile limit p = .ok s)
    (he : Engine.build P settings.engine = .ok e) {before : List Bytes}
    (hlen : (before.flatten ++ chunk).length < 2 ^ 31) :
    (settings.engine.streamWindow ≠ 0xFFFFFFFFFFFFFFFF → ∃ s log s' found,
      e.openStream.scanAll before = (s, .ok log) ∧ s.scan chunk = (s', .ok found) ∧
      s.window = settings.engine.streamWindow ∧ s.InRange s' chunk found) ∧
    (settings.engine.streamWindow = 0xFFFFFFFFFFFFFFFF →
      (e.openStream.scanAll (before ++ [chunk])).2 = .error .outOfRange) := by
  obtain ⟨rfl, _⟩ := Engine.build_ok_iff.mp he
  have hp := Engine.proper_of_compiled (e := ⟨P, settings.engine.streamWindow⟩) hP
  have hwindow := window_openStream (e := ⟨P, settings.engine.streamWindow⟩)
    (Settings.validate_ok_iff.mp hs).2.2.1
  dsimp only at hwindow
  refine ⟨fun hne => ?_, fun hgreatest => ?_⟩
  · have hroom := room_of_ne_greatest hne
    rw [← hwindow] at hroom
    have hflatten : (before ++ [chunk]).flatten.length < 2 ^ 31 := by
      rwa [List.flatten_append, List.flatten_singleton]
    have hfew : ∀ {n sig}, P[n]? = some sig →
        (reportsOf (Engine.openStream ⟨P, settings.engine.streamWindow⟩).window.toNat n sig {} []
          (before ++ [chunk])).length < UInt32.size :=
      fun hn => length_reportsOf_lt (hp.of_getElem? hn) _ _ hflatten
    have hbound : 2 ^ 31 + 1 < offsetBound := by decide
    have hle : before.flatten.length ≤ (before.flatten ++ chunk).length :=
      (List.prefix_append before.flatten chunk).length_le
    obtain ⟨s, log, hbefore, hkept⟩ := Keeps.scanAll hp hroom hfew before
      (keeps_openStream ⟨P, settings.engine.streamWindow⟩ (before ++ [chunk]))
      (show before.flatten.length < offsetBound by omega)
    obtain ⟨s', found, hscan, _, hkept'⟩ := Keeps.scan hp hroom hfew hkept
      (show (before.flatten ++ chunk).length < offsetBound by omega)
    have hrange : s.InRange s' chunk found := hkept.inRange hp hroom hkept' hscan
      (show (before.flatten ++ chunk).length + 1 < offsetBound by omega)
    exact ⟨s, log, s', found, hbefore, hscan, hkept.reads.window.trans hwindow, hrange⟩
  · obtain ⟨first, rest, hchunks⟩ := List.exists_cons_of_ne_nil
      (List.append_ne_nil_of_right_ne_nil before (List.cons_ne_nil chunk []))
    rw [hchunks]
    refine scanAll_of_greatest_window ?_ first rest
    rw [hwindow, hgreatest]
    rfl

/-- A literal that is cut in two, under settings that look back by one byte. -/
theorem accepted_feeds_letters : ∃ a s log s' found,
    Settings.validate (fun _ => false) { engine := { streamWindow := 1 } } = .ok () ∧
      Signature.compile Signature.defaultSizeLimit { regex := "ab" } = .ok a ∧
      Engine.build [a] { streamWindow := 1 } = .ok ⟨[a], 1⟩ ∧
      (Engine.openStream ⟨[a], 1⟩).scanAll [[97]] = (s, .ok log) ∧ s.scan [98] = (s', .ok found) ∧
      s.window = 1 ∧ s.InRange s' [98] found := by
  have hs : Settings.validate (fun _ => false) { engine := { streamWindow := 1 } } = .ok () := rfl
  obtain ⟨a, ha⟩ : ∃ a, Signature.compile Signature.defaultSizeLimit { regex := "ab" } = .ok a :=
    isOk_iff.mp (by decide +kernel)
  have hla : a.literal = some [97, 98] := (Signature.literal_of_compile ha).trans (by decide +kernel)
  have hbuild : Engine.build [a] { streamWindow := 1 } = .ok ⟨[a], 1⟩ :=
    Engine.build_of_literals (by simp [hla]) rfl
  have hP : ∀ s ∈ [a], ∃ limit p, Signature.compile limit p = .ok s :=
    fun s hs => ⟨_, _, List.mem_singleton.mp hs ▸ ha⟩
  have hlen : ([[97]].flatten ++ [98] : Bytes).length < 2 ^ 31 := by decide
  obtain ⟨s, log, s', found, hbefore, hscan, hwindow, hrange⟩ :=
    (accepted_feeds hs hP hbuild hlen).1 (by decide)
  exact ⟨a, s, log, s', found, hs, ha, hbuild, hbefore, hscan, hwindow, hrange⟩

/-- The settings that are usual but for the greatest window: a stream is opened, and its first byte is
not taken. -/
theorem greatest_window_refuses : ∃ (settings : Settings) (a : Signature) (e : Engine),
    settings.engine.streamWindow = 0xFFFFFFFFFFFFFFFF ∧
      settings.validate (fun _ => false) = .ok () ∧
      Signature.compile settings.engine.patternSizeLimit.toNat { regex := "a" } = .ok a ∧
      Engine.build [a] settings.engine = .ok e ∧
      e.openStream.window.toNat + 1 = offsetBound ∧
      (e.openStream.scan [97]).2 = .error .outOfRange := by
  obtain ⟨a, ha⟩ : ∃ a, Signature.compile Signature.defaultSizeLimit { regex := "a" } = .ok a :=
    isOk_iff.mp (by decide +kernel)
  have hla : a.literal = some [97] := (Signature.literal_of_compile ha).trans (by decide +kernel)
  have hbuild : Engine.build [a] { streamWindow := 0xFFFFFFFFFFFFFFFF } =
      .ok ⟨[a], 0xFFFFFFFFFFFFFFFF⟩ := Engine.build_of_literals (by simp [hla]) rfl
  exact ⟨{ engine := { streamWindow := 0xFFFFFFFFFFFFFFFF } }, a, _, rfl, rfl, ha, hbuild, rfl,
    scan_of_greatest_window rfl [97]⟩

end Stream
end TrafficRules
