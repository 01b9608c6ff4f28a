import Mathlib.Data.List.Count
import Mathlib.Data.List.Nodup
import TrafficRules.Proofs.Stream.Detection
import TrafficRules.Proofs.Stream.Invariant
import TrafficRules.Proofs.Stream.Literals

/-! # Occurrences in a stream

However data are cut into chunks and however much of them a stream has dropped, it reports of a literal
only what occurs in the data, and it reports an occurrence that no other one overlaps in the chunk in
which this occurrence ends, and nowhere else (`Signature.count_feed`). The literal fits into the
history behind the context, and where the last match has stopped is in front of such an occurrence
(`Signature.Stops`). -/

namespace TrafficRules

/-- The input spells the literal between two positions, and nowhere else in a place that overlaps this
one. -/
structure Literal.Isolated (caseless : Bool) (literal input : Bytes) (start stop : Nat) : Prop where
  spelled : Literal.Spelled caseless literal input start stop
  apart : ∀ i j, Literal.Spelled caseless literal input i j → i ≠ start → j ≤ start ∨ stop ≤ i

namespace Signature

variable {s : Signature} {bytes before chunk data : Bytes} {window last i j : Nat}

/-- The last match has stopped at `last`, or there has been none. -/
def Stops (s : Signature) (bytes data : Bytes) (last : Nat) : Prop :=
  last = 0 ∨ ∃ i, Literal.Spelled s.flags.caseless bytes data i last

variable (hlit : s.literal = some bytes) (hne : bytes ≠ [])
include hlit hne

theorem Stops.feed (h : s.Stops bytes before last) (window : Nat) (chunk : Bytes) :
    s.Stops bytes (before ++ chunk)
      (Regex.Span.lastStop last (s.feed window last before chunk)) := by
  unfold Regex.Span.lastStop
  cases hfeed : (s.feed window last before chunk).getLast? with
  | none => exact h.imp_right fun ⟨i, hi⟩ => ⟨i, hi.extend (List.prefix_append _ _) hne⟩
  | some span =>
      exact Or.inr ⟨span.start, (mem_feed hlit hne (List.mem_of_getLast? hfeed)).1⟩

/-- A chunk reports an occurrence that no other one overlaps if it ends in the chunk. -/
theorem mem_feed_iff (hlen : bytes.length ≤ window) (hlast : s.Stops bytes before last)
    (hle : before ++ chunk <+: data) (h : Literal.Isolated s.flags.caseless bytes data i j) :
    ⟨i, j⟩ ∈ s.feed window last before chunk ↔
      before.length < j ∧ j ≤ (before ++ chunk).length := by
  constructor
  · intro hmem
    obtain ⟨hspelled, hends, _⟩ := mem_feed hlit hne hmem
    exact ⟨hends, hspelled.stop_le hne⟩
  · rintro ⟨hends, hstop⟩
    have hlength := h.spelled.length
    have hspelled : Literal.Spelled s.flags.caseless bytes (before ++ chunk) i j := by
      rw [List.prefix_iff_eq_take.mp hle]
      exact h.spelled.of_take hstop
    have hresume : Stream.resumption window before ≤ i := by
      unfold Stream.resumption
      split <;> omega
    have hbehind : last ≤ i := by
      rcases hlast with rfl | ⟨first, hfirst⟩
      · exact Nat.zero_le i
      · -- the last match ended before this occurrence did, so it is another one
        have := hfirst.length
        have := hfirst.stop_le hne
        have hwhole := hfirst.extend ((List.prefix_append before chunk).trans hle) hne
        rcases h.apart first last hwhole (by omega) with hapart | hapart <;> omega
    refine List.mem_filter.mpr ⟨mem_spans_of_isolated hlit hne hresume hspelled ?_, ?_⟩
    · intro i' j' hother hlt
      have := hother.length
      rcases h.apart i' j' (hother.extend hle hne) (by omega) with hapart | hapart <;> omega
    · simp only [Bool.and_eq_true, decide_eq_true_eq]
      exact ⟨hends, hbehind⟩

theorem count_feed (hlen : bytes.length ≤ window) (hlast : s.Stops bytes before last)
    (hle : before ++ chunk <+: data) (h : Literal.Isolated s.flags.caseless bytes data i j) :
    (s.feed window last before chunk).count ⟨i, j⟩ =
      if before.length < j ∧ j ≤ (before ++ chunk).length then 1 else 0 := by
  have hnodup : (s.feed window last before chunk).Nodup :=
    Regex.Span.nodup_of_precedes (precedes_feed hlit hne window last before chunk)
      fun span hspan => (mem_feed hlit hne hspan).1.lt hne
  have hiff := mem_feed_iff hlit hne hlen hlast hle h
  split_ifs with hends
  · exact List.count_eq_one_of_mem hnodup (hiff.mpr hends)
  · exact List.count_eq_zero.mpr fun hmem => hends (hiff.mp hmem)

/-- Each of the feeds is that of its own chunk behind the chunks before it. -/
theorem feeds_getElem? : ∀ (chunks : List Bytes) {before : Bytes} {last k : Nat}
    {spans : List Regex.Span}, s.Stops bytes before last →
    (s.feeds window last before chunks)[k]? = some spans →
    ∃ chunk last', chunks[k]? = some chunk ∧
      s.Stops bytes (before ++ (chunks.take k).flatten) last' ∧
      spans = s.feed window last' (before ++ (chunks.take k).flatten) chunk
  | [], _, _, _, _, _, hk => by cases hk
  | chunk :: rest, before, last, 0, spans, hlast, hk => by
      refine ⟨chunk, last, rfl, ?_, ?_⟩
      · rwa [List.take_zero, List.flatten_nil, List.append_nil]
      · rw [List.take_zero, List.flatten_nil, List.append_nil]
        exact (Option.some.inj hk).symm
  | chunk :: rest, before, last, k + 1, spans, hlast, hk => by
      obtain ⟨next, last', hnext, hstops, hspans⟩ :=
        feeds_getElem? rest (hlast.feed hlit hne window chunk) hk
      rw [List.append_assoc, ← List.flatten_cons, ← List.take_succ_cons] at hstops hspans
      exact ⟨next, last', hnext, hstops, hspans⟩

omit hlit hne in
theorem feeds_take (s : Signature) (window : Nat) : ∀ (chunks : List Bytes) (last : Nat)
    (data : Bytes) (k : Nat),
    (s.feeds window last data chunks).take k = s.feeds window last data (chunks.take k)
  | [], _, _, k => by rw [feeds, List.take_nil, List.take_nil, feeds]
  | _ :: _, _, _, 0 => rfl
  | chunk :: rest, last, data, k + 1 => by
      rw [feeds, List.take_succ_cons, List.take_succ_cons, feeds, feeds_take s window rest]

/-- As long as nothing has been dropped in front of the last chunk, what is reported is what one search
of all data finds. -/
theorem flatten_feeds {chunks : List Bytes} {k : Nat}
    (hshort : (chunks.take k).flatten.length ≤ window + 1) :
    (s.feeds window 0 [] (chunks.take (k + 1))).flatten =
      s.spans (chunks.take (k + 1)).flatten 0 := by
  refine flatten_feeds_of_resumes hlit hne fun front chunk back hsplit => ?_
  refine resumes_of_short s (Nat.le_trans ?_ hshort) chunk
  have hlength := congrArg List.length hsplit
  rw [List.length_take, List.length_append, List.length_cons] at hlength
  have hfront : front <+: chunks.take k := by
    have hle : front <+: chunks.take (k + 1) := ⟨chunk :: back, hsplit.symm⟩
    rw [List.prefix_take_iff] at hle ⊢
    exact ⟨hle.1, by omega⟩
  obtain ⟨rest, hrest⟩ := hfront
  rw [← hrest, List.flatten_append, List.length_append]
  omega

end Signature

namespace Stream

variable {s : Stream} {e : Engine}

/-- Looking back by a window is up to the stream. -/
theorem scanAll_new (P : List Signature) (w window : UInt64) (chunks : List Bytes) :
    (Stream.new ⟨P, w⟩ window).scanAll chunks =
      (((Engine.openStream ⟨P, window⟩).scanAll chunks).1.withEngine ⟨P, w⟩,
        ((Engine.openStream ⟨P, window⟩).scanAll chunks).2) :=
  scanAll_withEngine (e := ⟨P, w⟩) (s := Engine.openStream ⟨P, window⟩) chunks rfl

theorem reports_withEngine : ∀ (chunks : List Bytes) {s : Stream},
    e.signatures = s.engine.signatures → (s.withEngine e).reports chunks = s.reports chunks
  | [], _, _ => rfl
  | chunk :: rest, s, h => by
      have h₁ : e.signatures = (s.scan chunk).1.engine.signatures := by
        rw [s.engine_scan chunk]
        exact h
      rw [reports, reports, scan_withEngine h]
      generalize s.scan chunk = scanned at h₁ ⊢
      obtain ⟨s₁, r⟩ := scanned
      cases r with
      | error fault => rfl
      | ok found =>
          dsimp only
          rw [reports_withEngine rest h₁]

variable {n k : Nat} {sig : Signature} {bytes : Bytes} {chunks : List Bytes} {found : List Match}

/-- A window that is not empty is taken as it is. -/
theorem window_of_pos {window : UInt64} (h : 0 < window.toNat) : max window 1 = window := by
  show (if window ≤ 1 then 1 else window) = window
  split
  · rename_i hle
    have hone : window.toNat ≤ 1 := hle
    exact UInt64.toNat_inj.mp (show 1 = window.toNat by omega)
  · rfl

theorem flatten_take_succ {chunk : Bytes} (h : chunks[k]? = some chunk) :
    (chunks.take (k + 1)).flatten = (chunks.take k).flatten ++ chunk := by
  rw [List.take_add_one, h, List.flatten_append]
  simp

section
variable (hn : e.signatures[n]? = some sig) (hlit : sig.literal = some bytes) (hne : bytes ≠ [])
  (hmulti : sig.flags.singleMatch = false)
include hn hlit hne hmulti

/-- What a chunk reports of a literal is a feed behind the chunks before. -/
theorem report_eq_feed (hk : (e.openStream.reports chunks)[k]? = some found) :
    ∃ chunk last, chunks[k]? = some chunk ∧ sig.Stops bytes (chunks.take k).flatten last ∧
      found.filter (fun m => m.number = n) =
        (sig.feed e.openStream.window.toNat last (chunks.take k).flatten chunk).map
          (Engine.matchAt n) := by
  have htally := tally_openStream (List.getElem?_eq_some_iff.mp hn).1
  obtain ⟨more, hmore⟩ := reports_feeds hn hlit hne hmulti chunks (reads_openStream e) htally
  have hfeed := congrArg (fun feeds => feeds[k]?) hmore
  have hlt : k < (e.openStream.reports chunks).length := (List.getElem?_eq_some_iff.mp hk).1
  dsimp only at hfeed
  rw [List.getElem?_append_left (by rwa [List.length_map]), List.getElem?_map, hk, Option.map_some,
    List.getElem?_map] at hfeed
  obtain ⟨spans, hspans, hfound⟩ := Option.map_eq_some_iff.mp hfeed.symm
  obtain ⟨chunk, last, hchunk, hstops, rfl⟩ :=
    Signature.feeds_getElem? hlit hne chunks (Or.inl rfl) hspans
  rw [List.nil_append] at hstops hfound
  exact ⟨chunk, last, hchunk, hstops, hfound.symm⟩

/-- What the first chunks report of a literal are their feeds. -/
theorem filter_flatten_reports (hk : k < (e.openStream.reports chunks).length) :
    ((e.openStream.reports chunks).take (k + 1)).flatten.filter (fun m => m.number = n) =
      (sig.feeds e.openStream.window.toNat 0 [] (chunks.take (k + 1))).flatten.map
        (Engine.matchAt n) := by
  have htally := tally_openStream (List.getElem?_eq_some_iff.mp hn).1
  obtain ⟨more, hmore⟩ := reports_feeds hn hlit hne hmulti chunks (reads_openStream e) htally
  have htake := congrArg (List.take (k + 1)) hmore
  rw [List.take_append_of_le_length (by rwa [List.length_map]), ← List.map_take, ← List.map_take,
    Signature.feeds_take] at htake
  rw [List.filter_flatten, htake, List.map_flatten]

end

/-- **Occurrences of literals.** Let an engine be built for compiled signatures and let a stream of it look
back at least as far as a literal that may be reported again. The chunks that it is fed are shorter than
2³² bytes. They are all taken, unless an expression among the other signatures has come to the greatest
count. Each chunk that is taken

* reports of the literal nothing but occurrences in the data;
* reports an occurrence that no other one overlaps once if it ends in the chunk, and otherwise not;
* brings what has been reported to just what a scan of the data finds, if nothing had been dropped in
  front of the chunk. -/
theorem reports_occurrences {P : List Signature} {c : EngineConfig}
    (hP : ∀ s ∈ P, ∃ limit p, Signature.compile limit p = .ok s) (he : Engine.build P c = .ok e)
    (hn : P[n]? = some sig) (hlit : sig.literal = some bytes)
    (hmulti : sig.flags.singleMatch = false) {window : UInt64}
    (hlen : bytes.length ≤ window.toNat) (hw : window.toNat + 1 < offsetBound)
    {chunks : List Bytes} (hfew : chunks.flatten.length < UInt32.size) :
    let s := Stream.new e window
    let data := chunks.flatten
    ((s.reports chunks).length = chunks.length ∨
      (∃ fault, (s.scanAll chunks).2 = .error fault) ∧ ∃ k other, P[k]? = some other ∧
        other.literal = none ∧ (s.scanAll chunks).1.counts.get? k = some 0xFFFFFFFF ∧
        UInt32.size ≤ 2 * data.length) ∧
    ∀ k found, (s.reports chunks)[k]? = some found →
      let before := (chunks.take k).flatten
      let upto := (chunks.take (k + 1)).flatten
      (∀ m ∈ found, m.number = n →
        Literal.Spelled sig.flags.caseless bytes data m.start m.stop) ∧
      (∀ i j, Literal.Isolated sig.flags.caseless bytes data i j →
        found.count ⟨n, i, j⟩ = if before.length < j ∧ j ≤ upto.length then 1 else 0) ∧
      (before.length ≤ window.toNat + 1 →
        ((s.reports chunks).take (k + 1)).flatten.filter (fun m => m.number = n) =
          (e.scan upto).filter fun m => m.number = n) := by
  obtain ⟨rfl, _⟩ := Engine.build_ok_iff.mp he
  intro s data
  -- the stream is that of an engine with this window
  let d : Engine := ⟨P, window⟩
  have hp : d.Proper := Engine.proper_of_compiled hP
  have hne : bytes ≠ [] := fun hnil => hp.of_getElem? hn (hnil ▸ hlit)
  have hwindow : d.openStream.window = window :=
    window_of_pos (Nat.lt_of_lt_of_le (List.length_pos_iff.mpr hne) hlen)
  have hreports : s.reports chunks = d.openStream.reports chunks :=
    reports_withEngine (e := ⟨P, c.streamWindow⟩) (s := d.openStream) chunks rfl
  have hscan := scanAll_new P c.streamWindow window chunks
  rw [hreports, hscan]
  refine ⟨?_, fun k found hk => ?_⟩
  · rcases feed_cases hp (hwindow ▸ hw) hfew with ⟨⟨found, hok⟩, _⟩ | ⟨hfault, hfull⟩
    · exact Or.inl (reports_of_scanAll chunks hok).1
    · exact Or.inr ⟨hfault, hfull⟩
  · obtain ⟨chunk, last, hchunk, hstops, hfound⟩ := report_eq_feed hn hlit hne hmulti hk
    have hupto := flatten_take_succ hchunk
    have hle : (chunks.take k).flatten ++ chunk <+: data := by
      rw [← hupto]
      refine ⟨(chunks.drop (k + 1)).flatten, ?_⟩
      rw [← List.flatten_append, List.take_append_drop]
    rw [hwindow] at hfound
    refine ⟨fun m hm hnumber => ?_, fun i j hisolated => ?_, fun hshort => ?_⟩
    · have hmem : m ∈ found.filter fun m => m.number = n :=
        List.mem_filter.mpr ⟨hm, decide_eq_true hnumber⟩
      rw [hfound] at hmem
      obtain ⟨span, hspan, rfl⟩ := List.mem_map.mp hmem
      exact (Signature.mem_feed hlit hne hspan).1.extend hle hne
    · have hcount := Signature.count_feed hlit hne hlen hstops hle hisolated
      have hinjective : Function.Injective (Engine.matchAt n) := by
        intro a b hab
        cases a
        cases b
        cases hab
        rfl
      rw [hupto, ← hcount, ← List.count_filter (p := fun m => m.number = n) (by simp), hfound]
      exact List.count_map_of_injective _ _ hinjective (⟨i, j⟩ : Regex.Span)
    · have hlt : k < (d.openStream.reports chunks).length := (List.getElem?_eq_some_iff.mp hk).1
      rw [filter_flatten_reports hn hlit hne hmulti hlt, hwindow,
        Signature.flatten_feeds hlit hne hshort]
      exact (Engine.scanFrom_filter hn (hp.of_getElem? hn) (Nat.zero_le _)).symm

/-- Two letters in two chunks are reported in the second one. -/
theorem reports_occurrences_letters : ∃ a found,
    Signature.compile 100000 { regex := "ab" } = .ok a ∧
      ((Stream.new ⟨[a], 65536⟩ 2).reports [[97], [98]])[1]? = some found ∧
      found.count ⟨0, 0, 2⟩ = 1 := by
  have hok : (Signature.compile 100000 { regex := "ab" }).toBool = true := by decide +kernel
  have hab : Signature.literal? "ab" {} = some [97, 98] := by decide +kernel
  cases ha : Signature.compile 100000 { regex := "ab" } with
  | error fault =>
      rw [ha] at hok
      cases hok
  | ok a =>
      have hla := (Signature.literal_of_compile ha).trans hab
      have hbuild : Engine.build [a] {} = .ok ⟨[a], 65536⟩ :=
        Engine.build_of_literals (by simp [hla]) rfl
      have hP : ∀ s ∈ [a], ∃ limit p, Signature.compile limit p = .ok s :=
        fun s hs => ⟨_, _, List.mem_singleton.mp hs ▸ ha⟩
      have hmulti : a.flags.singleMatch = false := by rw [Signature.flags_of_compile ha]
      obtain ⟨htaken, hreports⟩ := reports_occurrences (n := 0) hP hbuild rfl hla hmulti
        (show [97, 98].length ≤ (2 : UInt64).toNat by decide) (by decide)
        (show ([[97], [98]] : List Bytes).flatten.length < UInt32.size by decide)
      have hlength := htaken.resolve_right fun ⟨_, _, _, _, _, _, hfull⟩ =>
        absurd hfull (by decide)
      have hlt : 1 < ((Stream.new ⟨[a], 65536⟩ 2).reports [[97], [98]]).length := by
        rw [hlength]
        decide
      have hisolated : Literal.Isolated a.flags.caseless [97, 98] [97, 98] 0 2 := by
        refine ⟨⟨[97, 98], [], rfl, rfl, rfl⟩, fun i j hspelled hi => ?_⟩
        have hstop : j ≤ 2 := hspelled.stop_le (List.cons_ne_nil _ _)
        have hstart : j = i + 2 := hspelled.length
        omega
      obtain ⟨_, hcount, _⟩ := hreports 1 _ (List.getElem?_eq_getElem hlt)
      exact ⟨a, _, rfl, List.getElem?_eq_getElem hlt, hcount 0 2 hisolated⟩

end Stream
end TrafficRules
