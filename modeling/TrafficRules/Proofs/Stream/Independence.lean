import TrafficRules.Proofs.Engine.Build
import TrafficRules.Proofs.Signature
import TrafficRules.Proofs.Stream.History

/-! # Signatures do not influence each other

Let two streams of different engines look equally far back and be fed the same chunks. A signature that
both engines have, under whatever numbers, keeps one track and one count in both streams
(`Stream.Agrees`): what a chunk reports of it is given by its own track, the data and the window
(`Stream.due_eq_due`), and never by the other signatures. So each chunk that both streams take reports
the same matches of it (`Stream.reports_independent`).

The streams share one more thing with the other signatures: whether a chunk is taken. It is, unless the
count of some signature has reached its greatest value. -/

namespace TrafficRules
namespace Stream

/-- What each of the chunks reports, up to one that fails. -/
def reports (s : Stream) : List Bytes → List (List Match)
  | [] => []
  | chunk :: rest =>
      match s.scan chunk with
      | (_, .error _) => []
      | (s, .ok found) => found :: s.reports rest

/-- The spans of the matches of the signature with a number. -/
def spansOf (n : Nat) (found : List Match) : List Regex.Span :=
  (found.filter fun m => m.number = n).map fun m => ⟨m.start, m.stop⟩

/-- Two streams have been fed the same data and keep the same of one signature each. -/
structure Agrees (s t : Stream) (e e' : Engine) (i j : Nat) (data : Bytes) : Prop where
  left : s.Reads e data
  right : t.Reads e' data
  tally : ∃ u c, s.Tally i u c ∧ t.Tally j u c

variable {s t s' t' : Stream} {e e' : Engine} {i j n : Nat} {sig : Signature} {data chunk : Bytes}
  {found found' : List Match}

/-- All that is reported is what the chunks report one after the other. -/
theorem reports_of_scanAll : ∀ (chunks : List Bytes) {s : Stream} {found : List Match},
    (s.scanAll chunks).2 = .ok found →
      (s.reports chunks).length = chunks.length ∧ (s.reports chunks).flatten = found
  | [], s, found, h => ⟨rfl, Except.ok.inj h⟩
  | chunk :: rest, s, found, h => by
      obtain ⟨s₁, first, later, hscan, hlater, rfl, _⟩ := scanAll_cons_ok h
      obtain ⟨hlength, hflatten⟩ := reports_of_scanAll rest hlater
      rw [reports, hscan]
      dsimp only
      rw [List.length_cons, List.length_cons, List.flatten_cons, hlength, hflatten]
      exact ⟨rfl, rfl⟩

/-- Data and window are all that a stream adds to the track of a signature. -/
theorem due_eq_due (hs : s.Reads e data) (ht : t.Reads e' data)
    (hw : e.openStream.window = e'.openStream.window) (sig : Signature) (u : Track) (chunk : Bytes) :
    s.base = t.base ∧ s.due sig u chunk = t.due sig u chunk := by
  have hbase : s.base = t.base := by rw [hs.base, ht.base, hs.window, ht.window, hw]
  have hbuffer : s.buffer = t.buffer := by rw [hs.buffer, ht.buffer, hbase]
  exact ⟨hbase, by rw [due, due, context, context, hbase, hbuffer]⟩

theorem agrees_openStream (hi : e.signatures[i]? = some sig) (hj : e'.signatures[j]? = some sig) :
    e.openStream.Agrees e'.openStream e e' i j [] :=
  ⟨reads_openStream e, reads_openStream e', {}, 0,
    tally_openStream (List.getElem?_eq_some_iff.mp hi).1,
    tally_openStream (List.getElem?_eq_some_iff.mp hj).1⟩

theorem spansOf_of_filter {base : Nat} {spans : List Regex.Span}
    (h : found.filter (fun m => m.number = n) = spans.map (placed base n)) :
    spansOf n found = spans.map fun span => ⟨span.start + base, span.stop + base⟩ := by
  rw [spansOf, h, List.map_map]
  rfl

section
variable (hi : e.signatures[i]? = some sig) (hj : e'.signatures[j]? = some sig) (hsig : sig.Proper)
  (hw : e.openStream.window = e'.openStream.window)
include hi hj hsig hw

/-- A chunk that both streams take reports the same, and they agree behind it. -/
theorem Agrees.step (h : s.Agrees t e e' i j data) (hs : s.scan chunk = (s', .ok found))
    (ht : t.scan chunk = (t', .ok found')) :
    spansOf i found = spansOf j found' ∧ s'.Agrees t' e e' i j (data ++ chunk) := by
  obtain ⟨hl, hr, u, c, hu, hu'⟩ := h
  have hfed := scan_ok hl hs
  have hfed' := scan_ok hr ht
  obtain ⟨hbase, hdue⟩ := due_eq_due hl hr hw sig u chunk
  refine ⟨?_, hfed.reads, hfed'.reads, _, _, hfed.tally hi hsig hu, ?_⟩
  · rw [spansOf_of_filter (hfed.found hi hsig hu), spansOf_of_filter (hfed'.found hj hsig hu'),
      hbase, hdue]
  · rw [hbase, hdue]
    exact hfed'.tally hj hsig hu'

/-- All chunks that both streams take report the same. -/
theorem Agrees.reports : ∀ (chunks : List Bytes) {s t : Stream} {data : Bytes},
    s.Agrees t e e' i j data →
      ∀ feed ∈ (s.reports chunks).zip (t.reports chunks), spansOf i feed.1 = spansOf j feed.2
  | [], s, t, data, _, feed, hfeed => nomatch hfeed
  | chunk :: rest, s, t, data, h, feed, hfeed => by
      rw [Stream.reports, Stream.reports] at hfeed
      generalize hs : s.scan chunk = scanned at hfeed
      generalize ht : t.scan chunk = scanned' at hfeed
      obtain ⟨s₁, r₁⟩ := scanned
      obtain ⟨t₁, r₁'⟩ := scanned'
      cases r₁ with
      | error fault => cases hfeed
      | ok found =>
          cases r₁' with
          | error fault => cases hfeed
          | ok found' =>
              obtain ⟨hspans, hagrees⟩ := Agrees.step hi hj hsig hw h hs ht
              rcases List.mem_cons.mp hfeed with rfl | hlater
              · exact hspans
              · exact Agrees.reports rest hagrees feed hlater

/-- Behind chunks that both streams have taken they agree. -/
theorem Agrees.scanAll : ∀ (chunks : List Bytes) {s t : Stream} {data : Bytes}
    {found found' : List Match}, s.Agrees t e e' i j data →
      (s.scanAll chunks).2 = .ok found → (t.scanAll chunks).2 = .ok found' →
        (s.scanAll chunks).1.Agrees (t.scanAll chunks).1 e e' i j (data ++ chunks.flatten)
  | [], s, t, data, found, found', h, _, _ => by
      rw [List.flatten_nil, List.append_nil]
      exact h
  | chunk :: rest, s, t, data, found, found', h, hok, hok' => by
      obtain ⟨s₁, first, later, hs, hlater, _, hbehind⟩ := scanAll_cons_ok hok
      obtain ⟨t₁, first', later', ht, hlater', _, hbehind'⟩ := scanAll_cons_ok hok'
      obtain ⟨_, hagrees⟩ := Agrees.step hi hj hsig hw h hs ht
      rw [hbehind, hbehind', List.flatten_cons, ← List.append_assoc]
      exact Agrees.scanAll rest hagrees hlater hlater'

end

/-! ### Two corpora -/

theorem map_eq_map_of_zip {α β γ : Type} {f : α → γ} {g : β → γ} : ∀ {xs : List α} {ys : List β},
    xs.length = ys.length → (∀ z ∈ xs.zip ys, f z.1 = g z.2) → xs.map f = ys.map g
  | [], [], _, _ => rfl
  | x :: xs, y :: ys, hlength, h => by
      rw [List.length_cons, List.length_cons, Nat.add_right_cancel_iff] at hlength
      rw [List.map_cons, List.map_cons, h (x, y) List.mem_cons_self,
        map_eq_map_of_zip hlength fun z hz => h z (List.mem_cons_of_mem _ hz)]

/-- The streams of engines for compiled signatures take all chunks unless the count of a signature
overflows. -/
theorem taken_or_full {P : List Signature} {c : EngineConfig}
    (hP : ∀ s ∈ P, ∃ limit p, Signature.compile limit p = .ok s) (he : Engine.build P c = .ok e)
    {chunks : List Bytes} (hw : e.openStream.window.toNat + 1 < offsetBound)
    (hlen : chunks.flatten.length < offsetBound) :
    (∃ found, (e.openStream.scanAll chunks).2 = .ok found) ∨
      (e.openStream.scanAll chunks).1.Full e chunks.flatten.length := by
  obtain ⟨rfl, _⟩ := Engine.build_ok_iff.mp he
  exact scanAll_taken_or_full (Engine.proper_of_compiled hP) hw hlen

/-- **Independence of signatures.** Let engines be built for two lists of compiled signatures, with
streams that look equally far back, and let both lists have a signature in common: there is one canonical
form at place `i` of the first list and at place `j` of the second. Whatever chunks two fresh streams are
fed,

* each chunk that both of them take reports the same places for number `i` as for number `j`;
* if they take all of them, the reports are equal chunk by chunk, and so are the counts at the end;
* they take all of them as long as offsets have room, unless the count of a signature overflows. -/
theorem reports_independent {P Q : List Signature} {c c' : EngineConfig}
    (hP : ∀ s ∈ P, ∃ limit p, Signature.compile limit p = .ok s)
    (hQ : ∀ s ∈ Q, ∃ limit p, Signature.compile limit p = .ok s)
    (he : Engine.build P c = .ok e) (he' : Engine.build Q c' = .ok e')
    (hw : c.streamWindow = c'.streamWindow) {a b : Signature} (hi : P[i]? = some a)
    (hj : Q[j]? = some b) (hab : a.canonical = b.canonical) (chunks : List Bytes) :
    let s := e.openStream
    let t := e'.openStream
    (∀ feed ∈ (s.reports chunks).zip (t.reports chunks), spansOf i feed.1 = spansOf j feed.2) ∧
    ((∃ found, (s.scanAll chunks).2 = .ok found) → (∃ found, (t.scanAll chunks).2 = .ok found) →
      (s.reports chunks).map (spansOf i) = (t.reports chunks).map (spansOf j) ∧
      (s.reports chunks).length = chunks.length ∧
      (s.scanAll chunks).1.counts.get? i = (t.scanAll chunks).1.counts.get? j) ∧
    (s.window.toNat + 1 < offsetBound → chunks.flatten.length < offsetBound →
      ((∃ found, (s.scanAll chunks).2 = .ok found) ∨
        (s.scanAll chunks).1.Full e chunks.flatten.length) ∧
      ((∃ found, (t.scanAll chunks).2 = .ok found) ∨
        (t.scanAll chunks).1.Full e' chunks.flatten.length)) := by
  intro s t
  obtain ⟨limit, p, hp⟩ := hP a (List.mem_of_getElem? hi)
  obtain ⟨limit', q, hq⟩ := hQ b (List.mem_of_getElem? hj)
  obtain rfl := Signature.compile_unique hp hq hab
  have hsig := Signature.proper_of_compile hp
  have hwindow : e.openStream.window = e'.openStream.window := by
    obtain ⟨rfl, _⟩ := Engine.build_ok_iff.mp he
    obtain ⟨rfl, _⟩ := Engine.build_ok_iff.mp he'
    exact congrArg (max · 1) hw
  have hie : e.signatures[i]? = some a := by
    rw [(Engine.build_ok_iff.mp he).1]
    exact hi
  have hje : e'.signatures[j]? = some a := by
    rw [(Engine.build_ok_iff.mp he').1]
    exact hj
  have hfresh : s.Agrees t e e' i j [] := agrees_openStream hie hje
  have heach := hfresh.reports hie hje hsig hwindow chunks
  refine ⟨heach, fun ⟨found, hok⟩ ⟨found', hok'⟩ => ?_, fun hroom hlen => ?_⟩
  · have hlength := (reports_of_scanAll chunks hok).1
    have hlength' := (reports_of_scanAll chunks hok').1
    obtain ⟨_, _, hu, hu'⟩ := (hfresh.scanAll hie hje hsig hwindow chunks hok hok').tally
    exact ⟨map_eq_map_of_zip (hlength.trans hlength'.symm) heach, hlength,
      hu.count.get?.trans hu'.count.get?.symm⟩
  · exact ⟨taken_or_full hP he hroom hlen, taken_or_full hQ he' (hwindow ▸ hroom) hlen⟩

/-- A literal alone, and the same one behind another signature: in two chunks both are reported. -/
theorem reports_independent_letters :
    ∃ a x e e', Engine.build [a] {} = .ok e ∧ Engine.build [x, a] {} = .ok e' ∧
      Signature.compile 100000 { regex := "ab" } = .ok a ∧
      Signature.compile 100000 { regex := "x" } = .ok x ∧
      (e.openStream.reports [[97], [98, 120]]).map (spansOf 0) =
        (e'.openStream.reports [[97], [98, 120]]).map (spansOf 1) ∧
      (e.openStream.scanAll [[97], [98, 120]]).1.counts.get? 0 =
        (e'.openStream.scanAll [[97], [98, 120]]).1.counts.get? 1 := by
  have hok : (Signature.compile 100000 { regex := "ab" }).toBool = true := by decide +kernel
  have hok' : (Signature.compile 100000 { regex := "x" }).toBool = true := by decide +kernel
  have hab : Signature.literal? "ab" {} = some [97, 98] := by decide +kernel
  have hx : Signature.literal? "x" {} = some [120] := by decide +kernel
  cases ha : Signature.compile 100000 { regex := "ab" } with
  | error fault =>
      rw [ha] at hok
      cases hok
  | ok a =>
      cases hb : Signature.compile 100000 { regex := "x" } with
      | error fault =>
          rw [hb] at hok'
          cases hok'
      | ok x =>
          have hla := (Signature.literal_of_compile ha).trans hab
          have hlx := (Signature.literal_of_compile hb).trans hx
          have hbuild : ∀ ss : List Signature, (∀ s ∈ ss, s.literal.isSome) →
              Engine.build ss {} = .ok ⟨ss, 65536⟩ := by
            intro ss hss
            refine Engine.build_ok_iff.mpr ⟨rfl, fun hmax => absurd rfl hmax, ?_⟩
            exact Nat.le_trans (Nat.le_of_eq (Engine.setSize_of_literals hss)) (Nat.zero_le _)
          have he := hbuild [a] (by simp [hla])
          have he' := hbuild [x, a] (by simp [hla, hlx])
          have hP : ∀ s ∈ [a], ∃ limit p, Signature.compile limit p = .ok s := by
            intro s hs
            exact ⟨_, _, List.mem_singleton.mp hs ▸ ha⟩
          have hQ : ∀ s ∈ [x, a], ∃ limit p, Signature.compile limit p = .ok s := by
            intro s hs
            rcases List.mem_cons.mp hs with rfl | hs
            · exact ⟨_, _, hb⟩
            · exact hP s hs
          obtain ⟨_, hall, htaken⟩ := reports_independent hP hQ he he' rfl (i := 0) (j := 1) rfl rfl
            rfl [[97], [98, 120]]
          have hroom : (max (65536 : UInt64) 1).toNat + 1 < offsetBound := by decide
          obtain ⟨hs, ht⟩ := htaken hroom (by decide)
          have hshort : ¬ UInt32.size ≤ 2 * [[97], [98, 120]].flatten.length := by decide
          obtain ⟨hreports, _, hcounts⟩ := hall
            (hs.resolve_right fun hfull => hshort hfull.length_ge)
            (ht.resolve_right fun hfull => hshort hfull.length_ge)
          exact ⟨a, x, _, _, he, he', rfl, rfl, hreports, hcounts⟩

end Stream
end TrafficRules
