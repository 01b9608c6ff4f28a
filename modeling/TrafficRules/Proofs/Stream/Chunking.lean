import Mathlib
import TrafficRules.Proofs.Stream.Additive
import TrafficRules.Proofs.Stream.History

/-! # Counts and the cuts between chunks

Let data be no longer than a stream looks back. Then every chunk is searched behind all of the data so
far (`Stream.due_eq`), and so counts depend on the cuts exactly as far as signatures fail to be
additive: if they are additive, all cuts count the same (`Stream.holds_of_additive`), and what one
chunk and two chunks count is what the condition compares (`Stream.holds_of_cut`). -/

namespace TrafficRules
namespace Stream

variable {e : Engine} {s s' : Stream} {data chunk : Bytes} {chunks : List Bytes}

theorem base_eq_zero (hr : s.Reads e data) (hlen : data.length ≤ e.openStream.window.toNat) :
    s.base = 0 := by
  rw [hr.base, hr.window]
  omega

/-- As long as nothing is dropped, a chunk is searched behind all of the data. -/
theorem due_eq (hr : s.Reads e data) (hlen : data.length ≤ e.openStream.window.toNat)
    (sig : Signature) (t : Track) (chunk : Bytes) :
    s.due sig t chunk =
      t.reported sig.flags.singleMatch 0 data.length (sig.spans (data ++ chunk) 0) := by
  have hbase := base_eq_zero hr hlen
  have hbuffer : s.buffer = data := by
    rw [hr.buffer, hbase]
    rfl
  have hcontext : s.context = 0 := by
    rw [context, hbase]
    rfl
  rw [due, hbase, hbuffer, hcontext]

/-- Every signature has the count that its data have when they are read at once, and keeps it up. -/
def Credits (e : Engine) (whole : Bytes) (s : Stream) (data : Bytes) : Prop :=
  data <+: whole → ∀ {n sig}, e.signatures[n]? = some sig →
    ∃ t c, s.Tally n t c ∧ Track.Credited sig whole data t c

theorem Credits.step {whole : Bytes} (hp : e.Proper)
    (hlen : whole.length ≤ e.openStream.window.toNat) (ha : ∀ sig ∈ e.signatures, sig.Additive whole)
    (hr : s.Reads e data) (h : s.Credits e whole data) (ht : s.Took s' chunk) :
    s'.Credits e whole (data ++ chunk) := by
  intro hle n sig hn
  have hdata : data <+: whole := (List.prefix_append data chunk).trans hle
  obtain ⟨t, c, htally, hc⟩ := h hdata hn
  have hshort : data.length ≤ e.openStream.window.toNat := Nat.le_trans hdata.length_le hlen
  refine ⟨_, _, ht (hr.engine.symm ▸ hn) htally, ?_⟩
  rw [due_eq hr hshort sig t chunk, base_eq_zero hr hshort]
  exact hc.step (hp.of_getElem? hn) (ha sig (List.mem_of_getElem? hn)) hle

/-- A stream that looks back over everything that can be addressed takes no chunk at all. -/
theorem scan_of_window (hw : offsetBound ≤ s.window.toNat + 1) (chunk : Bytes) :
    ∃ fault, (s.scan chunk).2 = .error fault := by
  unfold scan
  dsimp only
  obtain ⟨tracks, counts, hnoted⟩ := noteAll_fst s.buffer.length
    (s.engine.scanFrom (s.buffer ++ chunk) (if 0 < s.base then 1 else 0))
    { s with buffer := s.buffer ++ chunk }
  generalize Stream.noteAll _ s.buffer.length _ = noted at hnoted ⊢
  obtain ⟨s₁, r⟩ := noted
  have hwindow : s₁.window = s.window := by rw [show s₁ = _ from hnoted]
  cases r with
  | error fault => exact ⟨fault, rfl⟩
  | ok found =>
      have htrim : s₁.trim = .error .outOfRange := by
        rw [trim, hwindow, if_pos hw]
      dsimp only
      rw [htrim]
      exact ⟨_, rfl⟩

/-- Behind all chunks a signature has been counted as often as the data count read at once. -/
theorem holds_of_additive (hp : e.Proper)
    (hlen : chunks.flatten.length ≤ e.openStream.window.toNat)
    (ha : ∀ sig ∈ e.signatures, sig.Additive chunks.flatten)
    (hok : ∃ found, (e.openStream.scanAll chunks).2 = .ok found) {n : Nat} {sig : Signature}
    (hn : e.signatures[n]? = some sig) :
    (e.openStream.scanAll chunks).1.counts.Holds n
      (sig.credit (sig.reports chunks.flatten).length) := by
  obtain ⟨found, hok⟩ := hok
  have hfresh : e.openStream.Credits e chunks.flatten [] := fun _ n sig hn =>
    ⟨{}, 0, tally_openStream (List.getElem?_eq_some_iff.mp hn).1, Track.credited_fresh sig _⟩
  have hcredits : (e.openStream.scanAll chunks).1.Credits e chunks.flatten chunks.flatten := by
    rcases Nat.lt_or_ge (e.openStream.window.toNat + 1) offsetBound with hw | hw
    · rcases scanAll_cases hp hw (P := fun s data => s.Credits e chunks.flatten data)
        (fun hr h _ ht => h.step hp hlen ha hr ht) chunks (reads_openStream e)
        (bounded_openStream e) hfresh (by rw [List.nil_append]; omega) rfl with
        ⟨_, _, _, h⟩ | ⟨⟨fault, hfault⟩, _⟩
      · exact h
      · rw [hok] at hfault
        cases hfault
    · cases chunks with
      | nil => exact hfresh
      | cons chunk rest =>
          obtain ⟨fault, hfault⟩ := scan_of_window hw chunk
          rw [scanAll] at hok
          generalize e.openStream.scan chunk = scanned at hok hfault
          obtain ⟨s₁, r⟩ := scanned
          dsimp only at hfault
          subst hfault
          cases hok
  obtain ⟨t, c, htally, hc⟩ := hcredits List.prefix_rfl hn
  have hcount := hc.next [] ⟨[], by rw [List.append_nil, List.append_nil]⟩
  rw [List.append_nil, Track.reported_nil (hp.of_getElem? hn), List.length_nil, Nat.add_zero]
    at hcount
  exact hcount ▸ htally.count

/-! ### Short data -/

theorem lt_offsetBound {n : Nat} (h : 2 * n < UInt32.size) : n < offsetBound := by
  have hsize : UInt32.size < offsetBound := by decide
  omega

/-- Few bytes are taken in any case. -/
theorem scan_taken (hp : e.Proper) (hw : e.openStream.window.toNat + 1 < offsetBound)
    (hr : s.Reads e data) (hb : s.Bounded e data) (hfew : 2 * (data ++ chunk).length < UInt32.size) :
    ∃ s' found, s.scan chunk = (s', .ok found) ∧ s'.Reads e (data ++ chunk) ∧
      s'.Bounded e (data ++ chunk) ∧ s.Took s' chunk := by
  have hlen : (data ++ chunk).length < offsetBound := lt_offsetBound hfew
  cases hscan : s.scan chunk with
  | mk s' r =>
      rcases scan_cases hp hw hr hb hlen hscan with ⟨⟨found, rfl⟩, hr', ht⟩ | ⟨_, hfull⟩
      · exact ⟨s', found, rfl, hr', ht.bounded hp hr hb, ht⟩
      · exact absurd hfew (Nat.not_lt.mpr hfull.length_ge)

theorem scanAll_taken (hp : e.Proper) (hw : e.openStream.window.toNat + 1 < offsetBound)
    (hfew : 2 * chunks.flatten.length < UInt32.size) :
    ∃ found, (e.openStream.scanAll chunks).2 = .ok found := by
  rcases scanAll_taken_or_full hp hw (lt_offsetBound hfew) with hok | hfull
  · exact hok
  · exact absurd hfew (Nat.not_lt.mpr hfull.length_ge)

theorem scanAll_cons_of_ok {found : List Match} (h : s.scan chunk = (s', .ok found))
    (rest : List Bytes) : (s.scanAll (chunk :: rest)).1 = (s'.scanAll rest).1 := by
  rw [scanAll, h]

/-- What one chunk counts, and what two chunks count. -/
theorem holds_of_cut (hp : e.Proper) (hw : e.openStream.window.toNat + 1 < offsetBound)
    {front chunk : Bytes} (hlen : (front ++ chunk).length ≤ e.openStream.window.toNat)
    (hfew : 2 * (front ++ chunk).length < UInt32.size) {n : Nat} {sig : Signature}
    (hn : e.signatures[n]? = some sig) :
    (e.openStream.scanAll [front ++ chunk]).1.counts.Holds n
        (sig.credit (sig.reports (front ++ chunk)).length) ∧
      (e.openStream.scanAll [front, chunk]).1.counts.Holds n
        (sig.credit ((sig.reports front).length + (sig.added front chunk).length)) := by
  have htally := tally_openStream (List.getElem?_eq_some_iff.mp hn).1
  have hfirst : ∀ data : Bytes, 2 * data.length < UInt32.size →
      ∃ s found, e.openStream.scan data = (s, .ok found) ∧ s.Reads e data ∧ s.Bounded e data ∧
        s.Tally n (Track.behind sig.flags.singleMatch 0 {}
            (Track.reported sig.flags.singleMatch 0 0 {} (sig.spans data 0)))
          (sig.credit (sig.reports data).length) := by
    intro data hdata
    obtain ⟨s, found, hscan, hr, hb, ht⟩ :=
      scan_taken hp hw (reads_openStream e) (bounded_openStream e) hdata
    have := ht hn htally
    rw [due_eq (reads_openStream e) (Nat.zero_le _), Nat.zero_add, List.nil_append,
      List.length_nil, Track.length_reported_fresh] at this
    exact ⟨s, found, hscan, hr, hb, this⟩
  have hfront : front.length ≤ (front ++ chunk).length := by
    rw [List.length_append]
    omega
  constructor
  · obtain ⟨s, found, hscan, _, _, ht⟩ := hfirst (front ++ chunk) hfew
    rw [scanAll_cons_of_ok hscan]
    exact ht.count
  · obtain ⟨s, found, hscan, hr, hb, ht⟩ := hfirst front (by omega)
    obtain ⟨s', found', hscan', _, _, ht'⟩ := scan_taken hp hw hr hb hfew
    have := (ht' (hr.engine.symm ▸ hn) ht).count
    rw [due_eq hr (Nat.le_trans hfront hlen), Track.length_reported_behind] at this
    rw [scanAll_cons_of_ok hscan, scanAll_cons_of_ok hscan']
    exact this

/-! ### All cuts -/

/-- **Counts and cuts.** Let the signatures of an engine be made from patterns, and let data be no longer
than its streams look back.

* If each part of the data counts the same read at once or in two chunks, then the counts do not depend
  on how the data are cut.
* Few data are taken in any cut, and then this condition is exact: it holds if and only if no part of
  the data has counts that depend on how it is cut.
* It holds for literals. -/
theorem counts_chunking (limit : Nat) (e : Engine)
    (hcompiled : ∀ s ∈ e.signatures, ∃ p, Signature.compile limit p = .ok s) (data : Bytes)
    (hlen : data.length ≤ e.openStream.window.toNat) :
    let fed := fun chunks => e.openStream.scanAll chunks
    ((∀ s ∈ e.signatures, s.Additive data) →
      ∀ a b : List Bytes, a.flatten = data → b.flatten = data →
        (∃ found, (fed a).2 = .ok found) → (∃ found, (fed b).2 = .ok found) →
        ∀ n < e.size, (fed a).1.counts.get? n = (fed b).1.counts.get? n) ∧
    (2 * data.length < UInt32.size → e.openStream.window.toNat + 1 < UInt64.size →
      (∀ a : List Bytes, a.flatten = data → ∃ found, (fed a).2 = .ok found) ∧
      ((∀ s ∈ e.signatures, s.Additive data) ↔
        ∀ a b : List Bytes, a.flatten <+: data → b.flatten = a.flatten →
          ∀ n < e.size, (fed a).1.counts.get? n = (fed b).1.counts.get? n)) ∧
    (∀ s ∈ e.signatures, s.literal.isSome → s.Additive data) := by
  intro fed
  have hp : e.Proper := by
    intro s hs
    obtain ⟨p, hc⟩ := hcompiled s hs
    exact Signature.proper_of_compile hc
  have hsame : ∀ part : Bytes, part.length ≤ e.openStream.window.toNat →
      (∀ s ∈ e.signatures, s.Additive part) →
      ∀ a b : List Bytes, a.flatten = part → b.flatten = part →
        (∃ found, (fed a).2 = .ok found) → (∃ found, (fed b).2 = .ok found) →
        ∀ n < e.size, (fed a).1.counts.get? n = (fed b).1.counts.get? n := by
    rintro part hpart hadd a b rfl hb hoka hokb n hn
    have hsig := List.getElem?_eq_getElem hn
    have ha := holds_of_additive hp hpart hadd hoka hsig
    have hb' := holds_of_additive hp (hb ▸ hpart) (hb ▸ hadd) hokb hsig
    rw [hb] at hb'
    exact ha.get?.trans hb'.get?.symm
  refine ⟨hsame data hlen, fun hfew hw => ⟨?_, ?_, ?_⟩, ?_⟩
  · rintro a rfl
    exact scanAll_taken hp hw hfew
  · intro hadd a b ha hb
    have hpart := ha.length_le
    refine hsame a.flatten (Nat.le_trans hpart hlen) (fun s hs => (hadd s hs).mono ha) a b rfl hb
      (scanAll_taken hp hw (by omega)) (scanAll_taken hp hw (by rw [hb]; omega))
  · intro hcuts s hs front chunk hle
    obtain ⟨n, hn⟩ := List.getElem?_of_mem hs
    have hpart := hle.length_le
    obtain ⟨hone, htwo⟩ := holds_of_cut hp hw (Nat.le_trans hpart hlen) (by omega) hn
    have hflat : [front, chunk].flatten = [front ++ chunk].flatten := by simp
    have heq := hcuts [front ++ chunk] [front, chunk] (by simpa using hle) hflat n
      (List.getElem?_eq_some_iff.mp hn).1
    rw [← hone.toNat_of, ← htwo.toNat_of, Counts.of, Counts.of]
    exact congrArg (fun count => (Option.getD count 0).toNat) heq
  · intro s hs hlit
    obtain ⟨literal, hlit⟩ := Option.isSome_iff_exists.mp hlit
    exact Signature.additive_of_literal (hp s hs) hlit data

/-- The counts of a literal of two letters are the same in one chunk and in two. -/
theorem counts_chunking_letters :
    ∃ s, Signature.compile 100000 { regex := "ab" } = .ok s ∧
      ∀ n < 1, ((⟨[s], 16⟩ : Engine).openStream.scanAll [[97, 98]]).1.counts.get? n =
        ((⟨[s], 16⟩ : Engine).openStream.scanAll [[97], [98]]).1.counts.get? n := by
  have hok : (Signature.compile 100000 { regex := "ab" }).toBool = true := by decide +kernel
  have hab : Signature.literal? "ab" {} = some [97, 98] := by decide +kernel
  have hwindow : 2 ≤ (max (16 : UInt64) 1).toNat ∧ (max (16 : UInt64) 1).toNat + 1 < UInt64.size := by
    decide
  cases hc : Signature.compile 100000 { regex := "ab" } with
  | error fault =>
      rw [hc] at hok
      cases hok
  | ok s =>
      obtain ⟨_, hfew, hliteral⟩ := counts_chunking 100000 ⟨[s], 16⟩
        (fun t ht => ⟨_, List.mem_singleton.mp ht ▸ hc⟩) [97, 98] hwindow.1
      refine ⟨s, rfl, ((hfew (by decide) hwindow.2).2.mp fun t ht => hliteral t ht ?_)
        [[97, 98]] [[97], [98]] List.prefix_rfl rfl⟩
      rw [List.mem_singleton.mp ht, (Signature.literal_of_compile hc).trans hab]
      rfl

set_option maxRecDepth 100000 in
/-- An alternative that takes more bytes than another one: in two chunks the shorter one has matched
twice before the longer one comes to its end. -/
theorem counts_depend_on_cuts :
    ∃ s e, Signature.compile Signature.defaultSizeLimit { regex := "aab|a" } = .ok s ∧
      Engine.build [s] {} = .ok e ∧ [97, 97, 98].length ≤ e.openStream.window.toNat ∧
      (e.openStream.scanAll [[97, 97, 98]]).2.toBool = true ∧
      (e.openStream.scanAll [[97, 97], [98]]).2.toBool = true ∧
      (e.openStream.scanAll [[97, 97, 98]]).1.counts.get? 0 = some 1 ∧
      (e.openStream.scanAll [[97, 97], [98]]).1.counts.get? 0 = some 2 := by
  have h : (match Signature.compile Signature.defaultSizeLimit { regex := "aab|a" } with
      | .ok s =>
          match Engine.build [s] {} with
          | .ok e => decide ([97, 97, 98].length ≤ e.openStream.window.toNat ∧
              (e.openStream.scanAll [[97, 97, 98]]).2.toBool = true ∧
              (e.openStream.scanAll [[97, 97], [98]]).2.toBool = true ∧
              (e.openStream.scanAll [[97, 97, 98]]).1.counts.get? 0 = some 1 ∧
              (e.openStream.scanAll [[97, 97], [98]]).1.counts.get? 0 = some 2)
          | .error _ => false
      | .error _ => false) = true := by cbv
  split at h
  · rename_i s hs
    split at h
    · rename_i e he
      exact ⟨s, e, hs, he, of_decide_eq_true h⟩
    · cases h
  · cases h

end Stream
end TrafficRules
