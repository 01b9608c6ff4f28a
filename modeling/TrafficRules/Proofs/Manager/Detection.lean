import TrafficRules.Proofs.Annotation
import TrafficRules.Proofs.Manager.Coherence
import TrafficRules.Proofs.Stream.Detection

/-! # Detecting literals from end to end

A rule of plain literals marks a connection exactly if its filter lets the connection pass and each of
its literals occurs in what was sent in its direction. Between the two lie the number of each pattern
and the engine that knows it (`Coherent.resolved`), the other signatures of the corpus
(`Engine.scanFrom_filter`), the cuts between chunks and the end of the history
(`Stream.detects_of_took`), and the counts of either side. -/

namespace TrafficRules

/-- A pattern for a literal that fits into the given number of bytes, to occur at least once. -/
structure Pattern.Plain (reach : Nat) (p : Pattern) : Prop where
  literal : ∃ bytes, Signature.literal? p.regex p.flags = some bytes ∧ bytes.length ≤ reach
  least : p.minOccurrences ≤ 1
  most : p.maxOccurrences = 0

/-- The literal of a pattern occurs in what was sent in its direction. -/
def Pattern.Present (p : Pattern) (client server : Bytes) : Prop :=
  ∃ bytes, Signature.literal? p.regex p.flags = some bytes ∧
    match p.direction with
    | .toServer => Literal.Occurs p.flags.caseless bytes client
    | .toClient => Literal.Occurs p.flags.caseless bytes server
    | .both =>
        Literal.Occurs p.flags.caseless bytes client ∨ Literal.Occurs p.flags.caseless bytes server

/-- The rule with an identifier is in an annotation if it is triggered. -/
theorem Registry.Indexed.mem_annotate_iff {r : Registry} (h : r.Indexed) {id : RowId} {rule : Rule}
    (hid : r.get? id = some rule) {c : Connection} {counts : DirectionalCounts} :
    id ∈ annotate r.list c counts ↔ rule.triggered c counts = true := by
  rw [TrafficRules.mem_annotate_iff]
  constructor
  · rintro ⟨other, hother, htriggered, he⟩
    obtain ⟨key, hkey⟩ := (mem_list_iff r other).mp hother
    rw [← (h.named hkey).1, he, hid, Option.some.injEq] at hkey
    exact hkey ▸ htriggered
  · intro htriggered
    exact ⟨rule, (mem_list_iff r rule).mpr ⟨id, hid⟩, htriggered, (h.named hid).1⟩

/-- A plain pattern is satisfied exactly if its literal is present. -/
theorem satisfied_iff_present {e : Engine} {p : Pattern} {limit n : Nat} {s : Signature}
    (hp : p.Plain e.openStream.window.toNat) (hn : p.corpusId = some n)
    (hs : e.signatures[n]? = some s) (hc : Signature.compile limit p = .ok s)
    {client server : Stream} {fromClient fromServer : Bytes}
    (hclient : client.Detects e fromClient) (hserver : server.Detects e fromServer) :
    p.satisfied ⟨client.counts, server.counts⟩ = true ↔ p.Present fromClient fromServer := by
  obtain ⟨⟨bytes, hlit, hlen⟩, hmin, hmax⟩ := hp
  have hside : ∀ {side : Stream} {data : Bytes}, side.Detects e data →
      (0 < (side.counts.of n).toNat ↔ Literal.Occurs p.flags.caseless bytes data) := by
    intro side data hd
    obtain ⟨t, c, htally, _, hcount⟩ := hd hs ((Signature.literal_of_compile hc).trans hlit) hlen
    rw [htally.count.toNat_of, hcount, Signature.flags_of_compile hc]
  have hpresent : p.Present fromClient fromServer ↔
      match p.direction with
      | .toServer => Literal.Occurs p.flags.caseless bytes fromClient
      | .toClient => Literal.Occurs p.flags.caseless bytes fromServer
      | .both => Literal.Occurs p.flags.caseless bytes fromClient ∨
          Literal.Occurs p.flags.caseless bytes fromServer := by
    constructor
    · rintro ⟨bytes', hlit', h⟩
      rw [hlit, Option.some.injEq] at hlit'
      rw [hlit']
      exact h
    · exact fun h => ⟨bytes, hlit, h⟩
  rw [satisfied_iff hn hmin hmax, hpresent]
  cases p.direction with
  | toServer => exact hside hclient
  | toClient => exact hside hserver
  | both =>
      show 0 < (saturatingSum _ _).toNat ↔ _
      rw [saturatingSum_pos, hside hclient, hside hserver]

namespace Manager

theorem Coherent.proper {m : Manager} (h : m.Coherent) {snapshot : Snapshot}
    (hs : m.distributor.latest = some snapshot) : snapshot.engine.Proper := by
  intro s hmem
  rw [(signatures_of_build (h.current hs)).1] at hmem
  obtain ⟨p, hc⟩ := h.sound.numbered.compiled s hmem
  exact Signature.proper_of_compile hc

/-- The number of a pattern is one that a snapshot knows which was current while the rule was in
force. -/
theorem Coherent.number_lt {m n : Manager} (hm : m.Coherent) (h : m.Continues n)
    {snapshot : Snapshot} (hs : m.distributor.latest = some snapshot) {id : RowId} {rule : Rule}
    (hthen : (m.registry.get? id).isSome) (hrule : n.registry.get? id = some rule) {p : Pattern}
    (hp : p ∈ rule.patterns) {number : Nat} (hnumber : p.corpusId = some number) :
    number < snapshot.size := by
  obtain ⟨before, hbefore⟩ := Option.isSome_iff_exists.mp hthen
  obtain ⟨after, hafter, hpatterns⟩ := h.advances.retains id before hbefore
  rw [hrule, Option.some.injEq] at hafter
  obtain ⟨k, s, hk, hget, _⟩ := hm.sound.numbered.resolved hbefore p (hpatterns ▸ hafter ▸ hp)
  rw [hnumber, Option.some.injEq] at hk
  rw [Snapshot.size, Engine.size, (signatures_of_build (hm.current hs)).1, hk]
  exact (List.getElem?_eq_some_iff.mp hget).1

/-- **Literals are detected from end to end.** Let a rule be in force at some time of a run and later on,
enabled and made of plain patterns, and let a snapshot be the latest one at the earlier time. Two
streams are opened on this snapshot and fed with what either side has sent, cut in any way.

* Each stream takes all of its chunks, unless an expression among the other signatures has been
  reported as often as a count can tell, which takes half as many bytes.
* If both do, then the rule marks a connection exactly if its filter lets the connection pass and the
  literal of each of its patterns is present in what was sent in its direction. -/
theorem annotate_literals (store : Store) (config : EngineConfig) (calls later : List Call)
    {snapshot : Snapshot} {id : RowId} {rule : Rule}
    (hlatest : (run store config calls).distributor.latest = some snapshot)
    (hthen : ((run store config calls).registry.get? id).isSome)
    (hnow : (run store config (calls ++ later)).registry.get? id = some rule)
    (henabled : rule.enabled = true)
    (hplain : ∀ p ∈ rule.patterns, p.Plain (max config.streamWindow 1).toNat)
    (hwindow : config.streamWindow.toNat < UInt64.size - 1) (client server : List Bytes)
    (hclient : client.flatten.length < UInt32.size) (hserver : server.flatten.length < UInt32.size)
    (c : Connection) :
    let fed := fun chunks => snapshot.engine.openStream.scanAll chunks
    (∀ side ∈ [client, server], (∃ found, (fed side).2 = .ok found) ∨
      (∃ fault, (fed side).2 = .error fault) ∧
        ∃ n s, snapshot.engine.signatures[n]? = some s ∧ s.literal = none ∧
          (fed side).1.counts.get? n = some 0xFFFFFFFF ∧ UInt32.size ≤ 2 * side.flatten.length) ∧
    ((∃ found, (fed client).2 = .ok found) → (∃ found, (fed server).2 = .ok found) →
      (id ∈ (run store config (calls ++ later)).annotate c
          ⟨(fed client).1.counts, (fed server).1.counts⟩ ↔
        rule.filter.passes c = true ∧
          ∀ p ∈ rule.patterns, p.Present client.flatten server.flatten)) := by
  intro fed
  have hm : (run store config calls).Coherent := coherent_run store config calls
  have hn : (run store config (calls ++ later)).Coherent := coherent_run store config _
  have hmn := continues_run store config calls later
  have hp : snapshot.engine.Proper := hm.proper hlatest
  have hstream : snapshot.engine.openStream.window = max config.streamWindow 1 := by
    have := (signatures_of_build (hm.current hlatest)).2
    rw [config_run] at this
    rw [← this]
    rfl
  have hw : snapshot.engine.openStream.window.toNat + 1 < Stream.offsetBound := by
    rw [hstream]
    show (if config.streamWindow ≤ 1 then 1 else config.streamWindow).toNat + 1 < UInt64.size
    split
    · decide
    · omega
  have hcases : ∀ side ∈ [client, server], side.flatten.length < UInt32.size := by
    intro side hside
    rcases List.mem_cons.mp hside with rfl | hside
    · exact hclient
    · exact List.mem_singleton.mp hside ▸ hserver
  refine ⟨fun side hside => (feed_cases hp hw (hcases side hside)).imp_left And.left, ?_⟩
  intro hokc hoks
  have hdetects : ∀ side ∈ [client, server], (∃ found, (fed side).2 = .ok found) →
      (fed side).1.Detects snapshot.engine side.flatten := by
    rintro side hside ⟨found, hok⟩
    rcases feed_cases hp hw (hcases side hside) with ⟨_, hd⟩ | ⟨⟨fault, hfault⟩, _⟩
    · exact hd
    · cases hok.symm.trans hfault
  have hsatisfied : ∀ p ∈ rule.patterns,
      (p.satisfied ⟨(fed client).1.counts, (fed server).1.counts⟩ = true ↔
        p.Present client.flatten server.flatten) := by
    intro p hpat
    obtain ⟨number, hnumber, hres⟩ := hm.resolved hn hmn hlatest hnow hpat
    obtain ⟨s, hget, hc⟩ := hres (hm.number_lt hmn hlatest hthen hnow hpat hnumber)
    exact satisfied_iff_present (hstream ▸ hplain p hpat) hnumber hget hc
      (hdetects client (by simp) hokc) (hdetects server (by simp) hoks)
  rw [annotate, hn.sound.indexed.mem_annotate_iff hnow, triggered_iff]
  constructor
  · rintro ⟨_, hfilter, hall⟩
    exact ⟨hfilter, fun p hpat => (hsatisfied p hpat).mp (hall p hpat)⟩
  · rintro ⟨hfilter, hall⟩
    exact ⟨henabled, hfilter, fun p hpat => (hsatisfied p hpat).mpr (hall p hpat)⟩

/-- A rule for two letters marks a connection on which they are sent in two chunks. -/
theorem annotate_literals_letters :
    ∃ snapshot,
      (run (.memory {}) {} [.add 1 {} ⟨"letters", "#fff", "", [{ regex := "ab" }], {}⟩]
        ).distributor.latest = some snapshot ∧
      ⟨1, 1⟩ ∈ (run (.memory {}) {}
          ([.add 1 {} ⟨"letters", "#fff", "", [{ regex := "ab" }], {}⟩] ++ [.receive])).annotate
        ⟨.v4 1, 1, .v4 2, 2, 0, 2, 0⟩
        ⟨(snapshot.engine.openStream.scanAll [[97], [98]]).1.counts,
          (snapshot.engine.openStream.scanAll []).1.counts⟩ := by
  obtain ⟨snapshot, hs⟩ := Option.isSome_iff_exists.mp (by decide +kernel :
    (run (.memory {}) {} [.add 1 {} ⟨"letters", "#fff", "", [{ regex := "ab" }], {}⟩]
      ).distributor.latest.isSome = true)
  have hrule : (run (.memory {}) {}
      ([.add 1 {} ⟨"letters", "#fff", "", [{ regex := "ab" }], {}⟩] ++ [.receive])).registry.get?
        ⟨1, 1⟩ = some ⟨⟨1, 1⟩, "letters", "#fff", "", true,
          [{ regex := "ab", corpusId := some 0 }], {}, 0⟩ := by decide +kernel
  have hab : Signature.literal? "ab" {} = some [97, 98] := by decide +kernel
  obtain ⟨hfed, hmarked⟩ := annotate_literals (.memory {}) {} _ [.receive] hs (by decide +kernel)
    hrule rfl
    (fun p hp => by
      rw [List.mem_singleton.mp hp]
      exact ⟨⟨_, hab, by decide⟩, by decide, rfl⟩)
    (by decide) [[97], [98]] [] (by decide) (by decide) ⟨.v4 1, 1, .v4 2, 2, 0, 2, 0⟩
  refine ⟨snapshot, hs, (hmarked ?_ ?_).mpr ⟨by decide, fun p hp => ?_⟩⟩
  · exact (hfed _ (by simp)).resolve_right fun ⟨_, _, _, _, _, _, hlen⟩ => absurd hlen (by decide)
  · exact (hfed _ (by simp)).resolve_right fun ⟨_, _, _, _, _, _, hlen⟩ => absurd hlen (by decide)
  · rw [List.mem_singleton.mp hp]
    exact ⟨_, hab, Or.inl ⟨[], [97, 98], [], rfl, rfl⟩⟩

end Manager
end TrafficRules
