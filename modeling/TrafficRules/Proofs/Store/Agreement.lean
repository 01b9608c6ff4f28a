import TrafficRules.Proofs.Registry.Registering
import TrafficRules.Proofs.Store.Records

/-! # Rules in force and rules stored

A registry agrees with the records of a store (`Agrees`) if each of its rules is stored as it is in
force, and each stored rule that is not is one of those that were stored from the start. Patterns are
compared without their numbers, which mean nothing outside of a registry.

Agreement is kept by each of the three things that a manager does to both sides: a stored rule comes
into force (`Agrees.load`), a rule comes into force and is stored (`Agrees.insert`), a rule is changed
on both sides (`Agrees.update`). For the last one it matters that the record which the store changes
is that of the rule in force, and that no second record can be found under its identifier. -/

namespace TrafficRules

/-- The identifier under which a rule is found. -/
def Record.found? (e : Record) : Option RowId := if e.rule.isSome then e.key else none

theorem Record.found?_eq {e : Record} {rule : Rule} (h : e.rule = some rule) : e.found? = e.key := by
  rw [found?, h, Option.isSome_some, if_pos rfl]

theorem Record.of_found? {e : Record} {id : RowId} (h : e.found? = some id) :
    ∃ rule, e.rule = some rule ∧ e.key = some id := by
  rw [found?] at h
  split_ifs at h with hrule
  obtain ⟨rule, hrule⟩ := Option.isSome_iff_exists.mp hrule
  exact ⟨rule, hrule, h⟩

theorem Record.id_of_keyed {e : Record} {s : Rule} (h : e.key = some s.id ∨ e.key = none)
    {id : RowId} (hkey : e.key = some id) : s.id = id := by
  rcases h with hs | hnone
  · exact Option.some.inj (hs.symm.trans hkey)
  · rw [hkey] at hnone
    cases hnone

/-- A stored rule is found under its own identifier, or not at all. -/
theorem Store.keyed (store : Store) {e : Record} (he : e ∈ store.records) {s : Rule}
    (hs : e.rule = some s) : e.key = some s.id ∨ e.key = none := by
  cases store with
  | memory m =>
      obtain ⟨rule, _, rfl⟩ := List.mem_map.mp he
      cases hs
      exact Or.inl rfl
  | file f =>
      rw [records, FileStore.records] at he
      split at he
      · obtain ⟨entry, _, rfl⟩ := List.mem_map.mp he
        exact FileStore.entryId?_of_ofJson? hs
      · cases he

theorem Update.apply_id (u : Update) (r : Rule) : (u.apply r).id = r.id := rfl

theorem Update.apply_unnumbered (u : Update) (r : Rule) :
    (u.apply r).unnumbered = u.apply r.unnumbered := rfl

theorem Rule.id_of_unnumbered {r s : Rule} (h : r.unnumbered = s.unnumbered) : r.id = s.id := by
  have hid : r.unnumbered.id = s.unnumbered.id := by rw [h]
  exact hid

theorem Rule.unnumbered_numbered (c : Corpus) (rule : Rule) :
    (rule.numbered c).unnumbered = rule.unnumbered := by
  rw [Rule.unnumbered, Rule.unnumbered, Rule.numbered, List.map_map]
  rfl

/-- A stored rule has been there from the start, or it is found as it is in force. -/
def Origin (initial : List Rule) (r : Registry) (key : Option RowId) (s : Rule) : Prop :=
  s ∈ initial ∨ key = some s.id ∧ ∃ rule, r.get? s.id = some rule ∧ s.unnumbered = rule.unnumbered

/-- A registry against the records of a store that held the rules `initial` from the start. -/
structure Agrees (initial : List Rule) (r : Registry) (records : List Record) : Prop where
  /-- No two rules are found under one identifier. -/
  unique : (records.filterMap Record.found?).Nodup
  /-- A rule is found under its own identifier, or not at all. -/
  keyed : ∀ e ∈ records, ∀ s, e.rule = some s → e.key = some s.id ∨ e.key = none
  /-- Each rule in force is stored. -/
  kept : ∀ id rule, r.get? id = some rule →
    ∃ e ∈ records, ∃ s, e.rule = some s ∧ s.unnumbered = rule.unnumbered
  /-- No other rule has come into the store than those in force. -/
  origin : ∀ e ∈ records, ∀ s, e.rule = some s → Origin initial r e.key s

variable {initial : List Rule} {r t : Registry} {records : List Record}

/-- A change of the rule under one identifier is of no account for a rule found elsewhere. -/
theorem Origin.of_others {key : Option RowId} {s : Rule} (h : Origin initial r key s) {id : RowId}
    (ht : ∀ other, other ≠ id → t.get? other = r.get? other)
    (hid : key = some id → r.get? id = none) : Origin initial t key s := by
  rcases h with hs | ⟨hkey, rule, hrule, heq⟩
  · exact Or.inl hs
  · refine Or.inr ⟨hkey, rule, ?_, heq⟩
    rw [ht, hrule]
    intro hsid
    rw [hsid] at hkey hrule
    rw [hid hkey] at hrule
    cases hrule

namespace Agrees

/-- Without a rule in force a registry agrees with what is stored. -/
theorem start {store : Store} (hn : (store.rules.map Rule.id).Nodup)
    (hr : ∀ id, r.get? id = none) : Agrees store.rules r store.records := by
  refine ⟨?_, fun e he s hs => store.keyed he hs, fun id rule hid => ?_, fun e he s hs => ?_⟩
  · have hids := (store.rules_perm.map Rule.id).nodup hn
    rw [List.Nodup, List.pairwise_map, List.pairwise_filterMap] at hids
    rw [List.Nodup, List.pairwise_filterMap]
    refine hids.imp_of_mem fun {e e'} he he' hne id hid id' hid' heq => ?_
    obtain ⟨s, hs, hkey⟩ := Record.of_found? hid
    obtain ⟨s', hs', hkey'⟩ := Record.of_found? hid'
    refine hne s hs s' hs' ?_
    rw [Record.id_of_keyed (store.keyed he hs) hkey,
      Record.id_of_keyed (store.keyed he' hs') hkey', heq]
  · rw [hr] at hid
    cases hid
  · exact Or.inl (Store.mem_rules_iff.mpr ⟨e, he, hs⟩)

theorem same_found (h : Agrees initial r records) {e e' : Record} (he : e ∈ records)
    (he' : e' ∈ records) {id : RowId} (hid : e.found? = some id) (hid' : e'.found? = some id) :
    e = e' := by
  let Same : Record → Record → Prop := fun x y => x.found? = some id → y.found? = some id → x = y
  have : Std.Symm Same := ⟨fun _ _ hxy hy hx => (hxy hx hy).symm⟩
  have hsame : records.Pairwise Same :=
    (List.pairwise_filterMap.mp h.unique).imp fun hxy hx hy => absurd rfl (hxy id hx id hy)
  exact hsame.forall_of_forall (fun _ _ _ _ => rfl) he he' hid hid'

/-- The rule that is found under the identifier of a rule in force is that rule. -/
theorem current (h : Agrees initial r records) (hn : (initial.map Rule.id).Nodup) (hr : r.Indexed)
    {id : RowId} {rule s : Rule} (hid : r.get? id = some rule) {e : Record} (he : e ∈ records)
    (hkey : e.key = some id) (hs : e.rule = some s) : s.unnumbered = rule.unnumbered := by
  have hsid : s.id = id := Record.id_of_keyed (h.keyed e he s hs) hkey
  rcases h.origin e he s hs with hstart | ⟨_, rule', hrule', heq⟩
  · obtain ⟨e', he', s', hs', heq⟩ := h.kept id rule hid
    have hsid' : s'.id = id := (Rule.id_of_unnumbered heq).trans (hr.named hid).1
    rcases h.origin e' he' s' hs' with hstart' | ⟨hkey', _⟩
    · rw [List.inj_on_of_nodup_map hn hstart hstart' (hsid.trans hsid'.symm)]
      exact heq
    · rw [hsid'] at hkey'
      have hsame := h.same_found he he' ((Record.found?_eq hs).trans hkey)
        ((Record.found?_eq hs').trans hkey')
      rw [← hsame, hs, Option.some.injEq] at hs'
      rw [hs']
      exact heq
  · rw [hsid, hid, Option.some.injEq] at hrule'
    rw [heq, hrule']

/-- Agreement depends on the rules in force only. -/
theorem congr (h : Agrees initial r records) (ht : ∀ id, t.get? id = r.get? id) :
    Agrees initial t records := by
  refine ⟨h.unique, h.keyed, fun id rule hid => h.kept id rule (ht id ▸ hid), fun e he s hs => ?_⟩
  rw [Origin, ht]
  exact h.origin e he s hs

/-- The order of the records is of no account. -/
theorem perm (h : Agrees initial r records) {records' : List Record} (hp : records.Perm records') :
    Agrees initial r records' := by
  refine ⟨(hp.filterMap _).nodup h.unique, fun e he => h.keyed e (hp.mem_iff.mpr he), ?_,
    fun e he => h.origin e (hp.mem_iff.mpr he)⟩
  intro id rule hid
  obtain ⟨e, he, hs⟩ := h.kept id rule hid
  exact ⟨e, hp.mem_iff.mp he, hs⟩

/-- A stored rule comes into force. -/
theorem load (h : Agrees initial r records) {rule s : Rule} {e : Record} (he : e ∈ records)
    (hs : e.rule = some s) (heq : s.unnumbered = rule.unnumbered) (hfree : r.get? rule.id = none)
    (ht : ∀ id, t.get? id = if rule.id = id then some rule else r.get? id) :
    Agrees initial t records := by
  refine ⟨h.unique, h.keyed, fun id other hid => ?_, fun e' he' s' hs' => ?_⟩
  · rw [ht] at hid
    split_ifs at hid
    · exact ⟨e, he, s, hs, heq.trans (congrArg Rule.unnumbered (Option.some.inj hid))⟩
    · exact h.kept id other hid
  · exact (h.origin e' he' s' hs').of_others
      (fun id hid => (ht id).trans (if_neg (Ne.symm hid))) fun _ => hfree

/-- A record for a rule in force, put before those of the other rules. -/
theorem put {rule stored : Rule} (heq : stored.unnumbered = rule.unnumbered)
    (hrule : t.get? rule.id = some rule)
    (hunique : (rule.id :: records.filterMap Record.found?).Nodup)
    (hkeyed : ∀ e ∈ records, ∀ s, e.rule = some s → e.key = some s.id ∨ e.key = none)
    (hkept : ∀ id other, rule.id ≠ id → t.get? id = some other →
      ∃ e ∈ records, ∃ s, e.rule = some s ∧ s.unnumbered = other.unnumbered)
    (horigin : ∀ e ∈ records, ∀ s, e.rule = some s → Origin initial t e.key s) :
    Agrees initial t (⟨some rule.id, some stored⟩ :: records) := by
  have hid : stored.id = rule.id := Rule.id_of_unnumbered heq
  refine ⟨?_, ?_, ?_, ?_⟩
  · rw [List.filterMap_cons_some (Record.found?_eq rfl)]
    exact hunique
  · intro e he s hs
    rcases List.mem_cons.mp he with rfl | he
    · cases hs
      exact Or.inl (congrArg some hid.symm)
    · exact hkeyed e he s hs
  · intro id other hother
    by_cases hsame : rule.id = id
    · rw [← hsame, hrule, Option.some.injEq] at hother
      exact ⟨_, List.mem_cons_self, stored, rfl, hother ▸ heq⟩
    · obtain ⟨e, he, hs⟩ := hkept id other hsame hother
      exact ⟨e, List.mem_cons_of_mem _ he, hs⟩
  · intro e he s hs
    rcases List.mem_cons.mp he with rfl | he
    · cases hs
      exact Or.inr ⟨congrArg some hid.symm, rule, by rw [hid, hrule], heq⟩
    · exact horigin e he s hs

/-- A rule comes into force and is stored. -/
theorem insert (h : Agrees initial r records) {rule stored : Rule}
    (hfree : r.get? rule.id = none) (hkey : ∀ e ∈ records, e.key ≠ some rule.id)
    (heq : stored.unnumbered = rule.unnumbered)
    (ht : ∀ id, t.get? id = if rule.id = id then some rule else r.get? id) :
    Agrees initial t (⟨some rule.id, some stored⟩ :: records) := by
  have hothers : ∀ id, id ≠ rule.id → t.get? id = r.get? id :=
    fun id hid => (ht id).trans (if_neg (Ne.symm hid))
  refine put heq ((ht rule.id).trans (if_pos rfl)) ?_ h.keyed ?_ ?_
  · refine List.nodup_cons.mpr ⟨fun hmem => ?_, h.unique⟩
    obtain ⟨e, he, hfound⟩ := List.mem_filterMap.mp hmem
    obtain ⟨_, _, hfound⟩ := Record.of_found? hfound
    exact hkey e he hfound
  · intro id other hne hother
    exact h.kept id other ((hothers id (Ne.symm hne)).symm.trans hother)
  · exact fun e he s hs => (h.origin e he s hs).of_others hothers fun _ => hfree

/-- A rule is changed, and so is the one that is found under its identifier. -/
theorem update {stored changed old : Rule} {u : Update}
    (h : Agrees initial r (⟨some old.id, some stored⟩ :: records))
    (hn : (initial.map Rule.id).Nodup) (hr : r.Indexed) (hold : r.get? old.id = some old)
    (hchanged : changed.unnumbered = (u.apply stored).unnumbered)
    (ht : ∀ id, t.get? id = if old.id = id then some (u.apply old) else r.get? id) :
    Agrees initial t (⟨some old.id, some changed⟩ :: records) := by
  have hstored : stored.unnumbered = old.unnumbered :=
    h.current hn hr hold List.mem_cons_self rfl rfl
  have heq : changed.unnumbered = (u.apply old).unnumbered := by
    rw [hchanged, Update.apply_unnumbered, hstored, Update.apply_unnumbered]
  have hothers : ∀ id, id ≠ old.id → t.get? id = r.get? id :=
    fun id hid => (ht id).trans (if_neg (Ne.symm hid))
  have hunique := h.unique
  rw [List.filterMap_cons_some (Record.found?_eq rfl)] at hunique
  rw [← u.apply_id old]
  refine put heq ((ht old.id).trans (if_pos rfl)) hunique
    (fun e he => h.keyed e (List.mem_cons_of_mem _ he)) ?_ ?_
  · intro id other hne hother
    rw [hothers id (Ne.symm hne)] at hother
    obtain ⟨e, he, s, hs, heq'⟩ := h.kept id other hother
    rcases List.mem_cons.mp he with rfl | he
    · -- the record of the rule that is changed holds no other rule
      cases hs
      have hids : old.id = other.id :=
        (Rule.id_of_unnumbered hstored).symm.trans (Rule.id_of_unnumbered heq')
      exact absurd (hids.trans (hr.named hother).1) hne
    · exact ⟨e, he, s, hs, heq'⟩
  · intro e he s hs
    refine (h.origin e (List.mem_cons_of_mem _ he) s hs).of_others hothers fun hkey => ?_
    have hmem := List.mem_filterMap.mpr ⟨e, he, (Record.found?_eq hs).trans hkey⟩
    exact absurd hmem (List.nodup_cons.mp hunique).1

end Agrees
end TrafficRules
