import TrafficRules.Proofs.Store.Working

/-! # What a write leaves alone

Each change of a file writes the whole document anew, and still concerns one entry only. A new rule comes
behind the entries that were there, a changed rule in place of the first entry of its identifier, and all
other entries are read back as the values they were, whether they are rules or not. A request that is
refused leaves the bytes of the document as they were, and no temporary file
(`FileStore.entries_kept`).

The entries are kept as values, and not as text: a number with a fraction may become another one. Hence
the numbers are asked to be integers (`Json.Whole`), which are read as such from any text of them
(`Json.whole_of_value?`). -/

namespace TrafficRules.FileStore

open Json (ValidItems WholeItems depthLimit)

variable {s t : FileStore} {ctx : WriteContext} {es : List Json} {rule : Rule} {id : RowId} {u : Update}

/-! ### Writing -/

/-- The store is as it was, but for the temporary file of an earlier write, which may be gone. -/
def Untouched (s t : FileStore) : Prop := t = s ∨ t = { s with temporary := none }

/-- The bytes of the entries are in place. -/
def Holds (t : FileStore) (es : List Json) : Prop :=
  t.file = .content (documentBytes es) ∧ t.temporary = none

theorem holds_of_write (h : s.write ctx es = (.ok (), t)) : t.Holds es := by
  obtain ⟨hfree, hctx⟩ := (write_ok_iff es).mp (congrArg Prod.fst h)
  rw [write_of_passes hctx hfree] at h
  obtain ⟨_, rfl⟩ := Prod.mk.inj h
  exact ⟨rfl, rfl⟩

/-- Where nothing stands in the way, a write that fails has been called off by its context, and takes the
temporary file back. -/
theorem untouched_of_write (hfree : s.obstacle = none) {fault : Fault}
    (h : s.write ctx es = (.error fault, t)) : s.Untouched t := by
  unfold write at h
  split at h
  · cases h
    exact Or.inl rfl
  · rw [if_neg (by simp [hfree])] at h
    dsimp only at h
    split at h
    · cases h
      exact Or.inr rfl
    · rw [if_neg (by simp [hfree])] at h
      cases h

/-! ### A new rule -/

/-- There is a rule behind the entries, none of which has its identifier. -/
structure Appended (t : FileStore) (es : List Json) (rule : Rule) : Prop where
  fresh : ∀ entry ∈ es, entryId? entry ≠ some rule.id
  entries : t.entries = .ok (es ++ [rule.json])
  temporary : t.temporary = none

theorem appended_of_insert (hes : s.entries = .ok es) (hwhole : WholeItems es)
    (h : s.insert ctx rule = (.ok (), t)) : t.Appended es rule := by
  rcases insert_cases s ctx rule with ⟨fault, hinsert, _⟩ | ⟨es', hes', hfresh, hinsert⟩
  · rw [h] at hinsert
    cases hinsert
  · obtain rfl : es = es' := Except.ok.inj (hes.symm.trans hes')
    have hholds : t.Holds (es ++ [rule.json]) := holds_of_write (hinsert.symm.trans h)
    refine ⟨fun entry hentry => ?_, entries_of_whole hholds.1
      (validItems_concat (valid_entries hes) rule) ?_, hholds.2⟩
    · rw [records_of_entries hes] at hfresh
      exact hfresh _ (List.mem_map_of_mem hentry)
    · rw [Json.wholeItems_iff] at hwhole ⊢
      rw [List.forall_mem_append, List.forall_mem_singleton]
      exact ⟨hwhole, whole_json rule⟩

theorem untouched_of_insert (hfree : s.obstacle = none) {fault : Fault}
    (h : s.insert ctx rule = (.error fault, t)) : s.Untouched t := by
  rcases insert_cases s ctx rule with ⟨fault', hinsert, _⟩ | ⟨es, _, _, hinsert⟩
  · rw [h] at hinsert
    exact Or.inl (Prod.mk.inj hinsert).2
  · exact untouched_of_write hfree (hinsert.symm.trans h)

/-! ### A changed rule -/

/-- The first entry of an identifier is a rule, and the changed rule stands in its place. -/
structure Replaced (t : FileStore) (es : List Json) (id : RowId) (u : Update) : Prop where
  at_first : ∃ before entry after rule, es = before ++ entry :: after ∧
    (∀ e ∈ before, entryId? e ≠ some id) ∧ entryId? entry = some id ∧
    Rule.ofJson? entry = some rule ∧ t.entries = .ok (before ++ (u.apply rule).json :: after)
  temporary : t.temporary = none

/-- A change says that it is done exactly if the write behind it is done. -/
theorem written_cases {written : Except Fault Unit × FileStore} {result : Except Fault Bool}
    (h : (result, t) = (written.1.map fun _ => true, written.2)) :
    result = .ok true ∧ written = (.ok (), t) ∨
      result ≠ .ok true ∧ ∃ fault, written = (.error fault, t) := by
  obtain ⟨outcome, t'⟩ := written
  obtain ⟨rfl, rfl⟩ := Prod.mk.inj h
  cases outcome with
  | ok _ => exact Or.inl ⟨rfl, rfl⟩
  | error fault => exact Or.inr ⟨nofun, fault, rfl⟩

theorem replaced_of_update (hes : s.entries = .ok es) (hwhole : WholeItems es)
    (h : s.update ctx id u = (.ok true, t)) : t.Replaced es id u := by
  rcases update_cases s ctx id u with
    ⟨_, hne, _⟩ | ⟨before, entry, after, rule, hes', hbefore, hrecord, hupdate⟩
  · rw [h] at hne
    exact absurd rfl hne
  · obtain rfl : es = _ := Except.ok.inj (hes.symm.trans hes')
    obtain ⟨hkey, hrule⟩ := Record.mk.inj hrecord
    have hchange : change id u (before ++ entry :: after) = _ := change_first u hbefore hkey
    rw [hrule] at hchange
    have hwritten : s.write ctx (before ++ (u.apply rule).json :: after) = (.ok (), t) :=
      ((written_cases (h.symm.trans hupdate)).resolve_right fun hfails => hfails.1 rfl).2
    have hholds := holds_of_write hwritten
    refine ⟨⟨before, entry, after, rule, rfl, hbefore, hkey, hrule,
      entries_of_whole hholds.1 (validItems_change (valid_entries hes) hchange) ?_⟩, hholds.2⟩
    rw [Json.wholeItems_iff, List.forall_mem_append, List.forall_mem_cons] at hwhole ⊢
    exact ⟨hwhole.1, whole_json _, hwhole.2.2⟩

theorem untouched_of_update (hfree : s.obstacle = none) {result : Except Fault Bool}
    (h : s.update ctx id u = (result, t)) (hne : result ≠ .ok true) : s.Untouched t := by
  rcases update_cases s ctx id u with ⟨hsame, _⟩ | ⟨before, entry, after, rule, _, _, _, hupdate⟩
  · rw [h] at hsame
    exact Or.inl hsame
  · obtain ⟨fault, hfails⟩ := ((written_cases (h.symm.trans hupdate)).resolve_left
      fun hdone => hne hdone.1).2
    exact untouched_of_write hfree hfails

/-! ### Both -/

/-- **One entry at a time.** Let a document be read as entries whose numbers are integers, and let nothing
stand in the way of writing it. Under every context:

* a rule that is stored comes behind the entries, and these are read as they were;
* a rule that is changed comes in place of the first entry of its identifier, and the others are read as
  they were;
* a request with any other outcome leaves the document as it was, to the byte.

None of them leaves a temporary file that was not there before. -/
theorem entries_kept (hfree : s.obstacle = none) (hes : s.entries = .ok es) (hwhole : WholeItems es)
    (ctx : WriteContext) :
    (∀ rule t, s.insert ctx rule = (.ok (), t) → t.Appended es rule) ∧
    (∀ id u t, s.update ctx id u = (.ok true, t) → t.Replaced es id u) ∧
    (∀ rule fault t, s.insert ctx rule = (.error fault, t) → s.Untouched t) ∧
    (∀ id u result t, s.update ctx id u = (result, t) → result ≠ .ok true → s.Untouched t) :=
  ⟨fun _ _ => appended_of_insert hes hwhole, fun _ _ _ => replaced_of_update hes hwhole,
    fun _ _ _ => untouched_of_insert hfree, fun _ _ _ _ => untouched_of_update hfree⟩

/-- A rule between an entry that is none and a negative zero. -/
theorem entries_kept_mixed :
    let rule : Rule := { id := ⟨1000, 1⟩, name := "alpha", color := "#fff" }
    let other : Rule := { rule with id := ⟨1000, 2⟩, name := "gamma" }
    let u : Update := ⟨"beta", "#000", 1⟩
    let es : List Json := [.object [("id", .integer 7)], rule.json, .array [.real ⟨true, 0, by decide⟩]]
    let s : FileStore := { file := .content (documentBytes es) }
    (∃ t, s.insert .background other = (.ok (), t) ∧ t.Appended es other) ∧
      (∃ t, s.update .background rule.id u = (.ok true, t) ∧ t.Replaced es rule.id u) ∧
      (∃ fault t, s.insert { cancelledAfter := some 1 } other = (.error fault, t) ∧ s.Untouched t) ∧
      s.Untouched (s.update .background other.id u).2 := by
  intro rule other u es s
  have hvalid : ValidItems (depthLimit - 2) es :=
    ⟨⟨by decide, List.pairwise_singleton _ _, inRange_natCast (n := 7) (by decide), trivial⟩,
      valid_json rule, ⟨by decide, trivial, trivial⟩, trivial⟩
  have hwhole : WholeItems es := ⟨⟨trivial, trivial⟩, whole_json rule, ⟨rfl, trivial⟩, trivial⟩
  have hes : s.entries = .ok es := entries_of_whole rfl hvalid hwhole
  have hrecords : s.records = [⟨none, none⟩, ⟨some rule.id, some rule⟩, ⟨none, none⟩] := by
    rw [records_of_entries hes, List.map_cons, List.map_cons, List.map_singleton, record_json]
    rfl
  have hfree : s.obstacle = none := rfl
  -- nothing else is needed of the document
  clear_value s es
  have hall := entries_kept hfree hes hwhole
  have hworks : (∃ es, s.entries = .ok es) ∧ s.obstacle = none ∧ WriteContext.background.Passes :=
    ⟨⟨es, hes⟩, hfree, rfl, rfl⟩
  have hfresh : ∀ e ∈ s.records, e.key ≠ some other.id := by
    rw [hrecords]
    decide
  have hinsert := (insert_ok_iff other).mpr ⟨hworks, hfresh⟩
  have hupdate := (update_ok_iff rule.id u).mpr ⟨hworks, rule, by rw [hrecords]; rfl⟩
  have hcancelled : ∃ fault t,
      s.insert { cancelledAfter := some 1 } other = (.error fault, t) := by
    cases h : s.insert { cancelledAfter := some 1 } other with
    | mk result t =>
        cases result with
        | error fault => exact ⟨fault, t, rfl⟩
        | ok _ => cases ((insert_ok_iff other).mp (congrArg Prod.fst h)).1.2.2.2
  have hmissing : (s.update .background other.id u).1 ≠ .ok true := by
    intro h
    obtain ⟨stored, hfirst⟩ := ((update_ok_iff other.id u).mp h).2
    rw [hrecords] at hfirst
    cases hfirst
  obtain ⟨fault, t, hcancelled⟩ := hcancelled
  exact ⟨⟨_, Prod.ext hinsert rfl, (hall _).1 other _ (Prod.ext hinsert rfl)⟩,
    ⟨_, Prod.ext hupdate rfl, (hall _).2.1 rule.id u _ (Prod.ext hupdate rfl)⟩,
    ⟨fault, t, hcancelled, (hall _).2.2.1 other fault t hcancelled⟩,
    (hall _).2.2.2 other.id u _ _ Prod.mk.eta.symm hmissing⟩

end TrafficRules.FileStore
