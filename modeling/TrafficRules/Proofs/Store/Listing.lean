import TrafficRules.Proofs.Store.Working

/-! # Listing and finding

A file lists the rules that can be read from its entries, however these are written. A new rule is
refused, and a rule is changed, by the member `id` of an entry. The two agree on an identifier exactly
if the first entry that is found by it can be read (`FileStore.recognizes_iff`).

Otherwise no entry is found by the identifier, though one may be listed, since a sequence has no members;
or the first one that is found is no rule, though a later one may be. Then the identifier can be stored
again but not changed, or neither. -/

namespace TrafficRules

/-- A rule is also read from a sequence of its fields, the last ones left out. -/
theorem Rule.ofJson?_sequence (id : RowId) (name color : String) :
    Rule.ofJson? (.array [id.json, .string name, .string color]) = some { id, name, color } := by
  have hfields : Source.json.fields? Rule.fieldNames
      (Json.array [id.json, .string name, .string color]).document =
      some [("id", id.json.document), ("name", (Json.string name).document),
        ("color", (Json.string color).document)] := rfl
  rw [Rule.ofJson?, Rule.ofNode?, hfields, Option.bind_eq_bind, Option.bind_some,
    Document.Fields.required_of_lookup (x := id.json.document) rfl, RowId.ofNode?_json]
  rfl

/-- A record that is found by an identifier has it and stands in the list. -/
theorem Record.mem_of_first? {id : RowId} {records : List Record} {e : Record}
    (h : Record.first? id records = some e) : e.key = some id ∧ e ∈ records :=
  ⟨by simpa using List.find?_some h, List.mem_of_find?_eq_some h⟩

namespace FileStore

variable {s : FileStore} {ctx : WriteContext} {rules : List Rule} {es : List Json} {id : RowId}

/-! ### Listing -/

theorem findAll_of_readable (h : s.entries = .ok es) : s.findAll =
    .ok ((s.records.filterMap Record.rule).mergeSort fun a b => a.id ≤ b.id) := by
  rw [records_of_entries h, List.filterMap_map, findAll, h]
  rfl

theorem entries_of_findAll (h : s.findAll = .ok rules) : ∃ es, s.entries = .ok es := by
  rw [findAll] at h
  cases hes : s.entries with
  | ok es => exact ⟨es, rfl⟩
  | error fault =>
      rw [hes] at h
      cases h

/-- A change of a rule that can be read changes one place of the list. -/
theorem findAll_of_update (hfind : s.findAll = .ok rules) {u : Update} {t : FileStore}
    (h : s.update ctx id u = (.ok true, t)) : ∃ front stored back, rules = front ++ stored :: back ∧
      stored.id = id ∧ t.findAll = .ok (front ++ u.apply stored :: back) := by
  obtain ⟨es, hes⟩ := entries_of_findAll hfind
  obtain ⟨before, stored, after, hrecords, _, hrecords'⟩ := first_of_update h
  have hid : stored.id = id := by
    have hmem : ⟨some id, some stored⟩ ∈ (Store.file s).records := by
      show _ ∈ s.records
      rw [hrecords]
      exact List.mem_append_right _ List.mem_cons_self
    exact Record.id_of_keyed ((Store.file s).keyed hmem rfl) rfl
  obtain ⟨front, back, hold, hnew⟩ := Rule.mergeSort_replace (before.filterMap Record.rule)
    (after.filterMap Record.rule) (u.apply_id stored)
  obtain ⟨es', hes'⟩ := readable_update hes ctx id u
  rw [h] at hes'
  have hcons : ∀ rule, (⟨some id, some rule⟩ :: after : List Record).filterMap Record.rule =
      rule :: after.filterMap Record.rule := fun _ => rfl
  refine ⟨front, stored, back, ?_, hid, ?_⟩
  · rw [findAll_of_readable hes, hrecords, List.filterMap_append, hcons, hold] at hfind
    exact (Except.ok.inj hfind).symm
  · rw [findAll_of_readable hes', hrecords', List.filterMap_append, hcons, hnew]

/-! ### Finding -/

theorem insert_of_found (hes : s.entries = .ok es) {e : Record}
    (h : Record.first? id s.records = some e) {rule : Rule} (hid : rule.id = id) :
    s.insert ctx rule = (.error (.store (.alreadyStored id)), s) := by
  subst hid
  obtain ⟨hkey, he⟩ := Record.mem_of_first? h
  rw [records_of_entries hes] at he
  rw [insert, hes]
  exact if_pos ((any_entryId?_iff es rule.id).mpr ⟨e, he, hkey⟩)

theorem insert_of_not_found (hes : s.entries = .ok es) (hfree : s.obstacle = none)
    (hctx : ctx.Passes) (h : Record.first? id s.records = none) {rule : Rule} (hid : rule.id = id) :
    (s.insert ctx rule).1 = .ok () := by
  subst hid
  exact (insert_ok_iff rule).mpr ⟨⟨⟨es, hes⟩, hfree, hctx⟩, by simpa [Record.first?] using h⟩

theorem update_of_not_found (hes : s.entries = .ok es) (h : Record.first? id s.records = none)
    (u : Update) : s.update ctx id u = (.ok false, s) := by
  have hentries : ∀ entry ∈ es, entryId? entry ≠ some id := by
    rw [first?_of_entries hes, Option.map_eq_none_iff] at h
    simpa using h
  rw [update, hes, show (Except.ok es : Except Fault _).bind _ = _ from change_none u hentries]

theorem update_of_unreadable (hes : s.entries = .ok es)
    (h : Record.first? id s.records = some ⟨some id, none⟩) (u : Update) :
    s.update ctx id u = (.error (.store (.unreadableRule id)), s) := by
  rw [first?_of_entries hes, Option.map_eq_some_iff] at h
  obtain ⟨entry, hentry, hrecord⟩ := h
  obtain ⟨hkey, hrule⟩ := Record.mk.inj hrecord
  obtain ⟨_, before, after, rfl, hbefore⟩ := List.find?_eq_some_iff_append.mp hentry
  replace hbefore : ∀ e ∈ before, entryId? e ≠ some id := by simpa using hbefore
  have hchange : change id u (before ++ entry :: after) = _ := change_first u hbefore hkey
  rw [hrule] at hchange
  rw [update, hes, show (Except.ok _ : Except Fault _).bind _ = _ from hchange]

/-! ### Both -/

/-- A store that lists some rules takes an identifier for stored: a new rule under it is refused, and by
a change one of the listed rules, which has this identifier, is replaced by the changed one. -/
structure Recognizes (s : FileStore) (ctx : WriteContext) (rules : List Rule) (id : RowId) : Prop where
  refused : ∀ rule : Rule, rule.id = id →
    s.insert ctx rule = (.error (.store (.alreadyStored id)), s)
  changed : ∀ u : Update, ∃ t front stored back, s.update ctx id u = (.ok true, t) ∧
    rules = front ++ stored :: back ∧ stored.id = id ∧
    t.findAll = .ok (front ++ u.apply stored :: back)

/-- **Listing and finding.** A store that can be read and written takes an identifier for stored exactly
if the first entry that is found by it is a rule. This is so for the identifiers of the rules that are
listed and for all others. If no entry is found by the identifier, a rule can be stored under it and none
can be changed, and if the first one is no rule, neither can be done; what cannot be done leaves the store
as it is. -/
theorem recognizes_iff (hfree : s.obstacle = none) (hctx : ctx.Passes)
    (hfind : s.findAll = .ok rules) (id : RowId) :
    (s.Recognizes ctx rules id ↔
      ∃ stored, Record.first? id s.records = some ⟨some id, some stored⟩) ∧
    (Record.first? id s.records = none →
      (∀ rule : Rule, rule.id = id → (s.insert ctx rule).1 = .ok ()) ∧
        ∀ u, s.update ctx id u = (.ok false, s)) ∧
    (Record.first? id s.records = some ⟨some id, none⟩ →
      (∀ rule : Rule, rule.id = id →
          s.insert ctx rule = (.error (.store (.alreadyStored id)), s)) ∧
        ∀ u, s.update ctx id u = (.error (.store (.unreadableRule id)), s)) := by
  obtain ⟨es, hes⟩ := entries_of_findAll hfind
  refine ⟨⟨fun h => ?_, fun ⟨stored, hfirst⟩ => ?_⟩, fun hnone => ?_, fun hfirst => ?_⟩
  · -- one change tells what is found
    obtain ⟨t, _, _, _, hupdate, _⟩ := h.changed ⟨"", "", 0⟩
    exact ((update_ok_iff id ⟨"", "", 0⟩).mp (congrArg Prod.fst hupdate)).2
  · refine ⟨fun rule hid => insert_of_found hes hfirst hid, fun u => ?_⟩
    have hok := (update_ok_iff id u).mpr ⟨⟨⟨es, hes⟩, hfree, hctx⟩, stored, hfirst⟩
    have hupdate : s.update ctx id u = (.ok true, (s.update ctx id u).2) := Prod.ext hok rfl
    obtain ⟨front, old, back, hrules, hid, hlist⟩ := findAll_of_update hfind hupdate
    exact ⟨_, front, old, back, hupdate, hrules, hid, hlist⟩
  · exact ⟨fun rule hid => insert_of_not_found hes hfree hctx hnone hid,
      update_of_not_found hes hnone⟩
  · exact ⟨fun rule hid => insert_of_found hes hfirst hid, update_of_unreadable hes hfirst⟩

/-- A rule behind an entry without identifier. -/
theorem recognizes_iff_readable :
    let rule : Rule := { id := ⟨1000, 1⟩, name := "alpha", color := "#fff" }
    let s : FileStore := { file := .content (documentBytes [.object [("id", .integer 7)], rule.json]) }
    s.Recognizes .background [rule] rule.id := by
  intro rule s
  have hvalid : Json.Valid (Json.depthLimit - 2) (.object [("id", .integer 7)]) :=
    ⟨by decide, List.pairwise_singleton _ _, inRange_natCast (n := 7) (by decide), trivial⟩
  have hes : s.entries = .ok [.object [("id", .integer 7)], rule.json] :=
    entries_of_whole rfl ⟨hvalid, valid_json rule, trivial⟩
      ⟨⟨trivial, trivial⟩, whole_json rule, trivial⟩
  have hrecords : s.records = [⟨none, none⟩, ⟨some rule.id, some rule⟩] := by
    rw [records_of_entries hes, List.map_cons, List.map_singleton, record_json]
    rfl
  have hfind : s.findAll = .ok [rule] := by
    rw [findAll_of_readable hes, hrecords]
    exact congrArg _ (List.mergeSort_singleton rule)
  refine (recognizes_iff rfl ⟨rfl, rfl⟩ hfind rule.id).1.mpr ⟨rule, ?_⟩
  rw [hrecords]
  rfl

/-- A rule that is written as a sequence is listed; another one is stored under its identifier, and it
cannot be changed. -/
theorem sequence_not_found :
    let rule : Rule := { id := ⟨1000, 1⟩, name := "alpha", color := "#fff" }
    let s : FileStore := { file := .content (documentBytes
      [.array [rule.id.json, .string rule.name, .string rule.color]]) }
    s.findAll = .ok [rule] ∧ (s.insert .background rule).1 = .ok () ∧
      s.update .background rule.id ⟨"beta", "#000", 1⟩ = (.ok false, s) := by
  intro rule s
  have hes : s.entries = .ok [.array [rule.id.json, .string rule.name, .string rule.color]] :=
    entries_of_whole rfl ⟨⟨by decide, trivial, trivial, trivial, trivial⟩, trivial⟩
      ⟨⟨trivial, trivial, trivial, trivial⟩, trivial⟩
  have hread := Rule.ofJson?_sequence rule.id rule.name rule.color
  have hnone : Record.first? rule.id s.records = none := by
    rw [first?_of_entries hes]
    rfl
  refine ⟨?_, insert_of_not_found hes rfl ⟨rfl, rfl⟩ hnone rfl, update_of_not_found hes hnone _⟩
  rw [findAll_of_readable hes, records_of_entries hes, List.map_singleton, record, hread]
  exact congrArg _ (List.mergeSort_singleton rule)

end FileStore
end TrafficRules
