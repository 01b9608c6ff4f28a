import TrafficRules.Proofs.Document.Rule
import TrafficRules.Proofs.Outcome
import TrafficRules.Proofs.Text.Utf8
import TrafficRules.Store.Basic

/-! # What a store holds

An entry of a store is a `Record`: the identifier by which it is found, and the rule, if it can be
read. Seen in this way the two stores do the same. A rule that is stored gets a record of its own
(`insert_ok`), a change concerns one record (`update_ok`), and a write that fails leaves the records
alone (`insert_error`, `update_fails`).

Each change writes the whole document of a file anew. What is read from there has the records that were
written (`records_documentBytes`), since entries that say the same have the same record. -/

namespace TrafficRules

/-- An entry of a store. -/
structure Record where
  /-- The identifier by which the entry is found. -/
  key : Option RowId
  rule : Option Rule
deriving DecidableEq, Repr

/-! ### Files -/

namespace FileStore

open Json (ValidItems Valid WholeItems depthLimit)

def record (entry : Json) : Record := ⟨entryId? entry, Rule.ofJson? entry⟩

/-- The identifier that a document holds. -/
def idOf? : Document.Node → Option RowId
  | .mapping members => (members.lookup (some "id")).bind fun x =>
      match x with
      | .scalar s => s.text.bind RowId.ofText?
      | _ => none
  | _ => none

theorem lookup_documentMembers (key : String) (members : List (String × Json)) :
    (Json.documentMembers members).lookup (some key) = (members.lookup key).map Json.document := by
  induction members with
  | nil => rfl
  | cons m rest ih =>
      obtain ⟨k, x⟩ := m
      rw [Json.documentMembers, lookup_cons_if, List.lookup_cons]
      by_cases h : key = k
      · rw [if_pos h, h, beq_self_eq_true]
        rfl
      · rw [if_neg h, beq_eq_false_iff_ne.mpr (by simpa using h), ih]

theorem entryId?_eq (entry : Json) : entryId? entry = idOf? entry.document := by
  cases entry with
  | object members =>
      rw [entryId?, Json.member?, Json.document, idOf?, lookup_documentMembers]
      cases members.lookup "id" with
      | none => rfl
      | some x => cases x <;> rfl
  | _ => rfl

/-- Entries that say the same have the same record. -/
theorem record_congr {x y : Json} (h : x.document = y.document) : record x = record y := by
  rw [record, record, entryId?_eq, entryId?_eq, Rule.ofJson?, Rule.ofJson?, h]

theorem records_congr {xs ys : List Json} (h : Json.documents xs = Json.documents ys) :
    xs.map record = ys.map record := by
  induction xs generalizing ys with
  | nil =>
      cases ys with
      | nil => rfl
      | cons y ys => cases h
  | cons x xs ih =>
      cases ys with
      | nil => cases h
      | cons y ys =>
          rw [Json.documents, Json.documents, List.cons.injEq] at h
          rw [List.map_cons, List.map_cons, record_congr h.1, ih h.2]

theorem entryId?_json (r : Rule) : entryId? r.json = some r.id := by
  have hmember : r.json.member? "id" = some r.id.json := by
    rw [Rule.json, Json.member?_ofMembers (show _ = Rule.fieldNames from rfl) (by decide),
      lookup_cons_if, if_pos rfl]
  have hstring : r.id.json.string? = some r.id.text := rfl
  rw [entryId?, hmember, Option.bind_eq_bind, Option.bind_some, hstring, Option.bind_eq_bind,
    Option.bind_some, RowId.ofText?_text]

/-- An entry that is read as a rule is found by the identifier of the rule, or not at all. -/
theorem entryId?_of_ofJson? {entry : Json} {r : Rule} (h : Rule.ofJson? entry = some r) :
    entryId? entry = some r.id ∨ entryId? entry = none := by
  cases entry with
  | object members =>
      obtain ⟨fields, hf, hid⟩ := Rule.id_of_ofNode? h
      rw [Document.Fields.required, Json.lookup_known? (by decide) hf] at hid
      refine Or.inl ?_
      rw [entryId?_eq, Json.document, idOf?, lookup_documentMembers, ← hid]
      cases members.lookup "id" with
      | none => rfl
      | some x => cases x <;> rfl
  | _ => exact Or.inr rfl

/-- What has been read can be written and read again. -/
theorem valid_entries {s : FileStore} {es : List Json} (h : s.entries = .ok es) :
    ValidItems (depthLimit - 2) es := by
  have hitems : ∀ {n : Json.Node} {xs : List Json}, entriesOf?.items? n = some xs →
      ValidItems (depthLimit - 2) xs := by
    intro n xs hxs
    cases n with
    | array items => exact Json.valid_of_ofNodes? _ items hxs
    | _ => cases hxs
  have htree : ∀ {n : Json.Node} {xs : List Json}, entriesOf? n = some xs →
      ValidItems (depthLimit - 2) xs := by
    intro n xs hxs
    unfold entriesOf? at hxs
    split at hxs
    · split at hxs
      · cases hxs
      · split at hxs
        · cases hxs
          trivial
        · exact hitems hxs
        · cases hxs
    · cases hxs
      trivial
    · exact hitems hxs
    · cases hxs
  unfold entries at h
  split at h
  · cases h
    trivial
  · cases h
  · unfold entriesOfBytes at h
    split at h
    · cases h
    · split at h
      · cases h
        trivial
      · split at h
        · rename_i hread
          cases h
          obtain ⟨n, _, hn⟩ := Option.bind_eq_some_iff.mp hread
          exact htree hn
        · cases h

/-- The document of entries is read as the entries of its array. -/
theorem entriesOfBytes_of_ofNodes? {es es' : List Json}
    (h : Json.ofNodes? (depthLimit - 2) (Json.nodes es) = some es') :
    entriesOfBytes (documentBytes es) = .ok es' := by
  have htext := Json.ofText?_pretty (Json.ofMembers [("rules", .array es)])
  rw [entriesOfBytes, documentBytes, Utf8.decode?_encode]
  dsimp only
  have hblank : isBlank (String.ofList ((Json.ofMembers [("rules", .array es)]).prettyText 0)) =
      false := by
    rw [isBlank, String.toList_ofList]
    rfl
  rw [hblank, if_neg (by decide), String.toList_ofList, htext]
  have hentries : entriesOf? (Json.ofMembers [("rules", .array es)]).node = some es' := h
  rw [Option.bind_some, hentries]

/-- The document of entries is read as entries that say the same. -/
theorem entriesOfBytes_documentBytes {es : List Json} (h : ValidItems (depthLimit - 2) es) :
    ∃ es', entriesOfBytes (documentBytes es) = .ok es' ∧ es'.map record = es.map record :=
  ⟨Json.rereadItems es, entriesOfBytes_of_ofNodes? (Json.ofNodes?_nodes (depthLimit - 2) es h),
    records_congr (Json.documents_rereadItems es)⟩

/-- The records of the document; there are none if it cannot be read. -/
def records (s : FileStore) : List Record :=
  match s.entries with
  | .ok es => es.map record
  | .error _ => []

theorem records_of_entries {s : FileStore} {es : List Json} (h : s.entries = .ok es) :
    s.records = es.map record := by rw [records, h]

theorem records_congr_file {s t : FileStore} (h : t.file = s.file) : t.records = s.records := by
  rw [records, records, entries, entries, h]

/-- A write puts a document in place of the old one, or leaves it. -/
theorem write_cases (s : FileStore) (ctx : WriteContext) (es : List Json) :
    ((s.write ctx es).1 = .ok () ∧ (s.write ctx es).2.file = .content (documentBytes es)) ∨
      ((∃ fault, (s.write ctx es).1 = .error fault) ∧ (s.write ctx es).2.file = s.file) := by
  unfold write
  split
  · exact Or.inr ⟨⟨_, rfl⟩, rfl⟩
  · split_ifs
    · exact Or.inr ⟨⟨_, rfl⟩, rfl⟩
    · dsimp only
      split
      · exact Or.inr ⟨⟨_, rfl⟩, rfl⟩
      · split_ifs
        · exact Or.inr ⟨⟨_, rfl⟩, rfl⟩
        · exact Or.inl ⟨rfl, rfl⟩

/-- What is read from a document that was written. -/
theorem records_documentBytes {s : FileStore} {es : List Json}
    (hs : s.file = .content (documentBytes es)) (h : ValidItems (depthLimit - 2) es) :
    s.records = es.map record := by
  obtain ⟨es', hes', hrecords⟩ := entriesOfBytes_documentBytes h
  have hentries : s.entries = .ok es' := by
    rw [entries, hs]
    exact hes'
  rw [records_of_entries hentries, hrecords]

theorem any_entryId?_iff (es : List Json) (id : RowId) :
    (es.any fun entry => entryId? entry = some id) = true ↔
      ∃ e ∈ es.map record, e.key = some id := by
  rw [List.any_eq_true]
  constructor
  · rintro ⟨entry, hentry, hid⟩
    exact ⟨record entry, List.mem_map_of_mem hentry, of_decide_eq_true hid⟩
  · rintro ⟨e, he, hid⟩
    obtain ⟨entry, hentry, rfl⟩ := List.mem_map.mp he
    exact ⟨entry, hentry, decide_eq_true hid⟩

theorem record_json (r : Rule) : record r.json = ⟨some r.id, some r.unnumbered⟩ := by
  rw [record, entryId?_json, Rule.ofJson?_json]

theorem valid_json (r : Rule) : Valid (depthLimit - 2) r.json := r.valid_json 121

theorem whole_json (r : Rule) : r.json.Whole := Json.whole_of_integral _ r.integral_json

/-- Entries whose numbers are integers are read from their document as they are. -/
theorem entries_of_whole {s : FileStore} {es : List Json}
    (hs : s.file = .content (documentBytes es)) (hv : ValidItems (depthLimit - 2) es)
    (hwhole : WholeItems es) : s.entries = .ok es := by
  rw [entries, hs]
  exact entriesOfBytes_of_ofNodes? (Json.ofNodes?_nodes_of_whole hv hwhole)

/-- The document of rules is read as what the rules are written with. -/
theorem entriesOfBytes_json (rules : List Rule) :
    entriesOfBytes (documentBytes (rules.map Rule.json)) = .ok (rules.map Rule.json) := by
  have hvalid : ValidItems (depthLimit - 2) (rules.map Rule.json) := by
    rw [Json.validItems_iff]
    intro x hx
    obtain ⟨r, _, rfl⟩ := List.mem_map.mp hx
    exact valid_json r
  have hwhole : WholeItems (rules.map Rule.json) := by
    rw [Json.wholeItems_iff]
    intro x hx
    obtain ⟨r, _, rfl⟩ := List.mem_map.mp hx
    exact whole_json r
  exact entriesOfBytes_of_ofNodes? (Json.ofNodes?_nodes_of_whole hvalid hwhole)

theorem filterMap_ofJson?_json (rules : List Rule) :
    (rules.map Rule.json).filterMap Rule.ofJson? = rules.map Rule.unnumbered := by
  induction rules with
  | nil => rfl
  | cons r rest ih =>
      simp only [List.map_cons, List.filterMap_cons_some (Rule.ofJson?_json r), ih]

/-- A change concerns the first entry of the identifier. -/
theorem change_ok {id : RowId} {u : Update} {es es' : List Json}
    (h : change id u es = .ok (some es')) : ∃ before entry after rule, es = before ++ entry :: after ∧
      entryId? entry = some id ∧ Rule.ofJson? entry = some rule ∧
      es' = before ++ (u.apply rule).json :: after := by
  induction es generalizing es' with
  | nil => cases h
  | cons entry rest ih =>
      rw [change] at h
      split_ifs at h with hid
      · split at h
        · cases h
        · rename_i rule hrule
          cases h
          exact ⟨[], entry, rest, rule, rfl, hid, hrule, rfl⟩
      · cases hrest : change id u rest with
        | error fault =>
            rw [hrest] at h
            cases h
        | ok changed =>
            rw [hrest] at h
            cases changed with
            | none => cases h
            | some es'' =>
                cases h
                obtain ⟨before, e, after, rule, rfl, he, hr, rfl⟩ := ih hrest
                exact ⟨entry :: before, e, after, rule, rfl, he, hr, rfl⟩

theorem validItems_concat {es : List Json} (h : ValidItems (depthLimit - 2) es) (r : Rule) :
    ValidItems (depthLimit - 2) (es ++ [r.json]) := by
  rw [Json.validItems_iff] at h ⊢
  intro x hx
  rcases List.mem_append.mp hx with hx | hx
  · exact h x hx
  · rw [List.mem_singleton.mp hx]
    exact valid_json r

theorem validItems_change {id : RowId} {u : Update} {es es' : List Json}
    (h : ValidItems (depthLimit - 2) es) (hc : change id u es = .ok (some es')) :
    ValidItems (depthLimit - 2) es' := by
  obtain ⟨before, entry, after, rule, rfl, _, _, rfl⟩ := change_ok hc
  rw [Json.validItems_iff] at h ⊢
  intro x hx
  rcases List.mem_append.mp hx with hx | hx
  · exact h x (List.mem_append_left _ hx)
  · rcases List.mem_cons.mp hx with rfl | hx
    · exact valid_json _
    · exact h x (List.mem_append_right _ (List.mem_cons_of_mem _ hx))

variable {s s' : FileStore} {ctx : WriteContext}

/-- A rule is written behind the entries, unless they cannot be read or one has its identifier. -/
theorem insert_cases (s : FileStore) (ctx : WriteContext) (rule : Rule) :
    (∃ fault, s.insert ctx rule = (.error fault, s) ∧
      ∀ es, s.entries = .ok es → ∃ e ∈ s.records, e.key = some rule.id) ∨
    ∃ es, s.entries = .ok es ∧ (∀ e ∈ s.records, e.key ≠ some rule.id) ∧
      s.insert ctx rule = s.write ctx (es ++ [rule.json]) := by
  unfold insert
  cases hentries : s.entries with
  | error fault => exact Or.inl ⟨fault, rfl, fun es hes => nomatch hes⟩
  | ok es =>
      have hstored := any_entryId?_iff es rule.id
      rw [← records_of_entries hentries] at hstored
      dsimp only
      split_ifs with hany
      · exact Or.inl ⟨_, rfl, fun _ _ => hstored.mp hany⟩
      · refine Or.inr ⟨es, rfl, fun e he hid => ?_, rfl⟩
        exact hany (hstored.mpr ⟨e, he, hid⟩)

/-- A document that could be read can be read behind a write. -/
theorem readable_write {es new : List Json} (h : s.entries = .ok es)
    (hnew : ValidItems (depthLimit - 2) new) : ∃ es', (s.write ctx new).2.entries = .ok es' := by
  rcases write_cases s ctx new with ⟨_, hfile⟩ | ⟨_, hfile⟩
  · obtain ⟨es', hes', _⟩ := entriesOfBytes_documentBytes hnew
    exact ⟨es', by rw [entries, hfile]; exact hes'⟩
  · exact ⟨es, by rw [entries, hfile]; exact h⟩

theorem readable_insert {es : List Json} (h : s.entries = .ok es) (ctx : WriteContext)
    (rule : Rule) : ∃ es', (s.insert ctx rule).2.entries = .ok es' := by
  rcases insert_cases s ctx rule with ⟨fault, hinsert, _⟩ | ⟨es₁, hes₁, _, hinsert⟩
  · rw [hinsert]
    exact ⟨es, h⟩
  · rw [hinsert]
    exact readable_write hes₁ (validItems_concat (valid_entries hes₁) rule)

theorem readable_update {es : List Json} (h : s.entries = .ok es) (ctx : WriteContext)
    (id : RowId) (u : Update) : ∃ es', (s.update ctx id u).2.entries = .ok es' := by
  unfold update
  split
  · exact ⟨es, h⟩
  · exact ⟨es, h⟩
  · rename_i new hchange
    obtain ⟨es₁, hes₁, hchange⟩ := bind_ok_iff.mp hchange
    exact readable_write hes₁ (validItems_change (valid_entries hes₁) hchange)

theorem insert_ok {rule : Rule} (h : s.insert ctx rule = (.ok (), s')) :
    (∀ r ∈ s.records, r.key ≠ some rule.id) ∧
      s'.records = s.records ++ [⟨some rule.id, some rule.unnumbered⟩] := by
  rcases insert_cases s ctx rule with ⟨fault, hinsert, _⟩ | ⟨es, hes, hfree, hinsert⟩
  · rw [hinsert] at h
    cases h
  · rw [hinsert] at h
    refine ⟨hfree, ?_⟩
    rcases write_cases s ctx (es ++ [rule.json]) with ⟨_, hfile⟩ | ⟨⟨fault, hfault⟩, _⟩
    · rw [h] at hfile
      rw [records_of_entries hes,
        records_documentBytes hfile (validItems_concat (valid_entries hes) rule), List.map_append,
        List.map_singleton, record_json]
    · rw [h] at hfault
      cases hfault

/-- A rule that could not be stored leaves the document alone. -/
theorem file_of_insert_error {rule : Rule} {fault : Fault}
    (h : s.insert ctx rule = (.error fault, s')) : s'.file = s.file := by
  rcases insert_cases s ctx rule with ⟨fault', hinsert, _⟩ | ⟨es, _, _, hinsert⟩
  · rw [hinsert] at h
    cases h
    rfl
  · rw [hinsert] at h
    rcases write_cases s ctx (es ++ [rule.json]) with ⟨hok, _⟩ | ⟨_, hfile⟩
    · rw [h] at hok
      cases hok
    · rw [h] at hfile
      exact hfile

theorem insert_error {rule : Rule} {fault : Fault} (h : s.insert ctx rule = (.error fault, s')) :
    s'.records = s.records := records_congr_file (file_of_insert_error h)

theorem update_ok {id : RowId} {u : Update} (h : s.update ctx id u = (.ok true, s')) :
    ∃ before after stored, s.records = before ++ ⟨some id, some stored⟩ :: after ∧
      stored.id = id ∧
      s'.records = before ++ ⟨some id, some (u.apply stored).unnumbered⟩ :: after := by
  unfold update at h
  split at h
  · cases h
  · cases h
  · rename_i es' hchange
    obtain ⟨es, hes, hchange⟩ := bind_ok_iff.mp hchange
    have hvalid := validItems_change (valid_entries hes) hchange
    obtain ⟨before, entry, after, rule, rfl, hid, hrule, rfl⟩ := change_ok hchange
    have hrid : rule.id = id := by
      rcases entryId?_of_ofJson? hrule with hkey | hkey
      · rw [hid] at hkey
        exact (Option.some.inj hkey).symm
      · rw [hid] at hkey
        cases hkey
    rcases write_cases s ctx (before ++ (u.apply rule).json :: after) with
      ⟨_, hfile⟩ | ⟨⟨fault, hfault⟩, _⟩
    · have hs' : s' = (s.write ctx (before ++ (u.apply rule).json :: after)).2 :=
        (congrArg Prod.snd h).symm
      rw [← hs'] at hfile
      refine ⟨before.map record, after.map record, rule, ?_, hrid, ?_⟩
      · rw [records_of_entries hes, List.map_append, List.map_cons, record, hid, hrule]
      · rw [records_documentBytes hfile hvalid, List.map_append, List.map_cons, record_json]
        rw [show (u.apply rule).id = id from hrid]
    · dsimp only at h
      rw [hfault] at h
      cases h

theorem update_fails {id : RowId} {u : Update} {result : Except Fault Bool}
    (h : s.update ctx id u = (result, s')) (hne : result ≠ .ok true) : s'.records = s.records := by
  unfold update at h
  split at h
  · cases h
    rfl
  · cases h
    rfl
  · rename_i es' _
    rcases write_cases s ctx es' with ⟨hok, _⟩ | ⟨_, hfile⟩
    · dsimp only at h
      rw [hok] at h
      exact absurd (congrArg Prod.fst h).symm hne
    · exact records_congr_file ((congrArg (fun p => p.2.file) h).symm.trans hfile)

end FileStore

/-! ### Memory -/

namespace MemoryStore

def record (r : Rule) : Record := ⟨some r.id, some r⟩

def records (s : MemoryStore) : List Record := s.rules.map record

theorem place_eq (rule : Rule) (rules : List Rule) :
    ∃ before after, rules = before ++ after ∧ place rule rules = before ++ rule :: after := by
  induction rules with
  | nil => exact ⟨[], [], rfl, rfl⟩
  | cons r rest ih =>
      rw [place]
      split_ifs
      · exact ⟨[], r :: rest, rfl, rfl⟩
      · obtain ⟨before, after, hrest, hplace⟩ := ih
        exact ⟨r :: before, after, by rw [hrest]; rfl, by rw [hplace]; rfl⟩

theorem change_eq {id : RowId} (u : Update) {rules : List Rule}
    (h : (rules.find? fun r => r.id = id).isSome) : ∃ before r after, r.id = id ∧
      rules = before ++ r :: after ∧ change id u rules = before ++ u.apply r :: after := by
  induction rules with
  | nil => cases h
  | cons r rest ih =>
      rw [change]
      split_ifs with hid
      · exact ⟨[], r, rest, hid, rfl, rfl⟩
      · rw [List.find?_cons_of_neg (by simpa using hid)] at h
        obtain ⟨before, s, after, hs, hrest, hchange⟩ := ih h
        exact ⟨r :: before, s, after, hs, by rw [hrest]; rfl, by rw [hchange]; rfl⟩

variable {s s' : MemoryStore} {ctx : WriteContext}

theorem insert_ok {rule : Rule} (h : s.insert ctx rule = .ok s') :
    (∀ r ∈ s.records, r.key ≠ some rule.id) ∧ ∃ before after,
      s.records = before ++ after ∧
      s'.records = before ++ ⟨some rule.id, some rule⟩ :: after := by
  unfold insert at h
  obtain ⟨_, _, h⟩ := bind_ok_iff.mp h
  obtain ⟨hfree, h⟩ := guard_ok_iff.mp h
  cases h
  obtain ⟨before, after, hrules, hplace⟩ := place_eq rule s.rules
  refine ⟨fun r hr he => hfree ?_, before.map record, after.map record, ?_, ?_⟩
  · obtain ⟨stored, hstored, rfl⟩ := List.mem_map.mp hr
    exact List.any_eq_true.mpr ⟨stored, hstored, decide_eq_true (Option.some.inj he)⟩
  · rw [records, hrules, List.map_append]
  · rw [records, hplace, List.map_append, List.map_cons]
    rfl

theorem update_ok {id : RowId} {u : Update} (h : s.update ctx id u = .ok (true, s')) :
    ∃ before after stored, s.records = before ++ ⟨some id, some stored⟩ :: after ∧
      stored.id = id ∧ s'.records = before ++ ⟨some id, some (u.apply stored)⟩ :: after := by
  unfold update at h
  obtain ⟨_, _, h⟩ := bind_ok_iff.mp h
  split_ifs at h with hfound
  · cases h
    obtain ⟨before, r, after, hid, hrules, hchange⟩ := change_eq u hfound
    refine ⟨before.map record, after.map record, r, ?_, hid, ?_⟩
    · rw [records, hrules, List.map_append, List.map_cons, record, hid]
    · rw [records, hchange, List.map_append, List.map_cons, record,
        show (u.apply r).id = id from hid]
  · cases h

theorem update_missing {id : RowId} {u : Update} (h : s.update ctx id u = .ok (false, s')) :
    s' = s := by
  unfold update at h
  obtain ⟨_, _, h⟩ := bind_ok_iff.mp h
  split_ifs at h
  · cases h
  · cases h
    rfl

end MemoryStore

/-! ### Both -/

namespace Store

def records : Store → List Record
  | .memory s => s.records
  | .file s => s.records

/-- The stored rules that can be read. -/
def rules (store : Store) : List Rule :=
  match store.findAll with
  | .ok rules => rules
  | .error _ => []

theorem rules_perm (store : Store) : store.rules.Perm (store.records.filterMap Record.rule) := by
  cases store with
  | memory s =>
      have hrules : s.records.filterMap Record.rule = s.rules := by
        rw [MemoryStore.records, List.filterMap_map]
        exact List.filterMap_some
      rw [records, hrules]
      exact List.Perm.refl _
  | file s =>
      rw [records, FileStore.records, rules, findAll, FileStore.findAll]
      cases s.entries with
      | error fault => exact List.Perm.nil
      | ok es =>
          rw [List.filterMap_map]
          exact List.mergeSort_perm _ _

theorem mem_rules_iff {store : Store} {rule : Rule} :
    rule ∈ store.rules ↔ ∃ r ∈ store.records, r.rule = some rule := by
  rw [store.rules_perm.mem_iff, List.mem_filterMap]

variable {store store' : Store} {ctx : WriteContext}

/-- A rule that is stored gets a record of its own. -/
theorem insert_ok {rule : Rule} (h : store.insert ctx rule = (.ok (), store')) :
    (∀ r ∈ store.records, r.key ≠ some rule.id) ∧ ∃ before after stored,
      store.records = before ++ after ∧
      store'.records = before ++ ⟨some rule.id, some stored⟩ :: after ∧
      stored.unnumbered = rule.unnumbered := by
  cases store with
  | memory s =>
      cases hs : s.insert ctx rule with
      | error fault =>
          simp only [insert, hs] at h
          cases h
      | ok s' =>
          simp only [insert, hs] at h
          cases h
          obtain ⟨hfree, before, after, hold, hnew⟩ := MemoryStore.insert_ok hs
          exact ⟨hfree, before, after, rule, hold, hnew, rfl⟩
  | file s =>
      obtain ⟨hresult, hstore⟩ := Prod.mk.inj h
      obtain ⟨hfree, hnew⟩ := FileStore.insert_ok (Prod.ext hresult rfl)
      subst hstore
      exact ⟨hfree, s.records, [], rule.unnumbered, (List.append_nil _).symm, hnew,
        rule.unnumbered_unnumbered⟩

theorem insert_error {rule : Rule} {fault : Fault}
    (h : store.insert ctx rule = (.error fault, store')) : store'.records = store.records := by
  cases store with
  | memory s =>
      cases hs : s.insert ctx rule with
      | error fault =>
          simp only [insert, hs] at h
          cases h
          rfl
      | ok s' =>
          simp only [insert, hs] at h
          cases h
  | file s =>
      obtain ⟨hresult, hstore⟩ := Prod.mk.inj h
      subst hstore
      exact FileStore.insert_error (Prod.ext hresult rfl)

/-- A change concerns one record. -/
theorem update_ok {id : RowId} {u : Update} (h : store.update ctx id u = (.ok true, store')) :
    ∃ before after stored changed, store.records = before ++ ⟨some id, some stored⟩ :: after ∧
      store'.records = before ++ ⟨some id, some changed⟩ :: after ∧ stored.id = id ∧
      changed.unnumbered = (u.apply stored).unnumbered := by
  cases store with
  | memory s =>
      cases hs : s.update ctx id u with
      | error fault =>
          simp only [update, hs] at h
          cases h
      | ok result =>
          obtain ⟨found, s'⟩ := result
          simp only [update, hs] at h
          cases h
          obtain ⟨before, after, stored, hold, hid, hnew⟩ := MemoryStore.update_ok hs
          exact ⟨before, after, stored, _, hold, hnew, hid, rfl⟩
  | file s =>
      obtain ⟨hresult, hstore⟩ := Prod.mk.inj h
      subst hstore
      obtain ⟨before, after, stored, hold, hid, hnew⟩ :=
        FileStore.update_ok (Prod.ext hresult rfl)
      exact ⟨before, after, stored, _, hold, hnew, hid, Rule.unnumbered_unnumbered _⟩

/-- A store whose rules could be listed can list them behind a write. -/
theorem readable_insert {rules : List Rule} (h : store.findAll = .ok rules) (ctx : WriteContext)
    (rule : Rule) : ∃ rules', (store.insert ctx rule).2.findAll = .ok rules' := by
  cases store with
  | memory s =>
      rw [insert]
      cases s.insert ctx rule with
      | error fault => exact ⟨_, rfl⟩
      | ok s' => exact ⟨_, rfl⟩
  | file s =>
      obtain ⟨es, hes, _⟩ := bind_ok_iff.mp h
      obtain ⟨es', hes'⟩ := FileStore.readable_insert hes ctx rule
      exact ⟨_, bind_ok_iff.mpr ⟨es', hes', rfl⟩⟩

theorem readable_update {rules : List Rule} (h : store.findAll = .ok rules) (ctx : WriteContext)
    (id : RowId) (u : Update) : ∃ rules', (store.update ctx id u).2.findAll = .ok rules' := by
  cases store with
  | memory s =>
      rw [update]
      cases s.update ctx id u with
      | error fault => exact ⟨_, rfl⟩
      | ok result => exact ⟨_, rfl⟩
  | file s =>
      obtain ⟨es, hes, _⟩ := bind_ok_iff.mp h
      obtain ⟨es', hes'⟩ := FileStore.readable_update hes ctx id u
      exact ⟨_, bind_ok_iff.mpr ⟨es', hes', rfl⟩⟩

theorem update_fails {id : RowId} {u : Update} {result : Except Fault Bool}
    (h : store.update ctx id u = (result, store')) (hne : result ≠ .ok true) :
    store'.records = store.records := by
  cases store with
  | memory s =>
      cases hs : s.update ctx id u with
      | error fault =>
          simp only [update, hs] at h
          cases h
          rfl
      | ok result =>
          obtain ⟨found, s'⟩ := result
          simp only [update, hs] at h
          cases h
          cases found with
          | true => exact absurd rfl hne
          | false => rw [MemoryStore.update_missing hs]
  | file s =>
      obtain ⟨hresult, hstore⟩ := Prod.mk.inj h
      subst hstore
      exact FileStore.update_fails (Prod.ext hresult rfl) hne

end Store
end TrafficRules
