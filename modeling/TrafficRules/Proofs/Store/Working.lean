import TrafficRules.Proofs.Store.Interchange

/-! # Stores that can be written

A store *works* under a context (`Store.Works`) if nothing stands in the way of a write. This is all
that storing a rule takes, but for an identifier that no record has (`Store.insert_ok_iff`). A rule
that could not be stored has left the contents of the store as they were
(`Store.sameContents_of_insert`); no more than a temporary file can be left over.

A change concerns the first record of an identifier, and takes a store that works and a rule that can
be read there (`Store.update_ok_iff`). Then this record has the changed rule and the others are as they
were (`Store.first_of_update`). -/

namespace TrafficRules

/-- The first record with an identifier. -/
def Record.first? (id : RowId) (records : List Record) : Option Record :=
  records.find? fun e => e.key = some id

namespace FileStore

variable {s : FileStore} {ctx : WriteContext}

theorem write_ok_iff (entries : List Json) :
    (s.write ctx entries).1 = .ok () ↔ s.obstacle = none ∧ ctx.Passes := by
  constructor
  · intro h
    unfold write at h
    split at h
    · cases h
    · rename_i hfirst
      split_ifs at h with htemporary
      dsimp only at h
      split at h
      · cases h
      · rename_i hlast
        split_ifs at h with hreplacement
        refine ⟨?_, hfirst, hlast⟩
        cases hobstacle : s.obstacle with
        | none => rfl
        | some obstacle =>
            cases obstacle with
            | temporary => exact absurd hobstacle htemporary
            | replacement => exact absurd hobstacle hreplacement
  · rintro ⟨hfree, hctx⟩
    rw [write_of_passes hctx hfree]

/-- A document takes a rule if it can be read and written and no entry has the identifier. -/
theorem insert_ok_iff (rule : Rule) : (s.insert ctx rule).1 = .ok () ↔
    ((∃ es, s.entries = .ok es) ∧ s.obstacle = none ∧ ctx.Passes) ∧
      ∀ e ∈ s.records, e.key ≠ some rule.id := by
  rcases insert_cases s ctx rule with ⟨fault, hinsert, hstored⟩ | ⟨es, hes, hfree, hinsert⟩
  · rw [hinsert]
    constructor
    · intro h
      cases h
    · rintro ⟨⟨⟨es, hes⟩, _⟩, hfree⟩
      obtain ⟨e, he, hid⟩ := hstored es hes
      exact absurd hid (hfree e he)
  · rw [hinsert, write_ok_iff]
    exact ⟨fun h => ⟨⟨⟨es, hes⟩, h⟩, hfree⟩, fun h => h.1.2⟩

theorem change_none {id : RowId} (u : Update) {es : List Json}
    (h : ∀ entry ∈ es, entryId? entry ≠ some id) : change id u es = .ok none := by
  induction es with
  | nil => rfl
  | cons entry rest ih =>
      obtain ⟨hentry, hrest⟩ := List.forall_mem_cons.mp h
      rw [change, if_neg hentry, ih hrest]
      rfl

theorem change_first {id : RowId} (u : Update) {before after : List Json} {entry : Json}
    (h : ∀ e ∈ before, entryId? e ≠ some id) (hid : entryId? entry = some id) :
    change id u (before ++ entry :: after) = match Rule.ofJson? entry with
      | none => .error (.store (.unreadableRule id))
      | some rule => .ok (some (before ++ (u.apply rule).json :: after)) := by
  induction before with
  | nil =>
      rw [List.nil_append, change, if_pos hid]
      rfl
  | cons e rest ih =>
      obtain ⟨he, hrest⟩ := List.forall_mem_cons.mp h
      rw [List.cons_append, change, if_neg he, ih hrest]
      cases Rule.ofJson? entry <;> rfl

theorem first?_of_entries {es : List Json} (h : s.entries = .ok es) (id : RowId) :
    Record.first? id s.records = (es.find? fun entry => entryId? entry = some id).map record := by
  rw [Record.first?, records_of_entries h, List.find?_map]
  rfl

/-- A change is written if the first entry of the identifier is a rule. -/
theorem update_cases (s : FileStore) (ctx : WriteContext) (id : RowId) (u : Update) :
    ((s.update ctx id u).2 = s ∧ (s.update ctx id u).1 ≠ .ok true ∧
      ∀ rule, Record.first? id s.records ≠ some ⟨some id, some rule⟩) ∨
    ∃ before entry after rule, s.entries = .ok (before ++ entry :: after) ∧
      (∀ e ∈ before, entryId? e ≠ some id) ∧ record entry = ⟨some id, some rule⟩ ∧
      s.update ctx id u =
        let written := s.write ctx (before ++ (u.apply rule).json :: after)
        (written.1.map fun _ => true, written.2) := by
  rw [update]
  cases hes : s.entries with
  | error fault =>
      refine Or.inl ⟨rfl, by simp [Except.bind], fun rule h => ?_⟩
      rw [Record.first?, records, hes] at h
      cases h
  | ok es =>
      rw [first?_of_entries hes,
        show (Except.ok es : Except Fault _).bind (change id u) = change id u es from rfl]
      cases hfirst : es.find? fun entry => entryId? entry = some id with
      | none =>
          have hnone : ∀ entry ∈ es, entryId? entry ≠ some id := by
            simpa using List.find?_eq_none.mp hfirst
          rw [change_none u hnone]
          exact Or.inl ⟨rfl, by simp, fun rule h => (by cases h)⟩
      | some entry =>
          obtain ⟨hid, before, after, rfl, hbefore⟩ := List.find?_eq_some_iff_append.mp hfirst
          replace hid : entryId? entry = some id := of_decide_eq_true hid
          replace hbefore : ∀ e ∈ before, entryId? e ≠ some id := by simpa using hbefore
          rw [change_first u hbefore hid]
          cases hrule : Rule.ofJson? entry with
          | none =>
              refine Or.inl ⟨rfl, by simp, fun rule h => ?_⟩
              have hread := congrArg Record.rule (Option.some.inj h)
              rw [record, hrule] at hread
              cases hread
          | some rule =>
              refine Or.inr ⟨before, entry, after, rule, rfl, hbefore, ?_, rfl⟩
              rw [record, hid, hrule]

/-- A document takes a change if it can be read and written and the first entry of the identifier is
a rule. -/
theorem update_ok_iff (id : RowId) (u : Update) : (s.update ctx id u).1 = .ok true ↔
    ((∃ es, s.entries = .ok es) ∧ s.obstacle = none ∧ ctx.Passes) ∧
      ∃ rule, Record.first? id s.records = some ⟨some id, some rule⟩ := by
  rcases update_cases s ctx id u with
    ⟨_, hne, hnone⟩ | ⟨before, entry, after, rule, hes, hbefore, hrecord, hupdate⟩
  · exact ⟨fun h => absurd h hne, fun h => absurd h.2.choose_spec (hnone _)⟩
  · have hfirst : Record.first? id s.records = some ⟨some id, some rule⟩ := by
      rw [Record.first?, records_of_entries hes, List.map_append, List.map_cons, hrecord]
      refine List.find?_eq_some_iff_append.mpr ⟨by simp, _, _, rfl, fun e he => ?_⟩
      obtain ⟨x, hx, rfl⟩ := List.mem_map.mp he
      simpa using show (record x).key ≠ some id from hbefore x hx
    rw [hupdate, ← write_ok_iff (before ++ (u.apply rule).json :: after)]
    constructor
    · intro h
      refine ⟨⟨⟨_, hes⟩, ?_⟩, rule, hfirst⟩
      cases hwrite : (s.write ctx (before ++ (u.apply rule).json :: after)).1 with
      | ok _ => rfl
      | error fault =>
          dsimp only at h
          rw [hwrite] at h
          cases h
    · rintro ⟨⟨_, hwrite⟩, _⟩
      dsimp only
      rw [hwrite]
      rfl

/-- The first entry of an identifier is written as the changed rule. -/
theorem first_of_update {id : RowId} {u : Update} {t : FileStore}
    (h : s.update ctx id u = (.ok true, t)) :
    ∃ before stored after, s.records = before ++ ⟨some id, some stored⟩ :: after ∧
      (∀ e ∈ before, e.key ≠ some id) ∧
      t.records = before ++ ⟨some id, some (u.apply stored)⟩ :: after := by
  rcases update_cases s ctx id u with
    ⟨_, hne, _⟩ | ⟨before, entry, after, rule, hes, hbefore, hrecord, hupdate⟩
  · rw [h] at hne
    exact absurd rfl hne
  · obtain ⟨hkey, hrule⟩ := Record.mk.inj hrecord
    have hold : s.records = before.map record ++ ⟨some id, some rule⟩ :: after.map record := by
      rw [records_of_entries hes, List.map_append, List.map_cons, hrecord]
    have hid : rule.id = id := by
      rcases entryId?_of_ofJson? hrule with hown | hnone
      · exact Option.some.inj (hown.symm.trans hkey)
      · cases hnone.symm.trans hkey
    have hunnumbered : (u.apply rule).unnumbered = u.apply rule := by
      rw [u.apply_unnumbered, Rule.unnumbered_of_ofNode? hrule]
    have hvalid := validItems_change (valid_entries hes) (u := u)
      ((change_first u hbefore hkey).trans (by rw [hrule]))
    refine ⟨before.map record, rule, after.map record, hold, fun e he => ?_, ?_⟩
    · obtain ⟨x, hx, rfl⟩ := List.mem_map.mp he
      exact hbefore x hx
    · rw [h] at hupdate
      obtain ⟨hwritten, rfl⟩ := Prod.mk.inj hupdate
      rcases write_cases s ctx (before ++ (u.apply rule).json :: after) with
        ⟨_, hfile⟩ | ⟨⟨fault, hfault⟩, _⟩
      · rw [records_documentBytes hfile hvalid, List.map_append, List.map_cons, record_json,
          hunnumbered, u.apply_id, hid]
      · rw [hfault] at hwritten
        cases hwritten

/-- A change that could not be stored leaves the document alone. -/
theorem file_of_update_fails {id : RowId} {u : Update} {result : Except Fault Bool} {t : FileStore}
    (h : s.update ctx id u = (result, t)) (hne : result ≠ .ok true) : t.file = s.file := by
  rcases update_cases s ctx id u with ⟨hsame, _⟩ | ⟨before, entry, after, rule, _, _, _, hupdate⟩
  · rw [h] at hsame
    rw [show t = s from hsame]
  · rw [h] at hupdate
    obtain ⟨rfl, rfl⟩ := Prod.mk.inj hupdate
    rcases write_cases s ctx (before ++ (u.apply rule).json :: after) with ⟨hok, _⟩ | ⟨_, hfile⟩
    · rw [hok] at hne
      exact absurd rfl hne
    · exact hfile

end FileStore

namespace MemoryStore

variable {s : MemoryStore} {ctx : WriteContext}

theorem checkWrite_ok_iff : s.checkWrite ctx = .ok () ↔ s.failing = false ∧ ctx.check 0 = .ok () := by
  unfold checkWrite
  cases s.failing with
  | false => simp
  | true => simp [bind_ok_iff, throw, throwThe, MonadExceptOf.throw]

theorem insert_ok_iff (rule : Rule) : (∃ t, s.insert ctx rule = .ok t) ↔
    (s.failing = false ∧ ctx.check 0 = .ok ()) ∧ ∀ e ∈ s.records, e.key ≠ some rule.id := by
  have hkeys : (∀ e ∈ s.records, e.key ≠ some rule.id) ↔
      ¬ (s.rules.any fun r => r.id = rule.id) = true := by
    simp [records, record]
  rw [← checkWrite_ok_iff, hkeys]
  simp only [insert, bind_ok_iff, guard_ok_iff, pure_ok_iff]
  constructor
  · rintro ⟨_, _, hwrite, hfree, _⟩
    exact ⟨hwrite, hfree⟩
  · rintro ⟨hwrite, hfree⟩
    exact ⟨_, (), hwrite, hfree, rfl⟩

theorem first?_records (s : MemoryStore) (id : RowId) :
    Record.first? id s.records = (s.get? id).map record := by
  rw [Record.first?, records, List.find?_map, get?]
  congr 2
  funext r
  exact decide_eq_decide.mpr Option.some_inj

theorem update_ok_iff (id : RowId) (u : Update) : (∃ t, s.update ctx id u = .ok (true, t)) ↔
    (s.failing = false ∧ ctx.check 0 = .ok ()) ∧
      ∃ rule, Record.first? id s.records = some ⟨some id, some rule⟩ := by
  rw [← checkWrite_ok_iff, first?_records, update]
  cases s.checkWrite ctx with
  | error fault => simp [bind_ok_iff]
  | ok _ =>
      cases hget : s.get? id with
      | none => simp
      | some rule =>
          have hid : rule.id = id := by simpa using List.find?_some hget
          simp [record, hid]

theorem change_first {id : RowId} (u : Update) {before after : List Rule} {rule : Rule}
    (h : ∀ r ∈ before, r.id ≠ id) (hid : rule.id = id) :
    change id u (before ++ rule :: after) = before ++ u.apply rule :: after := by
  induction before with
  | nil => rw [List.nil_append, change, if_pos hid, List.nil_append]
  | cons r rest ih =>
      obtain ⟨hr, hrest⟩ := List.forall_mem_cons.mp h
      rw [List.cons_append, change, if_neg hr, ih hrest, List.cons_append]

/-- The first rule with an identifier is changed. -/
theorem first_of_update {id : RowId} {u : Update} {t : MemoryStore}
    (h : s.update ctx id u = .ok (true, t)) :
    ∃ before stored after, s.records = before ++ ⟨some id, some stored⟩ :: after ∧
      (∀ e ∈ before, e.key ≠ some id) ∧
      t.records = before ++ ⟨some id, some (u.apply stored)⟩ :: after := by
  unfold update at h
  obtain ⟨_, _, h⟩ := bind_ok_iff.mp h
  split_ifs at h with hfound
  · cases h
    obtain ⟨stored, hget⟩ := Option.isSome_iff_exists.mp hfound
    obtain ⟨hid, before, after, hrules, hbefore⟩ := List.find?_eq_some_iff_append.mp hget
    replace hid : stored.id = id := of_decide_eq_true hid
    replace hbefore : ∀ r ∈ before, r.id ≠ id := by simpa using hbefore
    refine ⟨before.map record, stored, after.map record, ?_, ?_, ?_⟩
    · rw [records, hrules, List.map_append, List.map_cons, record, hid]
    · intro e he
      obtain ⟨r, hr, rfl⟩ := List.mem_map.mp he
      exact fun hkey => hbefore r hr (Option.some.inj hkey)
    · rw [records, hrules, change_first u hbefore hid, List.map_append, List.map_cons, record,
        u.apply_id, hid]
  · cases h

end MemoryStore

namespace Store

/-- A write under the context meets nothing that stands in its way. -/
def Works (ctx : WriteContext) : Store → Prop
  | .memory s => s.failing = false ∧ ctx.check 0 = .ok ()
  | .file s => (∃ es, s.entries = .ok es) ∧ s.obstacle = none ∧ ctx.Passes

/-- Both are in memory with the same rules, or have the same document. -/
def SameContents : Store → Store → Prop
  | .memory s, .memory t => t = s
  | .file s, .file t => t.file = s.file
  | _, _ => False

theorem SameContents.refl (store : Store) : store.SameContents store := by
  cases store <;> exact rfl

variable {store : Store} {ctx : WriteContext}

/-- A rule can be stored exactly if the store works and no record has its identifier. -/
theorem insert_ok_iff (rule : Rule) : (store.insert ctx rule).1 = .ok () ↔
    store.Works ctx ∧ ∀ e ∈ store.records, e.key ≠ some rule.id := by
  cases store with
  | memory s =>
      refine Iff.trans ?_ (MemoryStore.insert_ok_iff rule)
      rw [insert]
      cases s.insert ctx rule with
      | ok t => simp
      | error fault => simp
  | file s => exact FileStore.insert_ok_iff rule

theorem sameContents_of_insert {rule : Rule} {fault : Fault} {store' : Store}
    (h : store.insert ctx rule = (.error fault, store')) : store.SameContents store' := by
  cases store with
  | memory s =>
      cases hs : s.insert ctx rule with
      | ok t =>
          simp only [insert, hs] at h
          cases h
      | error fault =>
          simp only [insert, hs] at h
          cases h
          exact rfl
  | file s =>
      obtain ⟨hresult, rfl⟩ := Prod.mk.inj h
      exact FileStore.file_of_insert_error (Prod.ext hresult rfl)

/-- A rule can be changed exactly if the store works and the first record of the identifier is
read as a rule. -/
theorem update_ok_iff (id : RowId) (u : Update) : (store.update ctx id u).1 = .ok true ↔
    store.Works ctx ∧
      ∃ rule, Record.first? id store.records = some ⟨some id, some rule⟩ := by
  cases store with
  | memory s =>
      refine Iff.trans ?_ (MemoryStore.update_ok_iff id u)
      rw [update]
      cases s.update ctx id u with
      | ok result => simp [Prod.ext_iff]
      | error fault => simp
  | file s => exact FileStore.update_ok_iff id u

/-- The first record of the identifier has the changed rule, and the others are as they were. -/
theorem first_of_update {id : RowId} {u : Update} {store' : Store}
    (h : store.update ctx id u = (.ok true, store')) :
    ∃ before stored after, store.records = before ++ ⟨some id, some stored⟩ :: after ∧
      (∀ e ∈ before, e.key ≠ some id) ∧
      store'.records = before ++ ⟨some id, some (u.apply stored)⟩ :: after := by
  cases store with
  | memory s =>
      cases hs : s.update ctx id u with
      | error fault =>
          simp only [update, hs] at h
          cases h
      | ok result =>
          obtain ⟨found, t⟩ := result
          simp only [update, hs] at h
          cases h
          exact MemoryStore.first_of_update hs
  | file s =>
      obtain ⟨hresult, rfl⟩ := Prod.mk.inj h
      exact FileStore.first_of_update (Prod.ext hresult rfl)

theorem sameContents_of_update {id : RowId} {u : Update} {result : Except Fault Bool}
    {store' : Store} (h : store.update ctx id u = (result, store')) (hne : result ≠ .ok true) :
    store.SameContents store' := by
  cases store with
  | memory s =>
      cases hs : s.update ctx id u with
      | error fault =>
          simp only [update, hs] at h
          cases h
          exact rfl
      | ok result =>
          obtain ⟨found, t⟩ := result
          simp only [update, hs] at h
          cases h
          cases found with
          | true => exact absurd rfl hne
          | false => exact MemoryStore.update_missing hs
  | file s =>
      obtain ⟨hresult, rfl⟩ := Prod.mk.inj h
      exact FileStore.file_of_update_fails (Prod.ext hresult rfl) hne

end Store
end TrafficRules
