import TrafficRules.Proofs.Sorting
import TrafficRules.Proofs.Store.Agreement
import TrafficRules.Proofs.Store.RoundTrip

/-! # One store for the other

A store in memory and a store in a file that start with the same rules answer alike, request by
request (`stores_interchangeable`).

The memory holds its rules in order, the document holds them as they came (`Store.Alike`). What ties
them together is that each change of the document, followed by sorting, is the change that the memory
makes in place: a rule put at the end is sorted to where the memory places it
(`MemoryStore.place_mergeSort`), and the first rule of an identifier is the first one of it in either
order (`MemoryStore.change_mergeSort`). -/

namespace TrafficRules

/-! ### Sorting before and behind a change -/

namespace MemoryStore

open Rule (Sorted)

theorem mem_place {rule r : Rule} {rules : List Rule} (h : r ∈ place rule rules) :
    r = rule ∨ r ∈ rules := by
  obtain ⟨before, after, hrules, hplace⟩ := place_eq rule rules
  rw [hplace] at h
  rw [hrules]
  simp only [List.mem_append, List.mem_cons] at h ⊢
  tauto

theorem sorted_place (rule : Rule) {rules : List Rule} (h : Sorted rules) :
    Sorted (place rule rules) := by
  induction rules with
  | nil => exact List.pairwise_singleton _ rule
  | cons r rest ih =>
      obtain ⟨hr, hrest⟩ := List.pairwise_cons.mp h
      rw [place]
      split_ifs with hlt
      · refine List.pairwise_cons.mpr ⟨fun b hb => ?_, h⟩
        exact Nat.le_trans (Nat.le_of_lt hlt) (h.head_le hb)
      · refine List.pairwise_cons.mpr ⟨fun b hb => ?_, ih hrest⟩
        rcases mem_place hb with rfl | hb
        · exact Nat.not_lt.mp hlt
        · exact hr b hb

/-- A rule is placed behind all rules with its identifier. -/
theorem filter_place (rule : Rule) (id : RowId) {rules : List Rule} (h : Sorted rules) :
    (place rule rules).filter (fun r => r.id = id) =
      (rules ++ [rule]).filter fun r => r.id = id := by
  induction rules with
  | nil => rfl
  | cons r rest ih =>
      rw [place]
      split_ifs with hlt
      · by_cases hid : rule.id = id
        · have hnone : (r :: rest).filter (fun r => r.id = id) = [] := by
            refine List.filter_eq_nil_iff.mpr fun b hb => ?_
            have hle := Nat.lt_of_lt_of_le hlt (h.head_le hb)
            rw [decide_eq_true_eq, ← hid]
            intro he
            rw [he] at hle
            exact Nat.lt_irrefl _ hle
          rw [List.filter_append, hnone, List.filter_cons, hnone]
          simp [hid]
        · rw [List.filter_append, List.filter_cons_of_neg (by simpa using hid)]
          simp [hid]
      · rw [List.filter_cons, ih (List.pairwise_cons.mp h).2, List.cons_append, List.filter_cons]

/-- A rule is placed where it is sorted to from the end. -/
theorem place_mergeSort (rule : Rule) (rules : List Rule) :
    place rule (rules.mergeSort fun a b => a.id ≤ b.id) =
      (rules ++ [rule]).mergeSort fun a b => a.id ≤ b.id := by
  have hsorted := Rule.sorted_mergeSort rules
  apply Rule.eq_of_sorted (sorted_place rule hsorted) (Rule.sorted_mergeSort (rules ++ [rule]))
  intro id
  simp only [filter_place rule id hsorted, List.filter_append, Rule.filter_id_mergeSort]

theorem map_id_change (id : RowId) (u : Update) (rules : List Rule) :
    (change id u rules).map Rule.id = rules.map Rule.id := by
  induction rules with
  | nil => rfl
  | cons r rest ih =>
      rw [change]
      split_ifs
      · rfl
      · rw [List.map_cons, List.map_cons, ih]

theorem change_of_absent {id : RowId} (u : Update) {rules : List Rule}
    (h : ∀ r ∈ rules, r.id ≠ id) : change id u rules = rules := by
  induction rules with
  | nil => rfl
  | cons r rest ih =>
      rw [List.forall_mem_cons] at h
      rw [change, if_neg h.1, ih h.2]

/-- A change is one of the rules with the identifier. -/
theorem filter_change (id : RowId) (u : Update) (other : RowId) (rules : List Rule) :
    (change id u rules).filter (fun r => r.id = other) =
      change id u (rules.filter fun r => r.id = other) := by
  induction rules with
  | nil => rfl
  | cons r rest ih =>
      by_cases hid : r.id = id
      · have hchanged : (u.apply r).id = id := hid
        by_cases hother : id = other
        · simp [change, hid, hchanged, hother]
        · have habsent : ∀ s ∈ rest.filter (fun r => r.id = other), s.id ≠ id := by
            intro s hs he
            have hsother : s.id = other := by simpa using (List.mem_filter.mp hs).2
            exact hother (he.symm.trans hsother)
          simp [change, hid, hchanged, hother, change_of_absent u habsent]
      · by_cases hother : r.id = other
        · simp [change, hother, ih, hother ▸ hid]
        · simp [change, hid, hother, ih]

/-- The first rule of an identifier is the first one before and behind sorting. -/
theorem change_mergeSort (id : RowId) (u : Update) (rules : List Rule) :
    change id u (rules.mergeSort fun a b => a.id ≤ b.id) =
      (change id u rules).mergeSort fun a b => a.id ≤ b.id := by
  have hsorted : Sorted (change id u (rules.mergeSort fun a b => a.id ≤ b.id)) := by
    have hids := List.pairwise_map.mpr (Rule.sorted_mergeSort rules)
    rw [← map_id_change id u] at hids
    exact List.pairwise_map.mp hids
  apply Rule.eq_of_sorted hsorted (Rule.sorted_mergeSort (change id u rules))
  intro other
  simp only [filter_change, Rule.filter_id_mergeSort]

end MemoryStore

/-! ### Contexts -/

namespace WriteContext

/-- Each check of a write passes. -/
def Passes (c : WriteContext) : Prop := c.check 0 = .ok () ∧ c.check 1 = .ok ()

/-- The first check of a write fails. -/
def Fails (c : WriteContext) : Prop := ∃ fault, c.check 0 = .error fault

/-- The checks of a write all pass, or none does. -/
def Steady (c : WriteContext) : Prop := c.Passes ∨ c.Fails

/-- The last check of a write fails, whatever the first does. -/
def FailsLate (c : WriteContext) : Prop := ∃ fault, c.check 1 = .error fault

end WriteContext

/-! ### Writes of rules -/

theorem Rule.json_unnumbered (r : Rule) : r.unnumbered.json = r.json := by
  have hpatterns : r.unnumbered.patterns.map Pattern.json = r.patterns.map Pattern.json := by
    rw [unnumbered, List.map_map]
    rfl
  rw [Rule.json, hpatterns]
  rfl

namespace MemoryStore

variable {rules : List Rule} {ctx : WriteContext}

theorem checkWrite_ofRules (rules : List Rule) (ctx : WriteContext) :
    (ofRules rules).checkWrite ctx = ctx.check 0 := by
  unfold checkWrite ofRules
  cases ctx.check 0 <;> rfl

theorem insert_ofRules (hctx : ctx.check 0 = .ok ()) (rule : Rule) :
    (ofRules rules).insert ctx rule =
      if rule.id ∈ rules.map Rule.id then .error (.store (.alreadyStored rule.id))
      else .ok (ofRules (rules ++ [rule])) := by
  have hany : ((ofRules rules).rules.any fun r => r.id = rule.id) = true ↔
      rule.id ∈ rules.map Rule.id := by
    simp [ofRules]
  have hplace : { ofRules rules with rules := place rule (ofRules rules).rules } =
      ofRules (rules ++ [rule]) := by
    simp only [ofRules, place_mergeSort]
  unfold insert
  rw [checkWrite_ofRules, hctx, hplace]
  by_cases hstored : rule.id ∈ rules.map Rule.id
  · rw [if_pos hstored]
    simp only [bind, Except.bind, if_pos (hany.mpr hstored)]
    rfl
  · rw [if_neg hstored]
    simp only [bind, Except.bind, if_neg (mt hany.mp hstored)]
    rfl

theorem update_ofRules (hctx : ctx.check 0 = .ok ()) (id : RowId) (u : Update) :
    (ofRules rules).update ctx id u =
      .ok (decide (id ∈ rules.map Rule.id), ofRules (change id u rules)) := by
  have hget : ((ofRules rules).get? id).isSome = true ↔ id ∈ rules.map Rule.id := by
    simp [get?, ofRules]
  have hchange : { ofRules rules with rules := change id u (ofRules rules).rules } =
      ofRules (change id u rules) := by
    simp only [ofRules, change_mergeSort]
  unfold update
  rw [checkWrite_ofRules, hctx, hchange]
  by_cases hstored : id ∈ rules.map Rule.id
  · simp only [bind, Except.bind, if_pos (hget.mpr hstored), hstored, decide_true]
    rfl
  · have habsent : ∀ r ∈ rules, r.id ≠ id := fun r hr he =>
      hstored (List.mem_map.mpr ⟨r, hr, he⟩)
    simp only [bind, Except.bind, if_neg (mt hget.mp hstored), hstored, decide_false,
      change_of_absent u habsent]
    rfl

end MemoryStore

namespace FileStore

variable {s : FileStore} {rules : List Rule} {ctx : WriteContext}

theorem write_of_passes (hctx : ctx.Passes) (hfree : s.obstacle = none) (entries : List Json) :
    s.write ctx entries =
      (.ok (), { s with file := .content (documentBytes entries), temporary := none }) := by
  unfold write
  simp [hctx.1, hctx.2, hfree]

/-- A document that is written with rules holds these rules. -/
theorem entries_write (hctx : ctx.Passes) (hfree : s.obstacle = none) (rules : List Rule) :
    (s.write ctx (rules.map Rule.json)).1 = .ok () ∧
      (s.write ctx (rules.map Rule.json)).2.entries = .ok (rules.map Rule.json) ∧
      (s.write ctx (rules.map Rule.json)).2.obstacle = none := by
  rw [write_of_passes hctx hfree]
  exact ⟨rfl, entriesOfBytes_json rules, hfree⟩

theorem any_entryId?_json (rules : List Rule) (id : RowId) :
    ((rules.map Rule.json).any fun entry => entryId? entry = some id) = true ↔
      id ∈ rules.map Rule.id := by
  rw [any_entryId?_iff, List.map_map]
  simp [record_json]

/-- A change of what rules are written with is the change of the rules. -/
theorem change_json (id : RowId) (u : Update) (rules : List Rule) :
    change id u (rules.map Rule.json) =
      .ok (if id ∈ rules.map Rule.id then some ((MemoryStore.change id u rules).map Rule.json)
        else none) := by
  induction rules with
  | nil => rfl
  | cons r rest ih =>
      rw [List.map_cons, change, MemoryStore.change, entryId?_json, Rule.ofJson?_json]
      by_cases hid : r.id = id
      · have hjson : (u.apply r.unnumbered).json = (u.apply r).json := by
          rw [← Update.apply_unnumbered, Rule.json_unnumbered]
        simp [hid, hjson]
      · simp only [Option.some.injEq, hid, if_false, ih, List.map_cons, List.mem_cons,
          Ne.symm hid, false_or, Except.map]
        split_ifs <;> simp

end FileStore

/-! ### Requests -/

namespace Store

/-- What is asked of a store. -/
inductive Request where
  | insert (ctx : WriteContext) (rule : Rule)
  | update (ctx : WriteContext) (id : RowId) (u : Update)
  | findAll

/-- What a store answers. A rule that is stored is answered by its identifier. -/
inductive Answer where
  | inserted (result : Except Fault RowId)
  | updated (result : Except Fault Bool)
  | listed (result : Except Fault (List Rule))

/-- The context of the request, if it has one, is of the given kind. -/
def Request.Under (kind : WriteContext → Prop) : Request → Prop
  | .insert ctx _ => kind ctx
  | .update ctx _ _ => kind ctx
  | .findAll => True

/-- The answer without the numbers that patterns have in a corpus. -/
def Answer.unnumbered : Answer → Answer
  | .listed result => .listed (result.map fun rules => rules.map Rule.unnumbered)
  | answer => answer

/-- One request. -/
def perform (store : Store) : Request → Answer × Store
  | .insert ctx rule =>
      (.inserted ((store.insert ctx rule).1.map fun _ => rule.id), (store.insert ctx rule).2)
  | .update ctx id u => (.updated (store.update ctx id u).1, (store.update ctx id u).2)
  | .findAll => (.listed store.findAll, store)

/-- The store behind some requests. -/
def after (store : Store) (requests : List Request) : Store :=
  requests.foldl (fun store q => (store.perform q).2) store

/-- A store in memory and one in a file that hold the same rules: the memory in order, the document
as they came. -/
inductive Alike (rules : List Rule) : Store → Store → Prop where
  | intro {s : FileStore} (entries : s.entries = .ok (rules.map Rule.json))
      (free : s.obstacle = none) : Alike rules (.memory (.ofRules rules)) (.file s)

variable {rules : List Rule} {memory file : Store} {q : Request}

theorem Alike.exists_file (h : Alike rules memory file) : ∃ s, file = .file s := by
  cases h
  exact ⟨_, rfl⟩

/-- Both list the same rules, ascending by identifier. -/
theorem Alike.findAll (h : Alike rules memory file) : ∃ listed, memory.findAll = .ok listed ∧
    file.findAll = .ok (listed.map Rule.unnumbered) ∧ Rule.Sorted listed := by
  obtain ⟨hentries, _⟩ := h
  refine ⟨_, rfl, ?_, Rule.sorted_mergeSort rules⟩
  have hsorted : (rules.mergeSort fun a b => a.id ≤ b.id).map Rule.unnumbered =
      (rules.map Rule.unnumbered).mergeSort fun a b => a.id ≤ b.id :=
    List.map_mergeSort fun a _ b _ => rfl
  rw [Store.findAll, FileStore.findAll_of_entries hentries, ← hsorted]
  rfl

/-- A request whose checks pass is answered alike, and leaves the stores alike. -/
theorem Alike.perform (h : Alike rules memory file) (hq : q.Under WriteContext.Passes) :
    (memory.perform q).1.unnumbered = (file.perform q).1.unnumbered ∧
      ∃ rules', Alike rules' (memory.perform q).2 (file.perform q).2 := by
  cases q with
  | findAll =>
      obtain ⟨listed, hmemory, hfile, _⟩ := h.findAll
      refine ⟨?_, rules, h⟩
      simp only [Store.perform, hmemory, hfile, Answer.unnumbered, Except.map, List.map_map]
      congr 3
      funext r
      exact r.unnumbered_unnumbered.symm
  | insert ctx rule =>
      obtain ⟨hentries, hfree⟩ := h
      rename_i s
      by_cases hstored : rule.id ∈ rules.map Rule.id
      · have hfile : s.insert ctx rule = (.error (.store (.alreadyStored rule.id)), s) := by
          unfold FileStore.insert
          rw [hentries]
          exact if_pos ((FileStore.any_entryId?_json rules rule.id).mpr hstored)
        simp only [Store.perform, Store.insert, MemoryStore.insert_ofRules hq.1, if_pos hstored,
          hfile]
        exact ⟨trivial, rules, .intro hentries hfree⟩
      · have hfile : s.insert ctx rule = s.write ctx ((rules ++ [rule]).map Rule.json) := by
          unfold FileStore.insert
          rw [hentries, List.map_append]
          exact if_neg (mt (FileStore.any_entryId?_json rules rule.id).mp hstored)
        obtain ⟨hok, hentries', hfree'⟩ := FileStore.entries_write hq hfree (rules ++ [rule])
        simp only [Store.perform, Store.insert, MemoryStore.insert_ofRules hq.1, if_neg hstored,
          hfile, hok]
        exact ⟨trivial, _, .intro hentries' hfree'⟩
  | update ctx id u =>
      obtain ⟨hentries, hfree⟩ := h
      rename_i s
      by_cases hstored : id ∈ rules.map Rule.id
      · have hfile : s.update ctx id u =
            ((s.write ctx ((MemoryStore.change id u rules).map Rule.json)).1.map fun _ => true,
              (s.write ctx ((MemoryStore.change id u rules).map Rule.json)).2) := by
          unfold FileStore.update
          rw [hentries, Except.bind, FileStore.change_json, if_pos hstored]
        obtain ⟨hok, hentries', hfree'⟩ :=
          FileStore.entries_write hq hfree (MemoryStore.change id u rules)
        simp only [Store.perform, Store.update, MemoryStore.update_ofRules hq.1, hstored, hfile,
          hok]
        exact ⟨rfl, _, .intro hentries' hfree'⟩
      · have hfile : s.update ctx id u = (.ok false, s) := by
          unfold FileStore.update
          rw [hentries, Except.bind, FileStore.change_json, if_neg hstored]
        have habsent : ∀ r ∈ rules, r.id ≠ id := fun r hr he =>
          hstored (List.mem_map.mpr ⟨r, hr, he⟩)
        simp only [Store.perform, Store.update, MemoryStore.update_ofRules hq.1, hstored, hfile,
          MemoryStore.change_of_absent u habsent]
        exact ⟨rfl, rules, .intro hentries hfree⟩

/-- A request whose first check fails leaves a store as it was. -/
theorem perform_of_fails (store : Store) (hq : q.Under WriteContext.Fails) :
    (store.perform q).2 = store := by
  cases q with
  | findAll => rfl
  | insert ctx rule =>
      obtain ⟨fault, hfault⟩ := hq
      cases store with
      | memory s =>
          have hs : s.insert ctx rule = .error fault := by
            unfold MemoryStore.insert MemoryStore.checkWrite
            rw [hfault]
            rfl
          simp only [perform, insert, hs]
      | file s =>
          have hs : (s.insert ctx rule).2 = s := by
            unfold FileStore.insert FileStore.write
            rw [hfault]
            split
            · rfl
            · split_ifs <;> rfl
          simp only [perform, insert, hs]
  | update ctx id u =>
      obtain ⟨fault, hfault⟩ := hq
      cases store with
      | memory s =>
          have hs : s.update ctx id u = .error fault := by
            unfold MemoryStore.update MemoryStore.checkWrite
            rw [hfault]
            rfl
          simp only [perform, update, hs]
      | file s =>
          have hs : (s.update ctx id u).2 = s := by
            unfold FileStore.update FileStore.write
            rw [hfault]
            split <;> rfl
          simp only [perform, update, hs]

/-- A request of which any check fails leaves the document as it was. -/
theorem document_of_failsLate (s : FileStore) (hq : q.Under WriteContext.FailsLate) :
    ∃ s', ((Store.file s).perform q).2 = .file s' ∧ s'.file = s.file := by
  have hwrite : ∀ {ctx : WriteContext}, ctx.FailsLate → ∀ entries,
      (s.write ctx entries).2.file = s.file := by
    rintro ctx ⟨fault, hfault⟩ entries
    unfold FileStore.write
    split
    · rfl
    · split_ifs
      · rfl
      · rw [hfault]
  cases q with
  | findAll => exact ⟨s, rfl, rfl⟩
  | insert ctx rule =>
      refine ⟨(s.insert ctx rule).2, rfl, ?_⟩
      unfold FileStore.insert
      split
      · rfl
      · split_ifs
        · rfl
        · exact hwrite hq _
  | update ctx id u =>
      refine ⟨(s.update ctx id u).2, rfl, ?_⟩
      unfold FileStore.update
      split
      · rfl
      · rfl
      · exact hwrite hq _

theorem Request.under_steady (hq : q.Under WriteContext.Steady) :
    q.Under WriteContext.Passes ∨ q.Under WriteContext.Fails := by
  cases q with
  | findAll => exact Or.inl trivial
  | insert ctx rule => exact hq
  | update ctx id u => exact hq

/-- Stores that are alike stay so. -/
theorem Alike.after (h : Alike rules memory file) {requests : List Request}
    (hq : ∀ q ∈ requests, q.Under WriteContext.Steady) :
    ∃ rules', Alike rules' (memory.after requests) (file.after requests) := by
  induction requests generalizing rules memory file with
  | nil => exact ⟨rules, h⟩
  | cons q rest ih =>
      rw [List.forall_mem_cons] at hq
      rcases q.under_steady hq.1 with hpasses | hfails
      · obtain ⟨_, rules', h'⟩ := h.perform hpasses
        exact ih h' hq.2
      · have h' : Alike rules (memory.perform q).2 (file.perform q).2 := by
          rw [memory.perform_of_fails hfails, file.perform_of_fails hfails]
          exact h
        exact ih h' hq.2

/-- **One store for the other**: whatever rules a store in memory starts with, and a store in a file
whose document holds the same rules in the same order, and whatever is asked of both:

* a request whose checks pass is answered alike, up to the numbers that patterns have in a corpus;
* a request whose first check fails leaves both stores as they were, and one of which any check
  fails leaves the document as it was;
* both list the same rules at all times, ascending by identifier. -/
theorem stores_interchangeable {rules : List Rule} {file : FileStore}
    (hfile : file.entries = .ok (rules.map Rule.json)) (hfree : file.obstacle = none)
    {before : List Request} (hbefore : ∀ q ∈ before, q.Under WriteContext.Steady) (q : Request) :
    let memory := (Store.memory (.ofRules rules)).after before
    let filed := (Store.file file).after before
    (q.Under WriteContext.Passes →
        (memory.perform q).1.unnumbered = (filed.perform q).1.unnumbered) ∧
      (q.Under WriteContext.Fails →
        (memory.perform q).2 = memory ∧ (filed.perform q).2 = filed) ∧
      (q.Under WriteContext.FailsLate → ∃ s s', filed = .file s ∧ (filed.perform q).2 = .file s' ∧
        s'.file = s.file) ∧
      ∃ listed, memory.findAll = .ok listed ∧ filed.findAll = .ok (listed.map Rule.unnumbered) ∧
        Rule.Sorted listed := by
  intro memory filed
  obtain ⟨rules', h⟩ : ∃ rules', Alike rules' memory filed :=
    (Alike.intro hfile hfree).after hbefore
  refine ⟨fun hq => (h.perform hq).1, fun hq => ?_, fun hq => ?_, h.findAll⟩
  · exact ⟨memory.perform_of_fails hq, filed.perform_of_fails hq⟩
  · obtain ⟨s, hs⟩ := h.exists_file
    obtain ⟨s', hs', hdocument⟩ := document_of_failsLate s hq
    rw [hs]
    exact ⟨s, s', rfl, hs', hdocument⟩

/-- Two rules under one identifier: the first is changed, a rule is stored in front of both, a
cancelled request is of no account, and a third rule under the identifier is refused alike. -/
theorem stores_interchangeable_repeated :
    let rule : Rule := { id := ⟨7, 1⟩, name := "first", color := "#fff" }
    let before : List Request := [
      .update .background rule.id { name := "changed", color := "#000", version := 3 },
      .insert .background { rule with id := ⟨5, 2⟩ },
      .insert { cancelledAfter := some 0 } { rule with id := ⟨9, 9⟩ }]
    let memory := (Store.memory (.ofRules [rule, { rule with name := "second" }])).after before
    let filed := (Store.file (.ofRules [rule, { rule with name := "second" }])).after before
    (memory.perform (.insert .background rule)).1.unnumbered =
        (filed.perform (.insert .background rule)).1.unnumbered ∧
      ∃ listed, memory.findAll = .ok listed ∧ filed.findAll = .ok (listed.map Rule.unnumbered) ∧
        Rule.Sorted listed := by
  intro rule before memory filed
  have hpasses : WriteContext.background.Passes := ⟨rfl, rfl⟩
  have hbefore : ∀ q ∈ before, q.Under WriteContext.Steady := by
    simp only [before, List.forall_mem_cons]
    exact ⟨Or.inl hpasses, Or.inl hpasses, Or.inr ⟨.store .cancelled, rfl⟩, by simp⟩
  have hall := stores_interchangeable
    (FileStore.entries_ofRules [rule, { rule with name := "second" }]) rfl hbefore
    (.insert .background rule)
  exact ⟨hall.1 hpasses, hall.2.2.2⟩

end Store
end TrafficRules
