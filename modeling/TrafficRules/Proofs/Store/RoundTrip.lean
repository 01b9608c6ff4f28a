import TrafficRules.Proofs.Store.Records

/-! # What is written is read back

Rules that are written into a document are read from it as they were, without the numbers that their
patterns have in a corpus (`written_rules_read_back`). The document is read as the very values that
the rules are written with, so each rule stands where it was written, however many there are.

The parts of a rule, drafts and updates are read back alike, from their values and from the texts of
these (`Json.ReadsBack`). -/

namespace TrafficRules

/-- A record is read from a value, and from the text of it. -/
def Json.ReadsBack {α : Type} (read : Source → Document.Node → Option α) (x : Json) (a : α) : Prop :=
  read .json x.document = some a ∧ Json.read? read x.pretty = some a

theorem Json.readsBack {α : Type} {read : Source → Document.Node → Option α} {depth : Nat} {x : Json}
    {a : α} (hx : Json.Valid depth x) (h : read .json x.document = some a) :
    x.ReadsBack read a := by
  unfold ReadsBack
  rw [read?_pretty read hx]
  exact ⟨h, h⟩

namespace FileStore

/-- The store whose document was written with the given rules. -/
def ofRules (rules : List Rule) : FileStore where
  file := .content (documentBytes (rules.map Rule.json))

theorem entries_ofRules (rules : List Rule) :
    (ofRules rules).entries = .ok (rules.map Rule.json) := entriesOfBytes_json rules

theorem findAll_of_entries {s : FileStore} {rules : List Rule}
    (h : s.entries = .ok (rules.map Rule.json)) :
    s.findAll = .ok ((rules.map Rule.unnumbered).mergeSort fun a b => a.id ≤ b.id) := by
  simp only [findAll, h, bind, Except.bind, pure, Except.pure, filterMap_ofJson?_json]

end FileStore

theorem mapM_ofJson?_json (rules : List Rule) :
    (rules.map Rule.json).mapM Rule.ofJson? = some (rules.map Rule.unnumbered) := by
  induction rules with
  | nil => rfl
  | cons r rest ih => simp [List.mapM_cons, Rule.ofJson?_json r, ih]

/-- **Rules in documents**: the document of some rules is read as what the rules were written with,
each of these values is read as its rule, and listing the document gives all of them. Each kind of
record is read from its value, and from the text of its value, as it was written. Only the numbers of
patterns are not kept. -/
theorem written_rules_read_back :
    (∀ rules : List Rule,
      (FileStore.ofRules rules).entries = .ok (rules.map Rule.json) ∧
      (rules.map Rule.json).mapM Rule.ofJson? = some (rules.map Rule.unnumbered) ∧
      (FileStore.ofRules rules).findAll =
        .ok ((rules.map Rule.unnumbered).mergeSort fun a b => a.id ≤ b.id)) ∧
      (∀ r : Rule, r.json.ReadsBack Rule.ofNode? r.unnumbered) ∧
      (∀ d : Draft, d.json.ReadsBack Draft.ofNode? d.unnumbered) ∧
      (∀ u : Update, u.json.ReadsBack Update.ofNode? u) ∧
      (∀ p : Pattern, p.json.ReadsBack Pattern.ofNode? p.unnumbered) ∧
      (∀ f : Filter, f.json.ReadsBack Filter.ofNode? f) ∧
      (∀ f : Flags, f.json.ReadsBack Flags.ofNode? f) := by
  refine ⟨fun rules => ?_, fun r => ?_, fun d => ?_, fun u => ?_, fun p => ?_, fun f => ?_,
    fun f => ?_⟩
  · have hentries := FileStore.entries_ofRules rules
    exact ⟨hentries, mapM_ofJson?_json rules, FileStore.findAll_of_entries hentries⟩
  · exact Json.readsBack (r.valid_json 0) (Rule.ofJson?_json r)
  · exact Json.readsBack (d.valid_json 0) (Draft.ofNode?_json d)
  · exact Json.readsBack (u.valid_json 0) (Update.ofNode?_json u)
  · exact Json.readsBack (p.valid_json 0) (Pattern.ofNode?_json p)
  · exact Json.readsBack (f.valid_json 0) (Filter.ofNode?_json f)
  · exact Json.readsBack (f.valid_json 0) (Flags.ofNode?_json f)

end TrafficRules
