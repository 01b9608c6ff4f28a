import TrafficRules.Document.Node
import TrafficRules.Proofs.Json.Text

/-! # JSON values read back

What is read from a text is a value of bounded depth whose integers fit 64 bits and whose members
ascend by key (`valid_of_ofNode?`). The text of such a value is read as this value again, although a
floating-point number in it may be another (`ofNode?_node`), so it says the same (`document_reread`). -/

namespace TrafficRules.Json

/-! ### Members in order -/

/-- Each key stands before the greater ones. -/
def Ascending (members : List (String × Json)) : Prop :=
  (members.map Prod.fst).Pairwise (· < ·)

theorem ascending_nil : Ascending [] := List.Pairwise.nil

theorem mem_keys_insertMember {key k : String} {value : Json} {members : List (String × Json)} :
    k ∈ (insertMember key value members).map Prod.fst ↔ k = key ∨ k ∈ members.map Prod.fst := by
  induction members with
  | nil => simp [insertMember]
  | cons m rest ih =>
      rw [insertMember]
      split_ifs with hlt heq
      · simp
      · simp [heq]
      · rw [List.map_cons, List.mem_cons, ih, List.map_cons, List.mem_cons]
        exact or_left_comm

theorem Ascending.insertMember {members : List (String × Json)} (h : Ascending members)
    (key : String) (value : Json) : Ascending (insertMember key value members) := by
  induction members with
  | nil => exact List.pairwise_singleton _ _
  | cons m rest ih =>
      obtain ⟨hm, hrest⟩ := List.pairwise_cons.mp h
      rw [Json.insertMember]
      split_ifs with hlt heq
      · refine List.pairwise_cons.mpr ⟨fun k hk => ?_, h⟩
        rcases List.mem_cons.mp hk with rfl | hk
        · exact hlt
        · exact String.lt_trans hlt (hm k hk)
      · refine List.pairwise_cons.mpr ⟨fun k hk => ?_, hrest⟩
        rw [heq]
        exact hm k hk
      · have hgt : m.1 < key := by
          rcases String.le_total m.1 key with hle | hle
          · exact String.not_le.mp fun hge => heq (String.le_antisymm hge hle)
          · exact absurd (String.not_le.mp fun hge => heq (String.le_antisymm hle hge)) hlt
        refine List.pairwise_cons.mpr ⟨fun k hk => ?_, ih hrest⟩
        rcases mem_keys_insertMember.mp hk with rfl | hk
        · exact hgt
        · exact hm k hk

/-- A member with the greatest key comes last. -/
theorem insertMember_last {key : String} {value : Json} {members : List (String × Json)}
    (h : ∀ k ∈ members.map Prod.fst, k < key) :
    insertMember key value members = members ++ [(key, value)] := by
  induction members with
  | nil => rfl
  | cons m rest ih =>
      have hm : m.1 < key := h m.1 List.mem_cons_self
      rw [insertMember, if_neg (String.lt_asymm hm), if_neg (String.ne_of_lt hm).symm,
        ih fun k hk => h k (List.mem_cons_of_mem _ hk)]
      rfl

/-! ### Values that a text can hold -/

mutual

/-- A value of at most `depth` levels, with integers of 64 bits and members in order. -/
def Valid (depth : Nat) : Json → Prop
  | .null | .bool _ | .real _ | .string _ => True
  | .integer n => InRange n
  | .array items => depth ≠ 0 ∧ ValidItems (depth - 1) items
  | .object members => depth ≠ 0 ∧ Ascending members ∧ ValidMembers (depth - 1) members

def ValidItems (depth : Nat) : List Json → Prop
  | [] => True
  | x :: rest => Valid depth x ∧ ValidItems depth rest

def ValidMembers (depth : Nat) : List (String × Json) → Prop
  | [] => True
  | (_, x) :: rest => Valid depth x ∧ ValidMembers depth rest

end

theorem validItems_iff {depth : Nat} {items : List Json} :
    ValidItems depth items ↔ ∀ x ∈ items, Valid depth x := by
  induction items with
  | nil => simp [ValidItems]
  | cons x rest ih => simp [ValidItems, ih]

theorem validMembers_insertMember {depth : Nat} {key : String} {value : Json}
    {members : List (String × Json)} (hv : Valid depth value) (h : ValidMembers depth members) :
    ValidMembers depth (insertMember key value members) := by
  induction members with
  | nil => exact ⟨hv, trivial⟩
  | cons m rest ih =>
      obtain ⟨hm, hrest⟩ := h
      rw [insertMember]
      split_ifs
      · exact ⟨hv, hm, hrest⟩
      · exact ⟨hv, hrest⟩
      · exact ⟨hm, ih hrest⟩

theorem valid_foldl_insertMember {depth : Nat} (members : List (String × Json)) :
    ∀ {done : List (String × Json)}, Ascending done → ValidMembers depth done →
      (∀ m ∈ members, Valid depth m.2) →
      Ascending (members.foldl (fun done m => insertMember m.1 m.2 done) done) ∧
        ValidMembers depth (members.foldl (fun done m => insertMember m.1 m.2 done) done) := by
  induction members with
  | nil => exact fun ha hv _ => ⟨ha, hv⟩
  | cons m rest ih =>
      intro done ha hv h
      exact ih (ha.insertMember m.1 m.2) (validMembers_insertMember (h m List.mem_cons_self) hv)
        fun x hx => h x (List.mem_cons_of_mem m hx)

/-- The object of some members has them in order. -/
theorem valid_ofMembers {depth : Nat} {members : List (String × Json)}
    (h : ∀ m ∈ members, Valid depth m.2) : Valid (depth + 1) (ofMembers members) :=
  ⟨Nat.succ_ne_zero depth, valid_foldl_insertMember members ascending_nil trivial h⟩

/-! ### What is read is valid -/

theorem valid_of_value? {n : NumberText} {x : Json} (h : n.value? = some x) (depth : Nat) :
    Valid depth x := by
  unfold NumberText.value? at h
  split at h
  · rename_i i hi
    cases h
    have hsize : UInt64.size = 0x10000000000000000 := rfl
    show InRange i
    rw [NumberText.integer?] at hi
    dsimp only at hi
    unfold InRange
    split_ifs at hi <;> (obtain rfl := Option.some.inj hi; omega)
  · obtain ⟨r, _, rfl⟩ := Option.map_eq_some_iff.mp h
    trivial

mutual

theorem valid_of_ofNode? : ∀ (depth : Nat) (n : Node) {x : Json}, ofNode? depth n = some x →
    Valid depth x
  | _, .null, _, h => by
      cases h
      trivial
  | _, .bool _, _, h => by
      cases h
      trivial
  | depth, .number n, _, h => valid_of_value? h depth
  | _, .string s, _, h => by
      obtain ⟨s, _, rfl⟩ := Option.map_eq_some_iff.mp h
      trivial
  | depth, .array items, _, h => by
      rw [ofNode?] at h
      split at h
      · cases h
      · rename_i hdepth
        obtain ⟨xs, hxs, rfl⟩ := Option.map_eq_some_iff.mp h
        exact ⟨hdepth, valid_of_ofNodes? (depth - 1) items hxs⟩
  | depth, .object members, _, h => by
      rw [ofNode?] at h
      split at h
      · cases h
      · rename_i hdepth
        obtain ⟨ms, hms, rfl⟩ := Option.map_eq_some_iff.mp h
        exact ⟨hdepth, valid_of_ofMembers? (depth - 1) members ascending_nil trivial hms⟩

theorem valid_of_ofNodes? : ∀ (depth : Nat) (ns : List Node) {xs : List Json},
    ofNodes? depth ns = some xs → ValidItems depth xs
  | _, [], _, h => by
      cases h
      trivial
  | depth, n :: ns, _, h => by
      rw [ofNodes?] at h
      obtain ⟨x, hx, h⟩ := Option.bind_eq_some_iff.mp h
      obtain ⟨xs, hxs, h⟩ := Option.bind_eq_some_iff.mp h
      cases h
      exact ⟨valid_of_ofNode? depth n hx, valid_of_ofNodes? depth ns hxs⟩

theorem valid_of_ofMembers? : ∀ (depth : Nat) (ns : List (Option String × Node))
    {done ms : List (String × Json)}, Ascending done → ValidMembers depth done →
      ofMembers? depth done ns = some ms → Ascending ms ∧ ValidMembers depth ms
  | _, [], _, _, ha, hv, h => by
      cases h
      exact ⟨ha, hv⟩
  | depth, (k, n) :: ns, _, _, ha, hv, h => by
      rw [ofMembers?] at h
      obtain ⟨key, _, h⟩ := Option.bind_eq_some_iff.mp h
      obtain ⟨x, hx, h⟩ := Option.bind_eq_some_iff.mp h
      exact valid_of_ofMembers? depth ns (ha.insertMember key x)
        (validMembers_insertMember (valid_of_ofNode? depth n hx) hv) h

end

/-! ### What is written is read back -/

/-- The number that is read from what is written. -/
def Real.reread (r : Real) : Real := r.written.real?.getD r

theorem Real.value?_written (r : Real) : r.written.value? = some (.real r.reread) := by
  obtain ⟨r', hr⟩ := Option.isSome_iff_exists.mp r.real?_written
  rw [NumberText.value?, r.integer?_written, reread, hr]
  rfl

mutual

/-- The value that is read from the text of a value. -/
def reread : Json → Json
  | .null => .null
  | .bool b => .bool b
  | .integer n => .integer n
  | .real r => .real r.reread
  | .string s => .string s
  | .array items => .array (rereadItems items)
  | .object members => .object (rereadMembers members)

def rereadItems : List Json → List Json
  | [] => []
  | x :: rest => reread x :: rereadItems rest

def rereadMembers : List (String × Json) → List (String × Json)
  | [] => []
  | (k, x) :: rest => (k, reread x) :: rereadMembers rest

end

mutual

/-- What is read back says the same. -/
theorem document_reread : ∀ x : Json, x.reread.document = x.document
  | .null | .bool _ | .integer _ | .real _ | .string _ => rfl
  | .array items => by rw [reread, document, documents_rereadItems items, document]
  | .object members => by rw [reread, document, documentMembers_rereadMembers members, document]

theorem documents_rereadItems : ∀ xs : List Json, documents (rereadItems xs) = documents xs
  | [] => rfl
  | x :: xs => by
      rw [rereadItems, documents, document_reread x, documents_rereadItems xs, documents]

theorem documentMembers_rereadMembers : ∀ ms : List (String × Json),
    documentMembers (rereadMembers ms) = documentMembers ms
  | [] => rfl
  | (k, x) :: ms => by
      rw [rereadMembers, documentMembers, document_reread x, documentMembers_rereadMembers ms,
        documentMembers]

end

mutual

/-- **Writing and reading**: the tree of a valid value is read as this value, but for the
floating-point numbers in it. -/
theorem ofNode?_node : ∀ (depth : Nat) (x : Json), Valid depth x →
    ofNode? depth x.node = some x.reread
  | _, .null, _ | _, .bool _, _ | _, .string _, _ => rfl
  | _, .integer _, h => value?_ofInt h
  | _, .real r, _ => r.value?_written
  | depth, .array items, h => by
      obtain ⟨hdepth, hitems⟩ := h
      rw [node, ofNode?, if_neg hdepth, ofNodes?_nodes (depth - 1) items hitems]
      rfl
  | depth, .object members, h => by
      obtain ⟨hdepth, hasc, hmembers⟩ := h
      rw [node, ofNode?, if_neg hdepth,
        @ofMembers?_nodes (depth - 1) members [] (by simp) hasc hmembers]
      rfl

theorem ofNodes?_nodes : ∀ (depth : Nat) (xs : List Json), ValidItems depth xs →
    ofNodes? depth (nodes xs) = some (rereadItems xs)
  | _, [], _ => rfl
  | depth, x :: xs, ⟨hx, hxs⟩ => by
      rw [nodes, ofNodes?, ofNode?_node depth x hx, ofNodes?_nodes depth xs hxs]
      rfl

theorem ofMembers?_nodes : ∀ (depth : Nat) (ms : List (String × Json))
    {done : List (String × Json)},
    (∀ k ∈ done.map Prod.fst, ∀ l ∈ ms.map Prod.fst, k < l) → Ascending ms →
      ValidMembers depth ms →
      ofMembers? depth done (memberNodes ms) = some (done ++ rereadMembers ms)
  | _, [], done, _, _, _ => by
      rw [rereadMembers, List.append_nil]
      rfl
  | depth, (k, x) :: ms, done, hdone, hasc, ⟨hx, hms⟩ => by
      obtain ⟨hk, hasc⟩ := List.pairwise_cons.mp hasc
      have hlast : insertMember k x.reread done = done ++ [(k, x.reread)] :=
        insertMember_last fun l hl => hdone l hl k List.mem_cons_self
      have hrest := @ofMembers?_nodes depth ms (done ++ [(k, x.reread)])
        (by
          intro l hl m hm
          rw [List.map_append, List.mem_append] at hl
          rcases hl with hl | hl
          · exact hdone l hl m (List.mem_cons_of_mem k hm)
          · rw [List.map_singleton, List.mem_singleton] at hl
            rw [hl]
            exact hk m hm)
        hasc hms
      rw [List.append_assoc] at hrest
      rw [memberNodes, ofMembers?]
      simp only [Option.bind_eq_bind, Option.bind_some, ofNode?_node depth x hx, hlast, hrest]
      rfl

end

end TrafficRules.Json
