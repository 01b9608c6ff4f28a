import TrafficRules.Document.Rule
import TrafficRules.Proofs.Json.Values

/-! # Values without floating-point numbers

A floating-point number may be read as another one than was written. A value that holds none of them
(`Json.Integral`), or only zeros (`Json.Whole`), is read back as it is (`ofNodes?_nodes_of_whole`). Who
reads a record from the text of any value reads it from the value (`read?_pretty`). -/

namespace TrafficRules.Json

mutual

/-- No number in the value is a floating-point number. -/
def Integral : Json → Prop
  | .null | .bool _ | .integer _ | .string _ => True
  | .real _ => False
  | .array items => IntegralItems items
  | .object members => IntegralMembers members

def IntegralItems : List Json → Prop
  | [] => True
  | x :: rest => Integral x ∧ IntegralItems rest

def IntegralMembers : List (String × Json) → Prop
  | [] => True
  | (_, x) :: rest => Integral x ∧ IntegralMembers rest

end

theorem integralItems_iff {items : List Json} : IntegralItems items ↔ ∀ x ∈ items, Integral x := by
  induction items with
  | nil => simp [IntegralItems]
  | cons x rest ih => simp [IntegralItems, ih]

theorem integralMembers_insertMember {key : String} {value : Json} {members : List (String × Json)}
    (hv : Integral value) (h : IntegralMembers members) :
    IntegralMembers (insertMember key value members) := by
  induction members with
  | nil => exact ⟨hv, trivial⟩
  | cons m rest ih =>
      obtain ⟨hm, hrest⟩ := h
      unfold insertMember
      split_ifs
      · exact ⟨hv, hm, hrest⟩
      · exact ⟨hv, hrest⟩
      · exact ⟨hm, ih hrest⟩

theorem integral_ofMembers {members : List (String × Json)} (h : ∀ m ∈ members, Integral m.2) :
    Integral (ofMembers members) := by
  have key : ∀ (ms done : List (String × Json)), (∀ m ∈ ms, Integral m.2) → IntegralMembers done →
      IntegralMembers (ms.foldl (fun done m => insertMember m.1 m.2 done) done) := by
    intro ms
    induction ms with
    | nil => exact fun _ _ hd => hd
    | cons m rest ih =>
        intro done hms hd
        rw [List.forall_mem_cons] at hms
        exact ih _ hms.2 (integralMembers_insertMember hms.1 hd)
  exact key members [] h trivial

/-! ### Zeros with a sign

An integer that is written with a sign may be a zero, which is then read as a floating-point number. -/

mutual

/-- Each floating-point number in the value is a zero. -/
def Whole : Json → Prop
  | .null | .bool _ | .integer _ | .string _ => True
  | .real r => r.bits = 0
  | .array items => WholeItems items
  | .object members => WholeMembers members

def WholeItems : List Json → Prop
  | [] => True
  | x :: rest => Whole x ∧ WholeItems rest

def WholeMembers : List (String × Json) → Prop
  | [] => True
  | (_, x) :: rest => Whole x ∧ WholeMembers rest

end

theorem wholeItems_iff {items : List Json} : WholeItems items ↔ ∀ x ∈ items, Whole x := by
  induction items with
  | nil => simp [WholeItems]
  | cons x rest ih => simp [WholeItems, ih]

theorem Real.ofParts?_zero (negative : Bool) :
    Real.ofParts? negative 0 0 = some ⟨negative, 0, by decide⟩ := by
  have hscaled : ((Quotient.ofBits 0).mul (.ofBits (Real.powerOfTen 0))).round = 0 :=
    Quotient.round_zero (by
      rw [Quotient.mul, show (Quotient.ofBits 0).num = 0 from rfl, Nat.zero_mul])
  rw [ofParts?, Quotient.round_zero rfl, if_neg (by decide), if_pos (by decide), Int.toNat_zero,
    hscaled]
  rfl

/-- An integer of 64 bits is read as a value of this kind: only a zero with a sign is no integer. -/
theorem whole_of_value? {n : NumberText} (hform : n.fraction = [] ∧ n.exponent = none)
    (hsize : Nat.ofDigitChars 10 n.whole 0 < UInt64.size)
    (hnegative : n.negative → Nat.ofDigitChars 10 n.whole 0 ≤ 0x8000000000000000) {x : Json}
    (h : n.value? = some x) : x.Whole := by
  obtain ⟨negative, whole, fraction, exponent⟩ := n
  obtain ⟨rfl, rfl⟩ : fraction = [] ∧ exponent = none := hform
  dsimp only at hsize hnegative
  rw [NumberText.value?] at h
  split at h
  · cases h
    trivial
  · rename_i hinteger
    have hzero : Nat.ofDigitChars 10 whole 0 = 0 := by
      cases negative with
      | false => simp [NumberText.integer?, hsize] at hinteger
      | true =>
          by_contra hne
          simp [NumberText.integer?, hne, Nat.not_lt.mpr (hnegative rfl)] at hinteger
    obtain ⟨r, hr, rfl⟩ := Option.map_eq_some_iff.mp h
    have hdigits : significand 0 whole = (0, 0) := by rw [significand_of_lt hsize, hzero]
    have hparts : NumberText.real? ⟨negative, whole, [], none⟩ = Real.ofParts? negative 0 0 := by
      simp [NumberText.real?, hdigits, significand]
    rw [hparts, Real.ofParts?_zero] at hr
    cases hr
    rfl
mutual

theorem whole_of_integral : ∀ x : Json, Integral x → Whole x
  | .null, h | .bool _, h | .integer _, h | .string _, h => h
  | .real _, h => nomatch h
  | .array items, h => wholeItems_of_integral items h
  | .object members, h => wholeMembers_of_integral members h

theorem wholeItems_of_integral : ∀ xs : List Json, IntegralItems xs → WholeItems xs
  | [], h => h
  | x :: xs, ⟨hx, hxs⟩ => ⟨whole_of_integral x hx, wholeItems_of_integral xs hxs⟩

theorem wholeMembers_of_integral : ∀ ms : List (String × Json), IntegralMembers ms →
    WholeMembers ms
  | [], h => h
  | (_, x) :: ms, ⟨hx, hms⟩ => ⟨whole_of_integral x hx, wholeMembers_of_integral ms hms⟩

end

theorem Real.divide_zero (power : Nat) : Real.divide 0 power = 0 :=
  Quotient.round_zero (by
    rw [Quotient.div, show (Quotient.ofBits 0).num = 0 from rfl, Nat.zero_mul])

/-- A zero is read back with its sign. -/
theorem Real.reread_of_zero {r : Real} (h : r.bits = 0) : r.reread = r := by
  obtain ⟨negative, bits, hfinite⟩ := r
  obtain rfl : bits = 0 := h
  -- it is written as `0.0`, which is no digit at all, scaled down once
  have hscaled : Real.scaleDown 4 0 1 = 0 := divide_zero 1
  have hread : Real.ofParts? negative 0 (-1) = some ⟨negative, 0, hfinite⟩ := by
    rw [ofParts?, Quotient.round_zero rfl, if_pos (by decide),
      show (-(-1 : Int)).toNat = 1 from rfl, hscaled]
    rfl
  exact congrArg (fun number => Option.getD number _) hread

mutual

/-- A value in which all floating-point numbers are zeros is read back as it is. -/
theorem reread_of_whole : ∀ x : Json, Whole x → x.reread = x
  | .null, _ | .bool _, _ | .integer _, _ | .string _, _ => rfl
  | .real _, h => congrArg Json.real (Real.reread_of_zero h)
  | .array items, h => congrArg Json.array (rereadItems_of_whole items h)
  | .object members, h => congrArg Json.object (rereadMembers_of_whole members h)

theorem rereadItems_of_whole : ∀ xs : List Json, WholeItems xs → rereadItems xs = xs
  | [], _ => rfl
  | x :: xs, ⟨hx, hxs⟩ => by
      rw [rereadItems, reread_of_whole x hx, rereadItems_of_whole xs hxs]

theorem rereadMembers_of_whole : ∀ ms : List (String × Json), WholeMembers ms →
    rereadMembers ms = ms
  | [], _ => rfl
  | (k, x) :: ms, ⟨hx, hms⟩ => by
      rw [rereadMembers, reread_of_whole x hx, rereadMembers_of_whole ms hms]

end

theorem ofNodes?_nodes_of_whole {depth : Nat} {xs : List Json} (hv : ValidItems depth xs)
    (h : WholeItems xs) : ofNodes? depth (nodes xs) = some xs := by
  rw [ofNodes?_nodes depth xs hv, rereadItems_of_whole xs h]

/-! ### Records in texts -/

theorem integer?_ofInt {n : Int} (h : InRange n) : (NumberText.ofInt n).integer? = some n := by
  have hvalue := value?_ofInt h
  unfold NumberText.value? at hvalue
  split at hvalue
  · rename_i i hi
    cases hvalue
    exact hi
  · obtain ⟨r, _, hr⟩ := Option.map_eq_some_iff.mp hvalue
    cases hr

mutual

/-- The tree of a text says what the value says. -/
theorem document_node : ∀ (depth : Nat) (x : Json), Valid depth x → x.node.document = x.document
  | _, .null, _ => rfl
  | _, .bool _, _ => rfl
  | _, .integer n, h => by simp [node, Node.document, document, integer?_ofInt h]
  | _, .real r, _ => by simp [node, Node.document, document, r.integer?_written]
  | _, .string _, _ => rfl
  | depth, .array items, h => by
      rw [node, Node.document, document, documents_nodes (depth - 1) items h.2]
  | depth, .object members, h => by
      rw [node, Node.document, document, documentMembers_nodes (depth - 1) members h.2.2]

theorem documents_nodes : ∀ (depth : Nat) (xs : List Json), ValidItems depth xs →
    Node.documents (nodes xs) = documents xs
  | _, [], _ => rfl
  | depth, x :: xs, ⟨hx, hxs⟩ => by
      rw [nodes, Node.documents, documents, document_node depth x hx, documents_nodes depth xs hxs]

theorem documentMembers_nodes : ∀ (depth : Nat) (ms : List (String × Json)),
    ValidMembers depth ms → Node.documentMembers (memberNodes ms) = documentMembers ms
  | _, [], _ => rfl
  | depth, (k, x) :: ms, ⟨hx, hms⟩ => by
      rw [memberNodes, Node.documentMembers, documentMembers, document_node depth x hx,
        documentMembers_nodes depth ms hms]

end

/-- A record is read from the text of a value as from the value itself. -/
theorem read?_pretty {α : Type} (read : Source → Document.Node → Option α) {depth : Nat} {x : Json}
    (h : Valid depth x) : read? read x.pretty = read .json x.document := by
  rw [read?, pretty, String.toList_ofList, ofText?_pretty, Option.bind_some, document_node depth x h]

end TrafficRules.Json
