import TrafficRules.Proofs.Regex.Code
import TrafficRules.Proofs.Regex.Context

/-! # Conditions in a program and in the text

A program asks for no other conditions on positions than those that the assertions of the expression
stand for, as it is written (`Program.asserted_of_asks`).

Laying out the code of a term copies and moves instructions, so each condition in it is one of a part of
the term. The short forms (`cat`, `rep`, `alt`) join, drop and move parts, and make conditions no more
either. -/

namespace TrafficRules.Regex

variable {l : Look}

/-! ### Code -/

namespace Code

theorem look_mem_times {n : Nat} {body : Code} (h : Instr.look l ∈ times n body) :
    Instr.look l ∈ body := by
  obtain ⟨c, hc, h⟩ := List.mem_flatten.mp h
  exact List.eq_of_mem_replicate hc ▸ h

theorem look_ne_choose {greedy : Bool} {again leave : Int} :
    Instr.look l ≠ .choose greedy again leave := by
  unfold Instr.choose
  exact Instr.noConfusion

theorem look_mem_upTo {greedy : Bool} {body : Code} : ∀ {n : Nat},
    Instr.look l ∈ upTo greedy body n → Instr.look l ∈ body
  | 0, h => by cases h
  | n + 1, h => by
      rw [upTo, List.cons_append, List.mem_cons, List.mem_append] at h
      rcases h with h | h | h
      · exact absurd h look_ne_choose
      · exact h
      · exact look_mem_upTo h

theorem look_mem_plus {greedy : Bool} {body : Code} (h : Instr.look l ∈ plus greedy body) :
    Instr.look l ∈ body := by
  rw [plus, List.mem_append, List.mem_singleton] at h
  exact h.resolve_right look_ne_choose

theorem look_mem_star {greedy : Bool} {body : Code} (h : Instr.look l ∈ star greedy body) :
    Instr.look l ∈ body := by
  rw [star, List.cons_append, List.mem_cons, List.mem_append, List.mem_singleton] at h
  rcases h with h | h | h
  · exact absurd h look_ne_choose
  · exact h
  · cases h

theorem look_mem_branches {stop : Nat} : ∀ {codes : List Code} {pos : Nat},
    Instr.look l ∈ branches stop pos codes ↔ ∃ c ∈ codes, Instr.look l ∈ c
  | [], pos => by simp [branches]
  | first :: rest, pos => by
      rw [branches, List.mem_append, List.mem_cons, look_mem_branches]
      simp

/-- A choice asks for what its branches ask for. -/
theorem look_mem_choice {codes : List Code} :
    Instr.look l ∈ choice codes ↔ ∃ c ∈ codes, Instr.look l ∈ c := by
  unfold choice
  dsimp only
  rw [List.mem_cons, look_mem_branches]
  simp

end Code

/-! ### Terms -/

namespace Term

/-- The code of a term asks for a condition. -/
def Asks (t : Term) (l : Look) : Prop := Instr.look l ∈ t.code

theorem codes_eq_map (ts : List Term) : codes ts = ts.map code := by
  induction ts with
  | nil => rfl
  | cons t rest ih => rw [codes, ih, List.map_cons]

theorem asks_cat {ts : List Term} : (cat ts).Asks l ↔ ∃ t ∈ ts, t.Asks l := by
  rw [Asks, code_cat, List.mem_flatMap]
  rfl

theorem asks_alternation {branches : List Term} :
    (Term.alternation branches).Asks l ↔ ∃ t ∈ branches, t.Asks l := by
  rw [Asks, code, Code.look_mem_choice, codes_eq_map]
  constructor
  · rintro ⟨c, hc, h⟩
    obtain ⟨t, ht, rfl⟩ := List.mem_map.mp hc
    exact ⟨t, ht, h⟩
  · rintro ⟨t, ht, h⟩
    exact ⟨t.code, List.mem_map_of_mem ht, h⟩

theorem asks_of_mem_partsOf {t part : Term} (hpart : part ∈ t.partsOf) (h : part.Asks l) :
    t.Asks l := by
  rw [Asks, ← code_partsOf]
  exact List.mem_flatMap.mpr ⟨part, hpart, h⟩

theorem asks_of_mem_branchesOf {t branch : Term} (hbranch : branch ∈ t.branchesOf)
    (h : branch.Asks l) : t.Asks l := by
  cases t with
  | alternation branches => exact asks_alternation.mpr ⟨branch, hbranch, h⟩
  | _ => exact List.mem_singleton.mp hbranch ▸ h

theorem Asks.of_repetition {least : Nat} {most : Option Nat} {greedy : Bool} {body : Term}
    (h : (Term.repetition least most greedy body).Asks l) : body.Asks l := by
  unfold Asks at h ⊢
  cases most with
  | some most =>
      rw [code, List.mem_append] at h
      exact h.elim Code.look_mem_times Code.look_mem_upTo
  | none =>
      cases least with
      | zero =>
          rw [code] at h
          split at h
          · exact Code.look_mem_star h
          · exact Code.look_mem_plus (Code.look_mem_upTo h)
      | succ least =>
          rw [code, List.mem_append] at h
          exact h.elim Code.look_mem_times Code.look_mem_plus

theorem Asks.of_rep {least : Nat} {most : Option Nat} {greedy : Bool} {body : Term}
    (h : (rep least most greedy body).Asks l) : body.Asks l := by
  unfold rep at h
  dsimp only at h
  generalize (if body.maxLength? = some 0 then
    (min least 1, some (min (most.getD 1) 1)) else (least, most)) = counts at h
  split at h
  · cases h
  · split at h
    · exact h
    · exact h.of_repetition

theorem not_asks_literal {bytes : Bytes} : ¬ (Term.literal bytes).Asks l := by
  rw [Asks, code, List.mem_map]
  rintro ⟨_, _, h⟩
  cases h

theorem not_asks_ofBytes (s : Ranges) : ¬ (ofBytes s).Asks l := by
  have hbytes : ¬ (Term.bytes s).Asks l := by simp [Asks, code]
  unfold ofBytes
  split
  · split
    · exact not_asks_literal
    · exact hbytes
  · exact hbytes

theorem not_asks_ofScalars (s : Ranges) : ¬ (ofScalars s).Asks l := by
  have hscalars : ¬ (Term.scalars s).Asks l := by simp [Asks, code]
  unfold ofScalars
  split
  · simp [Asks, nothing, code]
  · split
    · exact not_asks_literal
    · exact hscalars
  · exact hscalars

/-- What alternatives come to as a single set asks for nothing. -/
theorem not_asks_joined {branches : List Term} {t : Term} (ht : joined? branches = some t) :
    ¬ t.Asks l := by
  unfold joined? at ht
  simp only [Option.orElse_eq_orElse, Option.orElse_eq_or, Option.or_eq_some_iff,
    Option.map_eq_some_iff] at ht
  obtain ⟨s, _, rfl⟩ | ⟨_, ⟨s, _, rfl⟩ | ⟨_, ⟨s, _, rfl⟩ | ⟨_, s, _, rfl⟩⟩⟩ := ht
  · exact not_asks_ofScalars s
  · exact not_asks_ofBytes s
  · exact not_asks_ofScalars s
  · exact not_asks_ofBytes s

theorem mem_sharedParts {t : Term} : ∀ {as bs : List Term}, t ∈ sharedParts as bs → t ∈ as
  | [], _, h => by simp [sharedParts] at h
  | _ :: _, [], h => by simp [sharedParts] at h
  | a :: as, b :: bs, h => by
      rw [sharedParts] at h
      split at h
      · rw [List.mem_cons] at h ⊢
        exact h.imp_right mem_sharedParts
      · cases h

theorem mem_of_mem_foldl {α β : Type} {f : List α → β → List α} {a : α}
    (hf : ∀ kept b, a ∈ f kept b → a ∈ kept) (bs : List β) :
    ∀ {kept : List α}, a ∈ bs.foldl f kept → a ∈ kept := by
  induction bs with
  | nil => exact fun h => h
  | cons b bs ih => exact fun h => hf _ b (ih h)

/-- The parts that all branches start with are parts of the first branch. -/
theorem mem_sharedStart {branches : List Term} {t : Term} (h : t ∈ sharedStart branches) :
    ∃ branch ∈ branches, t ∈ branch.partsOf := by
  unfold sharedStart at h
  split at h
  · cases h
  · rename_i first rest
    refine ⟨.concat first, List.mem_cons_self, mem_of_mem_foldl (fun shared other hmem => ?_) rest h⟩
    split at hmem
    · exact mem_sharedParts hmem
    · cases hmem
  · cases h

theorem Asks.of_altWith : ∀ {fuel : Nat} {ts : List Term}, (altWith fuel ts).Asks l →
    ∃ t ∈ ts, t.Asks l
  | fuel, ts, h => by
      have hbranch : ∀ {branch}, branch ∈ ts.flatMap branchesOf → branch.Asks l →
          ∃ t ∈ ts, t.Asks l := by
        intro branch hmem hasks
        obtain ⟨t, ht, hmem⟩ := List.mem_flatMap.mp hmem
        exact ⟨t, ht, asks_of_mem_branchesOf hmem hasks⟩
      unfold altWith at h
      split at h
      · simp [Asks, nothing, code] at h
      · rename_i t hone
        exact hbranch (hone ▸ List.mem_singleton_self t) h
      · split at h
        · rename_i t hjoined
          exact absurd h (not_asks_joined hjoined)
        · split at h
          · rename_i fuel first others hshared
            -- a part that all branches share, or one behind the shared start of a branch
            obtain ⟨t, ht, hasks⟩ := asks_cat.mp h
            rcases List.mem_append.mp ht with ht | ht
            · obtain ⟨branch, hmem, hpart⟩ := mem_sharedStart (hshared ▸ ht)
              exact hbranch hmem (asks_of_mem_partsOf hpart hasks)
            · obtain ⟨rest, hrest, hasks⟩ := Asks.of_altWith (List.mem_singleton.mp ht ▸ hasks)
              obtain ⟨branch, hmem, rfl⟩ := List.mem_map.mp hrest
              obtain ⟨part, hpart, hasks⟩ := asks_cat.mp hasks
              exact hbranch hmem (asks_of_mem_partsOf (List.mem_of_mem_drop hpart) hasks)
          · obtain ⟨branch, hmem, hasks⟩ := asks_alternation.mp h
            exact hbranch hmem hasks

end Term

/-! ### Expressions -/

mutual

/-- The assertions of an expression, as they are written. -/
def Expr.assertions : Expr → List Assertion
  | .assertion a => [a]
  | .repetition _ _ _ body => body.assertions
  | .group _ body => body.assertions
  | .alternation branches => Expr.assertionsAll branches
  | .concat parts => Expr.assertionsAll parts
  | _ => []

def Expr.assertionsAll : List Expr → List Assertion
  | [] => []
  | e :: rest => e.assertions ++ Expr.assertionsAll rest

end

/-- A condition is what an assertion among the given ones stands for, under some flags. -/
def Asserted (as : List Assertion) (l : Look) : Prop := ∃ a ∈ as, ∃ m : Mode, l = a.look m

theorem Asserted.mono {as bs : List Assertion} (h : Asserted as l) (hsub : as ⊆ bs) :
    Asserted bs l := by
  obtain ⟨a, ha, hl⟩ := h
  exact ⟨a, hsub ha, hl⟩

theorem Mode.not_asks_setTerm (m : Mode) (s : Ranges) : ¬ (m.setTerm s).Asks l := by
  unfold setTerm
  split
  · exact Term.not_asks_ofScalars s
  · exact Term.not_asks_ofBytes s

theorem Literal.not_asks_term (m : Mode) (c : Literal) : ¬ (c.term m).Asks l := by
  unfold Literal.term
  dsimp only
  generalize (if (m.unicode || decide (c.char.toNat < 0x80)) = true then
    m.fold (.single c.char.toNat) else .single c.char.toNat) = set
  split
  · exact Term.not_asks_literal
  · split
    · exact Term.not_asks_literal
    · exact m.not_asks_setTerm set

mutual

/-- The conditions in the term of an expression are those of its assertions. -/
theorem Expr.asserted_of_resolve? : ∀ {e : Expr} {m m' : Mode} {t : Term},
    e.resolve? m = some (t, m') → t.Asks l → Asserted e.assertions l
  | .empty, m, _, _, h, hasks => by
      cases h
      simp [Term.Asks, Term.code] at hasks
  | .setFlags change, m, _, _, h, hasks => by
      cases h
      simp [Term.Asks, Term.code] at hasks
  | .literal c, m, _, _, h, hasks => by
      cases h
      exact absurd hasks (c.not_asks_term m)
  | .dot, m, _, _, h, hasks => by
      cases h
      exact absurd hasks (m.not_asks_setTerm _)
  | .assertion a, m, _, _, h, hasks => by
      cases h
      rw [Term.Asks, Term.code, List.mem_singleton, Instr.look.injEq] at hasks
      exact ⟨a, List.mem_singleton_self a, m, hasks⟩
  | .property q negated, m, _, _, h, hasks => by
      obtain ⟨s, _, h⟩ := Option.bind_eq_some_iff.mp h
      cases h
      exact absurd hasks (Term.not_asks_ofScalars _)
  | .shorthand kind negated, m, _, _, h, hasks => by
      cases h
      exact absurd hasks (m.not_asks_setTerm _)
  | .bracketed negated inner, m, _, _, h, hasks => by
      obtain ⟨s, _, h⟩ := Option.bind_eq_some_iff.mp h
      cases h
      exact absurd hasks (m.not_asks_setTerm _)
  | .repetition least most greedy body, m, _, _, h, hasks => by
      obtain ⟨⟨t, m₁⟩, hbody, h⟩ := Option.bind_eq_some_iff.mp h
      cases h
      have hwritten := Expr.asserted_of_resolve? hbody hasks.of_rep
      exact hwritten
  | .group (.capture index) body, m, _, _, h, hasks => by
      obtain ⟨⟨t, m₁⟩, hbody, h⟩ := Option.bind_eq_some_iff.mp h
      cases h
      have hwritten := Expr.asserted_of_resolve? hbody hasks
      exact hwritten
  | .group (.scope change) body, m, _, _, h, hasks => by
      obtain ⟨⟨t, m₁⟩, hbody, h⟩ := Option.bind_eq_some_iff.mp h
      cases h
      have hwritten := Expr.asserted_of_resolve? hbody hasks
      exact hwritten
  | .concat parts, m, _, _, h, hasks => by
      obtain ⟨⟨ts, m₁⟩, hparts, h⟩ := Option.bind_eq_some_iff.mp h
      cases h
      obtain ⟨t, ht, hasks⟩ := Term.asks_cat.mp hasks
      exact Expr.asserted_of_resolveAll? hparts ht hasks
  | .alternation branches, m, _, _, h, hasks => by
      obtain ⟨⟨ts, m₁⟩, hbranches, h⟩ := Option.bind_eq_some_iff.mp h
      cases h
      obtain ⟨t, ht, hasks⟩ := Term.Asks.of_altWith hasks
      exact Expr.asserted_of_resolveAll? hbranches ht hasks

theorem Expr.asserted_of_resolveAll? : ∀ {es : List Expr} {m m' : Mode} {ts : List Term} {t : Term},
    Expr.resolveAll? m es = some (ts, m') → t ∈ ts → t.Asks l →
      Asserted (Expr.assertionsAll es) l
  | [], m, _, _, _, h, ht, _ => by
      cases h
      cases ht
  | e :: rest, m, _, _, _, h, ht, hasks => by
      obtain ⟨⟨first, m₁⟩, hfirst, h⟩ := Option.bind_eq_some_iff.mp h
      obtain ⟨⟨later, m₂⟩, hlater, h⟩ := Option.bind_eq_some_iff.mp h
      cases h
      rcases List.mem_cons.mp ht with rfl | ht
      · exact (Expr.asserted_of_resolve? hfirst hasks).mono (List.subset_append_left _ _)
      · exact (Expr.asserted_of_resolveAll? hlater ht hasks).mono (List.subset_append_right _ _)

end

/-- **Conditions come from assertions**: a program asks for nothing that is not written in its text. -/
theorem Program.asserted_of_asks {mode : Mode} {limit : Nat} {text : List Char} {r : Regex}
    (hr : Regex.ofText mode limit text = .ok r) (h : r.program.Asks l) :
    ∃ e, Expr.ofText? text = some e ∧ Asserted e.assertions l := by
  obtain ⟨e, m', he, hm, hp⟩ := ofText_ok hr
  obtain ⟨pc, hpc⟩ := h
  rw [hp, Program.ofTerm, Program.ofCode, List.getElem?_toArray] at hpc
  have hmem := List.mem_of_getElem? hpc
  rw [List.mem_append, List.mem_singleton] at hmem
  exact ⟨e, he, Expr.asserted_of_resolve? hm (hmem.resolve_right Instr.noConfusion)⟩

end TrafficRules.Regex
