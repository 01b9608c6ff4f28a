import TrafficRules.Regex.Basic

/-! # From texts to programs

What a regular expression is made of: the expression of its text, and its term under the flags
(`ofText_ok`).

Joining literals and leaving out empty parts changes nothing about the program of a concatenation: it
is the programs of its parts in order (`code_cat`). -/

namespace TrafficRules.Regex

/-- One token more. -/
theorem Reader.run?_cons {r r' : Reader} {c : Char} {s rest more : List Char} (fuel : Nat)
    (hs : skip r.ignoreBlanks s = c :: rest) (h : r.step? c rest = some (r', more)) :
    r.run? (fuel + 1) s = r'.run? fuel more := by
  rw [Reader.run?, hs]
  dsimp only
  rw [h]

theorem ofText?_eq_some_iff {s : List Char} {e : Expr} : Expr.ofText? s = some e ↔
    ∃ r, Reader.start.run? (s.length + 1) s = some r ∧ r.finish? = some e ∧
      e.depth ≤ depthLimit := by
  constructor
  · intro h
    obtain ⟨r, hr, h⟩ := Option.bind_eq_some_iff.mp h
    obtain ⟨e', he, h⟩ := Option.bind_eq_some_iff.mp h
    split at h
    · rename_i hdepth
      cases h
      exact ⟨r, hr, he, hdepth⟩
    · cases h
  · rintro ⟨r, hr, he, hdepth⟩
    simp only [Expr.ofText?, hr, he, Option.bind_eq_bind, Option.bind_some, hdepth, if_true]

theorem ofText_ok {mode : Mode} {limit : Nat} {text : List Char} {r : Regex}
    (h : Regex.ofText mode limit text = .ok r) :
    ∃ e m, Expr.ofText? text = some e ∧ e.resolve? mode = some (r.term, m) ∧
      r.program = .ofTerm r.term := by
  unfold Regex.ofText at h
  split at h
  · cases h
  · rename_i e he
    split at h
    · cases h
    · rename_i t ht
      obtain ⟨⟨t', m⟩, hm, rfl⟩ := Option.map_eq_some_iff.mp ht
      unfold Regex.ofTerm at h
      split at h
      · cases h
        exact ⟨e, m, he, hm, rfl⟩
      · cases h

/-- A limit refuses expressions and changes none. -/
theorem ofText_unique {mode : Mode} {limit limit' : Nat} {text : List Char} {r r' : Regex}
    (h : Regex.ofText mode limit text = .ok r) (h' : Regex.ofText mode limit' text = .ok r') :
    r = r' := by
  obtain ⟨e, m, he, hm, hp⟩ := ofText_ok h
  obtain ⟨e', m', he', hm', hp'⟩ := ofText_ok h'
  obtain rfl : e = e' := Option.some.inj (he.symm.trans he')
  have hterm : r.term = r'.term :=
    congrArg Prod.fst (Option.some.inj (hm.symm.trans hm'))
  have hprogram : r.program = r'.program := by rw [hp, hp', hterm]
  cases r
  cases r'
  exact Regex.mk.injEq .. ▸ ⟨hterm, hprogram⟩

/-! ### Concatenations -/

namespace Term

theorem flatten_codes (ts : List Term) : (codes ts).flatten = ts.flatMap code := by
  induction ts with
  | nil => rfl
  | cons t rest ih => rw [codes, List.flatten_cons, ih, List.flatMap_cons]

theorem code_partsOf (t : Term) : t.partsOf.flatMap code = t.code := by
  cases t with
  | concat parts =>
      rw [partsOf, code, flatten_codes]
  | _ => exact List.flatMap_singleton ..

theorem code_consPart (t : Term) (parts : List Term) :
    (consPart t parts).flatMap code = t.code ++ parts.flatMap code := by
  unfold consPart
  split
  · rw [code, List.nil_append]
  · rw [List.flatMap_cons, List.flatMap_cons, code, code, code, List.map_append, List.append_assoc]
  · rw [List.flatMap_cons]

theorem code_foldr_consPart (parts : List Term) :
    (parts.foldr consPart []).flatMap code = parts.flatMap code := by
  induction parts with
  | nil => rfl
  | cons t rest ih => rw [List.foldr_cons, code_consPart, ih, List.flatMap_cons]

/-- The program of a concatenation is the programs of its parts in order. -/
theorem code_cat (ts : List Term) : (cat ts).code = ts.flatMap code := by
  have hparts : ((ts.flatMap partsOf).foldr consPart []).flatMap code = ts.flatMap code := by
    rw [code_foldr_consPart, List.flatMap_assoc]
    exact congrArg (ts.flatMap ·) (funext code_partsOf)
  unfold cat
  rw [← hparts]
  split
  · rename_i h
    rw [h, code]
    rfl
  · rename_i t h
    rw [h, List.flatMap_singleton]
  · rw [code, flatten_codes]

end Term
end TrafficRules.Regex
