import TrafficRules.Proofs.Outcome
import TrafficRules.Proofs.Regex.Code
import TrafficRules.Signature

/-! # Signatures and their patterns

What a signature is made of (`compile_ok`), and that it is known by its canonical form: patterns with
one canonical form have the same expression and the same flags (`canonicalForm_inj`), so they
are made into one and the same signature under any limits that allow it (`compile_unique`). -/

namespace TrafficRules.Signature

/-- The signature of a pattern with its regular expression, alone and within a set. -/
def ofParts (p : Pattern) (regex setRegex : Regex) : Signature where
  regexText := p.regex
  flags := p.flags
  canonical := canonicalForm p.regex p.flags
  expression := setExpression p.regex p.flags
  literal := literal? p.regex p.flags
  regex := regex
  setRegex := setRegex

theorem compile_ok {limit : Nat} {p : Pattern} {s : Signature} (h : compile limit p = .ok s) :
    p.validate = .ok () ∧ ∃ regex setRegex,
      Regex.ofText p.flags.mode limit p.regex.toList = .ok regex ∧
      regex.matches? [] = false ∧
      Regex.ofText {} limit (setExpression p.regex p.flags).toList = .ok setRegex ∧
      s = ofParts p regex setRegex := by
  simp only [compile, bind_ok_iff, guard_ok_iff, mapError_ok_iff, pure_ok_iff] at h
  obtain ⟨_, hv, regex, hr, hm, setRegex, hs, rfl⟩ := h
  exact ⟨hv, regex, setRegex, hr, by simpa using hm, hs, rfl⟩

variable {limit : Nat} {p q : Pattern} {s t : Signature}

theorem canonical_of_compile (h : compile limit p = .ok s) :
    s.canonical = canonicalForm p.regex p.flags := by
  obtain ⟨_, regex, setRegex, _, _, _, rfl⟩ := compile_ok h
  rfl

theorem regexText_of_compile (h : compile limit p = .ok s) : s.regexText = p.regex := by
  obtain ⟨_, regex, setRegex, _, _, _, rfl⟩ := compile_ok h
  rfl

theorem flags_of_compile (h : compile limit p = .ok s) : s.flags = p.flags := by
  obtain ⟨_, regex, setRegex, _, _, _, rfl⟩ := compile_ok h
  rfl

theorem literal_of_compile (h : compile limit p = .ok s) :
    s.literal = literal? p.regex p.flags := by
  obtain ⟨_, regex, setRegex, _, _, _, rfl⟩ := compile_ok h
  rfl

theorem regex_ne_empty_of_compile (h : compile limit p = .ok s) : p.regex ≠ "" :=
  (refuse_ok_iff.mp (compile_ok h).1).1

/-! ### Canonical forms -/

theorem slash_notMem_flagLetters (f : Flags) : '/' ∉ flagLetters f := by
  cases f with
  | mk c d m h u w => cases c <;> cases d <;> cases m <;> cases h <;> cases u <;> cases w <;> decide

/-- Each flag can be read off the letters. -/
theorem flagLetters_inj {f g : Flags} (h : flagLetters f = flagLetters g) : f = g := by
  have key : ∀ c : Char, c ∈ flagLetters f ↔ c ∈ flagLetters g := fun c => by rw [h]
  have hi : f.caseless = g.caseless := by simpa [flagLetters] using key 'i'
  have hs : f.dotAll = g.dotAll := by simpa [flagLetters] using key 's'
  have hm : f.multiLine = g.multiLine := by simpa [flagLetters] using key 'm'
  have hH : f.singleMatch = g.singleMatch := by simpa [flagLetters] using key 'H'
  have h8 : f.utf8 = g.utf8 := by simpa [flagLetters] using key '8'
  have hW : f.unicodeProperty = g.unicodeProperty := by simpa [flagLetters] using key 'W'
  cases f
  cases g
  rw [Flags.mk.injEq]
  exact ⟨hi, hs, hm, hH, h8, hW⟩

/-- The last slash divides a canonical form. -/
theorem canonicalForm_inj {r₁ r₂ : String} {f₁ f₂ : Flags}
    (h : canonicalForm r₁ f₁ = canonicalForm r₂ f₂) : r₁ = r₂ ∧ f₁ = f₂ := by
  have hl : r₁.toList ++ '/' :: flagLetters f₁ = r₂.toList ++ '/' :: flagLetters f₂ := by
    have := congrArg String.toList h
    simpa [canonicalForm] using this
  have divide : ∀ {a b : List Char} {f g : Flags},
      a ++ '/' :: flagLetters f = b ++ '/' :: flagLetters g → ∀ c, b = a ++ c → c = [] := by
    intro a b f g e c hc
    subst hc
    cases c with
    | nil => rfl
    | cons x c =>
        rw [List.append_assoc, List.append_cancel_left_eq, List.cons_append, List.cons.injEq] at e
        exact absurd (e.2 ▸ by simp) (slash_notMem_flagLetters f)
  rcases List.append_eq_append_iff.mp hl with ⟨c, hc, hr⟩ | ⟨c, hc, hr⟩
  · have := divide hl c hc
    subst this
    rw [List.append_nil] at hc
    rw [List.nil_append, List.cons.injEq] at hr
    exact ⟨String.toList_inj.mp hc.symm, flagLetters_inj hr.2⟩
  · have := divide hl.symm c hc
    subst this
    rw [List.append_nil] at hc
    rw [List.nil_append, List.cons.injEq] at hr
    exact ⟨String.toList_inj.mp hc, (flagLetters_inj hr.2).symm⟩

theorem compile_unique {limit' : Nat} (hs : compile limit p = .ok s) (ht : compile limit' q = .ok t)
    (h : s.canonical = t.canonical) : s = t := by
  obtain ⟨_, r, r', hr, _, hr', rfl⟩ := compile_ok hs
  obtain ⟨_, u, u', hu, _, hu', rfl⟩ := compile_ok ht
  obtain ⟨hregex, hflags⟩ := canonicalForm_inj h
  rw [← hregex, ← hflags] at hu hu'
  rw [Regex.ofText_unique hr hu, Regex.ofText_unique hr' hu', ofParts, ofParts, hregex, hflags]

end TrafficRules.Signature
