import Mathlib.Data.List.TakeDrop
import Mathlib.Tactic.SplitIfs
import TrafficRules.Proofs.Regex.Code
import TrafficRules.Regex.Reader

/-! # Reading a text within a group

An expression with a closing parenthesis behind it, read inside a group, means what it means alone.
Every reader takes the same from both texts and leaves the same behind, up to that parenthesis
(`Enclosed`): so does each token (`step?_enclosed`), hence the whole run.

A comment that is open at the end of the text takes the parenthesis away. Then the group stays open and the
enclosed text is no expression at all. -/

namespace TrafficRules.Regex

open Unicode (isWhite)

/-- What is left of a text, and of the same text with a closing parenthesis behind it unless a comment
has taken it away. -/
inductive Enclosed : List Char → List Char → Prop where
  | closed (s : List Char) : Enclosed s (s ++ [')'])
  | lost : Enclosed [] []

/-- A reader that takes the same from a text and from the enclosed one. -/
def Local {α : Type} (read : List Char → Option (α × List Char)) : Prop :=
  ∀ s s' v t, Enclosed s s' → read s = some (v, t) → ∃ t', read s' = some (v, t') ∧ Enclosed t t'

namespace Enclosed

variable {c : Char} {s s' : List Char}

theorem uncons (h : Enclosed (c :: s) s') : ∃ t, s' = c :: t ∧ Enclosed s t := by
  cases h with
  | closed => exact ⟨s ++ [')'], rfl, .closed s⟩

/-- What stands before the parenthesis stands in the text too. -/
theorem uncons_right {t : List Char} (h : Enclosed s (c :: t)) (hc : c ≠ ')') :
    ∃ u, s = c :: u ∧ Enclosed u t := by
  generalize he : c :: t = s' at h
  cases h with
  | closed =>
      cases s with
      | nil =>
          rw [List.nil_append, List.cons.injEq] at he
          exact absurd he.1 hc
      | cons d u =>
          rw [List.cons_append, List.cons.injEq] at he
          rw [he.1, he.2]
          exact ⟨u, rfl, .closed u⟩
  | lost => cases he

/-- What does not start the text does not start the enclosed one, without the parenthesis. -/
theorem ne_append : ∀ (front : List Char) {s s' : List Char}, Enclosed s s' → ')' ∉ front →
    (∀ t, s ≠ front ++ t) → ∀ t, s' ≠ front ++ t
  | [], s, _, _, _, hs, _ => absurd rfl (hs s)
  | c :: front, s, s', h, hf, hs, t => by
      rintro rfl
      rw [List.mem_cons, not_or] at hf
      obtain ⟨u, rfl, hu⟩ := h.uncons_right (Ne.symm hf.1)
      refine hu.ne_append front hf.2 (fun v hv => hs v ?_) t rfl
      rw [hv, List.cons_append]

/-- Both texts start with a character, or neither does. -/
theorem starts (h : Enclosed s s') (hc : c ≠ ')') :
    (∃ t t', s = c :: t ∧ s' = c :: t' ∧ Enclosed t t') ∨
      (∀ t, s ≠ c :: t) ∧ ∀ t, s' ≠ c :: t := by
  by_cases hs : ∃ t, s = c :: t
  · obtain ⟨t, rfl⟩ := hs
    obtain ⟨t', rfl, ht⟩ := h.uncons
    exact Or.inl ⟨t, t', rfl, rfl, ht⟩
  · have hne : ∀ t, s ≠ c :: t := fun t he => hs ⟨t, he⟩
    exact Or.inr ⟨hne, h.ne_append [c] (by simpa using hc.symm) hne⟩

theorem isWhite_parenthesis : isWhite ')' = false := by decide +kernel

/-! ### Blanks -/

theorem skipBlanks (h : Enclosed s s') (inComment : Bool) :
    Enclosed (skipBlanks inComment s) (Regex.skipBlanks inComment s') := by
  cases h with
  | closed =>
      induction s generalizing inComment with
      | nil =>
          cases inComment with
          | true => exact .lost
          | false =>
              simp only [Regex.skipBlanks, List.nil_append, isWhite_parenthesis]
              exact .closed []
      | cons c rest ih =>
          rw [List.cons_append, Regex.skipBlanks, Regex.skipBlanks]
          split
          · exact ih _
          · split
            · exact ih _
            · split
              · exact ih _
              · exact .closed (c :: rest)
  | lost => exact .lost

theorem skip (h : Enclosed s s') (x : Bool) : Enclosed (skip x s) (Regex.skip x s') := by
  unfold Regex.skip
  split
  · exact h.skipBlanks false
  · exact h

theorem dropWhite (h : Enclosed s s') : Enclosed (s.dropWhile isWhite) (s'.dropWhile isWhite) := by
  cases h with
  | closed =>
      induction s with
      | nil =>
          rw [List.nil_append, List.dropWhile_nil, List.dropWhile_cons,
            if_neg (by rw [isWhite_parenthesis]; exact Bool.false_ne_true)]
          exact .closed []
      | cons c rest ih =>
          rw [List.cons_append, List.dropWhile_cons, List.dropWhile_cons]
          split
          · exact ih
          · exact .closed (c :: rest)
  | lost => exact .lost

end Enclosed

variable (x : Bool)

/-! ### Escapes -/

theorem fixedHex?_local : ∀ n acc, Local (fixedHex? x n acc)
  | 0, acc, s, s', v, t, h, hr => by
      rw [fixedHex?, Option.some.injEq, Prod.mk.injEq] at hr
      obtain ⟨rfl, rfl⟩ := hr
      exact ⟨s', rfl, h⟩
  | n + 1, acc, [], s', v, t, h, hr => by cases hr
  | n + 1, acc, c :: s, s', v, t, h, hr => by
      obtain ⟨u, rfl, hu⟩ := h.uncons
      rw [fixedHex?] at hr ⊢
      obtain ⟨d, hd, hr⟩ := Option.bind_eq_some_iff.mp hr
      rw [hd]
      exact fixedHex?_local n _ _ _ v t (hu.skip x) hr

theorem bracedHex?_local (acc : Nat) (any : Bool) : Local (bracedHex? x acc any)
  | [], s', v, t, h, hr => by
      rw [bracedHex?] at hr
      cases hr
  | c :: rest, s', v, t, h, hr => by
      obtain ⟨u, rfl, hu⟩ := h.uncons
      rw [bracedHex?] at hr ⊢
      split at hr
      · rename_i hc
        rw [if_pos hc]
        split at hr
        · rename_i hany
          rw [Option.some.injEq, Prod.mk.injEq] at hr
          obtain ⟨rfl, rfl⟩ := hr
          rw [if_pos hany]
          exact ⟨_, rfl, hu.skip x⟩
        · cases hr
      · rename_i hc
        rw [if_neg hc]
        split at hr
        · cases hr
        · rename_i d hd
          exact bracedHex?_local _ true _ _ v t (hu.skip x) hr
termination_by s => s.length
decreasing_by
  have := skip_length_le x rest
  simp only [List.length_cons]
  omega

theorem hexLiteral?_local (count : Nat) : Local (hexLiteral? x count) := by
  intro s s' v t h hr
  have hu := h.skip x
  unfold hexLiteral? at hr ⊢
  generalize skip x s = u at hu hr
  generalize skip x s' = u' at hu ⊢
  split at hr
  · obtain ⟨w, rfl, hw⟩ := hu.uncons
    obtain ⟨⟨n, more⟩, hn, hr⟩ := Option.bind_eq_some_iff.mp hr
    obtain ⟨c, hc, hr⟩ := Option.bind_eq_some_iff.mp hr
    obtain ⟨t', ht', he⟩ := bracedHex?_local x 0 false _ _ _ _ (hw.skip x) hn
    rw [Option.some.injEq, Prod.mk.injEq] at hr
    obtain ⟨rfl, rfl⟩ := hr
    exact ⟨t', by simp only [ht', Option.bind_eq_bind, Option.bind_some, hc], he⟩
  · rename_i hne
    obtain ⟨⟨n, more⟩, hn, hr⟩ := Option.bind_eq_some_iff.mp hr
    obtain ⟨c, hc, hr⟩ := Option.bind_eq_some_iff.mp hr
    obtain ⟨t', ht', he⟩ := fixedHex?_local x count 0 _ _ _ _ hu hn
    rw [Option.some.injEq, Prod.mk.injEq] at hr
    obtain ⟨rfl, rfl⟩ := hr
    refine ⟨t', ?_, he⟩
    split
    · obtain ⟨w, rfl, _⟩ := hu.uncons_right (by decide)
      exact absurd rfl (hne w)
    · simp only [ht', Option.bind_eq_bind, Option.bind_some, hc]

theorem bracedName?_local : Local (bracedName? x)
  | [], s', v, t, h, hr => by
      rw [bracedName?] at hr
      cases hr
  | c :: rest, s', v, t, h, hr => by
      obtain ⟨u, rfl, hu⟩ := h.uncons
      rw [bracedName?] at hr ⊢
      split at hr
      · rename_i hc
        rw [Option.some.injEq, Prod.mk.injEq] at hr
        obtain ⟨rfl, rfl⟩ := hr
        rw [if_pos hc]
        exact ⟨u, rfl, hu⟩
      · rename_i hc
        obtain ⟨⟨name, more⟩, hn, hr⟩ := Option.map_eq_some_iff.mp hr
        rw [Prod.mk.injEq] at hr
        obtain ⟨rfl, rfl⟩ := hr
        obtain ⟨t', ht', he⟩ := bracedName?_local _ _ _ _ (hu.skip x) hn
        rw [if_neg hc, ht']
        exact ⟨t', rfl, he⟩
termination_by s => s.length
decreasing_by
  have := skip_length_le x rest
  simp only [List.length_cons]
  omega

theorem propertyClass?_local (negated : Bool) : Local (propertyClass? x negated) := by
  intro s s' v t h hr
  have hu := h.skip x
  unfold propertyClass? at hr ⊢
  generalize skip x s = u at hu hr
  generalize skip x s' = u' at hu ⊢
  split at hr
  · cases hr
  · obtain ⟨w, rfl, hw⟩ := hu.uncons
    obtain ⟨⟨name, more⟩, hn, hr⟩ := Option.bind_eq_some_iff.mp hr
    obtain ⟨t', ht', he⟩ := bracedName?_local x _ _ _ _ (hw.skip x) hn
    rw [Option.some.injEq, Prod.mk.injEq] at hr
    obtain ⟨rfl, rfl⟩ := hr
    exact ⟨t', by simp only [ht', Option.bind_eq_bind, Option.bind_some], he⟩
  · rename_i c rest hne
    obtain ⟨w, rfl, hw⟩ := hu.uncons
    split at hr
    · cases hr
    · rename_i hc
      rw [Option.some.injEq, Prod.mk.injEq] at hr
      obtain ⟨rfl, rfl⟩ := hr
      refine ⟨skip x w, ?_, hw.skip x⟩
      split
      · rename_i he
        cases he
      · rename_i he
        rw [List.cons.injEq] at he
        exact absurd he.1 (hne)
      · rename_i he
        rw [List.cons.injEq] at he
        obtain ⟨rfl, rfl⟩ := he
        rw [if_neg hc]

theorem boundaryName_enclosed : ∀ {s s' : List Char}, Enclosed s s' →
    (boundaryName x s').1 = (boundaryName x s).1 ∧
      Enclosed (boundaryName x s).2 (boundaryName x s').2
  | [], s', h => by
      cases h with
      | closed =>
          rw [List.nil_append, boundaryName, boundaryName, if_neg (by decide)]
          exact ⟨rfl, .closed []⟩
      | lost => exact ⟨rfl, by rw [boundaryName]; exact .lost⟩
  | c :: rest, s', h => by
      obtain ⟨u, rfl, hu⟩ := h.uncons
      obtain ⟨hname, hmore⟩ := boundaryName_enclosed (hu.skip x)
      rw [boundaryName, boundaryName]
      split
      · exact ⟨congrArg (c :: ·) hname, hmore⟩
      · exact ⟨rfl, h⟩
termination_by s => s.length
decreasing_by
  have := skip_length_le x rest
  simp only [List.length_cons]
  omega

theorem boundary?_local : Local (boundary? x) := by
  intro s s' v t h hr
  unfold boundary? at hr
  split at hr
  · rename_i rest
    obtain ⟨u, rfl, hu⟩ := h.uncons
    have hw := hu.skip x
    rw [boundary?]
    generalize skip x rest = w at hw hr
    generalize skip x u = w' at hw ⊢
    split at hr
    · cases hr
    · rename_i c more
      obtain ⟨w, rfl, _⟩ := hw.uncons
      dsimp only
      split at hr
      · rename_i hc
        rw [if_pos hc]
        obtain ⟨hname, hmore⟩ := boundaryName_enclosed x hw
        dsimp only at hr ⊢
        rw [hname]
        generalize (boundaryName x (c :: more)).1 = name at hr ⊢
        split at hr
        · rename_i tail htail
          rw [htail] at hmore
          obtain ⟨t', ht', he⟩ := hmore.uncons
          rw [ht']
          refine ⟨t', ?_⟩
          split_ifs at hr ⊢ <;> cases hr <;> exact ⟨rfl, he⟩
        · cases hr
      · rename_i hc
        cases hr
        rw [if_neg hc]
        exact ⟨_, rfl, h⟩
  · rename_i hne
    cases hr
    refine ⟨s', ?_, h⟩
    rw [boundary?]
    exact h.ne_append ['\x7b'] (by decide) hne

/-- What is made of a value that is read changes nothing about the reader. -/
theorem Local.map {α β : Type} {read : List Char → Option (α × List Char)} (hl : Local read)
    (f : α → β) : Local fun s => (read s).map fun (v, t) => (f v, t) := by
  intro s s' v t h hr
  obtain ⟨⟨a, u⟩, ha, hr⟩ := Option.map_eq_some_iff.mp hr
  rw [Prod.mk.injEq] at hr
  obtain ⟨rfl, rfl⟩ := hr
  obtain ⟨t', ht', he⟩ := hl s s' a u h ha
  exact ⟨t', by simp only [ht', Option.map_some], he⟩

theorem escape?_local : Local (escape? x) := by
  intro s s' v t h hr
  cases s with
  | nil => cases hr
  | cons c rest =>
      obtain ⟨u, rfl, hu⟩ := h.uncons
      rw [escape?] at hr ⊢
      split at hr
      · exact (hexLiteral?_local x _).map Token.literal _ _ v t hu hr
      · split at hr
        · rename_i hc
          rw [if_pos hc]
          exact propertyClass?_local x _ _ _ v t hu hr
        · rename_i hc
          rw [if_neg hc]
          split at hr
          · cases hr
            exact ⟨u, rfl, hu⟩
          · split at hr
            · rename_i hescapable
              cases hr
              exact ⟨u, if_pos hescapable, hu⟩
            · rename_i hescapable
              rw [if_neg hescapable]
              split at hr
              · cases hr
                exact ⟨u, rfl, hu⟩
              · split at hr
                · rename_i hb
                  rw [if_pos hb]
                  exact (boundary?_local x).map Token.assertion _ _ v t hu hr
                · rename_i hb
                  rw [if_neg hb]
                  obtain ⟨a, ha, hr⟩ := Option.map_eq_some_iff.mp hr
                  cases hr
                  exact ⟨u, by rw [ha]; rfl, hu⟩

/-! ### Counts -/

theorem digits_enclosed : ∀ {s s' : List Char}, Enclosed s s' →
    (digits x s').1 = (digits x s).1 ∧ Enclosed (digits x s).2 (digits x s').2
  | [], s', h => by
      cases h with
      | closed =>
          rw [List.nil_append, digits, digits, if_neg (by decide)]
          exact ⟨rfl, .closed []⟩
      | lost => exact ⟨rfl, by rw [digits]; exact .lost⟩
  | c :: rest, s', h => by
      obtain ⟨u, rfl, hu⟩ := h.uncons
      obtain ⟨hds, hmore⟩ := digits_enclosed (hu.skip x)
      rw [digits, digits]
      split
      · exact ⟨congrArg (c :: ·) hds, hmore⟩
      · exact ⟨rfl, h⟩
termination_by s => s.length
decreasing_by
  have := skip_length_le x rest
  simp only [List.length_cons]
  omega

theorem skipWhite_enclosed : ∀ {s s' : List Char}, Enclosed s s' →
    Enclosed (skipWhite x s) (skipWhite x s')
  | [], s', h => by
      cases h with
      | closed =>
          rw [List.nil_append, skipWhite, skipWhite,
            if_neg (by rw [Enclosed.isWhite_parenthesis]; exact Bool.false_ne_true)]
          exact .closed []
      | lost => rw [skipWhite]; exact .lost
  | c :: rest, s', h => by
      obtain ⟨u, rfl, hu⟩ := h.uncons
      rw [skipWhite, skipWhite]
      split
      · exact skipWhite_enclosed (hu.skip x)
      · exact h
termination_by s => s.length
decreasing_by
  have := skip_length_le x rest
  simp only [List.length_cons]
  omega

theorem number_enclosed {s s' : List Char} (h : Enclosed s s') :
    (number x s').1 = (number x s).1 ∧ Enclosed (number x s).2 (number x s').2 := by
  obtain ⟨hds, hrest⟩ := digits_enclosed x h.dropWhite
  refine ⟨?_, skipWhite_enclosed x hrest⟩
  show (if (digits x (s'.dropWhile isWhite)).1.isEmpty ∨ _ then _ else _) = _
  rw [hds]
  rfl

/-- A count from behind its numbers. -/
def countEnd? (least most : Option Nat) : List Char → Option (Nat × Option Nat × List Char)
  | '\x7d' :: more => least.bind fun n =>
      if most.all fun m => decide (n ≤ m) then some (n, most, skip x more) else none
  | _ => none

/-- A count from behind its comma. -/
def countMost? (least : Option Nat) : List Char → Option (Nat × Option Nat × List Char)
  | '\x7d' :: more => countEnd? x least none ('\x7d' :: more)
  | s => (number x s).1.bind fun n => countEnd? x least (some n) (number x s).2

/-- A count from behind its first number. -/
def countRest? (least : Option Nat) : List Char → Option (Nat × Option Nat × List Char)
  | ',' :: s => countMost? x least (skip x s)
  | s => countEnd? x least least s

theorem countEnd?_eq (least most : Option Nat) (s : List Char) :
    countEnd? x least most s = least.bind fun n =>
      match s with
      | '\x7d' :: more =>
          if most.all fun m => decide (n ≤ m) then some (n, most, skip x more) else none
      | _ => none := by
  unfold countEnd?
  split
  · rfl
  · cases least <;> rfl

theorem count?_eq (s : List Char) :
    count? x s = countRest? x (number x (skip x s)).1 (number x (skip x s)).2 := by
  unfold count?
  generalize number x (skip x s) = n
  obtain ⟨least, rest⟩ := n
  dsimp only
  split
  · rw [countRest?]
    split
    · rename_i he
      rw [he, countMost?, countEnd?_eq]
      rfl
    · rename_i hne
      rw [countMost?]
      · cases (number x _).1 with
        | none => rfl
        | some n => exact (countEnd?_eq x _ _ _).symm
      · exact hne
  · rename_i hne
    rw [countRest?, countEnd?_eq]
    · rfl
    · exact hne

theorem countEnd?_enclosed {least most : Option Nat} {s s' : List Char} (h : Enclosed s s')
    {n : Nat} {m : Option Nat} {t : List Char} (hr : countEnd? x least most s = some (n, m, t)) :
    ∃ t', countEnd? x least most s' = some (n, m, t') ∧ Enclosed t t' := by
  unfold countEnd? at hr
  split at hr
  · obtain ⟨u, rfl, hu⟩ := h.uncons
    obtain ⟨k, rfl, hk⟩ := Option.bind_eq_some_iff.mp hr
    rw [countEnd?, Option.bind_some]
    split at hk
    · rename_i hall
      cases hk
      exact ⟨skip x u, if_pos hall, hu.skip x⟩
    · cases hk
  · cases hr

theorem countMost?_enclosed {least : Option Nat} {s s' : List Char} (h : Enclosed s s')
    {n : Nat} {m : Option Nat} {t : List Char} (hr : countMost? x least s = some (n, m, t)) :
    ∃ t', countMost? x least s' = some (n, m, t') ∧ Enclosed t t' := by
  unfold countMost? at hr
  split at hr
  · obtain ⟨u, rfl, _⟩ := h.uncons
    rw [countMost?]
    exact countEnd?_enclosed x h hr
  · rename_i hne
    obtain ⟨k, hk, hr⟩ := Option.bind_eq_some_iff.mp hr
    obtain ⟨hm, hmore⟩ := number_enclosed x h
    rw [countMost?, hm, hk, Option.bind_some]
    · exact countEnd?_enclosed x hmore hr
    · exact h.ne_append ['\x7d'] (by decide) hne

theorem count?_enclosed {s s' : List Char} (h : Enclosed s s') {n : Nat} {m : Option Nat}
    {t : List Char} (hr : count? x s = some (n, m, t)) :
    ∃ t', count? x s' = some (n, m, t') ∧ Enclosed t t' := by
  obtain ⟨hn, hrest⟩ := number_enclosed x (h.skip x)
  rw [count?_eq] at hr ⊢
  rw [hn]
  generalize (number x (skip x s)).1 = least at hr ⊢
  generalize (number x (skip x s)).2 = rest at hr hrest
  generalize (number x (skip x s')).2 = rest' at hrest ⊢
  unfold countRest? at hr
  split at hr
  · obtain ⟨u, rfl, hu⟩ := hrest.uncons
    rw [countRest?]
    exact countMost?_enclosed x (hu.skip x) hr
  · rename_i hne
    rw [countRest?]
    · exact countEnd?_enclosed x hrest hr
    · exact hrest.ne_append [','] (by decide) hne

/-! ### Flags and names -/

theorem flagLetters?_local : ∀ (s : List Char) {f : FlagChange} {clearing dangling : Bool}
    {s' : List Char} {v t}, Enclosed s s' → flagLetters? f clearing dangling s = some (v, t) →
      ∃ t', flagLetters? f clearing dangling s' = some (v, t') ∧ Enclosed t t'
  | [], f, clearing, dangling, s', v, t, h, hr => by cases hr
  | c :: rest, f, clearing, dangling, s', v, t, h, hr => by
      obtain ⟨u, rfl, hu⟩ := h.uncons
      rw [flagLetters?] at hr ⊢
      split at hr
      · rename_i hc
        rw [if_pos hc]
        split at hr
        · cases hr
        · rename_i hd
          cases hr
          exact ⟨c :: u, if_neg hd, h⟩
      · rename_i hc
        rw [if_neg hc]
        split at hr
        · rename_i hhyphen
          rw [if_pos hhyphen]
          split at hr
          · cases hr
          · rename_i hclearing
            rw [if_neg hclearing]
            exact flagLetters?_local rest hu hr
        · rename_i hhyphen
          rw [if_neg hhyphen]
          split at hr
          · exact flagLetters?_local rest hu hr
          · cases hr

theorem flags?_local : Local flags? := fun s _ _ _ h hr => flagLetters?_local s h hr

theorem nameRest?_local : Local nameRest?
  | [], s', v, t, h, hr => by cases hr
  | c :: rest, s', v, t, h, hr => by
      obtain ⟨u, rfl, hu⟩ := h.uncons
      rw [nameRest?] at hr ⊢
      split at hr
      · rename_i hc
        cases hr
        exact ⟨u, if_pos hc, hu⟩
      · rename_i hc
        rw [if_neg hc]
        split at hr
        · rename_i hname
          rw [if_pos hname]
          obtain ⟨⟨name, more⟩, hn, hr⟩ := Option.map_eq_some_iff.mp hr
          rw [Prod.mk.injEq] at hr
          obtain ⟨rfl, rfl⟩ := hr
          obtain ⟨t', ht', he⟩ := nameRest?_local rest u name more hu hn
          exact ⟨t', by rw [ht']; rfl, he⟩
        · cases hr

theorem groupName?_local : Local groupName? := by
  intro s s' v t h hr
  cases s with
  | nil => cases hr
  | cons c rest =>
      obtain ⟨u, rfl, hu⟩ := h.uncons
      rw [groupName?] at hr ⊢
      split at hr
      · rename_i hc
        rw [if_pos hc]
        exact nameRest?_local.map (c :: ·) _ _ v t hu hr
      · cases hr

/-! ### Classes -/

/-- A class between colons from its second colon on. -/
def posixEnd? (set : ClassSet) : List Char → Option (ClassSet × List Char)
  | ':' :: ']' :: more => some (set, more)
  | _ => none

/-- A class between colons from behind its sign. -/
def posixName? (negated : Bool) (s : List Char) : Option (ClassSet × List Char) :=
  (posixNames.lookup (String.ofList (s.takeWhile (· != ':')))).bind fun kind =>
    posixEnd? (.posix kind negated) (s.dropWhile (· != ':'))

/-- A class between colons from behind its first colon. -/
def posixSign? : List Char → Option (ClassSet × List Char)
  | '^' :: more => posixName? true more
  | s => posixName? false s

theorem posixClass?_colon (s : List Char) : posixClass? (':' :: s) = posixSign? s := by
  have hname : ∀ negated rest, posixName? negated rest =
      (posixNames.lookup (String.ofList (rest.span (· != ':')).1)).bind fun kind =>
        posixEnd? (.posix kind negated) (rest.span (· != ':')).2 := by
    intro negated rest
    rw [List.span_eq_takeWhile_dropWhile, posixName?]
  by_cases hs : ∃ more, s = '^' :: more
  · obtain ⟨more, rfl⟩ := hs
    rw [posixClass?, posixSign?, hname]
    rfl
  · have hne : ∀ more, s ≠ '^' :: more := fun more he => hs ⟨more, he⟩
    rw [posixSign?, hname, posixClass?]
    · rfl
    · exact hne
    · exact hne

/-- A class between colons is read from both texts or from none. -/
def Agree (a b : Option (ClassSet × List Char)) : Prop :=
  a = none ∧ b = none ∨ ∃ v t t', a = some (v, t) ∧ b = some (v, t') ∧ Enclosed t t'

theorem posixEnd?_agree {s s' : List Char} (h : Enclosed s s') (set : ClassSet) :
    Agree (posixEnd? set s) (posixEnd? set s') := by
  by_cases hs : ∃ more, s = ':' :: ']' :: more
  · obtain ⟨more, rfl⟩ := hs
    obtain ⟨u, rfl, hu⟩ := h.uncons
    obtain ⟨w, rfl, hw⟩ := hu.uncons
    exact Or.inr ⟨set, more, w, rfl, rfl, hw⟩
  · have hne : ∀ more, s ≠ ':' :: ']' :: more := fun more he => hs ⟨more, he⟩
    refine Or.inl ⟨?_, ?_⟩
    · rw [posixEnd?]
      exact hne
    · rw [posixEnd?]
      exact h.ne_append [':', ']'] (by decide) hne

theorem posixName?_agree {s s' : List Char} (h : Enclosed s s') (negated : Bool) :
    Agree (posixName? negated s) (posixName? negated s') := by
  cases h with
  | lost => exact Or.inl ⟨rfl, rfl⟩
  | closed =>
      unfold posixName?
      have hcolon : [')'].dropWhile (· != ':') = [] := by decide
      rw [List.dropWhile_append, List.takeWhile_append, hcolon]
      cases hd : s.dropWhile (· != ':') with
      | nil => exact Or.inl ⟨by simp [posixEnd?], by simp [posixEnd?]⟩
      | cons c rest =>
          have hlen : (s.takeWhile (· != ':')).length ≠ s.length := by
            have := congrArg List.length (List.takeWhile_append_dropWhile (p := (· != ':')) (l := s))
            rw [List.length_append, hd, List.length_cons] at this
            omega
          rw [if_neg hlen, if_neg (by simp)]
          cases posixNames.lookup (String.ofList (s.takeWhile (· != ':'))) with
          | none => exact Or.inl ⟨rfl, rfl⟩
          | some kind => exact posixEnd?_agree (.closed (c :: rest)) (.posix kind negated)

theorem posixSign?_agree {s s' : List Char} (h : Enclosed s s') :
    Agree (posixSign? s) (posixSign? s') := by
  rcases h.starts (c := '^') (by decide) with ⟨t, t', rfl, rfl, ht⟩ | ⟨hs, hs'⟩
  · rw [posixSign?, posixSign?]
    exact posixName?_agree ht true
  · rw [posixSign?, posixSign?]
    · exact posixName?_agree h false
    · exact hs'
    · exact hs

theorem posixClass?_agree {s s' : List Char} (h : Enclosed s s') :
    Agree (posixClass? s) (posixClass? s') := by
  rcases h.starts (c := ':') (by decide) with ⟨t, t', rfl, rfl, ht⟩ | ⟨hs, hs'⟩
  · rw [posixClass?_colon, posixClass?_colon]
    exact posixSign?_agree ht
  · refine Or.inl ⟨?_, ?_⟩
    · rw [posixClass?]
      exact hs
    · rw [posixClass?]
      exact hs'

theorem leadingHyphens_other {s : List Char} (hs : ∀ rest, s ≠ '-' :: rest) :
    leadingHyphens x s = ([], s) := by
  rw [leadingHyphens]
  exact hs

theorem leadingHyphens_enclosed : ∀ {s s' : List Char}, Enclosed s s' →
    (leadingHyphens x s').1 = (leadingHyphens x s).1 ∧
      Enclosed (leadingHyphens x s).2 (leadingHyphens x s').2
  | [], s', h => by
      rw [leadingHyphens_other x (s := []) (by simp), leadingHyphens_other x]
      · exact ⟨rfl, h⟩
      · exact h.ne_append ['-'] (by decide) (by simp)
  | c :: rest, s', h => by
      obtain ⟨u, rfl, hu⟩ := h.uncons
      by_cases hc : c = '-'
      · subst hc
        obtain ⟨hitems, hmore⟩ := leadingHyphens_enclosed (hu.skip x)
        rw [leadingHyphens, leadingHyphens]
        exact ⟨congrArg (ClassSet.literal ⟨'-', false⟩ :: ·) hitems, hmore⟩
      · rw [leadingHyphens_other x (by simp [hc]), leadingHyphens_other x (by simp [hc])]
        exact ⟨rfl, h⟩
termination_by s => s.length
decreasing_by
  have := skip_length_le x rest
  simp only [List.length_cons]
  omega

/-- The sign of a class, and what stands behind it. -/
def classSign : List Char → Bool × List Char
  | '^' :: rest => (true, skip x rest)
  | s => (false, s)

/-- The first items of a class behind its hyphens. -/
def classFirst (hyphens : List ClassSet) (s : List Char) : List ClassSet × List Char :=
  match hyphens, s with
  | [], ']' :: rest => ([ClassSet.literal ⟨']', false⟩], skip x rest)
  | _, _ => (hyphens, s)

/-- The start of a class from behind its hyphens. -/
def classItems? (negated : Bool) (hyphens : List ClassSet) (s : List Char) :
    Option (Bool × List ClassSet × List Char) :=
  if (classFirst x hyphens s).2.isEmpty then none
  else some (negated, (classFirst x hyphens s).1, (classFirst x hyphens s).2)

theorem classStart?_eq (s : List Char) : classStart? x s =
    classItems? x (classSign x (skip x s)).1 (leadingHyphens x (classSign x (skip x s)).2).1
      (leadingHyphens x (classSign x (skip x s)).2).2 := rfl

theorem classSign_enclosed {s s' : List Char} (h : Enclosed s s') :
    (classSign x s').1 = (classSign x s).1 ∧ Enclosed (classSign x s).2 (classSign x s').2 := by
  rcases h.starts (c := '^') (by decide) with ⟨t, t', rfl, rfl, ht⟩ | ⟨hs, hs'⟩
  · exact ⟨rfl, ht.skip x⟩
  · rw [classSign, classSign]
    · exact ⟨rfl, h⟩
    · exact hs
    · exact hs'

theorem classFirst_enclosed (hyphens : List ClassSet) {s s' : List Char} (h : Enclosed s s') :
    (classFirst x hyphens s').1 = (classFirst x hyphens s).1 ∧
      Enclosed (classFirst x hyphens s).2 (classFirst x hyphens s').2 := by
  cases hyphens with
  | cons item rest => exact ⟨rfl, h⟩
  | nil =>
      rcases h.starts (c := ']') (by decide) with ⟨t, t', rfl, rfl, ht⟩ | ⟨hs, hs'⟩
      · exact ⟨rfl, ht.skip x⟩
      · rw [classFirst, classFirst]
        · exact ⟨rfl, h⟩
        · exact fun t _ => hs t
        · exact fun t _ => hs' t

theorem classItems?_enclosed {s s' : List Char} (h : Enclosed s s') {negated : Bool}
    {hyphens items : List ClassSet} {sign : Bool} {t : List Char}
    (hr : classItems? x sign hyphens s = some (negated, items, t)) :
    ∃ t', classItems? x sign hyphens s' = some (negated, items, t') ∧ Enclosed t t' := by
  obtain ⟨hfirst, hlast⟩ := classFirst_enclosed x hyphens h
  unfold classItems? at hr ⊢
  rw [hfirst]
  generalize classFirst x hyphens s = u at hr hlast
  generalize classFirst x hyphens s' = u' at hlast
  obtain ⟨_, u⟩ := u
  obtain ⟨_, u'⟩ := u'
  split at hr
  · cases hr
  · rename_i hne
    cases hr
    refine ⟨u', if_neg fun he => hne ?_, hlast⟩
    dsimp only at he hlast ⊢
    rw [List.isEmpty_iff.mp he] at hlast
    cases u with
    | nil => rfl
    | cons c rest =>
        obtain ⟨w, hw, _⟩ := hlast.uncons
        cases hw

theorem classStart?_enclosed {s s' : List Char} (h : Enclosed s s') {negated : Bool}
    {items : List ClassSet} {t : List Char} (hr : classStart? x s = some (negated, items, t)) :
    ∃ t', classStart? x s' = some (negated, items, t') ∧ Enclosed t t' := by
  obtain ⟨hsign, hs⟩ := classSign_enclosed x (h.skip x)
  obtain ⟨hhyphens, hrest⟩ := leadingHyphens_enclosed x hs
  rw [classStart?_eq] at hr ⊢
  rw [hsign, hhyphens]
  exact classItems?_enclosed x hrest hr

theorem classToken?_local : Local (classToken? x) := by
  intro s s' v t h hr
  unfold classToken? at hr
  split at hr
  · cases hr
  · obtain ⟨u, rfl, hu⟩ := h.uncons
    rw [classToken?]
    exact escape?_local x _ _ v t hu hr
  · rename_i hne
    obtain ⟨u, rfl, hu⟩ := h.uncons
    cases hr
    rw [classToken?]
    · exact ⟨u, rfl, hu⟩
    · exact hne

theorem head?_enclosed {s s' : List Char} (h : Enclosed s s') :
    s'.head? = s.head? ∨ s.head? = none ∧ s'.head? = some ')' := by
  cases h with
  | closed =>
      cases s with
      | nil => exact Or.inr ⟨rfl, rfl⟩
      | cons c rest => exact Or.inl rfl
  | lost => exact Or.inl rfl

/-- What is seen past blanks and one comment sign. -/
def seenPast (s : List Char) : List Char :=
  match s.dropWhile isWhite with
  | '#' :: more => more.dropWhile isWhite
  | other => other

theorem seenPast_enclosed {s s' : List Char} (h : Enclosed s s') :
    Enclosed (seenPast s) (seenPast s') := by
  have hd := h.dropWhite
  unfold seenPast
  generalize s.dropWhile isWhite = u at hd ⊢
  generalize s'.dropWhile isWhite = u' at hd ⊢
  split
  · obtain ⟨w, rfl, hw⟩ := hd.uncons
    exact hw.dropWhite
  · rename_i hne
    split
    · obtain ⟨w, rfl, _⟩ := hd.uncons_right (by decide)
      exact absurd rfl (hne w)
    · exact hd

/-- A bracket or a hyphen is no blank that could be looked past. -/
theorem seenPast_head {s : List Char} (h : s.head? = some ']' ∨ s.head? = some '-') :
    seenPast s = s := by
  have hwhite : isWhite ']' = false ∧ isWhite '-' = false := by decide +kernel
  obtain ⟨c, rest, rfl⟩ : ∃ c rest, s = c :: rest := by
    cases s with
    | nil => rcases h with h | h <;> cases h
    | cons c rest => exact ⟨c, rest, rfl⟩
  rw [List.head?_cons, Option.some.injEq, Option.some.injEq] at h
  have hc : isWhite c = false ∧ c ≠ '#' := by
    rcases h with rfl | rfl
    · exact ⟨hwhite.1, by decide⟩
    · exact ⟨hwhite.2, by decide⟩
  unfold seenPast
  rw [List.dropWhile_cons, if_neg (by rw [hc.1]; exact Bool.false_ne_true)]
  split
  · rename_i he
    exact absurd (List.cons.inj he).1 hc.2
  · rfl

/-- Looking past the blanks finds a bracket or a hyphen in both texts or in none. -/
theorem peekPast_enclosed {s s' : List Char} (h : Enclosed s s') :
    (peekPast x s' = some ']' ∨ peekPast x s' = some '-') ↔
      (peekPast x s = some ']' ∨ peekPast x s = some '-') := by
  cases x with
  | false =>
      show (s'.head? = _ ∨ s'.head? = _) ↔ (s.head? = _ ∨ s.head? = _)
      rcases head?_enclosed h with he | ⟨he, he'⟩
      · rw [he]
      · simp [he, he']
  | true =>
      show (((seenPast s').head? <|> s'.head?) = _ ∨ ((seenPast s').head? <|> s'.head?) = _) ↔
        (((seenPast s).head? <|> s.head?) = _ ∨ ((seenPast s).head? <|> s.head?) = _)
      rcases head?_enclosed (seenPast_enclosed h) with he | ⟨he, he'⟩
      · rw [he]
        cases (seenPast s).head? with
        | some c => rfl
        | none =>
            rcases head?_enclosed h with hs | ⟨hs, hs'⟩
            · rw [hs]
            · simp [hs, hs']
      · rw [he, he']
        refine ⟨fun hc => by simp at hc, fun hc => ?_⟩
        have hs : s.head? = some ']' ∨ s.head? = some '-' := hc
        rw [seenPast_head hs] at he
        rw [he] at hs
        simp at hs

/-- An item of a class from behind its first token. -/
def classRest? (token : Token) : List Char → Option (ClassSet × List Char)
  | [] => none
  | '-' :: more =>
      if peekPast x more = some ']' ∨ peekPast x more = some '-' then
        token.item?.map fun item => (item, '-' :: more)
      else (classToken? x (skip x more)).bind fun (last, more) =>
        match token, last with
        | .literal a, .literal b => if a.char ≤ b.char then some (.range a b, more) else none
        | _, _ => none
  | rest => token.item?.map fun item => (item, rest)

theorem classItem?_eq (s : List Char) : classItem? x s =
    (classToken? x s).bind fun (token, rest) => classRest? x token (skip x rest) := by
  unfold classItem?
  cases classToken? x s with
  | none => rfl
  | some r =>
      obtain ⟨token, rest⟩ := r
      simp only [Option.bind_eq_bind, Option.bind_some]
      generalize skip x rest = rest
      split
      · rfl
      · rw [classRest?]
        split
        · cases token.item? <;> rfl
        · rfl
      · rename_i hne₁ hne₂
        rw [classRest?]
        · cases token.item? <;> rfl
        · exact hne₁
        · exact hne₂

theorem classRest?_local (token : Token) : Local (classRest? x token) := by
  intro s s' v t h hr
  unfold classRest? at hr
  split at hr
  · cases hr
  · rename_i more
    obtain ⟨u, rfl, hu⟩ := h.uncons
    rw [classRest?]
    split at hr
    · rename_i hpeek
      rw [if_pos ((peekPast_enclosed x hu).mpr hpeek)]
      obtain ⟨item, hi, hr⟩ := Option.map_eq_some_iff.mp hr
      cases hr
      exact ⟨'-' :: u, by rw [hi]; rfl, h⟩
    · rename_i hpeek
      rw [if_neg fun hp => hpeek ((peekPast_enclosed x hu).mp hp)]
      obtain ⟨⟨last, rest⟩, hlast, hr⟩ := Option.bind_eq_some_iff.mp hr
      obtain ⟨t', ht', he⟩ := classToken?_local x _ _ last rest (hu.skip x) hlast
      rw [ht', Option.bind_some]
      dsimp only at hr ⊢
      split at hr
      · split at hr
        · rename_i hle
          cases hr
          exact ⟨t', if_pos hle, he⟩
        · cases hr
      · cases hr
  · rename_i hne₁ hne₂
    obtain ⟨item, hi, hr⟩ := Option.map_eq_some_iff.mp hr
    cases hr
    cases s with
    | nil => exact absurd rfl hne₁
    | cons c rest =>
        obtain ⟨u, rfl, _⟩ := h.uncons
        rw [classRest?]
        · exact ⟨c :: u, by rw [hi]; rfl, h⟩
        · simp
        · rintro w he
          rw [List.cons.injEq] at he
          exact hne₂ rest (by rw [he.1])

theorem classItem?_local : Local (classItem? x) := by
  intro s s' v t h hr
  rw [classItem?_eq] at hr ⊢
  obtain ⟨⟨token, rest⟩, htoken, hr⟩ := Option.bind_eq_some_iff.mp hr
  obtain ⟨rest', htoken', hrest⟩ := classToken?_local x s s' token rest h htoken
  rw [htoken', Option.bind_some]
  exact classRest?_local x token _ _ v t (hrest.skip x) hr

namespace ClassReader

theorem open?_local (r : ClassReader) : Local (r.open? x) := by
  intro s s' v t h hr
  obtain ⟨⟨negated, items, rest⟩, hstart, hr⟩ := Option.bind_eq_some_iff.mp hr
  obtain ⟨rest', hstart', hrest⟩ := classStart?_enclosed x h hstart
  cases hr
  exact ⟨rest', by rw [open?, hstart']; rfl, hrest⟩

/-- One token of a class that blanks have been skipped before. -/
def token? (r : ClassReader) (s : List Char) : Option (ClassStep × List Char) :=
  match s with
  | [] => none
  | '[' :: rest =>
      match posixClass? rest with
      | some (item, more) => some (.more ⟨item :: r.items, r.frames⟩, more)
      | none => (r.open? x rest).map fun (r, more) => (.more r, more)
  | ']' :: rest => r.close?.map fun step => (step, rest)
  | '&' :: '&' :: rest => some (.more (r.operator .intersection), rest)
  | '-' :: '-' :: rest => some (.more (r.operator .difference), rest)
  | '~' :: '~' :: rest => some (.more (r.operator .symmetricDifference), rest)
  | s => (classItem? x s).map fun (item, more) => (.more ⟨item :: r.items, r.frames⟩, more)

theorem token?_local (r : ClassReader) : Local (r.token? x) := by
  intro s s' v t h hr
  unfold token? at hr
  split at hr
  · cases hr
  · rename_i rest
    obtain ⟨u, rfl, hu⟩ := h.uncons
    rw [token?]
    rcases posixClass?_agree hu with ⟨hn, hn'⟩ | ⟨item, more, more', hs, hs', hmore⟩
    · rw [hn] at hr
      rw [hn']
      exact (open?_local x r).map ClassStep.more _ _ v t hu hr
    · rw [hs] at hr
      rw [hs']
      cases hr
      exact ⟨more', rfl, hmore⟩
  · obtain ⟨u, rfl, hu⟩ := h.uncons
    rw [token?]
    obtain ⟨step, hstep, hr⟩ := Option.map_eq_some_iff.mp hr
    cases hr
    exact ⟨u, by rw [hstep]; rfl, hu⟩
  · obtain ⟨u, rfl, hu⟩ := h.uncons
    obtain ⟨w, rfl, hw⟩ := hu.uncons
    cases hr
    exact ⟨w, rfl, hw⟩
  · obtain ⟨u, rfl, hu⟩ := h.uncons
    obtain ⟨w, rfl, hw⟩ := hu.uncons
    cases hr
    exact ⟨w, rfl, hw⟩
  · obtain ⟨u, rfl, hu⟩ := h.uncons
    obtain ⟨w, rfl, hw⟩ := hu.uncons
    cases hr
    exact ⟨w, rfl, hw⟩
  · rename_i h₁ h₂ h₃ h₄ h₅ h₆
    have hs' : s' ≠ [] := by
      cases s with
      | nil => exact absurd rfl h₁
      | cons c rest =>
          obtain ⟨u, rfl, _⟩ := h.uncons
          exact List.cons_ne_nil c u
    rw [token?]
    · exact (classItem?_local x).map (fun item => ClassStep.more ⟨item :: r.items, r.frames⟩) _ _ v t
        h hr
    · exact hs'
    · exact h.ne_append ['['] (by decide) h₂
    · exact h.ne_append [']'] (by decide) h₃
    · exact h.ne_append ['&', '&'] (by decide) h₄
    · exact h.ne_append ['-', '-'] (by decide) h₅
    · exact h.ne_append ['~', '~'] (by decide) h₆

theorem step?_local (r : ClassReader) : Local (r.step? x) :=
  fun _ _ v t h hr => token?_local x r _ _ v t (h.skip x) hr

theorem run?_enclosed : ∀ (fuel : Nat) {more : Nat} {r : ClassReader} {s s' : List Char}
    {negated : Bool} {set : ClassSet} {t : List Char}, fuel ≤ more → Enclosed s s' →
    r.run? x fuel s = some (negated, set, t) →
    ∃ t', r.run? x more s' = some (negated, set, t') ∧ Enclosed t t'
  | 0, _, _, _, _, _, _, _, _, _, hr => by cases hr
  | fuel + 1, 0, _, _, _, _, _, _, hle, _, _ => absurd hle (by omega)
  | fuel + 1, more + 1, r, s, s', negated, set, t, hle, h, hr => by
      rw [run?] at hr ⊢
      split at hr
      · cases hr
      · rename_i r' rest hstep
        obtain ⟨rest', hstep', hrest⟩ := step?_local x r s s' _ _ h hstep
        rw [hstep']
        exact run?_enclosed fuel (Nat.le_of_succ_le_succ hle) hrest hr
      · rename_i negated' set' rest hstep
        obtain ⟨rest', hstep', hrest⟩ := step?_local x r s s' _ _ h hstep
        rw [hstep']
        cases hr
        exact ⟨rest', rfl, hrest⟩

end ClassReader

theorem bracketed?_enclosed {s s' : List Char} (h : Enclosed s s') {negated : Bool} {set : ClassSet}
    {t : List Char} (hr : bracketed? x s = some (negated, set, t)) :
    ∃ t', bracketed? x s' = some (negated, set, t') ∧ Enclosed t t' := by
  obtain ⟨⟨r, rest⟩, hopen, hr⟩ := Option.bind_eq_some_iff.mp hr
  obtain ⟨rest', hopen', hrest⟩ := ClassReader.open?_local x ⟨[], []⟩ s s' r rest h hopen
  have hlen : rest.length ≤ rest'.length := by
    cases hrest with
    | closed => simp
    | lost => exact Nat.le_refl _
  obtain ⟨t', hrun, he⟩ := ClassReader.run?_enclosed x _ (Nat.succ_le_succ hlen) hrest hr
  refine ⟨t', ?_, he⟩
  rw [bracketed?, hopen']
  exact hrun

/-! ### Expressions -/

/-- A group that is open around all that is read. -/
structure Around where
  outer : List Expr
  kind : GroupKind
  ignoreBlanks : Bool

namespace Reader

/-- The reader inside a group. -/
def inside (r : Reader) (a : Around) : Reader :=
  { r with frames := r.frames ++ [.group a.outer a.kind a.ignoreBlanks] }

variable {r : Reader} {a : Around}

@[simp] theorem parts_inside : (r.inside a).parts = r.parts := rfl

@[simp] theorem ignoreBlanks_inside : (r.inside a).ignoreBlanks = r.ignoreBlanks := rfl

theorem nextBranch_inside : (r.inside a).nextBranch = r.nextBranch.inside a := by
  obtain ⟨parts, frames, b, captures, names⟩ := r
  cases frames with
  | nil => rfl
  | cons f rest => cases f <;> rfl

theorem inner_inside : (r.inside a).inner =
    (r.inner.1, r.inner.2 ++ [.group a.outer a.kind a.ignoreBlanks]) := by
  obtain ⟨parts, frames, b, captures, names⟩ := r
  cases frames with
  | nil => rfl
  | cons f rest => cases f <;> rfl

theorem closeGroup?_inside {r' : Reader} (h : r.closeGroup? = some r') :
    (r.inside a).closeGroup? = some (r'.inside a) := by
  unfold closeGroup? at h ⊢
  rw [inner_inside]
  generalize r.inner = i at h ⊢
  obtain ⟨body, frames⟩ := i
  cases frames with
  | nil => cases h
  | cons f rest =>
      cases f with
      | group outer kind b =>
          cases h
          rfl
      | branches done => cases h

theorem openNamed?_enclosed {s s' : List Char} (h : Enclosed s s') {r' : Reader} {t : List Char}
    (hr : r.openNamed? s = some (r', t)) :
    ∃ t', (r.inside a).openNamed? s' = some (r'.inside a, t') ∧ Enclosed t t' := by
  obtain ⟨⟨name, rest⟩, hname, hr⟩ := Option.bind_eq_some_iff.mp hr
  obtain ⟨rest', hname', hrest⟩ := groupName?_local s s' name rest h hname
  dsimp only at hr
  split at hr
  · cases hr
  · rename_i hnew
    cases hr
    refine ⟨rest', ?_, hrest⟩
    unfold openNamed?
    rw [hname']
    exact if_neg hnew

/-- What flags behind a parenthesis start: a flag change or a group. -/
def flagGroup? (r : Reader) (change : FlagChange) : List Char → Option (Reader × List Char)
  | ')' :: more =>
      if change = {} then none
      else
        some ({ r.push (.setFlags change) with
          ignoreBlanks := change.ignoreBlanks.getD r.ignoreBlanks }, more)
  | _ :: more => some (r.openGroup (.scope change), more)
  | [] => none

/-- What a parenthesis starts that blanks have been skipped behind. -/
def paren? (r : Reader) : List Char → Option (Reader × List Char)
  | '?' :: '=' :: _ | '?' :: '!' :: _ | '?' :: '<' :: '=' :: _ | '?' :: '<' :: '!' :: _ => none
  | '?' :: 'P' :: '<' :: rest => r.openNamed? rest
  | '?' :: '<' :: rest => r.openNamed? rest
  | '?' :: rest => (flags? rest).bind fun (change, rest) => r.flagGroup? change rest
  | rest => some (r.openCapture, rest)

theorem openParen?_eq (s : List Char) : r.openParen? s = r.paren? (skip r.ignoreBlanks s) := rfl

theorem flagGroup?_enclosed {change : FlagChange} {s s' : List Char} (h : Enclosed s s')
    {r' : Reader} {t : List Char} (hr : r.flagGroup? change s = some (r', t)) :
    ∃ t', (r.inside a).flagGroup? change s' = some (r'.inside a, t') ∧ Enclosed t t' := by
  unfold flagGroup? at hr
  split at hr
  · obtain ⟨u, rfl, hu⟩ := h.uncons
    split at hr
    · cases hr
    · rename_i hchange
      cases hr
      refine ⟨u, ?_, hu⟩
      rw [flagGroup?, if_neg hchange]
      rfl
  · rename_i hne
    obtain ⟨u, rfl, hu⟩ := h.uncons
    cases hr
    rw [flagGroup?]
    · exact ⟨u, rfl, hu⟩
    · exact hne
  · cases hr

theorem paren?_enclosed {s s' : List Char} (h : Enclosed s s') {r' : Reader} {t : List Char}
    (hr : r.paren? s = some (r', t)) :
    ∃ t', (r.inside a).paren? s' = some (r'.inside a, t') ∧ Enclosed t t' := by
  unfold paren? at hr
  split at hr
  · cases hr
  · cases hr
  · cases hr
  · cases hr
  · obtain ⟨u, rfl, hu⟩ := h.uncons
    obtain ⟨v, rfl, hv⟩ := hu.uncons
    obtain ⟨w, rfl, hw⟩ := hv.uncons
    exact openNamed?_enclosed hw hr
  · rename_i h₁ h₂
    obtain ⟨u, rfl, hu⟩ := h.uncons
    obtain ⟨w, rfl, hw⟩ := hu.uncons
    rw [paren?]
    · exact openNamed?_enclosed hw hr
    · exact hw.ne_append ['='] (by decide) h₁
    · exact hw.ne_append ['!'] (by decide) h₂
  · rename_i h₁ h₂ h₃ h₄ h₅ h₆
    obtain ⟨u, rfl, hu⟩ := h.uncons
    rw [paren?]
    · obtain ⟨⟨change, rest⟩, hflags, hr⟩ := Option.bind_eq_some_iff.mp hr
      obtain ⟨rest', hflags', hrest⟩ := flags?_local _ _ change rest hu hflags
      rw [hflags', Option.bind_some]
      exact flagGroup?_enclosed hrest hr
    · exact hu.ne_append ['='] (by decide) h₁
    · exact hu.ne_append ['!'] (by decide) h₂
    · exact hu.ne_append ['<', '='] (by decide) h₃
    · exact hu.ne_append ['<', '!'] (by decide) h₄
    · exact hu.ne_append ['P', '<'] (by decide) h₅
    · exact hu.ne_append ['<'] (by decide) h₆
  · rename_i h₁ h₂ h₃ h₄ h₅ h₆ h₇
    cases hr
    rw [paren?]
    · exact ⟨s', rfl, h⟩
    · exact h.ne_append ['?', '='] (by decide) h₁
    · exact h.ne_append ['?', '!'] (by decide) h₂
    · exact h.ne_append ['?', '<', '='] (by decide) h₃
    · exact h.ne_append ['?', '<', '!'] (by decide) h₄
    · exact h.ne_append ['?', 'P', '<'] (by decide) h₅
    · exact h.ne_append ['?', '<'] (by decide) h₆
    · exact h.ne_append ['?'] (by decide) h₇

theorem openParen?_enclosed {s s' : List Char} (h : Enclosed s s') {r' : Reader} {t : List Char}
    (hr : r.openParen? s = some (r', t)) :
    ∃ t', (r.inside a).openParen? s' = some (r'.inside a, t') ∧ Enclosed t t' := by
  rw [openParen?_eq] at hr ⊢
  exact paren?_enclosed (h.skip _) hr

theorem repeatLast?_enclosed {s s' : List Char} (h : Enclosed s s') {r' : Reader} {t : List Char}
    {least : Nat} {most : Option Nat} (hr : r.repeatLast? least most s = some (r', t)) :
    ∃ t', (r.inside a).repeatLast? least most s' = some (r'.inside a, t') ∧ Enclosed t t' := by
  unfold repeatLast? at hr ⊢
  rw [parts_inside]
  split at hr
  · cases hr
  · cases hr
  · cases hr
  · rcases h.starts (c := '?') (by decide) with ⟨u, u', rfl, rfl, hu⟩ | ⟨hs, hs'⟩
    · cases hr
      exact ⟨u', rfl, hu⟩
    · split at hr
      rename_i hgreed
      split at hgreed
      · exact absurd rfl (hs _)
      · cases hgreed
        cases hr
        refine ⟨s', ?_, h⟩
        split
        rename_i hgreed
        cases hgreed
        rfl

theorem step?_enclosed {c : Char} {s s' : List Char} (h : Enclosed s s') {r' : Reader}
    {t : List Char} (hr : r.step? c s = some (r', t)) :
    ∃ t', (r.inside a).step? c s' = some (r'.inside a, t') ∧ Enclosed t t' := by
  unfold step? at hr
  split at hr
  · exact openParen?_enclosed h hr
  · obtain ⟨r₁, hclose, hr⟩ := Option.map_eq_some_iff.mp hr
    cases hr
    refine ⟨s', ?_, h⟩
    rw [step?, closeGroup?_inside hclose]
    rfl
  · cases hr
    refine ⟨s', ?_, h⟩
    rw [step?, nextBranch_inside]
  · obtain ⟨⟨negated, set, more⟩, hb, hr⟩ := Option.map_eq_some_iff.mp hr
    obtain ⟨t', hb', he⟩ := bracketed?_enclosed _ h hb
    cases hr
    refine ⟨t', ?_, he⟩
    rw [step?, ignoreBlanks_inside, hb']
    rfl
  · exact repeatLast?_enclosed h hr
  · exact repeatLast?_enclosed h hr
  · exact repeatLast?_enclosed h hr
  · obtain ⟨⟨least, most, more⟩, hc, hr⟩ := Option.bind_eq_some_iff.mp hr
    obtain ⟨t', hc', he⟩ := count?_enclosed _ h hc
    rw [step?, ignoreBlanks_inside, hc']
    exact repeatLast?_enclosed he hr
  · obtain ⟨⟨token, more⟩, htoken, hr⟩ := Option.map_eq_some_iff.mp hr
    obtain ⟨t', htoken', he⟩ := escape?_local _ s s' token more h htoken
    cases hr
    refine ⟨t', ?_, he⟩
    rw [step?, ignoreBlanks_inside, htoken']
    rfl
  · cases hr
    exact ⟨s', rfl, h⟩
  · cases hr
    exact ⟨s', rfl, h⟩
  · cases hr
    exact ⟨s', rfl, h⟩
  · cases hr
    refine ⟨s', ?_, h⟩
    rw [step?]
    · rfl
    all_goals assumption

/-- The expression that is read when the group around it has been closed. -/
def closed (a : Around) (e : Expr) : Expr := .ofParts (a.outer.reverse ++ [.group a.kind e])

theorem finish?_inside : (r.inside a).finish? = none := by
  unfold finish?
  rw [inner_inside]
  split
  · rename_i he
    rw [Prod.mk.injEq] at he
    exact absurd he.2 (by simp)
  · rfl

/-- At the end of the text the parenthesis closes the group around it. -/
theorem closeGroup?_finish {e : Expr} (h : r.finish? = some e) (ha : a.ignoreBlanks = false) :
    ∃ r', (r.inside a).closeGroup? = some r' ∧ r'.ignoreBlanks = false ∧
      r'.finish? = some (closed a e) := by
  unfold finish? at h
  unfold closeGroup?
  rw [inner_inside]
  generalize r.inner = i at h ⊢
  obtain ⟨body, frames⟩ := i
  cases frames with
  | nil =>
      cases h
      refine ⟨_, rfl, ha, ?_⟩
      show some (Expr.ofParts (Expr.group a.kind e :: a.outer).reverse) = _
      rw [List.reverse_cons]
      rfl
  | cons f rest => cases h

/-- **Reading on inside a group**: from a text that is an expression and the enclosed one the same is
read, or the enclosed one leaves the group open. -/
theorem run?_inside {e : Expr} (ha : a.ignoreBlanks = false) : ∀ (fuel more : Nat) {r r₁ : Reader}
    {s s' : List Char}, fuel < more → Enclosed s s' → r.run? fuel s = some r₁ →
    r₁.finish? = some e → ∃ r₂, (r.inside a).run? more s' = some r₂ ∧
      (r₂.finish? = none ∨ r₂.finish? = some (closed a e))
  | 0, _, _, _, _, _, _, _, hr, _ => by cases hr
  | fuel + 1, 0, _, _, _, _, hlt, _, _, _ => absurd hlt (by omega)
  | fuel + 1, 1, _, _, _, _, hlt, _, _, _ => absurd hlt (by omega)
  | fuel + 1, more + 2, r, r₁, s, s', hlt, h, hr, hf => by
      have hu := h.skip r.ignoreBlanks
      rw [run?] at hr
      generalize skip r.ignoreBlanks s = u at hr hu
      generalize hs' : skip r.ignoreBlanks s' = u' at hu
      rw [← ignoreBlanks_inside (a := a)] at hs'
      cases u with
      | nil =>
          cases hr
          cases hu with
          | closed =>
              obtain ⟨r', hclose, hb, hfinish⟩ := closeGroup?_finish hf ha
              have hstep : (r.inside a).step? ')' [] = some (r', []) := by
                rw [step?, hclose]
                rfl
              refine ⟨r', ?_, Or.inr hfinish⟩
              rw [run?_cons (more + 1) hs' hstep, run?, hb]
              rfl
          | lost =>
              refine ⟨r.inside a, ?_, Or.inl finish?_inside⟩
              rw [run?, hs']
      | cons c rest =>
          obtain ⟨w, rfl, hw⟩ := hu.uncons
          dsimp only at hr
          split at hr
          · cases hr
          · rename_i r' left hstep
            obtain ⟨left', hstep', hleft⟩ := step?_enclosed (a := a) hw hstep
            rw [run?_cons (more + 1) hs' hstep']
            exact run?_inside ha fuel (more + 1) (by omega) hleft hr hf

end Reader

end TrafficRules.Regex
