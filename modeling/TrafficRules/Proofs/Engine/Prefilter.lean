import TrafficRules.Proofs.Engine.Matches
import TrafficRules.Proofs.Regex.Code
import TrafficRules.Proofs.Regex.Enclosing
import TrafficRules.Proofs.Regex.Paths

/-! # The set of expressions as a filter

Before an engine searches for an expression it asks whether the whole input contains a match of the set
expression, which is read from another text under other flags. Nothing is lost or added by that
(`Engine.scanFrom_expressions`), because both expressions have the same program.

* **Texts.** The set expression is the expression inside a group behind a change of flags
  (`ofText?_setExpression`), and under that change the flags are those of the pattern
  (`mode_setChange`).
* **Programs.** A change of flags and a group add nothing to a program
  (`program_setExpression`).
* **Searches.** If there is no match in the whole input, there is none from any position on
  (`findAll_eq_nil`). -/

namespace TrafficRules

/-! ### Texts -/

namespace Signature

open Regex

variable {f : Flags}

/-- The change of flags in front of a set expression. -/
def setChange (f : Flags) : FlagChange where
  caseless := if f.caseless then some true else none
  dotAll := if f.dotAll then some true else none
  multiLine := if f.multiLine then some true else none
  unicode := some f.unicode

/-- Under the change of flags a set expression is read as the expression under its own flags. -/
theorem mode_setChange (f : Flags) : (({} : Mode).apply (setChange f)).apply {} = f.mode := by
  obtain ⟨c, d, m, h, u, w⟩ := f
  cases c <;> cases d <;> cases m <;> rfl

/-- The group of a set expression, behind the change of flags. -/
def setGroup (f : Flags) : Around := ⟨[.setFlags (setChange f)], .scope {}, false⟩

/-- What stands in front of the expression in a set expression. -/
def setFront (f : Flags) : List Char :=
  ['(', '?'] ++ (if f.caseless then ['i'] else []) ++ (if f.dotAll then ['s'] else []) ++
    (if f.multiLine then ['m'] else []) ++ (if f.unicode then ['u'] else ['-', 'u']) ++
    [')', '(', '?', ':']

theorem toList_setExpression (regex : String) (f : Flags) :
    (setExpression regex f).toList = setFront f ++ (regex.toList ++ [')']) := by
  rw [setExpression, String.toList_ofList, setFront]
  simp only [List.append_assoc]

theorem run?_setFront (f : Flags) (fuel : Nat) (s : List Char) :
    Reader.start.run? (fuel + 2) (setFront f ++ s) =
      (Reader.start.inside (setGroup f)).run? fuel s := by
  obtain ⟨c, d, m, h, u, w⟩ := f
  cases c <;> cases d <;> cases m <;> cases u <;> cases w <;> rfl

/-- **Set expressions**: where both texts are expressions, the set expression is the change of flags
and the expression in a group. -/
theorem ofText?_setExpression {regex : String} {e e' : Expr}
    (h : Expr.ofText? regex.toList = some e)
    (h' : Expr.ofText? (setExpression regex f).toList = some e') :
    e' = .concat [.setFlags (setChange f), .group (.scope {}) e] := by
  obtain ⟨r, hr, he, _⟩ := ofText?_eq_some_iff.mp h
  obtain ⟨r', hr', he', _⟩ := ofText?_eq_some_iff.mp h'
  rw [toList_setExpression] at hr'
  obtain ⟨fuel, hfuel, hlt⟩ : ∃ fuel, (setFront f ++ (regex.toList ++ [')'])).length + 1 = fuel + 2 ∧
      regex.toList.length + 1 < fuel := by
    have hfront : 4 ≤ (setFront f).length := by
      simp only [setFront, List.length_append, List.length_cons, List.length_nil]
      omega
    refine ⟨(setFront f ++ (regex.toList ++ [')'])).length - 1, ?_, ?_⟩
    · simp only [List.length_append, List.length_singleton]
      omega
    · simp only [List.length_append, List.length_singleton]
      omega
  rw [hfuel, run?_setFront] at hr'
  obtain ⟨r₂, hr₂, hfinish⟩ := Reader.run?_inside (a := setGroup f) rfl _ _ hlt (.closed _) hr he
  rw [hr'] at hr₂
  cases hr₂
  rcases hfinish with hnone | hsome
  · rw [he'] at hnone
    cases hnone
  · rw [he'] at hsome
    exact Option.some.inj hsome

/-! ### Programs -/

/-- The set expression of a pattern has the program of its expression. -/
theorem program_setExpression {limit : Nat} {regex : String} {r r' : Regex}
    (h : Regex.ofText f.mode limit regex.toList = .ok r)
    (h' : Regex.ofText {} limit (setExpression regex f).toList = .ok r') :
    r'.program = r.program := by
  obtain ⟨e, m, he, hm, hp⟩ := ofText_ok h
  obtain ⟨e', m', he', hm', hp'⟩ := ofText_ok h'
  rw [ofText?_setExpression he he'] at hm'
  have hterm : (Expr.concat [.setFlags (setChange f), .group (.scope {}) e]).resolve? {} =
      some (.cat [.empty, r.term], ({} : Mode).apply (setChange f)) := by
    simp only [Expr.resolve?, Expr.resolveAll?, mode_setChange, hm, Option.bind_eq_bind,
      Option.bind_some]
  rw [hterm, Option.some.injEq, Prod.mk.injEq] at hm'
  have hcode : (Term.cat [.empty, r.term]).code = r.term.code := by
    rw [Term.code_cat, List.flatMap_cons, List.flatMap_singleton, Term.code, List.nil_append]
  rw [hp, hp', ← hm'.1, Program.ofTerm, Program.ofTerm, hcode]

end Signature

/-! ### Searches -/

namespace Regex

theorem counted_ofText {mode : Mode} {limit : Nat} {text : List Char} {r : Regex}
    (h : Regex.ofText mode limit text = .ok r) : r.program.Counted := by
  obtain ⟨_, _, _, _, hp⟩ := ofText_ok h
  rw [hp]
  exact Program.counted_ofCode _

/-- Where the whole input contains no match, none is found from any position on. -/
theorem findAll_eq_nil {r : Regex} (hp : r.program.Counted) {haystack : Bytes} {start : Nat}
    (hstart : start ≤ haystack.length) (h : r.matches? haystack = false) :
    r.findAll (haystack.take start).reverse (haystack.drop start) start = [] := by
  have hnone : r.program.find? (haystack.take 0).reverse (haystack.drop 0) 0 = none := by
    have : (r.program.find? [] haystack 0).isSome = false := h
    rwa [Option.isSome_eq_false_iff, Option.isNone_iff_eq_none] at this
  have hall := Program.find?_finds hp (Nat.zero_le haystack.length)
  rw [hnone] at hall
  rw [Regex.findAll]
  split
  · rfl
  · rename_i span hfound
    have hspan := Program.find?_finds hp hstart
    have hbetween := r.program.find?_between hfound
    rw [show r.program.find? _ _ start = some span from hfound] at hspan
    have hle : span.start ≤ haystack.length := by
      have h₁ := hbetween.start_le
      have h₂ := hbetween.stop_le
      rw [List.length_drop] at h₂
      omega
    exact absurd hspan.1 (hall span.start span.stop (Nat.zero_le _) hle)

end Regex

/-- Both regular expressions of a signature have one program. -/
theorem Signature.program_of_compile {limit : Nat} {p : Pattern} {s : Signature}
    (h : Signature.compile limit p = .ok s) :
    s.setRegex.program = s.regex.program ∧ s.regex.program.Counted := by
  obtain ⟨_, regex, setRegex, hregex, _, hset, rfl⟩ := compile_ok h
  exact ⟨program_setExpression hregex hset, Regex.counted_ofText hregex⟩

/-- What is found for an expression alone is found behind the filter too. -/
theorem Signature.spans_expression {limit : Nat} {p : Pattern} {s : Signature}
    (hs : Signature.compile limit p = .ok s) (hliteral : s.literal = none) {haystack : Bytes}
    {start : Nat} (hstart : start ≤ haystack.length) :
    s.spans haystack start =
      s.regex.findAll (haystack.take start).reverse (haystack.drop start) start := by
  obtain ⟨hprogram, hcounted⟩ := program_of_compile hs
  unfold spans
  rw [hliteral]
  dsimp only
  split
  · rfl
  · rename_i hmatches
    have hsame : s.setRegex.matches? haystack = s.regex.matches? haystack := by
      show (s.setRegex.program.find? [] haystack 0).isSome = (s.regex.program.find? [] haystack 0).isSome
      rw [hprogram]
    rw [Bool.not_eq_true, hsame] at hmatches
    exact (Regex.findAll_eq_nil hcounted hstart hmatches).symm

namespace Engine

theorem sorted_scanFrom (e : Engine) (haystack : Bytes) (start : Nat) :
    (e.scanFrom haystack start).Pairwise fun a b => a.le b = true := by
  rw [scanFrom]
  split
  · exact List.Pairwise.nil
  · exact List.pairwise_mergeSort le_trans le_total _

/-- **The filter is exact**: the matches in an input are reported by where they end, then by number,
then by where they start, and those of each expression are what is found for it alone. -/
theorem scanFrom_expressions (limit : Nat) (e : Engine)
    (hcompiled : ∀ s ∈ e.signatures, ∃ p, Signature.compile limit p = .ok s) (haystack : Bytes)
    (start : Nat) (hstart : start ≤ haystack.length) :
    (e.scanFrom haystack start).Pairwise (fun a b => a.stop < b.stop ∨ a.stop = b.stop ∧
      (a.number < b.number ∨ a.number = b.number ∧ a.start ≤ b.start)) ∧
    ∀ n s, e.signatures[n]? = some s → s.literal = none →
      (e.scanFrom haystack start).filter (fun m => m.number = n) =
        (s.regex.findAll (haystack.take start).reverse (haystack.drop start) start).map
          (matchAt n) := by
  refine ⟨(e.sorted_scanFrom haystack start).imp fun h => le_iff.mp h, fun n s hn hliteral => ?_⟩
  obtain ⟨p, hp⟩ := hcompiled s (List.mem_of_getElem? hn)
  rw [scanFrom_filter hn (Signature.proper_of_compile hp) hstart,
    Signature.spans_expression hp hliteral hstart]

/-- An expression with blanks and a comment, which its set expression holds too. -/
theorem scanFrom_expressions_letters :
    ∃ s, Signature.compile 100000 { regex := "(?x) a+ # many\n", flags := { caseless := true } } =
        .ok s ∧ s.literal = none ∧ (1 : Nat) ≤ [98, 97, 65].length ∧
      ((⟨[s], 16⟩ : Engine).scanFrom [98, 97, 65] 1).filter (fun m => m.number = 0) =
        (s.regex.findAll [98] [97, 65] 1).map (matchAt 0) := by
  have hok : (Signature.compile 100000
      { regex := "(?x) a+ # many\n", flags := { caseless := true } }).toBool = true := by
    decide +kernel
  have hmeta : Signature.literal? "(?x) a+ # many\n" { caseless := true } = none := by
    decide +kernel
  cases hc : Signature.compile 100000
      { regex := "(?x) a+ # many\n", flags := { caseless := true } } with
  | error fault =>
      rw [hc] at hok
      cases hok
  | ok s =>
      have hliteral : s.literal = none := (Signature.literal_of_compile hc).trans hmeta
      have hstart : (1 : Nat) ≤ [98, 97, 65].length := by decide
      obtain ⟨_, hfound⟩ := scanFrom_expressions 100000 ⟨[s], 16⟩
        (fun t ht => ⟨_, List.mem_singleton.mp ht ▸ hc⟩) [98, 97, 65] 1 hstart
      exact ⟨s, rfl, hliteral, hstart, hfound 0 s rfl hliteral⟩

end Engine
end TrafficRules
