import TrafficRules.Proofs.Regex.Paths

/-! # Conditions on positions and the bytes around them

A path through a program depends on the bytes around it only by the conditions on positions that it
passes. Two changes of these bytes are followed along a path.

* **No bytes.** Every condition holds on the empty input, except for those that ask for a word
  character on one side (`Look.holds_nothing`). So a program that matches with no bytes at some
  position also matches the empty input, or asks for such a word edge, which holds there
  (`Program.matches_empty`).
* **Fewer bytes before.** Where at least one byte before a position is left, a condition that holds
  there holds with all bytes before it as well, except for two word edges between scalar values: they
  may take the end of a word character for the end of something else (`Look.holds_append`). So a match
  that is found in the end of the input is one of the whole input, unless a word character has been
  cut in two (`Program.matches_of_drop`). -/

namespace TrafficRules.Regex

open Relation (ReflTransGen)

/-! ### Conditions -/

/-- The edges that have a word character on exactly one side. -/
def WordEdge.touchesWord : WordEdge → Bool
  | .boundary | .start | .finish => true
  | .notBoundary | .startHalf | .finishHalf => false

/-- A condition holds at a position of the input. -/
def Look.HoldsAt (l : Look) (input : Bytes) (pos : Nat) : Prop :=
  l.holds (input.take pos).reverse (input.drop pos) = true

/-- What holds somewhere holds on the empty input too, or it asks for a word character. -/
theorem Look.holds_nothing {l : Look} {before after : Bytes} (h : l.holds before after = true) :
    l.holds [] [] = true ∨ ∃ edge unicode, l = .word edge unicode ∧ edge.touchesWord = true := by
  cases l with
  | textStart => exact Or.inl rfl
  | textEnd => exact Or.inl rfl
  | lineStart crlf => cases crlf <;> exact Or.inl rfl
  | lineEnd crlf => cases crlf <;> exact Or.inl rfl
  | word edge unicode =>
      cases ht : edge.touchesWord with
      | true => exact Or.inr ⟨edge, unicode, rfl, ht⟩
      | false =>
          left
          cases edge with
          | boundary => cases ht
          | start => cases ht
          | finish => cases ht
          | notBoundary => cases unicode <;> rfl
          | startHalf => cases unicode <;> rfl
          | finishHalf => cases unicode <;> rfl

/-- With more bytes before a position a condition that holds there goes on to hold, or it is a word
edge, and what was taken for no word character is the end of one. -/
theorem Look.holds_append {l : Look} {front back after : Bytes} (hfront : front ≠ [])
    (h : l.holds front after = true) : l.holds (front ++ back) after = true ∨
      (l = .word .boundary true ∨ l = .word .start true) ∧
      front.length ≤ 3 ∧ (∀ b ∈ front, Utf8.isContinuation b = true) ∧
      (Utf8.lastScalar? (front ++ back)).any Unicode.isWord = true ∧
      ((Utf8.scalar? after).map Prod.fst).any Unicode.isWord = true := by
  obtain ⟨b, rest, rfl⟩ := List.exists_cons_of_ne_nil hfront
  cases l with
  | textStart => cases h
  | textEnd => exact Or.inl h
  | lineStart crlf => cases crlf <;> exact Or.inl h
  | lineEnd crlf => cases crlf <;> exact Or.inl h
  | word edge unicode =>
      cases unicode with
      | false => exact Or.inl h
      | true =>
          rcases Utf8.lastScalar?_append (b :: rest) back with hlast | ⟨hlen, hinside⟩
          · left
            unfold Look.holds at h ⊢
            rw [hlast]
            exact h
          · -- in front of the position there seems to be no scalar value, and so no word character
            have hnone := Utf8.lastScalar?_of_continuations hlen hinside
            have h : edge.holds ⟨false, false⟩
                (.ofScalar after.isEmpty ((Utf8.scalar? after).map Prod.fst)) = true := by
              unfold Look.holds at h
              rw [hnone] at h
              exact h
            show edge.holds (.ofScalar false (Utf8.lastScalar? (b :: rest ++ back)))
              (.ofScalar after.isEmpty ((Utf8.scalar? after).map Prod.fst)) = true ∨ _
            have hright : edge.holds ⟨false, false⟩
                (.ofScalar after.isEmpty ((Utf8.scalar? after).map Prod.fst)) = true →
              edge = .boundary ∨ edge = .start →
                ((Utf8.scalar? after).map Prod.fst).any Unicode.isWord = true := by
              rintro h (rfl | rfl) <;> simpa [WordEdge.holds, Side.ofScalar] using h
            cases hword : (Utf8.lastScalar? (b :: rest ++ back)).any Unicode.isWord with
            | false =>
                left
                unfold Side.ofScalar at h ⊢
                rw [hword]
                cases edge <;> simp_all [WordEdge.holds]
            | true =>
                cases edge with
                | boundary =>
                    exact Or.inr ⟨Or.inl rfl, hlen, hinside, rfl, hright h (Or.inl rfl)⟩
                | start => exact Or.inr ⟨Or.inr rfl, hlen, hinside, rfl, hright h (Or.inr rfl)⟩
                | notBoundary => cases h
                | finish => cases h
                | startHalf => cases h
                | finishHalf => exact Or.inl h

namespace Program

variable {p : Program} {input : Bytes} {start stop base : Nat}

/-- A program asks for a condition. -/
def Asks (p : Program) (l : Look) : Prop := ∃ pc : Nat, p.code[pc]? = some (.look l)

/-- Where an address leads to without input, it does so between any other bytes as well, unless it
asks for a condition. -/
theorem mem_targets_cases {before after : Bytes} {pc target : Nat}
    (h : target ∈ p.targets before after pc) :
    (∀ before' after', target ∈ p.targets before' after' pc) ∨
      ∃ l, p.code[pc]? = some (.look l) ∧ l.holds before after = true ∧
        ∀ before' after', l.holds before' after' = true → target ∈ p.targets before' after' pc := by
  unfold targets at h ⊢
  split at h
  · exact Or.inl fun _ _ => h
  · exact Or.inl fun _ _ => h
  · rename_i l hl
    split at h
    · rename_i hholds
      refine Or.inr ⟨l, hl, hholds, fun _ _ hother => ?_⟩
      rw [if_pos hother]
      exact h
    · cases h
  · cases h

theorem leadsTo_look {pc pos stop : Nat} {l : Look} (h : p.code[pc]? = some (.look l)) :
    p.LeadsTo input (pc, pos) stop ↔ l.HoldsAt input pos ∧ p.LeadsTo input (pc + 1, pos) stop := by
  constructor
  · rintro ⟨last, hpath, hlast⟩
    rcases hpath.cases_head with he | ⟨next, hstep, hrest⟩
    · have hpc : pc = last := congrArg Prod.fst he
      rw [accepts, ← hpc, h] at hlast
      cases hlast
    · cases hstep with
      | free htarget =>
          rw [targets, h] at htarget
          dsimp only at htarget
          split at htarget
          · rename_i hholds
            obtain rfl := List.mem_singleton.mp htarget
            exact ⟨hholds, last, hrest, hlast⟩
          · cases htarget
      | take htaken =>
          have hr := reads_of_taken? htaken
          rw [reads, h] at hr
          cases hr
  · rintro ⟨hholds, last, hpath, hlast⟩
    refine ⟨last, hpath.head (.free ?_), hlast⟩
    have htarget : p.targets (input.take pos).reverse (input.drop pos) pc = [pc + 1] := by
      rw [targets, h]
      exact if_pos hholds
    exact htarget ▸ List.mem_singleton_self _

/-! ### Matches with no bytes -/

/-- The way between two addresses at one position exists on the empty input too, or it passes a word
edge. -/
theorem path_empty {pos : Nat} (hpos : pos ≤ input.length) {a b : Nat × Nat}
    (h : ReflTransGen (p.Step input) a b) (ha : a.2 = pos) (hb : b.2 = pos) :
    ReflTransGen (p.Step []) (a.1, 0) (b.1, 0) ∨
      ∃ edge unicode, edge.touchesWord = true ∧ p.Asks (.word edge unicode) ∧
        (Look.word edge unicode).HoldsAt input pos := by
  induction h with
  | refl => exact Or.inl ReflTransGen.refl
  | @tail mid last hpath hstep ih =>
      have hmid := pos_le_of_path hpath (ha ▸ hpos)
      cases hstep with
      | take htaken =>
          have := (taken?_bounds htaken).1
          dsimp only at hb hmid
          omega
      | @free pc at_ target htarget =>
          obtain rfl : at_ = pos := hb
          rcases ih rfl with hempty | hedge
          · rcases mem_targets_cases htarget with hany | ⟨l, hl, hholds, hany⟩
            · exact Or.inl (hempty.tail (.free (hany _ _)))
            · rcases Look.holds_nothing hholds with hnothing | ⟨edge, unicode, rfl, hword⟩
              · exact Or.inl (hempty.tail (.free (hany _ _ hnothing)))
              · exact Or.inr ⟨edge, unicode, hword, ⟨pc, hl⟩, hholds⟩
          · exact Or.inr hedge

/-- **Matches with no bytes**: a program that does not match the empty input matches with no bytes only
at a word edge that it asks for. -/
theorem matches_empty {pos : Nat} (hpos : pos ≤ input.length) (h : p.Matches input pos pos)
    (hempty : ¬ p.Matches [] 0 0) : ∃ edge unicode, edge.touchesWord = true ∧
      p.Asks (.word edge unicode) ∧ (Look.word edge unicode).HoldsAt input pos := by
  obtain ⟨pc, hpath, haccepts⟩ := h
  exact (path_empty hpos hpath rfl rfl).resolve_left fun hpath => hempty ⟨pc, hpath, haccepts⟩

end Program

/-! ### Matches in the end of the input -/

/-- The first `base` bytes of the data end within a word character that ends at a position, and a word
character follows there. -/
structure CutsWord (data : Bytes) (base pos : Nat) : Prop where
  behind : base < pos
  near : pos ≤ base + 3
  inside : ∀ b ∈ (data.take pos).drop base, Utf8.isContinuation b = true
  before : (Utf8.lastScalar? (data.take pos).reverse).any Unicode.isWord = true
  after : ((Utf8.scalar? (data.drop pos)).map Prod.fst).any Unicode.isWord = true

namespace Program

variable {p : Program} {input : Bytes} {stop base : Nat}

/-- A program asks where a word starts, and between two positions the input has been cut within a word
character. -/
def SeesCut (p : Program) (input : Bytes) (base first last : Nat) : Prop :=
  (p.Asks (.word .boundary true) ∨ p.Asks (.word .start true)) ∧
    ∃ pos, first ≤ pos ∧ pos ≤ last ∧ CutsWord input base pos

theorem SeesCut.mono {first first' last : Nat} (h : p.SeesCut input base first' last)
    (hle : first ≤ first') : p.SeesCut input base first last := by
  obtain ⟨hasks, pos, hfirst, hlast, hcut⟩ := h
  exact ⟨hasks, pos, Nat.le_trans hle hfirst, hlast, hcut⟩

/-- A step without input in the end of the input is one in the whole input, unless it sees the cut. -/
theorem targets_of_drop {pos pc target : Nat} (hpos : base = 0 ∨ 0 < pos)
    (hle : pos ≤ (input.drop base).length)
    (h : target ∈ p.targets ((input.drop base).take pos).reverse ((input.drop base).drop pos) pc) :
    target ∈ p.targets (input.take (base + pos)).reverse (input.drop (base + pos)) pc ∨
      p.SeesCut input base (base + pos) (base + pos) := by
  have hsplit : (input.take (base + pos)).reverse =
      ((input.drop base).take pos).reverse ++ (input.take base).reverse := by
    rw [List.take_add, List.reverse_append]
  rw [List.drop_drop] at h
  rcases mem_targets_cases h with hany | ⟨l, hl, hholds, hany⟩
  · exact Or.inl (hany _ _)
  · rcases hpos with rfl | hpos
    · exact Or.inl (by simpa using h)
    · have hlen : (((input.drop base).take pos).reverse).length = pos := by
        rw [List.length_reverse, List.length_take]
        omega
      have hfront : ((input.drop base).take pos).reverse ≠ [] := List.ne_nil_of_length_pos (by omega)
      rw [hsplit]
      refine (Look.holds_append hfront hholds).imp (hany _ _)
        fun ⟨hl', hnear, hinside, hbefore, hafter⟩ => ⟨?_, base + pos, ?_⟩
      · rcases hl' with rfl | rfl
        · exact Or.inl ⟨pc, hl⟩
        · exact Or.inr ⟨pc, hl⟩
      · refine ⟨Nat.le_refl _, Nat.le_refl _, by omega, by omega, fun b hb => ?_, hsplit ▸ hbefore,
          hafter⟩
        rw [List.drop_take, Nat.add_sub_cancel_left] at hb
        exact hinside b (List.mem_reverse.mpr hb)

theorem leadsTo_of_drop {place : Nat × Nat} (hpos : base = 0 ∨ 0 < place.2)
    (hle : place.2 ≤ (input.drop base).length) (h : p.LeadsTo (input.drop base) place stop) :
    p.LeadsTo input (place.1, base + place.2) (base + stop) ∨
      p.SeesCut input base (base + place.2) (base + stop) := by
  obtain ⟨last, hpath, haccepts⟩ := h
  induction hpath using ReflTransGen.head_induction_on with
  | refl => exact Or.inl ⟨last, ReflTransGen.refl, haccepts⟩
  | @head a c hstep hrest ih =>
      cases hstep with
      | @free pc pos target htarget =>
          have hstop : pos ≤ stop := (pos_le_of_path hrest hle).1
          rcases targets_of_drop hpos hle htarget with hmem | ⟨hasks, k, hfirst, hlast, hcut⟩
          · refine (ih hpos hle).imp_left fun ⟨pc', hpath, ha⟩ => ⟨pc', ?_, ha⟩
            exact ReflTransGen.head (.free hmem) hpath
          · exact Or.inr ⟨hasks, k, hfirst, by dsimp only at hlast; omega, hcut⟩
      | @take pc pos n htaken =>
          have hn := taken?_bounds htaken
          rw [List.length_drop] at hn
          rw [List.drop_drop] at htaken
          dsimp only at hle
          rcases ih (Or.inr (by dsimp only; omega)) (by dsimp only; omega) with
            ⟨pc', hpath, ha⟩ | hcut
          · refine Or.inl ⟨pc', ReflTransGen.head (.take htaken) ?_, ha⟩
            rw [Nat.add_assoc]
            exact hpath
          · exact Or.inr (hcut.mono (by dsimp only; omega))

/-- **Matches in the end of the input**: a match in the input without its first bytes, of which at
least one byte lies before the match, is a match in the whole input, unless the program sees that a word
character has been cut in two. -/
theorem matches_of_drop {first last : Nat} (hfirst : base = 0 ∨ 0 < first)
    (hle : first ≤ (input.drop base).length) (h : p.Matches (input.drop base) first last) :
    p.Matches input (base + first) (base + last) ∨
      p.SeesCut input base (base + first) (base + last) :=
  @leadsTo_of_drop _ _ _ _ (0, first) hfirst hle h

end Program
end TrafficRules.Regex
