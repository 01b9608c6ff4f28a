import Mathlib.Data.List.Forall2
import Mathlib.Tactic.SplitIfs
import TrafficRules.Proofs.Engine.Literals
import TrafficRules.Proofs.Regex.Code
import TrafficRules.Proofs.Regex.Paths
import TrafficRules.Regex.Basic

/-! # Plain texts

A text without special characters is an expression that stands for itself (`run?_plain`). Its program
takes one byte after the other (`Spells`), each of them up to case if case does not count, so it matches
where the input spells the text (`matches_iff_of_spells`).

Case folds ASCII letters only, as long as either case counts or the text is ASCII and is not read in
Unicode mode. That is when an expression is searched for as a literal. -/

namespace TrafficRules.Regex

/-! ### Reading -/

/-- A character that stands for itself. -/
def plainPart (c : Char) : Expr := .literal ⟨c, false⟩

theorem step?_plain (r : Reader) {c : Char} (hc : isMeta c = false) (rest : List Char) :
    r.step? c rest = some (r.push (plainPart c), rest) := by
  have hne : ∀ d : Char, isMeta d = true → c = d → False := by
    rintro d hd rfl
    rw [hc] at hd
    cases hd
  rw [Reader.step?]
  · rfl
  all_goals exact hne _ (by decide +kernel)

theorem run?_plain : ∀ (s : List Char) (fuel : Nat) (r : Reader), s.length < fuel →
    r.ignoreBlanks = false → (∀ c ∈ s, isMeta c = false) →
      r.run? fuel s = some { r with parts := (s.map plainPart).reverse ++ r.parts }
  | _, 0, _, h, _, _ => absurd h (Nat.not_lt_zero _)
  | [], fuel + 1, r, _, hx, _ => by
      have hskip : skip r.ignoreBlanks [] = [] := by rw [hx]; rfl
      rw [Reader.run?, hskip]
      rfl
  | c :: s, fuel + 1, r, h, hx, hs => by
      have hrest := run?_plain s fuel (r.push (plainPart c)) (Nat.lt_of_succ_lt_succ h) hx
        fun d hd => hs d (List.mem_cons_of_mem c hd)
      have hskip : skip r.ignoreBlanks (c :: s) = c :: s := by rw [hx]; rfl
      rw [Reader.run?_cons fuel hskip (step?_plain r (hs c List.mem_cons_self) s), hrest,
        List.map_cons, List.reverse_cons, List.append_assoc]
      rfl

theorem ofText?_plain {s : List Char} (hs : ∀ c ∈ s, isMeta c = false) {e : Expr}
    (h : Expr.ofText? s = some e) : e = .ofParts (s.map plainPart) := by
  obtain ⟨r, hr, he, _⟩ := ofText?_eq_some_iff.mp h
  rw [run?_plain s _ _ (Nat.lt_succ_self _) rfl hs, Option.some.injEq] at hr
  subst hr
  have he' : some (Expr.ofParts ((s.map plainPart).reverse ++ []).reverse) = some e := he
  rw [List.append_nil, List.reverse_reverse] at he'
  exact (Option.some.inj he').symm

/-! ### Terms -/

theorem resolveAll?_plain (m : Mode) (s : List Char) :
    Expr.resolveAll? m (s.map plainPart) =
      some (s.map fun c => (⟨c, false⟩ : Literal).term m, m) := by
  induction s with
  | nil => rfl
  | cons c s ih =>
      rw [List.map_cons, Expr.resolveAll?, plainPart, Expr.resolve?]
      simp only [Option.bind_eq_bind, Option.bind_some, ih]
      rfl

/-- The program of a plain text is those of its characters in order. -/
theorem code_plain (m : Mode) {s : List Char} {t : Term} {m' : Mode}
    (h : (Expr.ofParts (s.map plainPart)).resolve? m = some (t, m')) :
    t.code = s.flatMap fun c => ((⟨c, false⟩ : Literal).term m).code := by
  match s with
  | [] =>
      cases h
      rfl
  | [c] =>
      cases h
      rw [List.flatMap_singleton]
  | c :: d :: s =>
      have hall := resolveAll?_plain m (c :: d :: s)
      rw [List.map_cons, List.map_cons] at h hall
      rw [Expr.ofParts, Expr.resolve?] at h
      · rw [hall] at h
        cases h
        rw [Term.code_cat, List.flatMap_map]
      · simp
      · simp

/-! ### Programs -/

/-- A program that takes one byte for each of the given ones: this byte, up to case if case is not
minded. -/
def Spells (caseless : Bool) (code : Code) (bytes : Bytes) : Prop :=
  List.Forall₂ (fun i b => ∃ set, i = Instr.byte set ∧ ∀ x : UInt8, set.contains x.toNat = true ↔
    TrafficRules.Literal.fold caseless x = TrafficRules.Literal.fold caseless b) code bytes

theorem contains_single (n k : Nat) : (Ranges.single n).contains k = decide (k = n) := by
  simp only [Ranges.contains, Ranges.single, Ranges.memSpans]
  split
  · have : k ≠ n := by omega
    simp [this]
  · rw [Bool.or_false]
    congr 1
    rw [eq_iff_iff]
    omega

theorem spells_literal (bytes : Bytes) : Spells false (Term.literal bytes).code bytes := by
  rw [Term.code]
  induction bytes with
  | nil => exact .nil
  | cons b rest ih =>
      refine .cons ⟨.single b.toNat, rfl, fun x => ?_⟩ ih
      rw [contains_single, decide_eq_true_eq, UInt8.toNat_inj]
      rfl

/-- The lowercase form of an ASCII letter, by its number. -/
def lowerNat (n : Nat) : Nat := if 65 ≤ n ∧ n ≤ 90 then n + 32 else n

theorem toNat_lower (b : UInt8) : (TrafficRules.Literal.lower b).toNat = lowerNat b.toNat := by
  unfold TrafficRules.Literal.lower lowerNat
  by_cases hb : 65 ≤ b ∧ b ≤ 90
  · have hn : 65 ≤ b.toNat ∧ b.toNat ≤ 90 :=
      ⟨UInt8.le_iff_toNat_le.mp hb.1, UInt8.le_iff_toNat_le.mp hb.2⟩
    rw [if_pos hb, if_pos hn, UInt8.toNat_add]
    show (b.toNat + 32) % 256 = _
    omega
  · have hn : ¬ (65 ≤ b.toNat ∧ b.toNat ≤ 90) :=
      fun h => hb ⟨UInt8.le_iff_toNat_le.mpr h.1, UInt8.le_iff_toNat_le.mpr h.2⟩
    rw [if_neg hb, if_neg hn]

/-- A number with the one that differs in ASCII case. -/
def bothCases (n : Nat) : Ranges :=
  if 65 ≤ n ∧ n ≤ 90 then ⟨[(n, n), (n + 32, n + 32)]⟩
  else if 97 ≤ n ∧ n ≤ 122 then ⟨[(n - 32, n - 32), (n, n)]⟩
  else .single n

theorem foldBytes_single : ∀ n < 0x80, (Ranges.single n).foldBytes = bothCases n := by
  decide +kernel

theorem contains_bothCases (n k : Nat) :
    (bothCases n).contains k = true ↔ lowerNat k = lowerNat n := by
  have hpair : ∀ a b, a < b → ((⟨[(a, a), (b, b)]⟩ : Ranges).contains k = true ↔ k = a ∨ k = b) := by
    intro a b hab
    simp only [Ranges.contains, Ranges.memSpans]
    split_ifs <;> simp <;> omega
  unfold bothCases lowerNat
  split
  · rw [hpair _ _ (by omega)]
    split <;> omega
  · split
    · rw [hpair _ _ (by omega)]
      split <;> omega
    · rw [contains_single, decide_eq_true_eq]
      split <;> omega

theorem utf8EncodeChar_ascii {c : Char} (hc : c.toNat < 0x80) :
    String.utf8EncodeChar c = [UInt8.ofNat c.toNat] := by
  have hv : c.val.toNat ≤ 0x7f := by
    show c.toNat ≤ 127
    omega
  unfold String.utf8EncodeChar
  exact if_pos hv

/-- Both cases of an ASCII character are one byte or a set of two. -/
theorem code_bothCases {n : Nat} (hn : n < 0x80) :
    (if bothCases n = .single n then Term.literal [UInt8.ofNat n]
      else Term.ofBytes (bothCases n)).code = [.byte (bothCases n)] := by
  have hbyte : (UInt8.ofNat n).toNat = n := by
    rw [UInt8.toNat_ofNat']
    omega
  split
  · rename_i h
    rw [Term.code, List.map_singleton, hbyte, h]
  · rename_i h
    have hpair : ∃ x y, bothCases n = ⟨[x, y]⟩ := by
      unfold bothCases at h ⊢
      split
      · exact ⟨_, _, rfl⟩
      · split
        · exact ⟨_, _, rfl⟩
        · rename_i h₁ h₂
          rw [if_neg h₁, if_neg h₂] at h
          exact absurd rfl h
    obtain ⟨x, y, hxy⟩ := hpair
    rw [hxy]
    rfl

/-- A character spells its bytes, where case counts or folds ASCII letters only. -/
theorem spells_term (m : Mode) {c : Char}
    (hc : m.caseless = true → m.unicode = false ∧ c.toNat < 0x80) :
    Spells m.caseless ((⟨c, false⟩ : Literal).term m).code (String.utf8EncodeChar c) := by
  unfold Literal.term
  simp only [Bool.and_false, Bool.false_and, Bool.false_eq_true, if_false]
  cases hm : m.caseless with
  | false =>
      have hfold : m.fold (.single c.toNat) = .single c.toNat := by simp [Mode.fold, hm]
      rw [hfold, ite_self, if_pos rfl]
      exact spells_literal _
  | true =>
      obtain ⟨hu, hlt⟩ := hc hm
      have hfold : m.fold (.single c.toNat) = bothCases c.toNat := by
        rw [← foldBytes_single _ hlt]
        simp [Mode.fold, hm, hu]
      have hset : (if (m.unicode || decide (c.toNat < 0x80)) = true then m.fold (.single c.toNat)
          else .single c.toNat) = bothCases c.toNat := by
        rw [if_pos (by simp [hlt]), hfold]
      have hterm : m.setTerm (bothCases c.toNat) = Term.ofBytes (bothCases c.toNat) := by
        simp [Mode.setTerm, hu]
      rw [hset, hterm, utf8EncodeChar_ascii hlt, code_bothCases hlt]
      refine .cons ⟨_, rfl, fun x => ?_⟩ .nil
      rw [contains_bothCases]
      show _ ↔ TrafficRules.Literal.lower x = TrafficRules.Literal.lower _
      rw [← UInt8.toNat_inj, toNat_lower, toNat_lower, UInt8.toNat_ofNat']
      have hmod : c.toNat % 256 = c.toNat := by omega
      rw [show (2 : Nat) ^ 8 = 256 from rfl, hmod]

theorem Spells.append {caseless : Bool} {a b : Code} {x y : Bytes} (ha : Spells caseless a x)
    (hb : Spells caseless b y) : Spells caseless (a ++ b) (x ++ y) := List.rel_append ha hb

/-- A text spells its bytes, where case counts or folds ASCII letters only. -/
theorem spells_plain (m : Mode) : ∀ {s : List Char},
    (m.caseless = true → m.unicode = false ∧ ∀ c ∈ s, c.toNat < 0x80) →
    Spells m.caseless (s.flatMap fun c => ((⟨c, false⟩ : Literal).term m).code) (Utf8.encode s)
  | [], _ => .nil
  | c :: s, hs => by
      have hc := spells_term m fun h => ⟨(hs h).1, (hs h).2 c List.mem_cons_self⟩
      have hrest := spells_plain m (s := s) fun h =>
        ⟨(hs h).1, fun d hd => (hs h).2 d (List.mem_cons_of_mem c hd)⟩
      rw [Utf8.encode, List.flatMap_cons, List.flatMap_cons]
      exact hc.append hrest

/-! ### Matches -/

namespace Program

variable {p : Program} {input : Bytes}

theorem leadsTo_accept {pc pos stop : Nat} (h : p.accepts pc) :
    p.LeadsTo input (pc, pos) stop ↔ stop = pos := by
  constructor
  · rintro ⟨last, hpath, _⟩
    rcases hpath.cases_head with he | ⟨next, hstep, _⟩
    · exact (congrArg Prod.snd he).symm
    · unfold accepts at h
      cases hstep with
      | free htarget =>
          rw [targets, h] at htarget
          cases htarget
      | take htaken =>
          have hr := reads_of_taken? htaken
          rw [reads, h] at hr
          cases hr
  · rintro rfl
    exact ⟨pc, .refl, h⟩

theorem leadsTo_byte {pc pos stop : Nat} {set : Ranges} (h : p.code[pc]? = some (.byte set)) :
    p.LeadsTo input (pc, pos) stop ↔
      ∃ b rest, input.drop pos = b :: rest ∧ set.contains b.toNat = true ∧
        p.LeadsTo input (pc + 1, pos + 1) stop := by
  constructor
  · rintro ⟨last, hpath, hlast⟩
    rcases hpath.cases_head with he | ⟨next, hstep, hrest⟩
    · have hpc : pc = last := congrArg Prod.fst he
      rw [accepts, ← hpc, h] at hlast
      cases hlast
    · cases hstep with
      | free htarget =>
          rw [targets, h] at htarget
          cases htarget
      | take htaken =>
          unfold taken? at htaken
          rw [h] at htaken
          cases hdrop : input.drop pos with
          | nil =>
              rw [hdrop] at htaken
              cases htaken
          | cons b rest =>
              rw [hdrop] at htaken
              dsimp only at htaken
              split at htaken
              · rename_i hcontains
                cases htaken
                exact ⟨b, rest, rfl, hcontains, last, hrest, hlast⟩
              · cases htaken
  · rintro ⟨b, rest, hdrop, hcontains, last, hpath, hlast⟩
    refine ⟨last, hpath.head (.take ?_), hlast⟩
    unfold taken?
    rw [h, hdrop]
    exact if_pos hcontains

/-- A program that spells bytes leads from one of its addresses to where the rest of them has been
spelled. -/
theorem leadsTo_spells {caseless : Bool} {code : Code} {bytes : Bytes}
    (h : Spells caseless code bytes) {front : Code} {pos stop : Nat}
    (hcode : p.code = (front ++ (code ++ [Instr.accept])).toArray) :
    p.LeadsTo input (front.length, pos) stop ↔
      ∃ found rest, input.drop pos = found ++ rest ∧ stop = pos + found.length ∧
        found.map (TrafficRules.Literal.fold caseless) =
          bytes.map (TrafficRules.Literal.fold caseless) := by
  induction h generalizing front pos with
  | nil =>
      have haccepts : p.accepts front.length := by
        rw [accepts, hcode]
        simp
      rw [leadsTo_accept haccepts]
      constructor
      · rintro rfl
        exact ⟨[], _, rfl, rfl, rfl⟩
      · rintro ⟨found, _, _, rfl, hmap⟩
        rw [List.map_nil, List.map_eq_nil_iff] at hmap
        rw [hmap]
        rfl
  | @cons i b code bytes hhead _ ih =>
      obtain ⟨set, rfl, hset⟩ := hhead
      have hbyte : p.code[front.length]? = some (.byte set) := by
        rw [hcode]
        simp
      have hnext : p.code = ((front ++ [Instr.byte set]) ++ (code ++ [Instr.accept])).toArray := by
        rw [hcode, List.append_assoc]
        rfl
      have hrest := @ih (front ++ [.byte set]) (pos + 1) hnext
      rw [List.length_append, List.length_singleton] at hrest
      rw [leadsTo_byte hbyte]
      constructor
      · rintro ⟨c, later, hdrop, hcontains, hleads⟩
        obtain ⟨found, rest, hdrop', rfl, hmap⟩ := hrest.mp hleads
        have htail : input.drop (pos + 1) = later := by
          rw [← List.drop_drop, hdrop, List.drop_one, List.tail_cons]
        refine ⟨c :: found, rest, ?_, ?_, ?_⟩
        · rw [hdrop, ← htail, hdrop', List.cons_append]
        · rw [List.length_cons]
          omega
        · rw [List.map_cons, List.map_cons, (hset c).mp hcontains, hmap]
      · rintro ⟨found, rest, hdrop, rfl, hmap⟩
        cases found with
        | nil => cases hmap
        | cons c found =>
            rw [List.map_cons, List.map_cons, List.cons.injEq] at hmap
            refine ⟨c, found ++ rest, hdrop, (hset c).mpr hmap.1, hrest.mpr
              ⟨found, rest, ?_, ?_, hmap.2⟩⟩
            · rw [← List.drop_drop, hdrop, List.cons_append, List.drop_one, List.tail_cons]
            · rw [List.length_cons]
              omega

/-- **Plain texts**: a program that spells bytes matches where the input spells them. -/
theorem matches_iff_of_spells {caseless : Bool} {code : Code} {bytes : Bytes}
    (h : Spells caseless code bytes) {start stop : Nat} :
    (ofCode (code ++ [.accept])).Matches input start stop ↔
      ∃ found rest, input.drop start = found ++ rest ∧ stop = start + found.length ∧
        found.map (TrafficRules.Literal.fold caseless) =
          bytes.map (TrafficRules.Literal.fold caseless) := by
  have hcode : (ofCode (code ++ [.accept])).code = ([] ++ (code ++ [Instr.accept])).toArray := rfl
  exact leadsTo_spells h hcode

end Program

end TrafficRules.Regex
