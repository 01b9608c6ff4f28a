import TrafficRules.Proofs.Json.Number
import TrafficRules.Proofs.Json.Real
import TrafficRules.Proofs.Text.Hex

/-! # JSON values as they are written

The text of a value is read as the tree of that value (`ofText?_pretty`), in two steps: into its
tokens, whatever the blanks between them, and from those into the tree. Each step is proved along
the value, with lemmas for the items of an array and the members of an object. -/

namespace TrafficRules.Json

/-! ### Strings -/

theorem units?_escape (c : Char) (rest : List Char) :
    units? (escape c ++ rest) = (units? rest).map fun (us, more) => (c.toNat :: us, more) := by
  unfold escape
  split
  iterate 7
    show units? ('\\' :: _ :: rest) = _
    rw [units?]
    · rfl
    · intro _ _ _ _ _ h
      cases h
  · rename_i hquote hslash _ _ _ _ _
    split
    · rename_i hcontrol
      have hnumeral : Hex.numeral? (Hex.padded 4 c.toNat) = some c.toNat :=
        Hex.numeral?_padded (by omega)
      rw [List.append_assoc]
      show units? ('\\' :: 'u' :: _ :: _ :: _ :: _ :: rest) = _
      rw [units?]
      change ((Hex.numeral? (Hex.padded 4 c.toNat)).bind fun unit =>
        (units? rest).map fun (us, more) => (unit :: us, more)) = _
      rw [hnumeral, Option.bind_some]
    · rename_i hplain
      show units? (c :: rest) = _
      rw [units?, if_neg hplain]
      · exact hquote
      · intro _ _ _ _ _ h _
        exact hslash h
      · intro _ _ h _
        exact hslash h

theorem units?_escapes (cs rest : List Char) :
    units? (cs.flatMap escape ++ '"' :: rest) = some (cs.map Char.toNat, rest) := by
  induction cs with
  | nil => rfl
  | cons c cs ih =>
      rw [List.flatMap_cons, List.append_assoc, units?_escape, ih]
      rfl

theorem not_half (c : Char) : isHighHalf c.toNat = false ∧ isLowHalf c.toNat = false := by
  have hvalid : c.toNat < 0xD800 ∨ 0xDFFF < c.toNat ∧ c.toNat < 0x110000 := c.valid
  unfold isHighHalf isLowHalf
  simp only [Bool.and_eq_false_iff, decide_eq_false_iff_not]
  omega

theorem join?_toNat (cs : List Char) : join? (cs.map Char.toNat) = some cs := by
  induction cs with
  | nil => rfl
  | cons c rest ih =>
      obtain ⟨hhigh, hlow⟩ := not_half c
      cases rest with
      | nil =>
          rw [List.map_cons, List.map_nil, join?]
          simp [hhigh, hlow]
      | cons d rest =>
          rw [List.map_cons] at ih ⊢
          rw [List.map_cons, join?, ih]
          simp [hhigh, hlow]

theorem token?_string (s : String) (rest : List Char) :
    token? '"' (s.toList.flatMap escape ++ '"' :: rest) = some (.string (some s), rest) := by
  rw [token?, units?_escapes, Option.map_some]
  dsimp only
  rw [join?_toNat, Option.map_some, String.ofList_toList]

/-! ### Tokens of a text -/

theorem tokensWith?_mono : ∀ {fuel more : Nat} {s : List Char} {ts : List Token},
    fuel ≤ more → tokensWith? fuel s = some ts → tokensWith? more s = some ts
  | 0, _, [], _, _, h => by
      cases h
      cases ‹Nat› <;> rfl
  | 0, _, _ :: _, _, _, h => by cases h
  | fuel + 1, 0, _, _, hle, _ => absurd hle (by omega)
  | fuel + 1, more + 1, [], _, _, h => h
  | fuel + 1, more + 1, c :: rest, ts, hle, h => by
      rw [tokensWith?] at h ⊢
      split at h
      · rename_i hb
        rw [if_pos hb]
        exact tokensWith?_mono (Nat.le_of_succ_le_succ hle) h
      · rename_i hb
        rw [if_neg hb]
        split at h
        · cases h
        · rename_i t left ht
          obtain ⟨ts', hts, rfl⟩ := Option.map_eq_some_iff.mp h
          rw [tokensWith?_mono (Nat.le_of_succ_le_succ hle) hts]
          rfl

/-- A blank is passed over. -/
theorem tokens?_blank {c : Char} (h : isBlank c = true) (rest : List Char) :
    tokens? (c :: rest) = tokens? rest := if_pos h

/-- A token is put in front of the others. -/
theorem tokens?_token {c : Char} {rest more : List Char} {t : Token} {ts : List Token}
    (hb : isBlank c = false) (ht : token? c rest = some (t, more)) (hlen : more.length ≤ rest.length)
    (h : tokens? more = some ts) : tokens? (c :: rest) = some (t :: ts) := by
  rw [tokens?, List.length_cons, tokensWith?, if_neg (by simp [hb]), ht]
  dsimp only
  rw [tokensWith?_mono hlen h]
  rfl

theorem tokens?_newLine (level : Nat) (rest : List Char) :
    tokens? (newLine level ++ rest) = tokens? rest := by
  have hspaces : ∀ n, tokens? (List.replicate n ' ' ++ rest) = tokens? rest := by
    intro n
    induction n with
    | zero => rfl
    | succ n ih => exact (tokens?_blank (by decide) _).trans ih
  exact (tokens?_blank (by decide) _).trans (hspaces (2 * level))

theorem ended_newLine (level : Nat) (rest : List Char) : Ended (newLine level ++ rest) :=
  ended_cons _ (by decide)

mutual

/-- The tokens of a value. -/
def tokens : Json → List Token
  | .null => [.null]
  | .bool b => [.bool b]
  | .integer n => [.number (.ofInt n)]
  | .real r => [.number r.written]
  | .string s => [.string (some s)]
  | .array items => .openBracket :: (separate [.comma] (itemTokens items) ++ [.closeBracket])
  | .object members => .openBrace :: (separate [.comma] (memberTokens members) ++ [.closeBrace])

def itemTokens : List Json → List (List Token)
  | [] => []
  | x :: rest => x.tokens :: itemTokens rest

def memberTokens : List (String × Json) → List (List Token)
  | [] => []
  | (k, x) :: rest => (.string (some k) :: .colon :: x.tokens) :: memberTokens rest

end

theorem separate_items (x y : Json) (ys : List Json) :
    separate [Token.comma] (itemTokens (x :: y :: ys)) =
      x.tokens ++ .comma :: separate [.comma] (itemTokens (y :: ys)) := by
  show x.tokens ++ [.comma] ++ _ = _
  rw [List.append_assoc]
  rfl

theorem separate_members (k l : String) (x y : Json) (ms : List (String × Json)) :
    separate [Token.comma] (memberTokens ((k, x) :: (l, y) :: ms)) =
      .string (some k) :: .colon ::
        (x.tokens ++ .comma :: separate [.comma] (memberTokens ((l, y) :: ms))) := by
  show _ :: _ :: x.tokens ++ [.comma] ++ _ = _
  rw [List.append_assoc]
  rfl

theorem tokens?_number {n : NumberText} (hn : n.Formed) {rest : List Char} {ts : List Token}
    (hr : Ended rest) (h : tokens? rest = some ts) :
    tokens? (n.text ++ rest) = some (.number n :: ts) := by
  obtain ⟨c, s, he, hb, ht⟩ := token?_number hn hr
  rw [he]
  exact tokens?_token hb ht (List.suffix_append s rest).length_le h

theorem tokens?_string (s : String) {rest : List Char} {ts : List Token}
    (h : tokens? rest = some ts) :
    tokens? (stringText s ++ rest) = some (.string (some s) :: ts) := by
  rw [stringText, List.cons_append, List.cons_append, List.append_assoc, List.singleton_append]
  refine tokens?_token (by decide) (token?_string s rest) ?_ h
  rw [List.length_append, List.length_cons]
  omega

/-- A character that is a token of its own. -/
theorem tokens?_mark {c : Char} {t : Token} (ht : ∀ rest, token? c rest = some (t, rest))
    (hb : isBlank c = false) {rest : List Char} {ts : List Token} (h : tokens? rest = some ts) :
    tokens? (c :: rest) = some (t :: ts) := tokens?_token hb (ht rest) (Nat.le_refl _) h

mutual

/-- The text of a value is made of its tokens, and of blanks. -/
theorem tokens?_pretty : ∀ (x : Json) (level : Nat) {rest : List Char} {ts : List Token},
    Ended rest → tokens? rest = some ts →
      tokens? (x.prettyText level ++ rest) = some (x.tokens ++ ts)
  | .null, _, rest, _, _, h =>
      @tokens?_token 'n' ('u' :: 'l' :: 'l' :: rest) rest .null _ (by decide) rfl
        (Nat.le_add_right rest.length 3) h
  | .bool true, _, rest, _, _, h =>
      @tokens?_token 't' ('r' :: 'u' :: 'e' :: rest) rest (.bool true) _ (by decide) rfl
        (Nat.le_add_right rest.length 3) h
  | .bool false, _, rest, _, _, h =>
      @tokens?_token 'f' ('a' :: 'l' :: 's' :: 'e' :: rest) rest (.bool false) _ (by decide) rfl
        (Nat.le_add_right rest.length 4) h
  | .integer n, _, _, _, hr, h => by
      show tokens? ((toString n).toList ++ _) = _
      rw [← text_ofInt]
      exact tokens?_number (formed_ofInt n) hr h
  | .real r, _, _, _, hr, h => tokens?_number r.written_formed hr h
  | .string s, _, _, _, _, h => tokens?_string s h
  | .array [], _, _, _, _, h =>
      tokens?_mark (fun _ => rfl) (by decide) (tokens?_mark (fun _ => rfl) (by decide) h)
  | .array (x :: xs), level, rest, ts, hr, h => by
      have hclose : tokens? (newLine level ++ (']' :: rest)) = some (.closeBracket :: ts) := by
        rw [tokens?_newLine]
        exact tokens?_mark (fun _ => rfl) (by decide) h
      have hitems := tokens?_prettyItems (x :: xs) (List.cons_ne_nil x xs) (level + 1)
        (ended_newLine level _) hclose
      rw [← tokens?_newLine (level + 1)] at hitems
      have hopen := tokens?_mark (c := '[') (fun _ => rfl) (by decide) hitems
      rw [prettyText, tokens, List.cons_append, List.append_assoc]
      simpa only [List.cons_append, List.append_assoc, List.nil_append] using hopen
  | .object [], _, _, _, _, h =>
      tokens?_mark (fun _ => rfl) (by decide) (tokens?_mark (fun _ => rfl) (by decide) h)
  | .object (m :: ms), level, rest, ts, hr, h => by
      have hclose : tokens? (newLine level ++ ('\x7d' :: rest)) = some (.closeBrace :: ts) := by
        rw [tokens?_newLine]
        exact tokens?_mark (fun _ => rfl) (by decide) h
      have hmembers := tokens?_prettyMembers (m :: ms) (List.cons_ne_nil m ms) (level + 1)
        (ended_newLine level _) hclose
      rw [← tokens?_newLine (level + 1)] at hmembers
      have hopen := tokens?_mark (c := '\x7b') (fun _ => rfl) (by decide) hmembers
      rw [prettyText, tokens, List.cons_append, List.append_assoc]
      simpa only [List.cons_append, List.append_assoc, List.nil_append] using hopen

theorem tokens?_prettyItems : ∀ (xs : List Json), xs ≠ [] → ∀ (level : Nat) {rest : List Char}
    {ts : List Token}, Ended rest → tokens? rest = some ts →
      tokens? (separate (',' :: newLine level) (prettyItems level xs) ++ rest) =
        some (separate [.comma] (itemTokens xs) ++ ts)
  | [], hne, _, _, _, _, _ => absurd rfl hne
  | [x], _, level, _, _, hr, h => tokens?_pretty x level hr h
  | x :: y :: ys, _, level, rest, ts, hr, h => by
      have hrest := tokens?_prettyItems (y :: ys) (List.cons_ne_nil y ys) level hr h
      rw [← tokens?_newLine level] at hrest
      have hcomma := tokens?_mark (c := ',') (fun _ => rfl) (by decide) hrest
      have hx := tokens?_pretty x level (ended_cons _ (by decide)) hcomma
      simpa only [prettyItems, itemTokens, separate, List.append_assoc, List.cons_append,
        List.nil_append] using hx

theorem tokens?_prettyMembers : ∀ (ms : List (String × Json)), ms ≠ [] → ∀ (level : Nat)
    {rest : List Char} {ts : List Token}, Ended rest → tokens? rest = some ts →
      tokens? (separate (',' :: newLine level) (prettyMembers level ms) ++ rest) =
        some (separate [.comma] (memberTokens ms) ++ ts)
  | [], hne, _, _, _, _, _ => absurd rfl hne
  | [(k, x)], _, level, rest, ts, hr, h => by
      have hx := tokens?_pretty x level hr h
      rw [← tokens?_blank (c := ' ') (by decide)] at hx
      have hcolon := tokens?_mark (c := ':') (fun _ => rfl) (by decide) hx
      simpa only [prettyMembers, memberTokens, separate, List.append_assoc, List.cons_append]
        using tokens?_string k hcolon
  | (k, x) :: m :: ms, _, level, rest, ts, hr, h => by
      have hrest := tokens?_prettyMembers (m :: ms) (List.cons_ne_nil m ms) level hr h
      rw [← tokens?_newLine level] at hrest
      have hcomma := tokens?_mark (c := ',') (fun _ => rfl) (by decide) hrest
      have hx := tokens?_pretty x level (ended_cons _ (by decide)) hcomma
      rw [← tokens?_blank (c := ' ') (by decide)] at hx
      have hcolon := tokens?_mark (c := ':') (fun _ => rfl) (by decide) hx
      have hk := tokens?_string k hcolon
      simpa only [prettyMembers, memberTokens, separate, List.append_assoc, List.cons_append,
        List.nil_append] using hk

end

/-! ### The tree of a text -/

mutual

/-- The tree that the text of a value stands for. -/
def node : Json → Node
  | .null => .null
  | .bool b => .bool b
  | .integer n => .number (.ofInt n)
  | .real r => .number r.written
  | .string s => .string (some s)
  | .array items => .array (nodes items)
  | .object members => .object (memberNodes members)

def nodes : List Json → List Node
  | [] => []
  | x :: rest => x.node :: nodes rest

def memberNodes : List (String × Json) → List (Option String × Node)
  | [] => []
  | (k, x) :: rest => (some k, x.node) :: memberNodes rest

end

/-- No value starts with a closing bracket. -/
theorem tokens_eq_cons (x : Json) : ∃ t ts, x.tokens = t :: ts ∧ t ≠ .closeBracket := by
  cases x <;> exact ⟨_, _, rfl, by simp⟩

mutual

/-- The tree is read from the tokens of the value. -/
theorem value?_tokens : ∀ (x : Json) {fuel : Nat} (rest : List Token),
    2 * x.tokens.length ≤ fuel → Node.value? fuel (x.tokens ++ rest) = some (x.node, rest)
  | x, 0, _, h => by
      obtain ⟨t, ts, he, _⟩ := tokens_eq_cons x
      rw [he, List.length_cons] at h
      omega
  | .null, _ + 1, _, _ => rfl
  | .bool _, _ + 1, _, _ => rfl
  | .integer _, _ + 1, _, _ => rfl
  | .real _, _ + 1, _, _ => rfl
  | .string _, _ + 1, _, _ => rfl
  | .array [], _ + 1, _, _ => rfl
  | .array (x :: xs), fuel + 1, rest, h => by
      have hitems := @items?_tokens (x :: xs) (List.cons_ne_nil x xs) fuel rest (by
        rw [tokens, List.length_cons, List.length_append, List.length_singleton] at h
        omega)
      obtain ⟨t, ts, he, hne⟩ : ∃ t ts, separate [Token.comma] (itemTokens (x :: xs)) = t :: ts ∧
          t ≠ .closeBracket := by
        obtain ⟨t, ts, he, hne⟩ := tokens_eq_cons x
        cases xs with
        | nil => exact ⟨t, ts, he, hne⟩
        | cons y ys => exact ⟨t, _, by rw [separate_items, he]; rfl, hne⟩
      rw [tokens, List.cons_append, List.append_assoc]
      rw [he] at hitems ⊢
      rw [Node.value?, hitems]
      · rfl
      · intro r hr
        exact hne (List.cons.inj hr).1
  | .object [], _ + 1, _, _ => rfl
  | .object ((k, x) :: ms), fuel + 1, rest, h => by
      have hmembers := @members?_tokens ((k, x) :: ms) (List.cons_ne_nil _ ms) fuel rest (by
        rw [tokens, List.length_cons, List.length_append, List.length_singleton] at h
        omega)
      obtain ⟨ts, he⟩ : ∃ ts, separate [Token.comma] (memberTokens ((k, x) :: ms)) =
          .string (some k) :: ts := by
        cases ms with
        | nil => exact ⟨_, rfl⟩
        | cons m ms => exact ⟨_, rfl⟩
      rw [tokens, List.cons_append, List.append_assoc]
      rw [he] at hmembers ⊢
      rw [Node.value?, hmembers]
      · rfl
      · intro r hr
        cases (List.cons.inj hr).1

theorem items?_tokens : ∀ (xs : List Json), xs ≠ [] → ∀ {fuel : Nat} (rest : List Token),
    2 * (separate [Token.comma] (itemTokens xs)).length < fuel →
      Node.items? fuel (separate [.comma] (itemTokens xs) ++ ([.closeBracket] ++ rest)) =
        some (nodes xs, rest)
  | _, _, 0, _, h => absurd h (Nat.not_lt_zero _)
  | [], hne, _ + 1, _, _ => absurd rfl hne
  | [x], _, fuel + 1, rest, h => by
      have hx := @value?_tokens x fuel (.closeBracket :: rest) (Nat.le_of_lt_succ h)
      show Node.items? (fuel + 1) (x.tokens ++ .closeBracket :: rest) = _
      rw [Node.items?, hx]
      rfl
  | x :: y :: ys, _, fuel + 1, rest, h => by
      rw [separate_items, List.length_append, List.length_cons] at h
      have hx := @value?_tokens x fuel
        (.comma :: (separate [.comma] (itemTokens (y :: ys)) ++ ([.closeBracket] ++ rest)))
        (by omega)
      have hrest := @items?_tokens (y :: ys) (List.cons_ne_nil y ys) fuel rest (by omega)
      rw [separate_items, List.append_assoc, List.cons_append, Node.items?, hx]
      dsimp only
      rw [hrest]
      rfl

theorem members?_tokens : ∀ (ms : List (String × Json)), ms ≠ [] → ∀ {fuel : Nat}
    (rest : List Token), 2 * (separate [Token.comma] (memberTokens ms)).length < fuel →
      Node.members? fuel (separate [.comma] (memberTokens ms) ++ ([.closeBrace] ++ rest)) =
        some (memberNodes ms, rest)
  | _, _, 0, _, h => absurd h (Nat.not_lt_zero _)
  | [], hne, _ + 1, _, _ => absurd rfl hne
  | [(k, x)], _, fuel + 1, rest, h => by
      have hx := @value?_tokens x fuel (.closeBrace :: rest) (by
        change 2 * (x.tokens.length + 2) < fuel + 1 at h
        omega)
      show Node.members? (fuel + 1)
        (.string (some k) :: .colon :: (x.tokens ++ .closeBrace :: rest)) = _
      rw [Node.members?, hx]
      rfl
  | (k, x) :: (l, y) :: ms, _, fuel + 1, rest, h => by
      rw [separate_members, List.length_cons, List.length_cons, List.length_append,
        List.length_cons] at h
      have hx := @value?_tokens x fuel
        (.comma :: (separate [.comma] (memberTokens ((l, y) :: ms)) ++ ([.closeBrace] ++ rest)))
        (by omega)
      have hrest := @members?_tokens ((l, y) :: ms) (List.cons_ne_nil _ ms) fuel rest (by omega)
      rw [separate_members, List.cons_append, List.cons_append, List.append_assoc,
        List.cons_append, Node.members?, hx]
      dsimp only
      rw [hrest]
      rfl

end

/-- **Reading what was written**: the text of a value is read as its tree. -/
theorem ofText?_pretty (x : Json) : Node.ofText? (x.prettyText 0) = some x.node := by
  have htokens := tokens?_pretty x 0 ended_nil (show tokens? [] = some [] from rfl)
  rw [List.append_nil, List.append_nil] at htokens
  have hvalue := @value?_tokens x (2 * x.tokens.length + 1) [] (Nat.le_succ _)
  rw [List.append_nil] at hvalue
  simp only [Node.ofText?, htokens, Option.bind_eq_bind, Option.bind_some, hvalue]

end TrafficRules.Json
