import TrafficRules.Proofs.Engine.Literals
import TrafficRules.Proofs.Signature
import TrafficRules.Proofs.Sorting

/-! # One signature among many

An engine finds the matches of each signature as if it had no other one: `Signature.spans` is what is
found for a signature alone, and these are the matches under its number (`Engine.scanFrom_filter`).
They do not overlap and they end in the order in which they are reported
(`Signature.spans_sorted`), so that sorting the matches of all signatures leaves their order alone. -/

namespace TrafficRules

/-! ### Numbering -/

/-- What is made of the elements of a list and their numbers is found under these numbers. -/
theorem filterMap_zipIdx_filter {σ α : Type} {f : σ × Nat → Option α} {key : α → Nat}
    (hkey : ∀ {x a}, f x = some a → key a = x.2) : ∀ (ss : List σ) (first k : Nat),
      ((ss.zipIdx first).filterMap f).filter (fun a => key a = first + k) =
        (ss[k]?.bind fun s => f (s, first + k)).toList
  | [], first, k => rfl
  | s :: rest, first, k => by
      have hcons : ((s :: rest).zipIdx first).filterMap f =
          (f (s, first)).toList ++ (rest.zipIdx (first + 1)).filterMap f := by
        rw [List.zipIdx_cons, List.filterMap_cons]
        cases f (s, first) with
        | none => rfl
        | some a => rfl
      rw [hcons, List.filter_append]
      cases k with
      | zero =>
          have hrest : ((rest.zipIdx (first + 1)).filterMap f).filter
              (fun a => key a = first + 0) = [] := by
            refine List.filter_eq_nil_iff.mpr fun a ha => ?_
            obtain ⟨⟨t, i⟩, ht, hf⟩ := List.mem_filterMap.mp ha
            have := (List.mem_zipIdx ht).1
            have := hkey hf
            simp only [decide_eq_true_eq]
            omega
          rw [hrest, List.append_nil]
          show _ = (f (s, first)).toList
          cases hf : f (s, first) with
          | none => rfl
          | some a => simp [hkey hf]
      | succ k =>
          have hhead : (f (s, first)).toList.filter (fun a => key a = first + (k + 1)) = [] := by
            refine List.filter_eq_nil_iff.mpr fun a ha => ?_
            have := hkey (Option.mem_toList.mp ha)
            simp only [decide_eq_true_eq]
            omega
          have hnext : first + (k + 1) = first + 1 + k := by omega
          rw [hhead, List.nil_append, hnext, filterMap_zipIdx_filter hkey rest (first + 1) k]
          rfl

/-- What is listed under keys is found under its own key only. -/
theorem flatMap_filter {σ : Type} {g : Nat × σ → List Match}
    (hg : ∀ {x m}, m ∈ g x → m.number = x.1) (n : Nat) (xs : List (Nat × σ)) :
    (xs.flatMap g).filter (fun m => m.number = n) =
      (xs.filter fun x => x.1 = n).flatMap g := by
  induction xs with
  | nil => rfl
  | cons x rest ih =>
      rw [List.flatMap_cons, List.filter_append, ih]
      by_cases hx : x.1 = n
      · rw [List.filter_cons_of_pos (by simpa using hx), List.flatMap_cons]
        congr 1
        exact List.filter_eq_self.mpr fun m hm => by simpa using (hg hm).trans hx
      · rw [List.filter_cons_of_neg (by simpa using hx)]
        have hnone : (g x).filter (fun m => m.number = n) = [] :=
          List.filter_eq_nil_iff.mpr fun m hm => by
            simpa using fun he => hx ((hg hm).symm.trans he)
        rw [hnone, List.nil_append]

namespace Signature

/-- The literal of a signature under a number, if it minds case or not as asked for. -/
def literalAt (caseless : Bool) (x : Signature × Nat) : Option Literal :=
  match x.1.literal with
  | some bytes => if x.1.flags.caseless = caseless then some ⟨x.2, bytes, caseless⟩ else none
  | none => none

/-- The signature under its number, if it is no literal. -/
def expressionAt (x : Signature × Nat) : Option (Nat × Signature) :=
  if x.1.literal.isNone then some (x.2, x.1) else none

/-- The matches of a signature in a haystack from a position on. -/
def spans (s : Signature) (haystack : Bytes) (start : Nat) : List Regex.Span :=
  match s.literal with
  | some bytes =>
      Regex.Span.separate start
        (Literal.occurrences s.flags.caseless bytes [] start (haystack.drop start))
  | none =>
      if s.setRegex.matches? haystack then
        s.regex.findAll (haystack.take start).reverse (haystack.drop start) start
      else []

/-- The signature is not the literal that occurs everywhere. -/
def Proper (s : Signature) : Prop := s.literal ≠ some []

theorem bytesOf_ne_nil {text : String} (h : text ≠ "") : Utf8.bytesOf text ≠ [] := by
  intro he
  apply h
  rw [← String.toList_inj]
  cases hl : text.toList with
  | nil => rfl
  | cons c rest =>
      rw [Utf8.bytesOf, hl, Utf8.encode, List.flatMap_cons] at he
      have hnil := congrArg List.length (List.append_eq_nil_iff.mp he).1
      rw [String.length_utf8EncodeChar] at hnil
      exact absurd hnil (Nat.ne_of_gt c.utf8Size_pos)

/-- What a pattern is made into is not the empty literal. -/
theorem proper_of_compile {limit : Nat} {p : Pattern} {s : Signature}
    (h : compile limit p = .ok s) : s.Proper := by
  intro hempty
  rw [literal_of_compile h, literal?] at hempty
  split at hempty
  · cases hempty
  · split at hempty
    · cases hempty
    · exact bytesOf_ne_nil (regex_ne_empty_of_compile h) (Option.some.inj hempty)

theorem occurrence_bounds {caseless : Bool} {literal bytes : Bytes} {start : Nat}
    {span : Regex.Span} (h : span ∈ Literal.occurrences caseless literal [] start bytes) :
    start ≤ span.start ∧ span.start + literal.length = span.stop ∧
      span.stop ≤ start + bytes.length := by
  obtain ⟨n, _, hn, rfl, he⟩ := Literal.mem_occurrences_iff.mp h
  have hlen := he.length_le
  rw [List.reverse_nil, List.nil_append, List.length_take] at hlen
  dsimp only
  omega

/-- The matches of a signature lie in the haystack, one behind the other. -/
theorem spans_sorted {s : Signature} (hs : s.Proper) {haystack : Bytes} {start : Nat}
    (hstart : start ≤ haystack.length) :
    (∀ span ∈ s.spans haystack start, span.Between start haystack.length) ∧
      (s.spans haystack start).Pairwise Regex.Span.Precedes := by
  have hlen : start + (haystack.drop start).length = haystack.length := by
    rw [List.length_drop]
    omega
  unfold spans
  split
  · rename_i bytes hbytes
    have hpos : 0 < bytes.length := List.length_pos_iff.mpr fun he => hs (he ▸ hbytes)
    have hne : ∀ span ∈ Literal.occurrences s.flags.caseless bytes [] start (haystack.drop start),
        span.start < span.stop := by
      intro span h
      have := (occurrence_bounds h).2.1
      omega
    refine ⟨fun span h => ?_, (Regex.Span.separate_sorted _ start hne).2⟩
    have hmem := (Regex.Span.separate_sublist _ start).subset h
    obtain ⟨h₁, h₂, h₃⟩ := occurrence_bounds hmem
    exact ⟨h₁, by omega, by omega⟩
  · split
    · have := Regex.findAll_sorted s.regex (haystack.take start).reverse (haystack.drop start) start
      rw [hlen] at this
      exact this
    · exact ⟨by simp, List.Pairwise.nil⟩

end Signature

namespace Engine

/-- A span as a match of the signature with a number. -/
def matchAt (number : Nat) (span : Regex.Span) : Match := ⟨number, span.start, span.stop⟩

theorem literals_eq (e : Engine) (caseless : Bool) :
    e.literals caseless = e.signatures.zipIdx.filterMap (Signature.literalAt caseless) := by
  have key : ∀ (ss : List Signature) (first : Nat), literalsOf caseless first ss =
      (ss.zipIdx first).filterMap (Signature.literalAt caseless) := by
    intro ss
    induction ss with
    | nil => exact fun _ => rfl
    | cons s rest ih =>
        intro first
        rw [literalsOf, List.zipIdx_cons, List.filterMap_cons, ← ih (first + 1),
          Signature.literalAt]
        cases s.literal with
        | none => rfl
        | some bytes =>
            by_cases hc : s.flags.caseless = caseless
            · simp only [hc, if_true]
            · simp only [hc, if_false]
  exact key e.signatures 0

theorem expressions_eq (e : Engine) :
    e.expressions = e.signatures.zipIdx.filterMap Signature.expressionAt := by
  have key : ∀ (ss : List Signature) (first : Nat), expressionsOf first ss =
      (ss.zipIdx first).filterMap Signature.expressionAt := by
    intro ss
    induction ss with
    | nil => exact fun _ => rfl
    | cons s rest ih =>
        intro first
        rw [expressionsOf, List.zipIdx_cons, List.filterMap_cons, ← ih (first + 1),
          Signature.expressionAt]
        cases s.literal.isNone with
        | false => rfl
        | true => rfl
  exact key e.signatures 0

variable {e : Engine} {n : Nat} {s : Signature}

theorem literals_filter (hn : e.signatures[n]? = some s) (caseless : Bool) :
    (e.literals caseless).filter (fun l => l.number = n) =
      (Signature.literalAt caseless (s, n)).toList := by
  have hkey : ∀ {x l}, Signature.literalAt caseless x = some l → l.number = x.2 := by
    intro x l h
    unfold Signature.literalAt at h
    split at h
    · split at h
      · rw [← Option.some.inj h]
      · cases h
    · cases h
  have := filterMap_zipIdx_filter hkey e.signatures 0 n
  rw [Nat.zero_add, hn] at this
  rw [literals_eq]
  exact this

theorem expressions_filter (hn : e.signatures[n]? = some s) :
    e.expressions.filter (fun x => x.1 = n) = (Signature.expressionAt (s, n)).toList := by
  have hkey : ∀ {x y}, Signature.expressionAt x = some y → y.1 = x.2 := by
    intro x y h
    unfold Signature.expressionAt at h
    split at h
    · rw [← Option.some.inj h]
    · cases h
  have := filterMap_zipIdx_filter hkey e.signatures 0 n
  rw [Nat.zero_add, hn] at this
  rw [expressions_eq]
  exact this

theorem number_lt_of_mem_literals {caseless : Bool} {l : Literal} (h : l ∈ e.literals caseless) :
    l.number < e.size := by
  rw [literals_eq] at h
  obtain ⟨⟨t, i⟩, ht, hl⟩ := List.mem_filterMap.mp h
  have hi := (List.mem_zipIdx ht).2.1
  unfold Signature.literalAt at hl
  split at hl
  · split at hl
    · rw [← Option.some.inj hl]
      show i < e.signatures.length
      omega
    · cases hl
  · cases hl

theorem number_lt_of_mem_expressions {x : Nat × Signature} (h : x ∈ e.expressions) :
    x.1 < e.size := by
  rw [expressions_eq] at h
  obtain ⟨⟨t, i⟩, ht, hx⟩ := List.mem_filterMap.mp h
  have hi := (List.mem_zipIdx ht).2.1
  unfold Signature.expressionAt at hx
  split at hx
  · rw [← Option.some.inj hx]
    show i < e.signatures.length
    omega
  · cases hx

/-- The occurrences of a signature, if it is a literal that minds case or not as asked for. -/
theorem hits_filter (hn : e.signatures[n]? = some s) (caseless : Bool) (after : Bytes)
    (start : Nat) :
    (Literal.hits (e.literals caseless) [] start after).filter (fun h => h.number = n) =
      (match Signature.literalAt caseless (s, n) with
        | some l => Literal.occurrences caseless l.bytes [] start after
        | none => []).map (Literal.hitAt n) := by
  rw [Literal.hits_filter, literals_filter hn]
  unfold Signature.literalAt
  cases s.literal with
  | none => rfl
  | some bytes =>
      by_cases hc : s.flags.caseless = caseless
      · simp only [hc, if_true, Option.toList_some]
        exact Literal.hits_singleton n bytes caseless after [] start
      · simp only [hc, if_false, Option.toList_none]
        rfl

theorem literalMatches_filter (hn : e.signatures[n]? = some s) (after : Bytes) (start : Nat) :
    (e.literalMatches after start).filter (fun m => m.number = n) =
      (match s.literal with
        | some bytes => Regex.Span.separate start
            (Literal.occurrences s.flags.caseless bytes [] start after)
        | none => []).map (matchAt n) := by
  have hlt : n < e.size := (List.getElem?_eq_some_iff.mp hn).1
  generalize hfree : List.replicate e.size start = free
  have hlen : free.length = e.size := by rw [← hfree, List.length_replicate]
  have hstart : free.getD n 0 = start := by
    rw [← hfree, List.getD_eq_getElem?_getD, List.getElem?_replicate, if_pos hlt]
    rfl
  have hbound : ∀ caseless, ∀ h ∈ Literal.hits (e.literals caseless) [] start after,
      h.number < e.size := by
    intro caseless h hh
    obtain ⟨l, hl, hnum⟩ := Literal.number_of_mem_hits hh
    rw [← hnum]
    exact number_lt_of_mem_literals hl
  have hminding := Literal.take_filter _ free _ (hlen.symm ▸ hbound false)
    (hits_filter hn false after start)
  have hfolding := Literal.take_filter _
    (Literal.take free (Literal.hits (e.literals false) [] start after)).1 _
    ((Literal.length_take _ free).trans hlen ▸ hbound true) (hits_filter hn true after start)
  have hmatches : (e.literalMatches after start).filter (fun m => m.number = n) =
      ((Literal.take free (Literal.hits (e.literals false) [] start after)).2.filter
          (fun h => h.number = n) ++
        (Literal.take (Literal.take free (Literal.hits (e.literals false) [] start after)).1
          (Literal.hits (e.literals true) [] start after)).2.filter
          (fun h => h.number = n)).map fun h => ⟨h.number, h.start, h.stop⟩ := by
    rw [literalMatches, hfree, List.filter_map, List.filter_append]
    rfl
  rw [hmatches, hminding, hfolding, hstart]
  have hnone := hits_filter hn false after start
  unfold Signature.literalAt at hnone ⊢
  cases hlit : s.literal with
  | none => rfl
  | some bytes =>
      simp only [hlit] at hnone ⊢
      cases hc : s.flags.caseless with
      | false =>
          simp only [if_true, Bool.false_eq_true, if_false, Regex.Span.separate, List.map_nil,
            List.append_nil, List.map_map]
          rfl
      | true =>
          simp only [hc, Bool.true_eq_false, if_false, List.map_nil] at hnone
          -- no literal that minds case has moved the free position
          have hkept : (Literal.take free (Literal.hits (e.literals false) [] start after)).1.getD n 0
              = start := by
            rw [Literal.getD_take _ free, hstart]
            exact fun h hh => by simpa using List.filter_eq_nil_iff.mp hnone h hh
          simp only [if_true, Bool.true_eq_false, if_false, Regex.Span.separate, List.map_nil,
            List.nil_append, List.map_map, hkept]
          rfl

theorem expressionMatches_filter (hn : e.signatures[n]? = some s) (haystack : Bytes) (start : Nat) :
    (e.expressionMatches haystack start).filter (fun m => m.number = n) =
      (match s.literal with
        | some _ => []
        | none => if s.setRegex.matches? haystack then
            s.regex.findAll (haystack.take start).reverse (haystack.drop start) start
          else []).map (matchAt n) := by
  rw [expressionMatches, flatMap_filter]
  · rw [List.filter_filter]
    have hcomm : e.expressions.filter (fun x => decide (x.1 = n) && x.2.setRegex.matches? haystack) =
        (e.expressions.filter fun x => x.1 = n).filter fun x => x.2.setRegex.matches? haystack := by
      rw [List.filter_filter]
      exact List.filter_congr fun x _ => Bool.and_comm _ _
    refine (congrArg _ hcomm).trans ?_
    rw [expressions_filter hn]
    unfold Signature.expressionAt
    cases hlit : s.literal with
    | some bytes => simp
    | none =>
        simp only [Option.isNone_none, if_true, Option.toList_some]
        by_cases hm : s.setRegex.matches? haystack = true
        · simp only [List.filter_cons, List.filter_nil, hm, if_true, List.flatMap_cons,
            List.flatMap_nil, List.append_nil]
          rfl
        · simp only [List.filter_cons, List.filter_nil, hm, Bool.false_eq_true, if_false]
          rfl
  · intro x m hm
    obtain ⟨span, _, rfl⟩ := List.mem_map.mp hm
    rfl

/-! ### Order -/

theorem le_iff {a b : Match} : a.le b = true ↔ a.stop < b.stop ∨ a.stop = b.stop ∧
    (a.number < b.number ∨ a.number = b.number ∧ a.start ≤ b.start) := by
  simp only [Match.le, Bool.or_eq_true, Bool.and_eq_true, decide_eq_true_eq, beq_iff_eq]

theorem le_trans (a b c : Match) (hab : a.le b = true) (hbc : b.le c = true) : a.le c = true := by
  rw [le_iff] at *
  omega

theorem le_total (a b : Match) : (a.le b || b.le a) = true := by
  rw [Bool.or_eq_true, le_iff, le_iff]
  omega

/-- **One signature among many**: the matches under a number are what is found for its signature
alone. -/
theorem scanFrom_filter (hn : e.signatures[n]? = some s) (hs : s.Proper) {haystack : Bytes}
    {start : Nat} (hstart : start ≤ haystack.length) :
    (e.scanFrom haystack start).filter (fun m => m.number = n) =
      (s.spans haystack start).map (matchAt n) := by
  have hfound : (e.literalMatches (haystack.drop start) start ++
      e.expressionMatches haystack start).filter (fun m => m.number = n) =
        (s.spans haystack start).map (matchAt n) := by
    rw [List.filter_append, literalMatches_filter hn, expressionMatches_filter hn, ← List.map_append,
      Signature.spans]
    cases s.literal with
    | none => rfl
    | some bytes => rw [List.append_nil]
  rw [scanFrom, if_neg (Nat.not_lt.mpr hstart), filter_mergeSort le_trans le_total, hfound]
  rw [hfound, List.pairwise_map]
  obtain ⟨hbounds, hsorted⟩ := Signature.spans_sorted hs hstart
  refine hsorted.imp_of_mem fun {a b} ha hb hab => ?_
  have := (hbounds a ha).start_le
  have := (hbounds b hb).start_le
  have := hab.stop_le
  rw [le_iff]
  dsimp only [matchAt]
  omega

/-- Every match is one of a signature of the engine. -/
theorem number_lt_of_mem_scanFrom {haystack : Bytes} {start : Nat} {m : Match}
    (hm : m ∈ e.scanFrom haystack start) : m.number < e.size := by
  rw [scanFrom] at hm
  split at hm
  · cases hm
  · rw [List.mem_mergeSort, List.mem_append] at hm
    rcases hm with hm | hm
    · obtain ⟨h, hh, rfl⟩ := List.mem_map.mp hm
      have hhit : ∃ caseless free, h ∈ (Literal.take free
          (Literal.hits (e.literals caseless) [] start (haystack.drop start))).2 := by
        rcases List.mem_append.mp hh with hh | hh
        · exact ⟨false, _, hh⟩
        · exact ⟨true, _, hh⟩
      obtain ⟨caseless, free, hh⟩ := hhit
      obtain ⟨l, hl, hnum⟩ :=
        Literal.number_of_mem_hits ((Literal.take_sublist _ free).subset hh)
      exact hnum ▸ number_lt_of_mem_literals hl
    · obtain ⟨x, hx, hm⟩ := List.mem_flatMap.mp hm
      obtain ⟨span, _, rfl⟩ := List.mem_map.mp hm
      exact number_lt_of_mem_expressions ((List.mem_filter.mp hx).1)

end Engine
end TrafficRules
