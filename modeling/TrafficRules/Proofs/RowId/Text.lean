import TrafficRules.Proofs.RowId

/-! # The text form of identifiers

An identifier is written with eight digits for its second and sixteen for its sequence, in lowercase
(`toList_text`). Exactly the texts of 24 hexadecimal digits of either case are read (`isSome_ofText?`), and
what is read is written as the text in lowercase (`text_of_ofText?`). So each identifier has one text in
lowercase, and texts are ordered as the identifiers are (`text_lt_iff`). -/

namespace TrafficRules.RowId

theorem toNat_ofNat {n : Nat} (h : n < 16 ^ 24) : (ofNat n).toNat = n := by
  have hsecond : n / UInt64.size < 2 ^ 32 := by
    unfold UInt64.size
    omega
  have hsequence : n % UInt64.size < 2 ^ 64 := Nat.mod_lt n (by decide)
  rw [ofNat, toNat, UInt32.toNat_ofNat', UInt64.toNat_ofNat', Nat.mod_eq_of_lt hsecond,
    Nat.mod_eq_of_lt hsequence, Nat.div_add_mod']

/-- Eight digits for the second and sixteen for the sequence. -/
theorem toList_text (id : RowId) : id.text.toList =
    Hex.padded 8 id.timestamp.toNat ++ Hex.padded 16 id.sequence.toNat := by
  have hlt : id.sequence.toNat < UInt64.size := id.sequence.toNat_lt
  have hpow : 16 ^ 16 = UInt64.size := by decide
  have hsecond : id.toNat / 16 ^ 16 = id.timestamp.toNat := by
    rw [hpow, toNat, Nat.mul_comm, Nat.mul_add_div (by decide), Nat.div_eq_of_lt hlt, Nat.add_zero]
  have hsequence : id.toNat % 16 ^ 16 = id.sequence.toNat := by
    rw [hpow, toNat, Nat.mul_comm, Nat.mul_add_mod, Nat.mod_eq_of_lt hlt]
  rw [text, String.toList_ofList, Hex.padded_add 8 16, hsecond, ← Hex.padded_mod 16 id.toNat,
    hsequence]

/-- Exactly the texts of 24 digits of either case are read. -/
theorem isSome_ofText? (s : String) : (ofText? s).isSome = true ↔
    s.toList.length = 24 ∧ ∀ c ∈ s.toList, c.isHexDigit = true := by
  rw [← List.all_eq_true, ← Hex.isSome_numeralFrom? 0, ofText?]
  split
  · rename_i hlength
    rw [Option.isSome_map, Hex.numeral?]
    exact (and_iff_right hlength).symm
  · rename_i hlength
    exact ⟨fun h => (by cases h), fun h => absurd h.1 hlength⟩

/-- What is read is written in lowercase. -/
theorem text_of_ofText? {s : String} {id : RowId} (h : ofText? s = some id) : id.text = s.toLower := by
  rw [ofText?] at h
  split at h
  · rename_i hlength
    obtain ⟨n, hn, rfl⟩ := Option.map_eq_some_iff.mp h
    obtain ⟨hdigits, hdiv⟩ := Hex.padded_of_numeralFrom? hn
    rw [hlength] at hdigits hdiv
    have hlt : n < 16 ^ 24 := (Nat.div_eq_zero_iff_lt (by decide)).mp hdiv
    have hlower : s.toLower.toList = s.toList.map Char.toLower := String.toList_map
    rw [← String.toList_inj, text, String.toList_ofList, toNat_ofNat hlt, hdigits, hlower]
  · cases h

theorem text_lt_iff {a b : RowId} : a.text < b.text ↔ a < b := by
  show a.text.toList < b.text.toList ↔ a.toNat < b.toNat
  rw [text, text, String.toList_ofList, String.toList_ofList, Hex.padded_lt_iff,
    Nat.mod_eq_of_lt a.toNat_lt, Nat.mod_eq_of_lt b.toNat_lt]

theorem text_inj {a b : RowId} : a.text = b.text ↔ a = b := by
  refine ⟨fun h => ?_, congrArg text⟩
  have hread := ofText?_text a
  rw [h, ofText?_text, Option.some.injEq] at hread
  exact hread.symm

/-- **Texts of identifiers.**

* Exactly the texts of 24 hexadecimal digits of either case are read, and what is read is written as
  the text in lowercase.
* What is written is read back: eight digits for the second and sixteen for the sequence.
* Texts are ordered as the identifiers are, and these by second first and by sequence next. -/
theorem text_exact :
    (∀ s : String, ((∃ id, ofText? s = some id) ↔
      s.toList.length = 24 ∧ ∀ c ∈ s.toList, c.isHexDigit = true) ∧
      ∀ id, ofText? s = some id → id.text = s.toLower) ∧
    (∀ id : RowId, ofText? id.text = some id ∧ id.text.toList =
      Hex.padded 8 id.timestamp.toNat ++ Hex.padded 16 id.sequence.toNat) ∧
    ∀ a b : RowId, (a.text < b.text ↔ a < b) ∧ (a.text = b.text ↔ a = b) ∧
      (a < b ↔ a.timestamp < b.timestamp ∨
        a.timestamp = b.timestamp ∧ a.sequence < b.sequence) := by
  refine ⟨fun s => ⟨?_, fun id => text_of_ofText?⟩, fun id => ⟨ofText?_text id, toList_text id⟩,
    fun a b => ⟨text_lt_iff, text_inj, lt_iff_lex⟩⟩
  rw [← isSome_ofText?, Option.isSome_iff_exists]

/-- A sign is no digit, and letters are read in either case. -/
example : ofText? "+00000010000000000000002" = none ∧
    (ofText? "00000001000000000000002A").map text = some "00000001000000000000002a" := by
  decide +kernel

end TrafficRules.RowId
