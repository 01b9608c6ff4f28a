import TrafficRules.Proofs.Text.Hex
import TrafficRules.RowId

/-! # Texts and order of row identifiers

An identifier is read back from its text (`RowId.ofText?_text`), and identifiers are ordered as the
numbers that they stand for, which is by second first and by sequence next (`RowId.lt_iff_lex`). A
generator hands out one that is greater than all it has handed out or seen (`Generator.lt_fresh`), except
behind the greatest one, where there is none (`Generator.fresh_of_greatest`). Its seconds never step back
(`Generator.le_timestamp_fresh`). -/

namespace TrafficRules.RowId

theorem toNat_lt (id : RowId) : id.toNat < 16 ^ 24 := by
  have hs := id.sequence.toNat_lt
  have ht := id.timestamp.toNat_lt
  unfold toNat UInt64.size
  omega

theorem ofNat_toNat (id : RowId) : ofNat id.toNat = id := by
  obtain ⟨timestamp, sequence⟩ := id
  have hs : sequence.toNat < UInt64.size := sequence.toNat_lt
  have hpos : 0 < UInt64.size := by decide
  have hdiv : (timestamp.toNat * UInt64.size + sequence.toNat) / UInt64.size = timestamp.toNat := by
    rw [Nat.mul_comm, Nat.mul_add_div hpos, Nat.div_eq_of_lt hs, Nat.add_zero]
  have hmod : (timestamp.toNat * UInt64.size + sequence.toNat) % UInt64.size = sequence.toNat := by
    rw [Nat.mul_comm, Nat.mul_add_mod, Nat.mod_eq_of_lt hs]
  rw [ofNat, toNat]
  dsimp only
  rw [hdiv, hmod, UInt32.ofNat_toNat, UInt64.ofNat_toNat]

theorem le_antisymm {a b : RowId} (h : a ≤ b) (h' : b ≤ a) : a = b := by
  have hn : a.toNat = b.toNat := Nat.le_antisymm h h'
  rw [← ofNat_toNat a, hn, ofNat_toNat]

/-- Identifiers compare by second first and by sequence next. -/
theorem lt_iff_lex {a b : RowId} : a < b ↔ a.timestamp < b.timestamp ∨
    a.timestamp = b.timestamp ∧ a.sequence < b.sequence := by
  rw [UInt32.lt_iff_toNat_lt, ← UInt32.toNat_inj, UInt64.lt_iff_toNat_lt]
  exact Hex.place_lt_iff a.sequence.toNat_lt b.sequence.toNat_lt

theorem timestamp_le_of_le {a b : RowId} (h : a ≤ b) : a.timestamp ≤ b.timestamp := by
  refine UInt32.not_lt.mp fun hlt => ?_
  exact Nat.not_lt.mpr h (lt_iff_lex.mpr (Or.inl hlt))

theorem ofText?_text (id : RowId) : ofText? id.text = some id := by
  rw [ofText?, text, String.toList_ofList, Hex.length_padded, if_pos rfl,
    Hex.numeral?_padded id.toNat_lt, Option.map_some, ofNat_toNat]

/-! ### Generation -/

/-- The greatest identifier. -/
def greatest : RowId := ⟨0xFFFFFFFF, 0xFFFFFFFFFFFFFFFF⟩

namespace Generator

variable {g : Generator}

theorem toNat_le_max (now timestamp : UInt32) : timestamp.toNat ≤ (max now timestamp).toNat := by
  show timestamp.toNat ≤ (if now ≤ timestamp then timestamp else now).toNat
  split
  · exact Nat.le_refl _
  · rename_i hlt
    exact Nat.le_of_lt (UInt32.lt_iff_toNat_lt.mp (UInt32.not_le.mp hlt))

/-- A sequence counts on until it wraps. -/
theorem toNat_sequence {sequence : UInt64} (h : sequence ≠ 0xFFFFFFFFFFFFFFFF) :
    (sequence + 1).toNat = sequence.toNat + 1 := by
  have hne : sequence.toNat ≠ 0xFFFFFFFFFFFFFFFF := fun he => h (UInt64.toNat_inj.mp he)
  have hlt := sequence.toNat_lt
  rw [UInt64.toNat_add, UInt64.toNat_one]
  exact Nat.mod_eq_of_lt (by omega)

theorem toNat_secondAfter {timestamp : UInt32} (h : timestamp ≠ 0xFFFFFFFF) :
    (secondAfter timestamp).toNat = timestamp.toNat + 1 := by
  have hne : timestamp.toNat ≠ 0xFFFFFFFF := fun he => h (UInt32.toNat_inj.mp he)
  have hlt := timestamp.toNat_lt
  rw [secondAfter, if_neg h, UInt32.toNat_add, UInt32.toNat_one]
  exact Nat.mod_eq_of_lt (by omega)

theorem lt_fresh (now : UInt32) (h : g.last ≠ greatest) : g.last < g.fresh now := by
  obtain ⟨⟨timestamp, sequence⟩⟩ := g
  unfold fresh
  dsimp only
  split
  · rename_i hle
    change (max now timestamp).toNat * UInt64.size + (sequence + 1).toNat ≤
      timestamp.toNat * UInt64.size + sequence.toNat at hle
    -- the sequence has wrapped, and so there is a later second
    have hsequence : sequence = 0xFFFFFFFFFFFFFFFF := by
      by_cases hs : sequence = 0xFFFFFFFFFFFFFFFF
      · exact hs
      · rw [toNat_sequence hs] at hle
        have := Nat.mul_le_mul_right UInt64.size (toNat_le_max now timestamp)
        omega
    have htimestamp : timestamp ≠ 0xFFFFFFFF := by
      rintro rfl
      exact h (by rw [hsequence, greatest])
    show timestamp.toNat * UInt64.size + sequence.toNat <
      (secondAfter timestamp).toNat * UInt64.size + (0 : UInt64).toNat
    have hlt : sequence.toNat < UInt64.size := sequence.toNat_lt
    rw [toNat_secondAfter htimestamp, Nat.add_mul]
    omega
  · rename_i hle
    exact Nat.not_le.mp hle

theorem le_secondAfter (timestamp : UInt32) : timestamp ≤ secondAfter timestamp := by
  by_cases h : timestamp = 0xFFFFFFFF
  · rw [secondAfter, if_pos h]
    exact UInt32.le_refl timestamp
  · rw [UInt32.le_iff_toNat_le, toNat_secondAfter h]
    exact Nat.le_succ _

/-- The second of a new identifier is neither before the one asked for nor before the last one. -/
theorem le_timestamp_fresh (g : Generator) (now : UInt32) :
    now ≤ (g.fresh now).timestamp ∧ g.last.timestamp ≤ (g.fresh now).timestamp := by
  have hnow : now ≤ max now g.last.timestamp := by
    show now ≤ if now ≤ g.last.timestamp then g.last.timestamp else now
    split
    · assumption
    · exact UInt32.le_refl now
  have hlast : g.last.timestamp ≤ max now g.last.timestamp :=
    UInt32.le_iff_toNat_le.mpr (toNat_le_max now g.last.timestamp)
  rw [fresh]
  split
  · rename_i hle
    -- the second asked for has come already, and one more is borrowed unless there is none
    have hmax : max now g.last.timestamp ≤ g.last.timestamp := timestamp_le_of_le hle
    have hafter := le_secondAfter g.last.timestamp
    exact ⟨UInt32.le_trans (UInt32.le_trans hnow hmax) hafter, hafter⟩
  · exact ⟨hnow, hlast⟩

/-- Behind the greatest identifier the last second is begun again. -/
theorem fresh_of_greatest (now : UInt32) (h : g.last = greatest) :
    g.fresh now = ⟨0xFFFFFFFF, 0⟩ := by
  have hmax : max now greatest.timestamp = 0xFFFFFFFF := by
    have hle := toNat_le_max now greatest.timestamp
    have hlt := (max now greatest.timestamp).toNat_lt
    refine UInt32.toNat_inj.mp ?_
    have hgreatest : greatest.timestamp.toNat = 0xFFFFFFFF := rfl
    have hvalue : (0xFFFFFFFF : UInt32).toNat = 0xFFFFFFFF := rfl
    omega
  rw [fresh, h, hmax]
  decide

theorem le_observe (g : Generator) (id : RowId) :
    g.last ≤ (g.observe id).last ∧ id ≤ (g.observe id).last := by
  unfold observe
  split
  · rename_i hlt
    exact ⟨Nat.le_of_lt hlt, Nat.le_refl _⟩
  · rename_i hle
    exact ⟨Nat.le_refl _, Nat.not_lt.mp hle⟩

end Generator
end TrafficRules.RowId
