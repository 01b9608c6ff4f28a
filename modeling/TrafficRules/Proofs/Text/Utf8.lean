import TrafficRules.Text.Utf8

/-! # Scalar values read from bytes

A scalar value that is read takes at least one byte, and not more than there are
(`Utf8.scalar?_length`). The bytes of a text are decoded into that text (`Utf8.decode?_encode`). The
scalar value in front of a position lies within the nearest bytes, unless these are at most three and
none of them starts a scalar value (`Utf8.lastScalar?_append`). -/

namespace TrafficRules.Utf8

theorem length_of_checked? {least n length : Nat} {r : Char × Nat}
    (h : checked? least n length = some r) : r.2 = length := by
  unfold checked? at h
  split at h
  · rw [← Option.some.inj h]
  · cases h

theorem scalar?_length {bytes : Bytes} {r : Char × Nat} (h : scalar? bytes = some r) :
    0 < r.2 ∧ r.2 ≤ bytes.length := by
  unfold scalar? at h
  split at h
  · cases h
  · split at h
    · rw [← Option.some.inj h]
      simp
    · split at h
      · cases h
      · split at h
        · cases h
        · split at h
          · obtain ⟨m, _, h⟩ := Option.bind_eq_some_iff.mp h
            simp [length_of_checked? h]
          · split at h
            · cases h
            · split at h
              · obtain ⟨m, _, h⟩ := Option.bind_eq_some_iff.mp h
                obtain ⟨k, _, h⟩ := Option.bind_eq_some_iff.mp h
                simp [length_of_checked? h]
              · split at h
                · cases h
                · split at h
                  · obtain ⟨m, _, h⟩ := Option.bind_eq_some_iff.mp h
                    obtain ⟨k, _, h⟩ := Option.bind_eq_some_iff.mp h
                    obtain ⟨j, _, h⟩ := Option.bind_eq_some_iff.mp h
                    simp [length_of_checked? h]
                  · cases h

theorem decode?_encode (cs : List Char) : decode? (encode cs) = some (String.ofList cs) := by
  have hbytes : (⟨(encode cs).toArray⟩ : ByteArray) = cs.utf8Encode := by
    rw [List.utf8Encode, encode]
    exact ByteArray.ext List.data_toByteArray.symm
  rw [decode?, hbytes, String.fromUTF8?, dif_pos ByteArray.isValidUTF8_utf8Encode]
  rfl

/-! ### Bytes read backwards -/

theorem scalar?_of_continuations {bytes : Bytes} (h : ∀ b ∈ bytes, isContinuation b = true) :
    scalar? bytes = none := by
  cases bytes with
  | nil => rfl
  | cons a rest =>
      have ha := h a List.mem_cons_self
      rw [isContinuation, beq_iff_eq] at ha
      have hascii : ¬ a < 0x80 := by
        rw [UInt8.lt_iff_toNat_lt]
        show ¬ a.toNat < 128
        omega
      have hlead : a < 0xC0 := by
        rw [UInt8.lt_iff_toNat_lt]
        show a.toNat < 192
        omega
      unfold scalar?
      dsimp only
      rw [if_neg hascii]
      cases rest with
      | nil => rfl
      | cons b rest => exact if_pos hlead

theorem tail_of_continuations : ∀ {front : Bytes} {more : Nat} (acc : Bytes),
    front.length ≤ more → (∀ b ∈ front, isContinuation b = true) →
      tail more acc front = front.reverse ++ acc
  | [], more, _, _, _ => by
      cases more <;> rfl
  | b :: rest, 0, acc, hlen, _ => by simp at hlen
  | b :: rest, more + 1, acc, hlen, h => by
      have hrest : ∀ c ∈ rest, isContinuation c = true := fun c hc => h c (List.mem_cons_of_mem b hc)
      rw [tail, if_pos (h b List.mem_cons_self),
        tail_of_continuations (b :: acc) (Nat.le_of_succ_le_succ hlen) hrest, List.reverse_cons,
        List.append_assoc]
      rfl

/-- Going back ends within the nearest bytes, unless these are few and all in the middle of a scalar
value. -/
theorem tail_append : ∀ (front back : Bytes) (more : Nat) (acc : Bytes),
    tail more acc (front ++ back) = tail more acc front ∨
      front.length ≤ more ∧ ∀ b ∈ front, isContinuation b = true
  | [], _, more, _ => Or.inr ⟨Nat.zero_le more, by simp⟩
  | b :: rest, back, 0, acc => Or.inl rfl
  | b :: rest, back, more + 1, acc => by
      rw [List.cons_append, tail, tail]
      by_cases hb : isContinuation b = true
      · rw [if_pos hb, if_pos hb]
        refine (tail_append rest back more (b :: acc)).imp_right fun ⟨hlen, hrest⟩ => ⟨?_, ?_⟩
        · exact Nat.succ_le_succ hlen
        · exact List.forall_mem_cons.mpr ⟨hb, hrest⟩
      · exact Or.inl (by rw [if_neg hb, if_neg hb])

theorem lastScalar?_of_continuations {front : Bytes} (hlen : front.length ≤ 3)
    (h : ∀ b ∈ front, isContinuation b = true) : lastScalar? front = none := by
  rw [lastScalar?, tail_of_continuations [] hlen h, List.append_nil,
    scalar?_of_continuations fun b hb => h b (List.mem_reverse.mp hb)]
  rfl

/-- The last scalar value is read from the nearest bytes, unless they are the end of one that starts
further back. -/
theorem lastScalar?_append (front back : Bytes) :
    lastScalar? (front ++ back) = lastScalar? front ∨
      front.length ≤ 3 ∧ ∀ b ∈ front, isContinuation b = true :=
  (tail_append front back 3 []).imp_left fun h => by rw [lastScalar?, h, lastScalar?]

end TrafficRules.Utf8
