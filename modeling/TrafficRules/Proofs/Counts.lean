import TrafficRules.Counts
import TrafficRules.Proofs.Outcome

/-! # Exact counts

What counts are in natural numbers. A count that has grown is exact, since at its greatest value it
cannot grow (`Counts.toNat_of_increment`). Only the sum over both directions may leave the range, and it
is held at the greatest value then (`toNat_saturatingSum`).

Behind any number of calls, a count is what it was before and the number of calls for it, held at the
greatest value (`DirectionalCounts.toNat_count_of_recordAll`). The calls go through exactly if this
number stays in the range on either side (`DirectionalCounts.exists_recordAll_iff`). -/

namespace TrafficRules

namespace Counts

variable {counts counts' : Counts} {n : Nat}

theorem increment_ok (hi : counts.increment n = .ok counts') :
    counts.of n ≠ 0xFFFFFFFF ∧ counts' = counts.insert n (counts.of n + 1) := by
  obtain ⟨hmax, hok⟩ := refuse_ok_iff.mp hi
  exact ⟨hmax, (Except.ok.inj hok).symm⟩

theorem of_insert (counts : Counts) (n k : Nat) (value : UInt32) :
    Counts.of (counts.insert n value) k = if n = k then value else counts.of k := by
  rw [of, Table.get?_insert]
  split <;> rfl

theorem ne_greatest_iff {value : UInt32} : value ≠ 0xFFFFFFFF ↔ value.toNat + 1 < UInt32.size := by
  have hlt : value.toNat < UInt32.size := value.toNat_lt
  have hmax : value = 0xFFFFFFFF ↔ value.toNat = UInt32.size - 1 := by
    rw [← UInt32.toNat_inj]
    rfl
  rw [ne_eq, hmax]
  omega

theorem exists_increment_iff :
    (∃ counts', counts.increment n = .ok counts') ↔ (counts.of n).toNat + 1 < UInt32.size := by
  rw [← ne_greatest_iff]
  constructor
  · rintro ⟨counts', hi⟩
    exact (increment_ok hi).1
  · intro hmax
    exact ⟨_, if_neg hmax⟩

theorem toNat_of_increment (hi : counts.increment n = .ok counts') (k : Nat) :
    (counts'.of k).toNat = (counts.of k).toNat + if n = k then 1 else 0 := by
  obtain ⟨hmax, rfl⟩ := increment_ok hi
  rw [of_insert]
  split
  · rename_i hk
    rw [UInt32.toNat_add, ← hk]
    exact Nat.mod_eq_of_lt (ne_greatest_iff.mp hmax)
  · rfl

end Counts

theorem toNat_saturatingSum (a b : UInt32) :
    (saturatingSum a b).toNat = min (a.toNat + b.toNat) (UInt32.size - 1) := by
  unfold saturatingSum
  split
  · rename_i h
    rw [UInt32.toNat_add, Nat.mod_eq_of_lt h]
    omega
  · rename_i h
    have hmax : (0xFFFFFFFF : UInt32).toNat = UInt32.size - 1 := rfl
    omega

theorem saturatingSum_pos {a b : UInt32} :
    0 < (saturatingSum a b).toNat ↔ 0 < a.toNat ∨ 0 < b.toNat := by
  have hsize : UInt32.size = 4294967296 := rfl
  rw [toNat_saturatingSum]
  omega

namespace DirectionalCounts

/-- Counts one match after the other. -/
def recordAll (m : DirectionalCounts) (calls : List (Direction × Nat)) :
    Except Fault DirectionalCounts :=
  calls.foldlM (fun m call => m.record call.1 call.2) m

/-- How often a signature has matched in a direction: what the counts held and the calls behind that. -/
def tally (m : DirectionalCounts) (calls : List (Direction × Nat)) (n : Nat) : Direction → Nat
  | .toServer => (m.client.of n).toNat + calls.count (.toServer, n)
  | .toClient => (m.server.of n).toNat + calls.count (.toClient, n)
  | .both => (m.client.of n).toNat + calls.count (.toServer, n) +
      ((m.server.of n).toNat + calls.count (.toClient, n))

variable {m m' : DirectionalCounts} {d : Direction} {n : Nat}

/-! ### One call -/

theorem record_ok (h : m.record d n = .ok m') :
    (d = .toServer ∧ ∃ client, m.client.increment n = .ok client ∧ m' = { m with client := client }) ∨
    (d = .toClient ∧ ∃ server, m.server.increment n = .ok server ∧ m' = { m with server := server }) ∨
    (d = .both ∧ m' = m) := by
  cases d with
  | toServer =>
      obtain ⟨client, hi, hm⟩ := bind_ok_iff.mp h
      exact Or.inl ⟨rfl, client, hi, (pure_ok_iff.mp hm).symm⟩
  | toClient =>
      obtain ⟨server, hi, hm⟩ := bind_ok_iff.mp h
      exact Or.inr (Or.inl ⟨rfl, server, hi, (pure_ok_iff.mp hm).symm⟩)
  | both => exact Or.inr (Or.inr ⟨rfl, (Except.ok.inj h).symm⟩)

theorem exists_record_iff :
    (∃ m', m.record d n = .ok m') ↔ (d ≠ .both → (m.count n d).toNat + 1 < UInt32.size) := by
  cases d with
  | toServer =>
      rw [← fault?_eq_none_iff, record, fault?_bind_pure, fault?_eq_none_iff,
        Counts.exists_increment_iff]
      exact ⟨fun h _ => h, fun h => h nofun⟩
  | toClient =>
      rw [← fault?_eq_none_iff, record, fault?_bind_pure, fault?_eq_none_iff,
        Counts.exists_increment_iff]
      exact ⟨fun h _ => h, fun h => h nofun⟩
  | both => exact ⟨fun _ h => absurd rfl h, fun _ => ⟨m, rfl⟩⟩

theorem count_cons (d e : Direction) (n k : Nat) (calls : List (Direction × Nat)) :
    ((d, n) :: calls).count (e, k) = calls.count (e, k) + if d = e ∧ n = k then 1 else 0 := by
  rw [List.count_cons]
  simp only [beq_iff_eq, Prod.mk.injEq]

/-- What a call adds to the counts is taken from the calls that are still to come. -/
theorem tally_record (h : m.record d n = .ok m') (calls : List (Direction × Nat)) (k : Nat)
    (e : Direction) : m'.tally calls k e = m.tally ((d, n) :: calls) k e := by
  rcases record_ok h with ⟨rfl, client, hi, rfl⟩ | ⟨rfl, server, hi, rfl⟩ | ⟨rfl, rfl⟩
  · have hk := Counts.toNat_of_increment hi k
    cases e <;> simp only [tally, count_cons, hk, reduceCtorEq, true_and, false_and, if_false] <;> omega
  · have hk := Counts.toNat_of_increment hi k
    cases e <;> simp only [tally, count_cons, hk, reduceCtorEq, true_and, false_and, if_false] <;> omega
  · cases e <;> simp only [tally, count_cons, reduceCtorEq, false_and, if_false, Nat.add_zero]

/-- A count is exact up to its greatest value. -/
theorem toNat_count (m : DirectionalCounts) (n : Nat) (d : Direction) :
    (m.count n d).toNat = min (m.tally [] n d) (UInt32.size - 1) := by
  have hclient : (m.client.of n).toNat < UInt32.size := (m.client.of n).toNat_lt
  have hserver : (m.server.of n).toNat < UInt32.size := (m.server.of n).toNat_lt
  cases d with
  | toServer => simp only [count, tally, List.count_nil]; omega
  | toClient => simp only [count, tally, List.count_nil]; omega
  | both => simp only [count, tally, List.count_nil, toNat_saturatingSum, Nat.add_zero]

theorem count_lt_tally (m : DirectionalCounts) (n : Nat) (calls : List (Direction × Nat))
    (hd : d ≠ .both) : (m.count n d).toNat < m.tally ((d, n) :: calls) n d := by
  cases d with
  | toServer => simp only [count, tally, count_cons, and_self, if_true]; omega
  | toClient => simp only [count, tally, count_cons, and_self, if_true]; omega
  | both => exact absurd rfl hd

/-! ### Any number of calls -/

theorem recordAll_cons (m : DirectionalCounts) (d : Direction) (n : Nat)
    (calls : List (Direction × Nat)) :
    m.recordAll ((d, n) :: calls) = m.record d n >>= fun m' => m'.recordAll calls :=
  List.foldlM_cons

theorem toNat_count_of_recordAll {calls : List (Direction × Nat)} (h : m.recordAll calls = .ok m')
    (n : Nat) (d : Direction) :
    (m'.count n d).toNat = min (m.tally calls n d) (UInt32.size - 1) := by
  induction calls generalizing m with
  | nil =>
      obtain rfl : m = m' := Except.ok.inj h
      exact toNat_count m n d
  | cons call rest ih =>
      obtain ⟨e, k⟩ := call
      rw [recordAll_cons] at h
      obtain ⟨m₁, h₁, hrest⟩ := bind_ok_iff.mp h
      rw [← tally_record h₁]
      exact ih hrest

/-- Calls go through exactly if on neither side there are more matches than can be counted. -/
theorem exists_recordAll_iff (m : DirectionalCounts) (calls : List (Direction × Nat)) :
    (∃ m', m.recordAll calls = .ok m') ↔ ∀ n d, d ≠ .both → m.tally calls n d < UInt32.size := by
  induction calls generalizing m with
  | nil =>
      refine ⟨fun _ n d hd => ?_, fun _ => ⟨m, rfl⟩⟩
      cases d with
      | toServer => exact (m.client.of n).toNat_lt
      | toClient => exact (m.server.of n).toNat_lt
      | both => exact absurd rfl hd
  | cons call rest ih =>
      obtain ⟨e, k⟩ := call
      rw [recordAll_cons]
      constructor
      · rintro ⟨m', h⟩ n d hd
        obtain ⟨m₁, h₁, hrest⟩ := bind_ok_iff.mp h
        rw [← tally_record h₁]
        exact (ih m₁).mp ⟨m', hrest⟩ n d hd
      · intro hall
        obtain ⟨m₁, h₁⟩ := exists_record_iff.mpr fun he =>
          Nat.lt_of_le_of_lt (count_lt_tally m k rest he) (hall k e he)
        obtain ⟨m', hrest⟩ := (ih m₁).mpr fun n d hd => by
          rw [tally_record h₁]
          exact hall n d hd
        exact ⟨m', by rw [h₁]; exact hrest⟩

end DirectionalCounts
end TrafficRules
