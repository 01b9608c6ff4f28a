import TrafficRules.Proofs.Annotation

/-! # Annotations in exact numbers

When a rule is to alert, without a limit to any number (`Rule.Alerts`): durations and numbers of bytes
and of matches are natural numbers here, and sums are sums.

What is compared with the bounds is such a number as far as its type reaches, and the greatest value of
the type beyond that (`Connection.toNat_milliseconds`, `Connection.toNat_totalBytes`,
`DirectionalCounts.toNat_count`). The two differ for values beyond all bounds only, and these are told
apart by a bound only if it is the greatest value itself (`between_min_iff`). With that one read as no
bound, an annotation is exact (`annotate_exact`). -/

namespace TrafficRules

/-- A value lies within bounds. A greatest value of zero is no bound, and neither is the last one of the
`size` values that a bound can have. -/
def Between (size least most value : Nat) : Prop :=
  least ≤ value ∧ (most = 0 ∨ most + 1 = size ∨ value ≤ most)

/-- A filter is to let a connection pass. -/
structure Filter.Accepts (f : Filter) (c : Connection) : Prop where
  servicePort : f.servicePort ≠ 0 → c.servicePort = f.servicePort
  clientPort : f.clientPort ≠ 0 → c.clientPort = f.clientPort
  clientAddress : f.clientAddress ≠ "" → Address.ofText? f.clientAddress = some c.clientAddress
  /-- In whole milliseconds. -/
  duration : Between UInt64.size f.minDuration.toNat f.maxDuration.toNat (c.nanoseconds / 1000000)
  bytes : Between UInt64.size f.minBytes.toNat f.maxBytes.toNat
    (c.clientBytes.toNat + c.serverBytes.toNat)

/-- A pattern has a number, and the matches of its signature are of the right number. -/
def Pattern.Counted (p : Pattern) (tally : Nat → Direction → Nat) : Prop :=
  ∃ n, p.corpusId = some n ∧
    Between UInt32.size (max p.minOccurrences.toNat 1) p.maxOccurrences.toNat (tally n p.direction)

/-- A rule is to alert on a connection, where `tally` is the number of matches of each signature in each
direction. -/
structure Rule.Alerts (r : Rule) (c : Connection) (tally : Nat → Direction → Nat) : Prop where
  enabled : r.enabled = true
  filter : r.filter.Accepts c
  patterns : ∀ p ∈ r.patterns, p.Counted tally

/-! ### Bounds -/

/-- What lies beyond all values is told apart from the last one by no bound but the last one. -/
theorem between_min_iff {size least most value : Nat} (hleast : least < size) (hmost : most < size) :
    (least ≤ min value (size - 1) ∧ (most = 0 ∨ min value (size - 1) ≤ most)) ↔
      Between size least most value := by
  unfold Between
  omega

theorem within_iff (least most : UInt64) {value : UInt64} {exact : Nat}
    (h : value.toNat = min exact (UInt64.size - 1)) :
    within least most value = true ↔ Between UInt64.size least.toNat most.toNat exact := by
  rw [← between_min_iff least.toNat_lt most.toNat_lt, ← h, within, Bool.and_eq_true,
    Bool.or_eq_true, decide_eq_true_eq, decide_eq_true_eq, decide_eq_true_eq, UInt64.le_iff_toNat_le,
    UInt64.le_iff_toNat_le, ← UInt64.toNat_inj, UInt64.toNat_zero]

/-! ### Connections -/

theorem Connection.toNat_milliseconds (c : Connection) :
    c.milliseconds.toNat = min (c.nanoseconds / 1000000) (UInt64.size - 1) := by
  rw [milliseconds, UInt64.toNat_ofNat']
  exact Nat.mod_eq_of_lt (Nat.lt_of_le_of_lt (Nat.min_le_right _ _) (by decide))

theorem Connection.toNat_totalBytes (c : Connection) :
    c.totalBytes.toNat = min (c.clientBytes.toNat + c.serverBytes.toNat) (UInt64.size - 1) := by
  unfold totalBytes
  split
  · rename_i h
    rw [UInt64.toNat_add, Nat.mod_eq_of_lt h]
    omega
  · rename_i h
    have hmax : (0xFFFFFFFFFFFFFFFF : UInt64).toNat = UInt64.size - 1 := rfl
    omega

/-- A field that is zero or empty is unset. -/
theorem unset_or_iff {α : Type} [DecidableEq α] {unset field : α} {agrees : Bool} {P : Prop}
    (h : field ≠ unset → (agrees = true ↔ P)) :
    (decide (field = unset) || agrees) = true ↔ (field ≠ unset → P) := by
  by_cases hset : field = unset
  · rw [decide_eq_true hset, Bool.true_or]
    exact ⟨fun _ hne => absurd hset hne, fun _ => rfl⟩
  · rw [decide_eq_false hset, Bool.false_or, h hset]
    exact ⟨fun hP _ => hP, fun hP => hP hset⟩

theorem Filter.passes_iff {f : Filter} {c : Connection} : f.passes c = true ↔ f.Accepts c := by
  have hservice : (decide (f.servicePort = 0) || decide (f.servicePort = c.servicePort)) = true ↔
      (f.servicePort ≠ 0 → c.servicePort = f.servicePort) :=
    unset_or_iff fun _ => decide_eq_true_iff.trans eq_comm
  have hclient : (decide (f.clientPort = 0) || decide (f.clientPort = c.clientPort)) = true ↔
      (f.clientPort ≠ 0 → c.clientPort = f.clientPort) :=
    unset_or_iff fun _ => decide_eq_true_iff.trans eq_comm
  have haddress : (decide (f.clientAddress = "") ||
        decide (f.clientIp? = some c.clientAddress)) = true ↔
      (f.clientAddress ≠ "" → Address.ofText? f.clientAddress = some c.clientAddress) :=
    unset_or_iff fun hset => by rw [decide_eq_true_iff, clientIp?, if_neg hset]
  rw [passes, Bool.and_eq_true, Bool.and_eq_true, Bool.and_eq_true, Bool.and_eq_true, hservice, hclient,
    haddress, within_iff _ _ c.toNat_milliseconds, within_iff _ _ c.toNat_totalBytes]
  constructor
  · rintro ⟨⟨⟨⟨hs, hc⟩, ha⟩, hd⟩, hb⟩
    exact ⟨hs, hc, ha, hd, hb⟩
  · rintro ⟨hs, hc, ha, hd, hb⟩
    exact ⟨⟨⟨⟨hs, hc⟩, ha⟩, hd⟩, hb⟩

/-! ### Patterns and rules -/

theorem toNat_max (a b : UInt32) : (max a b).toNat = max a.toNat b.toNat := by
  show (if a ≤ b then b else a).toNat = _
  split
  · rename_i h
    exact (Nat.max_eq_right (UInt32.le_iff_toNat_le.mp h)).symm
  · rename_i h
    exact (Nat.max_eq_left (Nat.le_of_lt (UInt32.lt_iff_toNat_lt.mp (UInt32.not_le.mp h)))).symm

theorem Pattern.satisfied_iff_counted {p : Pattern} {counts : DirectionalCounts}
    {tally : Nat → Direction → Nat}
    (h : ∀ n, (counts.count n p.direction).toNat = min (tally n p.direction) (UInt32.size - 1)) :
    p.satisfied counts = true ↔ p.Counted tally := by
  unfold satisfied Counted
  cases p.corpusId with
  | none => exact ⟨fun h => (by cases h), fun ⟨_, h, _⟩ => (by cases h)⟩
  | some number =>
      have hleast : max p.minOccurrences.toNat 1 < UInt32.size :=
        Nat.max_lt.mpr ⟨p.minOccurrences.toNat_lt, by decide⟩
      simp only [Option.some.injEq, exists_eq_left', Bool.and_eq_true, Bool.or_eq_true,
        decide_eq_true_eq, UInt32.le_iff_toNat_le, toNat_max, ← UInt32.toNat_inj]
      rw [← between_min_iff hleast p.maxOccurrences.toNat_lt, ← h number]
      exact Iff.rfl

theorem Rule.triggered_iff_alerts {r : Rule} {c : Connection} {counts : DirectionalCounts}
    {tally : Nat → Direction → Nat}
    (h : ∀ n d, (counts.count n d).toNat = min (tally n d) (UInt32.size - 1)) :
    r.triggered c counts = true ↔ r.Alerts c tally := by
  rw [triggered_iff, Filter.passes_iff]
  constructor
  · rintro ⟨henabled, hfilter, hpatterns⟩
    exact ⟨henabled, hfilter, fun p hp =>
      (Pattern.satisfied_iff_counted fun n => h n p.direction).mp (hpatterns p hp)⟩
  · rintro ⟨henabled, hfilter, hpatterns⟩
    exact ⟨henabled, hfilter, fun p hp =>
      (Pattern.satisfied_iff_counted fun n => h n p.direction).mpr (hpatterns p hp)⟩

/-- **Annotations are exact.** Matches have been counted before, in any numbers, and further ones are
counted call by call. The calls go through exactly if on neither side of the connection there are more
matches than can be counted. The annotation then has the identifiers of the rules that are to alert in
exact numbers and no others, in ascending order and each of them once. -/
theorem annotate_exact (rules : List Rule) (c : Connection) (m : DirectionalCounts)
    (calls : List (Direction × Nat)) :
    ((∃ counts, m.recordAll calls = .ok counts) ↔
      ∀ n d, d ≠ .both → m.tally calls n d < UInt32.size) ∧
    ∀ counts, m.recordAll calls = .ok counts →
      (annotate rules c counts).Pairwise (· < ·) ∧
      ∀ id, id ∈ annotate rules c counts ↔ ∃ r ∈ rules, r.Alerts c (m.tally calls) ∧ r.id = id := by
  refine ⟨m.exists_recordAll_iff calls, fun counts hcounts => ⟨annotate_ascending rules c counts, ?_⟩⟩
  intro id
  have hexact := DirectionalCounts.toNat_count_of_recordAll hcounts
  simp only [mem_annotate_iff, Rule.triggered_iff_alerts hexact]

/-- The greatest value is no bound, neither for the bytes of both sides nor for the matches of both. -/
example :
    let rule : Rule := ⟨⟨1000, 1⟩, "one", "#fff", "", true,
      [{ regex := "a", maxOccurrences := 0xFFFFFFFF, corpusId := some 0 }],
      { maxBytes := 0xFFFFFFFFFFFFFFFF }, 0⟩
    rule.triggered ⟨.v4 1, 1, .v4 2, 2, 0, 0xFFFFFFFFFFFFFFFF, 0xFFFFFFFFFFFFFFFF⟩
      ⟨.ofList [(0, 0xFFFFFFFF)], .ofList [(0, 7)]⟩ = true := by decide

end TrafficRules
