import TrafficRules.Proofs.Annotation.Exact

/-! # Rules that can be triggered

What a valid filter, a valid pattern and a valid rule are good for: some connection passes the filter
(`Filter.validate_ok_iff_exists`), the pattern is satisfied by some counts
(`Pattern.validate_ok_iff_exists`), and the rule is triggered by some connection with some counts
(`Rule.Armed.exists_triggered`).

Bounds that contradict each other are all that keeps a single value from lying between them
(`exists_between_iff`), and each bound is on a value of its own. The patterns of one rule are counted
apart from each other only if they have different numbers. Then the least counts that they ask for
(`DirectionalCounts.least`) satisfy them all. -/

namespace TrafficRules

/-- The duration of the connection is one that can be measured: its whole seconds have 64 bits. -/
def Connection.Measurable (c : Connection) : Prop := c.nanoseconds < UInt64.size * 1000000000

/-- The checks of the filter and of the patterns have been passed, and the patterns have numbers of their
own. -/
structure Rule.Armed (r : Rule) : Prop where
  filter : r.filter.validate = .ok ()
  patterns : ∀ p ∈ r.patterns, p.validate = .ok () ∧ p.corpusId ≠ none
  distinct : r.patternIds.Nodup

/-- Some value lies within bounds unless they contradict each other. -/
theorem exists_between_iff {size least most : Nat} (hleast : least < size) (hmost : most < size) :
    (∃ value, Between size least most value) ↔ most = 0 ∨ least ≤ most := by
  unfold Between
  constructor
  · rintro ⟨value, hvalue⟩
    omega
  · intro h
    exact ⟨least, by omega⟩

/-! ### Filters -/

theorem Filter.validate_ok_iff {f : Filter} : f.validate = .ok () ↔
    (f.clientAddress ≠ "" → ∃ a, Address.ofText? f.clientAddress = some a) ∧
    (f.maxDuration.toNat = 0 ∨ f.minDuration.toNat ≤ f.maxDuration.toNat) ∧
    (f.maxBytes.toNat = 0 ∨ f.minBytes.toNat ≤ f.maxBytes.toNat) := by
  have hbounds (least most : UInt64) : ¬ (most ≠ 0 ∧ most < least) ↔
      most.toNat = 0 ∨ least.toNat ≤ most.toNat := by
    rw [UInt64.lt_iff_toNat_lt, ne_eq, ← UInt64.toNat_inj, UInt64.toNat_zero]
    omega
  rw [validate, refuse_ok_iff, refuse_ok_iff, refuse_ok_iff, hbounds, hbounds, not_and,
    Bool.not_eq_true, Option.isNone_eq_false_iff, Option.isSome_iff_exists]
  simp only [and_true]

/-- A connection that does what a filter asks for and no more. -/
def Filter.least (f : Filter) : Connection where
  clientAddress := (Address.ofText? f.clientAddress).getD (.v4 0)
  clientPort := f.clientPort
  serverAddress := .v4 0
  servicePort := f.servicePort
  nanoseconds := f.minDuration.toNat * 1000000
  clientBytes := f.minBytes
  serverBytes := 0

theorem Filter.measurable_least (f : Filter) : f.least.Measurable := by
  have hlt := f.minDuration.toNat_lt
  show f.minDuration.toNat * 1000000 < UInt64.size * 1000000000
  unfold UInt64.size
  omega

/-- The least connection passes a valid filter. -/
theorem Filter.passes_least {f : Filter} (h : f.validate = .ok ()) : f.passes f.least = true := by
  obtain ⟨haddress, hduration, hbytes⟩ := validate_ok_iff.mp h
  refine passes_iff.mpr ⟨fun _ => rfl, fun _ => rfl, fun hset => ?_, ?_, ?_⟩
  · obtain ⟨a, ha⟩ := haddress hset
    rw [least, ha, Option.getD_some]
  · have hexact : f.least.nanoseconds / 1000000 = f.minDuration.toNat :=
      Nat.mul_div_cancel _ (by decide)
    rw [hexact]
    exact ⟨Nat.le_refl _, hduration.imp_right Or.inr⟩
  · exact ⟨Nat.le_refl _, hbytes.imp_right Or.inr⟩

/-- A filter is valid exactly if a connection can pass it. -/
theorem Filter.validate_ok_iff_exists (f : Filter) :
    f.validate = .ok () ↔ ∃ c : Connection, c.Measurable ∧ f.passes c = true := by
  constructor
  · exact fun h => ⟨f.least, f.measurable_least, passes_least h⟩
  · rintro ⟨c, _, hc⟩
    obtain ⟨_, _, haddress, hduration, hbytes⟩ := passes_iff.mp hc
    exact validate_ok_iff.mpr ⟨fun hset => ⟨_, haddress hset⟩,
      (exists_between_iff f.minDuration.toNat_lt f.maxDuration.toNat_lt).mp ⟨_, hduration⟩,
      (exists_between_iff f.minBytes.toNat_lt f.maxBytes.toNat_lt).mp ⟨_, hbytes⟩⟩

/-! ### Least counts -/

namespace DirectionalCounts

/-- Sets the count of a signature on the side of a direction, or on that of the client. -/
def set (c : DirectionalCounts) (n : Nat) (d : Direction) (value : UInt32) : DirectionalCounts :=
  match d with
  | .toClient => { c with server := c.server.insert n value }
  | .toServer | .both => { c with client := c.client.insert n value }

/-- The least counts that patterns ask for, with no matches of other signatures. -/
def least : List Pattern → DirectionalCounts
  | [] => {}
  | p :: rest =>
      match p.corpusId with
      | none => least rest
      | some n => (least rest).set n p.direction (max p.minOccurrences 1)

variable {c : DirectionalCounts} {n k : Nat} {d e : Direction} {value : UInt32}

theorem count_set (h : ∀ e, c.count n e = 0) : (c.set n d value).count n d = value := by
  have hserver : c.server.of n = 0 := h .toClient
  have hclient : c.client.of n = 0 := h .toServer
  cases d with
  | toServer => rw [set, count, Counts.of_insert, if_pos rfl]
  | toClient => rw [set, count, Counts.of_insert, if_pos rfl]
  | both =>
      have hlt : value.toNat < UInt32.size := value.toNat_lt
      rw [set, count, Counts.of_insert, if_pos rfl, hserver, ← UInt32.toNat_inj,
        toNat_saturatingSum, UInt32.toNat_zero]
      omega

theorem count_set_of_ne (h : n ≠ k) : (c.set n d value).count k e = c.count k e := by
  cases d <;> cases e <;> simp only [set, count, Counts.of_insert, if_neg h]

theorem count_least_of_notMem : ∀ {ps : List Pattern}, n ∉ ps.filterMap Pattern.corpusId →
    ∀ e, (least ps).count n e = 0
  | [], _, e => by cases e <;> rfl
  | p :: rest, h, e => by
      cases hp : p.corpusId with
      | none =>
          rw [List.filterMap_cons_none hp] at h
          simp only [least, hp]
          exact count_least_of_notMem h e
      | some k =>
          rw [List.filterMap_cons_some hp, List.mem_cons, not_or] at h
          simp only [least, hp]
          rw [count_set_of_ne (Ne.symm h.1)]
          exact count_least_of_notMem h.2 e

/-- Patterns with numbers of their own are counted apart from each other. -/
theorem count_least {p : Pattern} (hn : p.corpusId = some n) : ∀ {ps : List Pattern},
    (ps.filterMap Pattern.corpusId).Nodup → p ∈ ps →
      (least ps).count n p.direction = max p.minOccurrences 1
  | q :: rest, hnodup, hp => by
      cases hq : q.corpusId with
      | none =>
          rw [List.filterMap_cons_none hq] at hnodup
          have hrest : p ∈ rest := by
            refine (List.mem_cons.mp hp).resolve_left ?_
            rintro rfl
            rw [hn] at hq
            cases hq
          simp only [least, hq]
          exact count_least hn hnodup hrest
      | some k =>
          rw [List.filterMap_cons_some hq, List.nodup_cons] at hnodup
          simp only [least, hq]
          rcases List.mem_cons.mp hp with rfl | hrest
          · rw [hn, Option.some.injEq] at hq
            rw [hq]
            exact count_set (count_least_of_notMem hnodup.1)
          · have hmem : n ∈ rest.filterMap Pattern.corpusId :=
              List.mem_filterMap.mpr ⟨p, hrest, hn⟩
            have hne : k ≠ n := fun he => hnodup.1 (he ▸ hmem)
            rw [count_set_of_ne hne]
            exact count_least hn hnodup.2 hrest

end DirectionalCounts

/-! ### Patterns and rules -/

theorem Pattern.validate_ok_iff {p : Pattern} : p.validate = .ok () ↔
    p.regex ≠ "" ∧ (p.maxOccurrences.toNat = 0 ∨ p.minOccurrences.toNat ≤ p.maxOccurrences.toNat) := by
  have hbounds : ¬ (p.maxOccurrences ≠ 0 ∧ p.maxOccurrences < p.minOccurrences) ↔
      p.maxOccurrences.toNat = 0 ∨ p.minOccurrences.toNat ≤ p.maxOccurrences.toNat := by
    rw [UInt32.lt_iff_toNat_lt, ne_eq, ← UInt32.toNat_inj, UInt32.toNat_zero]
    omega
  rw [validate, refuse_ok_iff, refuse_ok_iff, hbounds, and_iff_left rfl]

theorem Pattern.satisfied_iff_between {p : Pattern} {counts : DirectionalCounts} {n : Nat}
    (hn : p.corpusId = some n) : p.satisfied counts = true ↔
      Between UInt32.size (max p.minOccurrences.toNat 1) p.maxOccurrences.toNat
        (counts.count n p.direction).toNat := by
  have hexact (k : Nat) : (counts.count k p.direction).toNat =
      min (counts.count k p.direction).toNat (UInt32.size - 1) := by
    have hlt : (counts.count k p.direction).toNat < UInt32.size := UInt32.toNat_lt _
    omega
  have hcounted : p.satisfied counts = true ↔ p.Counted fun k d => (counts.count k d).toNat :=
    satisfied_iff_counted hexact
  rw [hcounted, Counted, hn]
  simp only [Option.some.injEq, exists_eq_left']

/-- The least count satisfies a valid pattern. -/
theorem Pattern.satisfied_of_count {p : Pattern} {counts : DirectionalCounts} {n : Nat}
    (h : p.validate = .ok ()) (hn : p.corpusId = some n)
    (hcount : counts.count n p.direction = max p.minOccurrences 1) : p.satisfied counts = true := by
  have hbounds := (validate_ok_iff.mp h).2
  rw [satisfied_iff_between hn, hcount, toNat_max, UInt32.toNat_one]
  exact ⟨Nat.le_refl _, by omega⟩

/-- A pattern with an expression and a number is valid exactly if some counts satisfy it. -/
theorem Pattern.validate_ok_iff_exists {p : Pattern} (hregex : p.regex ≠ "")
    (hnumber : p.corpusId ≠ none) :
    p.validate = .ok () ↔ ∃ counts, p.satisfied counts = true := by
  obtain ⟨n, hn⟩ := Option.ne_none_iff_exists'.mp hnumber
  constructor
  · intro h
    refine ⟨.least [p], satisfied_of_count h hn (DirectionalCounts.count_least hn ?_ ?_)⟩
    · rw [List.filterMap_cons_some hn]
      exact List.pairwise_singleton _ n
    · exact List.mem_cons_self
  · rintro ⟨counts, hcounts⟩
    have hleast : max p.minOccurrences.toNat 1 < UInt32.size :=
      Nat.max_lt.mpr ⟨p.minOccurrences.toNat_lt, by decide⟩
    have hbounds := (exists_between_iff hleast p.maxOccurrences.toNat_lt).mp
      ⟨_, (satisfied_iff_between hn).mp hcounts⟩
    exact validate_ok_iff.mpr ⟨hregex, by omega⟩

/-- The least counts of the patterns of a rule satisfy them all. -/
theorem Rule.Armed.exists_triggered {r : Rule} (h : r.Armed) (henabled : r.enabled = true) :
    ∃ (c : Connection) (counts : DirectionalCounts), c.Measurable ∧ r.triggered c counts = true := by
  refine ⟨r.filter.least, .least r.patterns, r.filter.measurable_least, triggered_iff.mpr ⟨henabled,
    Filter.passes_least h.filter, fun p hp => ?_⟩⟩
  obtain ⟨hvalid, hnumber⟩ := h.patterns p hp
  obtain ⟨n, hn⟩ := Option.ne_none_iff_exists'.mp hnumber
  exact Pattern.satisfied_of_count hvalid hn (DirectionalCounts.count_least hn h.distinct hp)

end TrafficRules
