import TrafficRules.Table

/-! # Tables by their entries

The view `get?` of a table against its list of entries: since each key has one entry, a value stands
under a key exactly if the pair is an entry (`get?_eq_some_iff`). -/

namespace TrafficRules.Table

variable {κ ν : Type} [DecidableEq κ]

theorem find?_of_mem {entries : List (κ × ν)} (hn : (entries.map Prod.fst).Nodup) {key : κ}
    {value : ν} (h : (key, value) ∈ entries) :
    (entries.find? fun e => e.1 = key).map Prod.snd = some value := by
  induction entries with
  | nil => cases h
  | cons e rest ih =>
      rw [List.map_cons, List.nodup_cons] at hn
      rcases List.mem_cons.mp h with rfl | h
      · simp
      · have hk : e.1 ≠ key := fun hk => hn.1 (hk ▸ List.mem_map_of_mem (f := Prod.fst) h)
        rw [List.find?_cons_of_neg (by simpa using hk)]
        exact ih hn.2 h

theorem get?_eq_some_iff (t : Table κ ν) {key : κ} {value : ν} :
    t.get? key = some value ↔ (key, value) ∈ t.entries := by
  constructor
  · intro h
    obtain ⟨e, he, rfl⟩ := Option.map_eq_some_iff.mp h
    have hk : e.1 = key := by simpa using List.find?_some he
    rw [← hk]
    exact List.mem_of_find?_eq_some he
  · exact find?_of_mem t.nodup

theorem not_contains_iff (t : Table κ ν) (key : κ) :
    ¬ t.contains key = true ↔ t.get? key = none := Option.not_isSome_iff_eq_none

theorem mem_values_iff (t : Table κ ν) (value : ν) :
    value ∈ t.values ↔ ∃ key, t.get? key = some value := by
  simp only [values, List.mem_map, t.get?_eq_some_iff]
  constructor
  · rintro ⟨e, he, rfl⟩
    exact ⟨e.1, he⟩
  · rintro ⟨key, h⟩
    exact ⟨(key, value), h, rfl⟩

/-- A key that was absent and is taken away again leaves the table as it was. -/
theorem erase_insert {t : Table κ ν} {key : κ} (h : t.get? key = none) (value : ν) :
    (t.insert key value).erase key = t := by
  have habsent : ∀ e ∈ t.entries, e.1 ≠ key := by
    rintro ⟨k, v⟩ he rfl
    rw [t.get?_eq_some_iff.mpr he] at h
    cases h
  refine ext_entries ?_
  show (put key value t.entries).filter (fun e => e.1 ≠ key) = t.entries
  generalize t.entries = entries at habsent
  induction entries with
  | nil => simp [put]
  | cons e rest ih =>
      obtain ⟨he, hrest⟩ := List.forall_mem_cons.mp habsent
      rw [put, if_neg he, List.filter_cons_of_pos (by simpa using he), ih hrest]

/-- A value that is replaced and put back leaves the table as it was. -/
theorem insert_insert {t : Table κ ν} {key : κ} {value : ν} (h : t.get? key = some value)
    (other : ν) : (t.insert key other).insert key value = t := by
  refine ext_entries ?_
  show put key value (put key other t.entries) = t.entries
  unfold get? at h
  generalize t.entries = entries at h
  induction entries with
  | nil => cases h
  | cons e rest ih =>
      by_cases he : e.1 = key
      · rw [List.find?_cons_of_pos (by simpa using he), Option.map_some, Option.some.injEq] at h
        rw [put, if_pos he, put, if_pos rfl, ← he, ← h]
      · rw [List.find?_cons_of_neg (by simpa using he)] at h
        rw [put, if_neg he, put, if_neg he, ih h]

end TrafficRules.Table
