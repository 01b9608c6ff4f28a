/-! # Tables

`Table κ ν` maps keys to values. Its entries stand in the order in which their keys first came,
and each key has one entry (`Table.nodup`). `get?` is the view that everything else is
described by. -/

namespace TrafficRules

/-- A finite map with the entries in order of arrival. -/
structure Table (κ ν : Type) where
  entries : List (κ × ν)
  nodup : (entries.map Prod.fst).Nodup

namespace Table

variable {κ ν : Type}

instance [Repr κ] [Repr ν] : Repr (Table κ ν) := ⟨fun t n => reprPrec t.entries n⟩

theorem ext_entries {a b : Table κ ν} (h : a.entries = b.entries) : a = b := by
  cases a; cases b; cases h; rfl

instance [DecidableEq κ] [DecidableEq ν] : DecidableEq (Table κ ν) := fun a b =>
  if h : a.entries = b.entries then isTrue (ext_entries h)
  else isFalse fun e => h (congrArg entries e)

def empty : Table κ ν := ⟨[], List.nodup_nil⟩

instance : Inhabited (Table κ ν) := ⟨empty⟩

def size (t : Table κ ν) : Nat := t.entries.length

def isEmpty (t : Table κ ν) : Bool := t.entries.isEmpty

def keys (t : Table κ ν) : List κ := t.entries.map Prod.fst

def values (t : Table κ ν) : List ν := t.entries.map Prod.snd

variable [DecidableEq κ]

/-- The value of a key. -/
def get? (t : Table κ ν) (key : κ) : Option ν :=
  (t.entries.find? fun e => e.1 = key).map Prod.snd

def contains (t : Table κ ν) (key : κ) : Bool := (t.get? key).isSome

/-- The entries with a value under a key: in place of the old one, or else at the end. -/
def put (key : κ) (value : ν) : List (κ × ν) → List (κ × ν)
  | [] => [(key, value)]
  | e :: rest => if e.1 = key then (key, value) :: rest else e :: put key value rest

theorem mem_keys_put {key k : κ} {value : ν} {entries : List (κ × ν)} :
    k ∈ (put key value entries).map Prod.fst ↔ k = key ∨ k ∈ entries.map Prod.fst := by
  induction entries with
  | nil => simp [put]
  | cons e rest ih =>
      by_cases h : e.1 = key
      · simp [put, h]
      · simp only [put, h, if_false, List.map_cons, List.mem_cons, ih]
        constructor
        · rintro (h | h | h) <;> simp [h]
        · rintro (h | h | h) <;> simp [h]

theorem nodup_put {key : κ} {value : ν} {entries : List (κ × ν)}
    (h : (entries.map Prod.fst).Nodup) : ((put key value entries).map Prod.fst).Nodup := by
  induction entries with
  | nil => simp [put]
  | cons e rest ih =>
      rw [List.map_cons, List.nodup_cons] at h
      by_cases hk : e.1 = key
      · rw [put, if_pos hk, List.map_cons, List.nodup_cons, ← hk]
        exact h
      · simp only [put, hk, if_false, List.map_cons, List.nodup_cons]
        refine ⟨fun hm => ?_, ih h.2⟩
        rcases mem_keys_put.1 hm with hm | hm
        · exact hk hm
        · exact h.1 hm

/-- Puts a value under a key. -/
def insert (t : Table κ ν) (key : κ) (value : ν) : Table κ ν :=
  ⟨put key value t.entries, nodup_put t.nodup⟩

/-- Takes a key away. -/
def erase (t : Table κ ν) (key : κ) : Table κ ν :=
  ⟨t.entries.filter fun e => e.1 ≠ key,
    List.Nodup.sublist ((List.filter_sublist).map Prod.fst) t.nodup⟩

/-- The table of a list of entries, where a later entry replaces an earlier one. -/
def ofList (entries : List (κ × ν)) : Table κ ν :=
  entries.foldl (fun t e => t.insert e.1 e.2) empty

/-! ### The view -/

@[simp] theorem get?_empty (key : κ) : (empty : Table κ ν).get? key = none := rfl

theorem find?_put (key k : κ) (value : ν) (entries : List (κ × ν)) :
    ((put key value entries).find? fun e => e.1 = k).map Prod.snd =
      if key = k then some value else (entries.find? fun e => e.1 = k).map Prod.snd := by
  induction entries with
  | nil => by_cases h : key = k <;> simp [put, h]
  | cons e rest ih =>
      by_cases h : e.1 = key
      · by_cases hk : key = k <;> simp [put, h, hk]
      · by_cases hk : e.1 = k
        · have : key ≠ k := fun x => h (hk.trans x.symm)
          rw [put, if_neg h, List.find?_cons_of_pos (by simpa using hk),
            List.find?_cons_of_pos (by simpa using hk), if_neg this]
        · rw [put, if_neg h, List.find?_cons_of_neg (by simpa using hk),
            List.find?_cons_of_neg (by simpa using hk)]
          exact ih

@[simp] theorem get?_insert (t : Table κ ν) (key k : κ) (value : ν) :
    (t.insert key value).get? k = if key = k then some value else t.get? k :=
  find?_put key k value t.entries

@[simp] theorem get?_erase (t : Table κ ν) (key k : κ) :
    (t.erase key).get? k = if key = k then none else t.get? k := by
  simp only [get?, erase, List.find?_filter]
  by_cases h : key = k
  · subst h
    simp
  · simp only [h, if_false]
    congr 2
    funext e
    by_cases hk : e.1 = k
    · have : k ≠ key := fun x => h x.symm
      simp [hk, this]
    · simp [hk]

end Table
end TrafficRules
