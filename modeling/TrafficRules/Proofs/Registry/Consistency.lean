import Mathlib.Data.List.Nodup
import Mathlib.Data.List.Perm.Subperm
import TrafficRules.Proofs.Registry.Invariant

/-! # What the check of the index tells

`Registry.isConsistent` compares two sizes and follows the index in one direction, from names to rules.
That is enough, since no name has two entries. The entries that lead to a rule of their name are among
the names of the rules together with the places where these stand (`Registry.namings`), and if there are
as many of those as of these, none is left out (`isConsistent_iff_perm`). Two rules with one name would
need an entry each, and a rule that is not found would need a superfluous entry elsewhere.

So the check is right about rules that stand under their own identifiers (`isConsistent_iff`), and an
indexed registry is one that has such rules and passes the check (`indexed_iff`). -/

namespace TrafficRules.Registry

variable {r t : Registry}

/-- Each rule stands under its own identifier. -/
def Keyed (r : Registry) : Prop := ∀ id rule, r.get? id = some rule → rule.id = id

/-- The name of each rule, and the identifier under which the rule stands. -/
def namings (r : Registry) : List (String × RowId) := r.rules.entries.map fun e => (e.2.name, e.1)

/-! ### Rules under their identifiers -/

theorem keyed_iff : r.Keyed ↔ ∀ e ∈ r.rules.entries, e.2.id = e.1 := by
  constructor
  · rintro h ⟨id, rule⟩ he
    exact h id rule (r.rules.get?_eq_some_iff.mpr he)
  · intro h id rule hrule
    exact h (id, rule) (r.rules.get?_eq_some_iff.mp hrule)

instance : Decidable r.Keyed := decidable_of_iff _ keyed_iff.symm

theorem Keyed.put (h : r.Keyed) {rule : Rule}
    (ht : ∀ id, t.get? id = if rule.id = id then some rule else r.get? id) : t.Keyed := by
  intro id other hother
  rcases get?_put_cases ht hother with ⟨he, rfl⟩ | ⟨_, hother⟩
  · exact he
  · exact h id other hother

theorem Keyed.remove (h : r.Keyed) (id : RowId) : (r.remove id).Keyed :=
  fun key rule hrule => h key rule (get?_remove_cases hrule).2

/-! ### Names and where they lead -/

theorem mem_namings_iff {name : String} {id : RowId} :
    (name, id) ∈ r.namings ↔ ∃ rule, r.get? id = some rule ∧ rule.name = name := by
  simp only [namings, List.mem_map, get?, Table.get?_eq_some_iff]
  constructor
  · rintro ⟨⟨key, rule⟩, hmem, he⟩
    obtain ⟨rfl, rfl⟩ := Prod.mk.inj he
    exact ⟨rule, hmem, rfl⟩
  · rintro ⟨rule, hmem, rfl⟩
    exact ⟨(id, rule), hmem, rfl⟩

theorem length_namings (r : Registry) : r.namings.length = r.rules.size := List.length_map _

theorem nodup_namings (r : Registry) : r.namings.Nodup := by
  refine List.Nodup.of_map Prod.snd ?_
  rw [namings, List.map_map]
  exact r.rules.nodup

theorem nodup_byName (r : Registry) : r.byName.entries.Nodup :=
  List.Nodup.of_map Prod.fst r.byName.nodup

theorem Keyed.namings_perm (h : r.Keyed) :
    r.namings.Perm (r.list.map fun rule => (rule.name, rule.id)) := by
  have hvalues : r.namings = r.rules.values.map fun rule => (rule.name, rule.id) := by
    rw [namings, Table.values, List.map_map]
    refine List.map_congr_left fun e he => ?_
    exact congrArg (Prod.mk e.2.name) (keyed_iff.mp h e he).symm
  rw [hvalues]
  exact (r.list_perm.map _).symm

/-! ### The check -/

theorem isConsistent_iff_perm : r.isConsistent = true ↔ r.byName.entries.Perm r.namings := by
  rw [isConsistent, Bool.and_eq_true, beq_iff_eq, List.all_eq_true]
  constructor
  · rintro ⟨hsize, hleads⟩
    have hsub : r.byName.entries ⊆ r.namings := by
      rintro ⟨name, id⟩ hmem
      have hname := of_decide_eq_true (hleads (name, id) hmem)
      exact mem_namings_iff.mpr (Option.map_eq_some_iff.mp hname)
    -- as many as the rules, and all different: so no rule is left out
    have hlength : r.namings.length ≤ r.byName.entries.length := by
      rw [length_namings]
      exact Nat.le_of_eq hsize.symm
    exact (List.subperm_of_subset r.nodup_byName hsub).perm_of_length_le hlength
  · intro hperm
    refine ⟨hperm.length_eq.trans r.length_namings, ?_⟩
    rintro ⟨name, id⟩ hmem
    obtain ⟨rule, hrule, hname⟩ := mem_namings_iff.mp (hperm.subset hmem)
    exact decide_eq_true (by rw [hrule, Option.map_some, hname])

/-- What the check leaves open is whether the rules stand under their identifiers. -/
theorem indexed_iff : r.Indexed ↔ r.Keyed ∧ r.isConsistent = true := by
  rw [isConsistent_iff_perm]
  constructor
  · intro h
    refine ⟨fun id rule hrule => (h.named hrule).1, ?_⟩
    refine (List.perm_ext_iff_of_nodup r.nodup_byName r.nodup_namings).mpr ?_
    rintro ⟨name, id⟩
    rw [← Table.get?_eq_some_iff, mem_namings_iff]
    constructor
    · exact h.owned
    · rintro ⟨rule, hrule, rfl⟩
      exact (h.named hrule).2
  · rintro ⟨hkeyed, hperm⟩
    constructor
    · intro id rule hrule
      refine ⟨hkeyed id rule hrule, r.byName.get?_eq_some_iff.mpr ?_⟩
      exact hperm.mem_iff.mpr (mem_namings_iff.mpr ⟨rule, hrule, rfl⟩)
    · intro name id hname
      exact mem_namings_iff.mp (hperm.mem_iff.mp (r.byName.get?_eq_some_iff.mp hname))

/-- **The check is exact.** Of rules that stand under their own identifiers, whatever the index is, the
check says that they and the index agree if and only if no two of them have one name and the entries of
the index are one for each rule, from its name to its identifier. -/
theorem isConsistent_iff (h : r.Keyed) :
    r.isConsistent = true ↔
      (r.list.map Rule.name).Nodup ∧
        r.byName.entries.Perm (r.list.map fun rule => (rule.name, rule.id)) := by
  rw [isConsistent_iff_perm]
  constructor
  · intro hperm
    have hlist := hperm.trans h.namings_perm
    have hnames := hlist.map Prod.fst
    rw [List.map_map] at hnames
    exact ⟨hnames.nodup_iff.mp r.byName.nodup, hlist⟩
  · rintro ⟨_, hlist⟩
    exact hlist.trans h.namings_perm.symm

/-- Names that came in another order than the rules; and two rules with one name, while the entries are as
many as the rules and each leads to one. -/
theorem isConsistent_iff_shared_name :
    let one : Rule := { id := ⟨1000, 1⟩, name := "alpha", color := "#abc" }
    let two : Rule := { id := ⟨1000, 2⟩, name := "beta", color := "#abc" }
    let r : Registry := {
      rules := .ofList [(two.id, two), (one.id, one)]
      byName := .ofList [("alpha", one.id), ("beta", two.id)] }
    let s : Registry := { r with rules := r.rules.insert two.id { two with name := "alpha" } }
    (r.Keyed ∧ r.isConsistent = true ∧ (r.list.map Rule.name).Nodup ∧
      r.byName.entries.Perm (r.list.map fun rule => (rule.name, rule.id))) ∧
    s.Keyed ∧ s.isConsistent = false ∧ ¬ ((s.list.map Rule.name).Nodup ∧
      s.byName.entries.Perm (s.list.map fun rule => (rule.name, rule.id))) := by
  refine ⟨⟨by decide +kernel, by decide +kernel, ?_⟩, by decide +kernel, by decide +kernel, ?_⟩
  · exact (isConsistent_iff (by decide +kernel)).mp (by decide +kernel)
  · exact fun h => absurd ((isConsistent_iff (by decide +kernel)).mpr h) (by decide +kernel)

end TrafficRules.Registry
