import TrafficRules.Document.Rule
import TrafficRules.Proofs.Json.Integral
import TrafficRules.Proofs.Json.Values
import TrafficRules.Proofs.RowId

/-! # Rules written and read

A rule that is written as JSON is read as the same rule, without the numbers that its patterns have
in a corpus (`Rule.ofJson?_json`). All records are read and written alike: a record with the fields of
a list of members is read from what is written with them (`Json.fields?_ofMembers`). -/

namespace TrafficRules

open Document (Fields)

/-! ### Members by key -/

section Lookup

variable {β : Type}

theorem lookup_cons_if (key k : String) (value : β) (rest : List (String × β)) :
    List.lookup key ((k, value) :: rest) = if key = k then some value else rest.lookup key := by
  rw [List.lookup_cons]
  by_cases h : key = k
  · rw [if_pos h, beq_iff_eq.mpr h]
  · rw [if_neg h, beq_eq_false_iff_ne.mpr h]

theorem lookup_eq_none {key : String} {ms : List (String × β)} (h : key ∉ ms.map Prod.fst) :
    ms.lookup key = none := by
  induction ms with
  | nil => rfl
  | cons m rest ih =>
      rw [List.map_cons, List.mem_cons, not_or] at h
      rw [lookup_cons_if, if_neg h.1, ih h.2]

end Lookup

namespace Json

theorem lookup_insertMember (key k : String) (value : Json) (members : List (String × Json)) :
    (insertMember key value members).lookup k =
      if k = key then some value else members.lookup k := by
  induction members with
  | nil => rw [insertMember, lookup_cons_if]
  | cons m rest ih =>
      obtain ⟨l, v⟩ := m
      rw [insertMember]
      by_cases hlt : key < l
      · rw [if_pos hlt, lookup_cons_if]
      · rw [if_neg hlt]
        by_cases heq : key = l
        · rw [if_pos heq, lookup_cons_if, lookup_cons_if, heq]
          split_ifs <;> rfl
        · rw [if_neg heq, lookup_cons_if, ih, lookup_cons_if]
          by_cases hk : k = key
          · rw [if_pos hk, if_pos hk, if_neg (hk ▸ heq)]
          · rw [if_neg hk, if_neg hk]

/-- The fields of a record are those members that it knows. -/
theorem lookup_known? {names : List String} {key : String} (hkey : key ∈ names) :
    ∀ {ms : List (String × Json)} {fields : Fields},
      Source.known? names (documentMembers ms) = some fields →
        fields.lookup key = (ms.lookup key).map document
  | [], _, h => by
      cases h
      rfl
  | (k, x) :: ms, _, h => by
      rw [documentMembers, Source.known?] at h
      obtain ⟨_, hk, h⟩ := Option.bind_eq_some_iff.mp h
      obtain ⟨rest, hrest, h⟩ := Option.bind_eq_some_iff.mp h
      cases hk
      have ih := lookup_known? hkey hrest
      rw [lookup_cons_if]
      by_cases hunknown : k ∉ names
      · rw [if_pos hunknown] at h
        cases h
        rw [ih, if_neg]
        rintro rfl
        exact hunknown hkey
      · rw [if_neg hunknown] at h
        split at h
        · cases h
        · cases h
          rw [lookup_cons_if, ih]
          split_ifs <;> rfl

/-- Members in order are the fields of a record. -/
theorem known?_of_ascending (names : List String) : ∀ {ms : List (String × Json)}, Ascending ms →
    ∃ fields, Source.known? names (documentMembers ms) = some fields
  | [], _ => ⟨[], rfl⟩
  | (k, x) :: ms, h => by
      obtain ⟨hk, hms⟩ := List.pairwise_cons.mp h
      obtain ⟨rest, hrest⟩ := known?_of_ascending names hms
      rw [documentMembers, Source.known?]
      simp only [Option.bind_eq_bind, Option.bind_some, hrest]
      by_cases hknown : k ∉ names
      · exact ⟨rest, if_pos hknown⟩
      · have hfree : k ∉ ms.map Prod.fst := fun hm => String.lt_irrefl k (hk k hm)
        refine ⟨(k, x.document) :: rest, ?_⟩
        rw [if_neg hknown, lookup_known? (not_not.mp hknown) hrest, lookup_eq_none hfree]
        rfl

theorem ascending_foldl (ms : List (String × Json)) : ∀ {done : List (String × Json)},
    Ascending done → Ascending (ms.foldl (fun done (k, v) => insertMember k v done) done) := by
  induction ms with
  | nil => exact fun h => h
  | cons m rest ih => exact fun h => ih (h.insertMember m.1 m.2)

theorem lookup_foldl (key : String) : ∀ {ms : List (String × Json)} (done : List (String × Json)),
    (ms.map Prod.fst).Nodup →
      (ms.foldl (fun done (k, v) => insertMember k v done) done).lookup key =
        (ms.lookup key).or (done.lookup key)
  | [], _, _ => rfl
  | (k, x) :: ms, done, h => by
      obtain ⟨hk, hms⟩ := List.nodup_cons.mp h
      rw [List.foldl_cons, lookup_foldl key _ hms, lookup_insertMember, lookup_cons_if]
      by_cases he : key = k
      · rw [he, lookup_eq_none hk, if_pos rfl, if_pos rfl]
        rfl
      · rw [if_neg he, if_neg he]

theorem member?_ofMembers {names : List String} {members : List (String × Json)}
    (hkeys : members.map Prod.fst = names) (hn : names.Nodup) (key : String) :
    (ofMembers members).member? key = members.lookup key := by
  rw [ofMembers, member?, lookup_foldl key _ (hkeys ▸ hn)]
  exact Option.or_none

/-- What is written with the fields of a record is read as a record with these fields. -/
theorem fields?_ofMembers {names : List String} {members : List (String × Json)}
    (hkeys : members.map Prod.fst = names) (hn : names.Nodup) :
    ∃ fields, Source.json.fields? names (ofMembers members).document = some fields ∧
      ∀ m ∈ members, fields.lookup m.1 = some m.2.document := by
  obtain ⟨fields, hf⟩ := known?_of_ascending names (ascending_foldl members ascending_nil)
  refine ⟨fields, hf, fun m hm => ?_⟩
  have hkey : m.1 ∈ names := by
    rw [← hkeys]
    exact List.mem_map_of_mem hm
  have hmember := member?_ofMembers hkeys hn m.1
  rw [ofMembers, member?] at hmember
  rw [lookup_known? hkey hf, hmember]
  have hlookup : members.lookup m.1 = some m.2 := by
    subst hkeys
    clear hf hkey hmember
    induction members with
    | nil => cases hm
    | cons n rest ih =>
        obtain ⟨k, x⟩ := n
        obtain ⟨hk, hrest⟩ := List.nodup_cons.mp hn
        rw [lookup_cons_if]
        rcases List.mem_cons.mp hm with rfl | hm
        · exact if_pos rfl
        · rw [if_neg, ih hm hrest]
          intro he
          rw [← he] at hk
          exact hk (List.mem_map.mpr ⟨m, hm, rfl⟩)
  rw [hlookup]
  rfl

end Json

/-! ### Values -/

theorem Document.Fields.required_of_lookup {α : Type} {fields : Fields} {name : String}
    {x : Document.Node} (h : fields.lookup name = some x) (read : Document.Node → Option α) :
    fields.required name read = read x := by
  rw [Fields.required, h, Option.bind_some]

theorem Document.Fields.optional_of_lookup {α : Type} {fields : Fields} {name : String}
    {x : Document.Node} (h : fields.lookup name = some x) (read : Document.Node → Option α)
    (fallback : α) : fields.optional name read fallback = read x := by
  rw [Fields.optional, h]

section Scalars

open Document.Fields

theorem text?_string (s : String) : Source.json.text? (Json.string s).document = some s := rfl

theorem bool?_bool (b : Bool) : Source.json.bool? (Json.bool b).document = some b := rfl

theorem natural?_integer {bound n : Nat} (h : n < bound) :
    Source.json.natural? bound (Json.integer n).document = some n := by
  show (if n < bound then some n else none) = some n
  exact if_pos h

theorem uint16?_integer (n : UInt16) :
    Source.json.uint16? (Json.integer n.toNat).document = some n := by
  rw [Source.uint16?, natural?_integer n.toNat_lt, Option.map_some, UInt16.ofNat_toNat]

theorem uint32?_integer (n : UInt32) :
    Source.json.uint32? (Json.integer n.toNat).document = some n := by
  rw [Source.uint32?, natural?_integer n.toNat_lt, Option.map_some, UInt32.ofNat_toNat]

theorem uint64?_integer (n : UInt64) :
    Source.json.uint64? (Json.integer n.toNat).document = some n := by
  rw [Source.uint64?, natural?_integer n.toNat_lt, Option.map_some, UInt64.ofNat_toNat]

theorem int64?_integer (n : Int64) : Source.json.int64? (Json.integer n.toInt).document = some n := by
  show (if Int64.minValue.toInt ≤ n.toInt ∧ n.toInt ≤ Int64.maxValue.toInt then
    some (Int64.ofInt n.toInt) else none) = some n
  rw [if_pos ⟨n.minValue_le_toInt, n.toInt_le⟩, Int64.ofInt_toInt]

theorem RowId.ofNode?_json (id : RowId) : RowId.ofNode? .json id.json.document = some id := by
  rw [RowId.ofNode?, RowId.json, text?_string, Option.bind_some, RowId.ofText?_text]

theorem Direction.ofNode?_json (d : Direction) :
    Direction.ofNode? .json d.json.document = some d := by
  cases d <;> rfl

theorem Flags.ofNode?_json (f : Flags) : Flags.ofNode? .json f.json.document = some f := by
  obtain ⟨fields, hf, hlookup⟩ := @Json.fields?_ofMembers fieldNames [
    ("caseless", .bool f.caseless), ("dot_all", .bool f.dotAll), ("multi_line", .bool f.multiLine),
    ("single_match", .bool f.singleMatch), ("utf_8_mode", .bool f.utf8),
    ("unicode_property", .bool f.unicodeProperty)] rfl (by decide)
  simp only [List.forall_mem_cons] at hlookup
  obtain ⟨h₁, h₂, h₃, h₄, h₅, h₆, _⟩ := hlookup
  rw [Flags.ofNode?, Flags.json, hf]
  simp only [Option.bind_eq_bind, Option.bind_some, optional_of_lookup h₁, optional_of_lookup h₂,
    optional_of_lookup h₃, optional_of_lookup h₄, optional_of_lookup h₅, optional_of_lookup h₆,
    bool?_bool]
  rfl

theorem Filter.ofNode?_json (f : Filter) : Filter.ofNode? .json f.json.document = some f := by
  obtain ⟨fields, hf, hlookup⟩ := @Json.fields?_ofMembers fieldNames [
    ("service_port", .integer f.servicePort.toNat), ("client_address", .string f.clientAddress),
    ("client_port", .integer f.clientPort.toNat), ("min_duration", .integer f.minDuration.toNat),
    ("max_duration", .integer f.maxDuration.toNat), ("min_bytes", .integer f.minBytes.toNat),
    ("max_bytes", .integer f.maxBytes.toNat)] rfl (by decide)
  simp only [List.forall_mem_cons] at hlookup
  obtain ⟨h₁, h₂, h₃, h₄, h₅, h₆, h₇, _⟩ := hlookup
  rw [Filter.ofNode?, Filter.json, hf]
  simp only [Option.bind_eq_bind, Option.bind_some, optional_of_lookup h₁, optional_of_lookup h₂,
    optional_of_lookup h₃, optional_of_lookup h₄, optional_of_lookup h₅, optional_of_lookup h₆,
    optional_of_lookup h₇, uint16?_integer, text?_string, uint64?_integer]
  rfl

/-- The pattern without its number in a corpus. -/
def Pattern.unnumbered (p : Pattern) : Pattern := { p with corpusId := none }

/-- The rule without the numbers that its patterns have in a corpus. -/
def Rule.unnumbered (r : Rule) : Rule := { r with patterns := r.patterns.map Pattern.unnumbered }

theorem Rule.unnumbered_unnumbered (r : Rule) : r.unnumbered.unnumbered = r.unnumbered := by
  rw [Rule.unnumbered, Rule.unnumbered, List.map_map]
  rfl

theorem Pattern.ofNode?_json (p : Pattern) :
    Pattern.ofNode? .json p.json.document = some p.unnumbered := by
  obtain ⟨fields, hf, hlookup⟩ := @Json.fields?_ofMembers fieldNames [
    ("regex", .string p.regex), ("flags", p.flags.json),
    ("min_occurrences", .integer p.minOccurrences.toNat),
    ("max_occurrences", .integer p.maxOccurrences.toNat), ("direction", p.direction.json)]
    rfl (by decide)
  simp only [List.forall_mem_cons] at hlookup
  obtain ⟨h₁, h₂, h₃, h₄, h₅, _⟩ := hlookup
  rw [Pattern.ofNode?, Pattern.json, hf]
  simp only [Option.bind_eq_bind, Option.bind_some, required_of_lookup h₁, optional_of_lookup h₂,
    optional_of_lookup h₃, optional_of_lookup h₄, optional_of_lookup h₅, text?_string,
    uint32?_integer, Flags.ofNode?_json, Direction.ofNode?_json]
  rfl

theorem sequence?_patterns (ps : List Pattern) :
    Source.json.sequence? (Pattern.ofNode? .json) (Json.array (ps.map Pattern.json)).document =
      some (ps.map Pattern.unnumbered) := by
  show (Json.documents (ps.map Pattern.json)).mapM (Pattern.ofNode? .json) = _
  induction ps with
  | nil => rfl
  | cons p rest ih =>
      rw [List.map_cons, Json.documents, List.mapM_cons, Pattern.ofNode?_json, ih]
      rfl

/-- **Writing and reading**: a rule is read as it was written, without the numbers of its
patterns. -/
theorem Rule.ofJson?_json (r : Rule) : Rule.ofJson? r.json = some r.unnumbered := by
  obtain ⟨fields, hf, hlookup⟩ := @Json.fields?_ofMembers fieldNames [
    ("id", r.id.json), ("name", .string r.name), ("color", .string r.color),
    ("notes", .string r.notes), ("enabled", .bool r.enabled),
    ("patterns", .array (r.patterns.map Pattern.json)), ("filter", r.filter.json),
    ("version", .integer r.version.toInt)] rfl (by decide)
  simp only [List.forall_mem_cons] at hlookup
  obtain ⟨h₁, h₂, h₃, h₄, h₅, h₆, h₇, h₈, _⟩ := hlookup
  rw [Rule.ofJson?, Rule.ofNode?, Rule.json, hf]
  simp only [Option.bind_eq_bind, Option.bind_some, required_of_lookup h₁, required_of_lookup h₂,
    required_of_lookup h₃, optional_of_lookup h₄, optional_of_lookup h₅, optional_of_lookup h₆,
    optional_of_lookup h₇, optional_of_lookup h₈, text?_string, bool?_bool, int64?_integer,
    RowId.ofNode?_json, Filter.ofNode?_json, sequence?_patterns]
  rfl

/-- The draft without the numbers that its patterns have in a corpus. -/
def Draft.unnumbered (d : Draft) : Draft := { d with patterns := d.patterns.map Pattern.unnumbered }

theorem Draft.ofNode?_json (d : Draft) : Draft.ofNode? .json d.json.document = some d.unnumbered := by
  obtain ⟨fields, hf, hlookup⟩ := @Json.fields?_ofMembers fieldNames [
    ("name", .string d.name), ("color", .string d.color), ("notes", .string d.notes),
    ("patterns", .array (d.patterns.map Pattern.json)), ("filter", d.filter.json)] rfl (by decide)
  simp only [List.forall_mem_cons] at hlookup
  obtain ⟨h₁, h₂, h₃, h₄, h₅, _⟩ := hlookup
  rw [Draft.ofNode?, Draft.json, hf]
  simp only [Option.bind_eq_bind, Option.bind_some, required_of_lookup h₁, required_of_lookup h₂,
    optional_of_lookup h₃, optional_of_lookup h₄, optional_of_lookup h₅, text?_string,
    Filter.ofNode?_json, sequence?_patterns]
  rfl

theorem Update.ofNode?_json (u : Update) : Update.ofNode? .json u.json.document = some u := by
  obtain ⟨fields, hf, hlookup⟩ := @Json.fields?_ofMembers fieldNames [
    ("name", .string u.name), ("color", .string u.color), ("version", .integer u.version.toInt)]
    rfl (by decide)
  simp only [List.forall_mem_cons] at hlookup
  obtain ⟨h₁, h₂, h₃, _⟩ := hlookup
  rw [Update.ofNode?, Update.json, hf]
  simp only [Option.bind_eq_bind, Option.bind_some, required_of_lookup h₁, required_of_lookup h₂,
    required_of_lookup h₃, text?_string, int64?_integer]
  rfl

/-- A rule has the identifier that its record says. -/
theorem Rule.id_of_ofNode? {src : Source} {x : Document.Node} {r : Rule}
    (h : Rule.ofNode? src x = some r) : ∃ fields, src.fields? fieldNames x = some fields ∧
      fields.required "id" (RowId.ofNode? src) = some r.id := by
  obtain ⟨fields, hf, h⟩ := Option.bind_eq_some_iff.mp h
  obtain ⟨id, hid, h⟩ := Option.bind_eq_some_iff.mp h
  obtain ⟨_, _, h⟩ := Option.bind_eq_some_iff.mp h
  obtain ⟨_, _, h⟩ := Option.bind_eq_some_iff.mp h
  obtain ⟨_, _, h⟩ := Option.bind_eq_some_iff.mp h
  obtain ⟨_, _, h⟩ := Option.bind_eq_some_iff.mp h
  obtain ⟨_, _, h⟩ := Option.bind_eq_some_iff.mp h
  obtain ⟨_, _, h⟩ := Option.bind_eq_some_iff.mp h
  obtain ⟨_, _, h⟩ := Option.bind_eq_some_iff.mp h
  cases h
  exact ⟨fields, hf, hid⟩

theorem Pattern.unnumbered_of_ofNode? {src : Source} {x : Document.Node} {p : Pattern}
    (h : Pattern.ofNode? src x = some p) : p.unnumbered = p := by
  obtain ⟨_, _, h⟩ := Option.bind_eq_some_iff.mp h
  obtain ⟨_, _, h⟩ := Option.bind_eq_some_iff.mp h
  obtain ⟨_, _, h⟩ := Option.bind_eq_some_iff.mp h
  obtain ⟨_, _, h⟩ := Option.bind_eq_some_iff.mp h
  obtain ⟨_, _, h⟩ := Option.bind_eq_some_iff.mp h
  obtain ⟨_, _, h⟩ := Option.bind_eq_some_iff.mp h
  cases h
  rfl

theorem unnumbered_of_mapM {src : Source} {items : List Document.Node} {ps : List Pattern}
    (h : items.mapM (Pattern.ofNode? src) = some ps) : ps.map Pattern.unnumbered = ps := by
  induction items generalizing ps with
  | nil =>
      cases h
      rfl
  | cons x rest ih =>
      rw [List.mapM_cons] at h
      obtain ⟨p, hp, h⟩ := Option.bind_eq_some_iff.mp h
      obtain ⟨qs, hqs, h⟩ := Option.bind_eq_some_iff.mp h
      cases h
      rw [List.map_cons, Pattern.unnumbered_of_ofNode? hp, ih hqs]

/-- A rule is read without numbers. -/
theorem Rule.unnumbered_of_ofNode? {src : Source} {x : Document.Node} {r : Rule}
    (h : Rule.ofNode? src x = some r) : r.unnumbered = r := by
  obtain ⟨fields, _, h⟩ := Option.bind_eq_some_iff.mp h
  obtain ⟨_, _, h⟩ := Option.bind_eq_some_iff.mp h
  obtain ⟨_, _, h⟩ := Option.bind_eq_some_iff.mp h
  obtain ⟨_, _, h⟩ := Option.bind_eq_some_iff.mp h
  obtain ⟨_, _, h⟩ := Option.bind_eq_some_iff.mp h
  obtain ⟨_, _, h⟩ := Option.bind_eq_some_iff.mp h
  obtain ⟨ps, hps, h⟩ := Option.bind_eq_some_iff.mp h
  obtain ⟨_, _, h⟩ := Option.bind_eq_some_iff.mp h
  obtain ⟨_, _, h⟩ := Option.bind_eq_some_iff.mp h
  cases h
  have hpatterns : ps.map Pattern.unnumbered = ps := by
    unfold Document.Fields.optional at hps
    split at hps
    · cases hps
      rfl
    · unfold Source.sequence? at hps
      split at hps
      · exact unnumbered_of_mapM hps
      · split_ifs at hps
        cases hps
        rfl
      · cases hps
  rw [Rule.unnumbered, hpatterns]

end Scalars

/-! ### Values of rules -/

open Json (InRange Valid)

theorem inRange_natCast {n : Nat} (h : n < UInt64.size) : InRange n := by
  have hsize : UInt64.size = 0x10000000000000000 := rfl
  unfold InRange
  omega

theorem Flags.valid_json (f : Flags) (depth : Nat) : Valid (depth + 1) f.json := by
  refine Json.valid_ofMembers ?_
  simp only [List.forall_mem_cons]
  exact ⟨trivial, trivial, trivial, trivial, trivial, trivial, by simp⟩

theorem Filter.valid_json (f : Filter) (depth : Nat) : Valid (depth + 1) f.json := by
  have h16 : ∀ n : UInt16, InRange n.toNat :=
    fun n => inRange_natCast (n.toNat_lt.trans (by decide))
  have h64 : ∀ n : UInt64, InRange n.toNat := fun n => inRange_natCast n.toNat_lt
  refine Json.valid_ofMembers ?_
  simp only [List.forall_mem_cons]
  exact ⟨h16 _, trivial, h16 _, h64 _, h64 _, h64 _, h64 _, by simp⟩

theorem Pattern.valid_json (p : Pattern) (depth : Nat) : Valid (depth + 2) p.json := by
  have h32 : ∀ n : UInt32, InRange n.toNat :=
    fun n => inRange_natCast (n.toNat_lt.trans (by decide))
  have hdirection : InRange p.direction.toNat := by
    cases p.direction <;> exact inRange_natCast (by decide)
  refine Json.valid_ofMembers ?_
  simp only [List.forall_mem_cons]
  exact ⟨trivial, p.flags.valid_json depth, h32 _, h32 _, hdirection, by simp⟩

theorem inRange_int64 (n : Int64) : InRange n.toInt := by
  have hlow := n.le_toInt
  have hhigh := n.toInt_lt
  unfold InRange
  omega

theorem valid_patterns (ps : List Pattern) (depth : Nat) :
    Valid (depth + 3) (.array (ps.map Pattern.json)) := by
  refine ⟨Nat.succ_ne_zero _, Json.validItems_iff.mpr fun x hx => ?_⟩
  obtain ⟨p, _, rfl⟩ := List.mem_map.mp hx
  exact p.valid_json depth

/-- A rule is written as a value of four levels. -/
theorem Rule.valid_json (r : Rule) (depth : Nat) : Valid (depth + 4) r.json := by
  refine Json.valid_ofMembers ?_
  simp only [List.forall_mem_cons]
  exact ⟨trivial, trivial, trivial, trivial, trivial, valid_patterns r.patterns depth,
    r.filter.valid_json (depth + 2), inRange_int64 r.version, by simp⟩

theorem Draft.valid_json (d : Draft) (depth : Nat) : Valid (depth + 4) d.json := by
  refine Json.valid_ofMembers ?_
  simp only [List.forall_mem_cons]
  exact ⟨trivial, trivial, trivial, valid_patterns d.patterns depth,
    d.filter.valid_json (depth + 2), by simp⟩

theorem Update.valid_json (u : Update) (depth : Nat) : Valid (depth + 1) u.json := by
  refine Json.valid_ofMembers ?_
  simp only [List.forall_mem_cons]
  exact ⟨trivial, trivial, inRange_int64 u.version, by simp⟩

/-! ### Rules without floating-point numbers -/

theorem Flags.integral_json (f : Flags) : f.json.Integral := by
  refine Json.integral_ofMembers ?_
  simp [Json.Integral]

theorem Filter.integral_json (f : Filter) : f.json.Integral := by
  refine Json.integral_ofMembers ?_
  simp [Json.Integral]

theorem Pattern.integral_json (p : Pattern) : p.json.Integral := by
  refine Json.integral_ofMembers ?_
  simp [Json.Integral, p.flags.integral_json, Direction.json]

/-- Nothing that a rule is written with is a floating-point number. -/
theorem Rule.integral_json (r : Rule) : r.json.Integral := by
  have hpatterns : ∀ x ∈ r.patterns.map Pattern.json, x.Integral := by
    intro x hx
    obtain ⟨p, _, rfl⟩ := List.mem_map.mp hx
    exact p.integral_json
  refine Json.integral_ofMembers ?_
  simp only [List.forall_mem_cons]
  exact ⟨trivial, trivial, trivial, trivial, trivial, Json.integralItems_iff.mpr hpatterns,
    r.filter.integral_json, trivial, by simp⟩

end TrafficRules
