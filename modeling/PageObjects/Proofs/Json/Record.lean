/-
  PageObjects.Proofs.Json.Record

  What a record takes from a JSON value. `Gives` says what the value gives for the
  fields, and `HasField` what a field is then worth: what its member spells, or the
  default. The readers of fields are these relations, one lemma for each, and a field
  that is not repeated is worth something exactly if it `HasType`.
-/

import Mathlib.Algebra.Group.Nat.Defs
import Mathlib.Data.List.Basic
import PageObjects.Json.Record

namespace PageObjects

-- ============================================================================
-- Members with known names
-- ============================================================================

section
variable {α : Type} {known : List String} {members : List (String × α)} {name : String} {value : α}

theorem isSome_lookup_iff : (members.lookup name).isSome = true ↔ name ∈ members.map Prod.fst := by
  simp [List.lookup_isSome_iff, List.mem_map]

theorem mem_of_lookup (h : members.lookup name = some value) : (name, value) ∈ members := by
  obtain ⟨before, behind, rfl, -⟩ := List.lookup_eq_some_iff.mp h
  exact List.mem_append_right _ List.mem_cons_self

namespace Fields

/-- No known name is repeated. -/
def Distinct (known : List String) (members : List (String × α)) : Prop :=
  ∀ name ∈ known, (members.map Prod.fst).count name ≤ 1

theorem distinct_cons {rest : List (String × α)} : Distinct known ((name, value) :: rest)
    ↔ (name ∈ known → name ∉ rest.map Prod.fst) ∧ Distinct known rest := by
  constructor
  · intro h
    refine ⟨fun h_known h_mem => ?_, fun other h_other => ?_⟩
    · have h_count := h name h_known
      rw [List.map_cons, List.count_cons_self] at h_count
      have h_pos := List.count_pos_iff.mpr h_mem
      omega
    · exact Nat.le_trans List.count_le_count_cons (h other h_other)
  · rintro ⟨h_head, h_rest⟩ other h_other
    rw [List.map_cons]
    by_cases h_eq : name = other
    · subst h_eq
      have h_count := List.count_eq_zero.mpr (h_head h_other)
      rw [List.count_cons_self]
      omega
    · rw [List.count_cons_of_ne h_eq]
      exact h_rest other h_other

theorem Distinct.of_nodup (h : (members.map Prod.fst).Nodup) : Distinct known members :=
  fun name _ => List.nodup_iff_count.mp h name

/-- Of names that are not repeated, the look-up finds every member. -/
theorem Distinct.lookup (h : Distinct known members) (h_known : name ∈ known)
    (h_mem : (name, value) ∈ members) : members.lookup name = some value := by
  induction members with
  | nil => cases h_mem
  | cons member rest ih =>
    obtain ⟨other, first⟩ := member
    obtain ⟨h_head, h_rest⟩ := distinct_cons.mp h
    rcases List.mem_cons.mp h_mem with h_eq | h_rest_mem
    · obtain ⟨rfl, rfl⟩ := Prod.mk.inj h_eq
      exact List.lookup_cons_self
    · have h_ne : name ≠ other := by
        rintro rfl
        exact h_head h_known (List.mem_map.mpr ⟨_, h_rest_mem, rfl⟩)
      rw [List.lookup_cons, beq_false_of_ne h_ne]
      exact ih h_rest h_rest_mem

/-- The members with a known name. -/
def pick (known : List String) (members : List (String × α)) : Fields α :=
  members.filter fun member => known.contains member.1

theorem pick_cons_of_mem (h : name ∈ known) (value : α) (rest : List (String × α)) :
    pick known ((name, value) :: rest) = (name, value) :: pick known rest :=
  List.filter_cons_of_pos (List.contains_iff_mem.mpr h)

theorem pick_cons_of_not_mem (h : name ∉ known) (value : α) (rest : List (String × α)) :
    pick known ((name, value) :: rest) = pick known rest :=
  List.filter_cons_of_neg (mt List.contains_iff_mem.mp h)

theorem lookup_pick (h : name ∈ known) (members : List (String × α)) :
    (pick known members).lookup name = members.lookup name := by
  induction members with
  | nil => rfl
  | cons member rest ih =>
    obtain ⟨other, value⟩ := member
    by_cases h_other : other ∈ known
    · rw [pick_cons_of_mem h_other, List.lookup_cons, List.lookup_cons, ih]
    · have h_ne : name ≠ other := fun h_eq => h_other (h_eq ▸ h)
      rw [pick_cons_of_not_mem h_other, List.lookup_cons, beq_false_of_ne h_ne, ih]

theorem pick_zip (known : List String) (items : List α) :
    pick known (known.zip items) = known.zip items :=
  List.filter_eq_self.mpr fun _ h_mem => List.contains_iff_mem.mpr (List.of_mem_zip h_mem).1

/-- The fields of an object are its members with a known name, if none of these is repeated. -/
theorem ofMembers?_eq_some_iff {fields : Fields α} :
    ofMembers? known members = some fields
      ↔ Distinct known members ∧ fields = pick known members := by
  induction members generalizing fields with
  | nil =>
    rw [ofMembers?, Option.some.injEq]
    exact ⟨fun h => ⟨fun _ _ => Nat.zero_le _, h.symm⟩, fun h => h.2.symm⟩
  | cons member rest ih =>
    obtain ⟨name, value⟩ := member
    rw [ofMembers?, distinct_cons]
    by_cases h_rest : Distinct known rest
    · rw [ih.mpr ⟨h_rest, rfl⟩]
      show (if _ then _ else _) = _ ↔ _
      by_cases h_known : name ∈ known
      · rw [if_pos (List.contains_iff_mem.mpr h_known), lookup_pick h_known,
          pick_cons_of_mem h_known]
        by_cases h_mem : name ∈ rest.map Prod.fst
        · rw [if_pos (isSome_lookup_iff.mpr h_mem)]
          exact iff_of_false nofun fun h => h.1.1 h_known h_mem
        · rw [if_neg (mt isSome_lookup_iff.mp h_mem), Option.some.injEq]
          exact ⟨fun h => ⟨⟨fun _ => h_mem, h_rest⟩, h.symm⟩, fun h => h.2.symm⟩
      · rw [if_neg (mt List.contains_iff_mem.mp h_known), pick_cons_of_not_mem h_known,
          Option.some.injEq]
        exact ⟨fun h => ⟨⟨fun h_mem => absurd h_mem h_known, h_rest⟩, h.symm⟩, fun h => h.2.symm⟩
    · have h_none : ofMembers? known rest = none :=
        Option.eq_none_iff_forall_ne_some.mpr fun _ h_some => h_rest (ih.mp h_some).1
      rw [h_none]
      exact iff_of_false nofun fun h => h_rest h.1.2

end Fields

end

namespace Json

-- ============================================================================
-- What a value gives
-- ============================================================================

section
variable {known : List String} {json : Json} {given : List (String × Json)}

/-- What a JSON value gives for the fields `known` of a record: the members of an object, where no
    field is repeated, or the items of an array under the names of the fields in their order. -/
inductive Gives (known : List String) : Json → List (String × Json) → Prop
  | object {members : List (String × Json)} (h : Fields.Distinct known members) :
      Gives known (ofMembers members) members
  | array {items : List Json} (h : items.length ≤ known.length) :
      Gives known (.array items) (known.zip items)

theorem Gives.distinct (h : Gives known json given) (h_nodup : known.Nodup) :
    Fields.Distinct known given := by
  cases h with
  | object h => exact h
  | @array items h =>
    have h_names : ((known.zip items).map Prod.fst).Sublist known := by
      rw [List.zip_eq_zip_take_min, List.map_fst_zip (by simp)]
      exact List.take_sublist _ known
    exact .of_nodup (h_nodup.sublist h_names)

theorem gives_object_iff {members : List (Option String × Json)} :
    Gives known (.object members) given
      ↔ Json.object members = ofMembers given ∧ Fields.Distinct known given := by
  constructor
  · intro h
    generalize h_json : Json.object members = json at h
    cases h with
    | object h => exact ⟨rfl, h⟩
    | array _ => cases h_json
  · rintro ⟨h_json, h⟩
    exact h_json ▸ .object h

theorem namedMembers?_eq_some_iff {members : List (Option String × Json)} :
    namedMembers? members = some given ↔ Json.object members = ofMembers given := by
  rw [ofMembers, Json.object.injEq]
  induction members generalizing given with
  | nil =>
    rw [namedMembers?, Option.some.injEq, eq_comm (a := []), eq_comm (a := []), List.map_eq_nil_iff]
  | cons member rest ih =>
    obtain ⟨name | name, value⟩ := member
    · refine iff_of_false nofun fun h => ?_
      cases given with
      | nil => cases h
      | cons first _ => cases congrArg Prod.fst (List.cons.inj h).1
    · show (namedMembers? rest).bind (fun members => some ((name, value) :: members)) = _ ↔ _
      rw [Option.bind_eq_some_iff]
      constructor
      · rintro ⟨members, h_rest, h_given⟩
        rw [← Option.some.inj h_given, List.map_cons, ← ih.mp h_rest]
      · intro h
        cases given with
        | nil => cases h
        | cons first given =>
          obtain ⟨h_first, h_rest⟩ := List.cons.inj h
          obtain ⟨h_name, rfl⟩ := Prod.mk.inj h_first
          obtain rfl := Option.some.inj h_name
          exact ⟨given, ih.mpr h_rest, rfl⟩

/-- A record takes the fields that are known among what the value gives. -/
theorem fields?_eq_some_iff {fields : Fields Json} :
    json.fields? known = some fields
      ↔ ∃ given, Gives known json given ∧ Fields.pick known given = fields := by
  constructor
  · intro h
    cases json with
    | object members =>
      obtain ⟨given, h_named, h_fields⟩ := Option.bind_eq_some_iff.mp h
      obtain ⟨h_distinct, h_pick⟩ := Fields.ofMembers?_eq_some_iff.mp h_fields
      rw [namedMembers?_eq_some_iff.mp h_named]
      exact ⟨given, .object h_distinct, h_pick.symm⟩
    | array items =>
      obtain ⟨h_length, h_fields⟩ := Option.ite_none_right_eq_some.mp h
      exact ⟨_, .array h_length, by rw [Fields.pick_zip, Option.some.inj h_fields]⟩
    | null => cases h
    | bool b => cases h
    | number literal => cases h
    | string text => cases h
  · rintro ⟨given, h_given, rfl⟩
    cases h_given with
    | object h_distinct =>
      exact Option.bind_eq_some_iff.mpr ⟨given, namedMembers?_eq_some_iff.mpr rfl,
        Fields.ofMembers?_eq_some_iff.mpr ⟨h_distinct, rfl⟩⟩
    | array h_length =>
      exact Option.ite_none_right_eq_some.mpr ⟨h_length, by rw [Fields.pick_zip]⟩

end

-- ============================================================================
-- Fields
-- ============================================================================

/-- The value is the text. -/
def SpellsText (json : Json) (text : String) : Prop :=
  json = ofString text

/-- The value is the text, or null if there is none. -/
def SpellsOptionalText (json : Json) (text : Option String) : Prop :=
  json = ofOption ofString text

/-- The value is the truth value. -/
def SpellsTruth (json : Json) (b : Bool) : Prop :=
  json = .bool b

/-- The value is the number, and fits into an unsigned word of 64 bits. -/
def SpellsWord (json : Json) (n : Nat) : Prop :=
  json.natural? = some n ∧ n < 2 ^ 64

section
variable {α : Type} {spells : Json → α → Prop} {given : List (String × Json)} {name : String}
  {default value : α}

/-- What a field is worth: what the member of its name spells, or the default without one. -/
def HasField (spells : Json → α → Prop) (given : List (String × Json)) (name : String)
    (default value : α) : Prop :=
  match given.lookup name with
  | none => value = default
  | some json => spells json value

/-- Every member of the name spells a value. -/
def HasType (spells : Json → α → Prop) (given : List (String × Json)) (name : String) : Prop :=
  ∀ json, (name, json) ∈ given → ∃ value, spells json value

/-- The member of a field that is worth something has its type, if it is not repeated. -/
theorem HasField.hasType {known : List String} (h : HasField spells given name default value)
    (h_distinct : Fields.Distinct known given) (h_known : name ∈ known) :
    HasType spells given name := by
  intro json h_mem
  rw [HasField, h_distinct.lookup h_known h_mem] at h
  exact ⟨value, h⟩

theorem HasType.exists_hasField (h : HasType spells given name) (default : α) :
    ∃ value, HasField spells given name default value := by
  cases h_lookup : given.lookup name with
  | none => exact ⟨default, by rw [HasField, h_lookup]⟩
  | some json =>
    obtain ⟨value, h_value⟩ := h json (mem_of_lookup h_lookup)
    exact ⟨value, by rwa [HasField, h_lookup]⟩

theorem hasField_pick_iff {known : List String} (h_known : name ∈ known) :
    HasField spells (Fields.pick known given) name default value
      ↔ HasField spells given name default value := by
  rw [HasField, HasField, Fields.lookup_pick h_known]

theorem textField?_eq_some_iff {default text : String} :
    textField? given name default = some text ↔ HasField SpellsText given name default text := by
  rw [textField?, HasField]
  cases given.lookup name with
  | none => exact Option.some_inj.trans eq_comm
  | some json =>
    show json.text? = some text ↔ json = ofString text
    cases json <;> simp [text?, ofString]

theorem optionalTextField?_eq_some_iff {text : Option String} :
    optionalTextField? given name = some text
      ↔ HasField SpellsOptionalText given name none text := by
  rw [optionalTextField?, HasField]
  cases given.lookup name with
  | none => exact Option.some_inj.trans eq_comm
  | some json =>
    cases json <;> cases text <;> simp [SpellsOptionalText, text?, ofOption, ofString]

theorem boolField?_eq_some_iff {default b : Bool} :
    boolField? given name default = some b ↔ HasField SpellsTruth given name default b := by
  rw [boolField?, HasField]
  cases given.lookup name with
  | none => exact Option.some_inj.trans eq_comm
  | some json =>
    show json.bool? = some b ↔ json = .bool b
    cases json <;> simp [bool?]

theorem wordField?_eq_some_iff {default n : Nat} :
    wordField? given name default = some n ↔ HasField SpellsWord given name default n := by
  rw [wordField?, HasField]
  cases given.lookup name with
  | none => exact Option.some_inj.trans eq_comm
  | some json =>
    show json.natural?.filter (· < Text.wordSize 64) = some n ↔ json.natural? = some n ∧ n < 2 ^ 64
    rw [Option.filter_eq_some_iff, decide_eq_true_iff]
    exact Iff.rfl

end

end Json

end PageObjects
