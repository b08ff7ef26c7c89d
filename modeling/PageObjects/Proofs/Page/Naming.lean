/-
  PageObjects.Proofs.Page.Naming

  Names of group members. A name is made of pieces with a separator before each, the first
  one left out; in a piece the digits of an index stand behind a part that is the same for
  all members. Digits end at the next separator, so that the indices can be read off a name
  from left to right, whatever is in the parts.

    * `indices_eq_of_marked`: names with all separators, by induction on the parts.
    * `name_eq_iff`: the names of a group.
    * `names_apart`: two members of a group have nothing in common in the memory.
-/

import PageObjects.Proofs.Action.Steady
import PageObjects.Proofs.Text.Split

namespace PageObjects

open PageObjects.Action

-- ============================================================================
-- Texts with separators
-- ============================================================================

namespace Text

/-- Texts with a separator before each of them. -/
def marked (sep : Char) (pieces : List (List Char)) : List Char :=
  pieces.flatMap (sep :: ·)

theorem marked_cons (sep : Char) (piece : List Char) (rest : List (List Char)) :
    marked sep (piece :: rest) = sep :: (piece ++ marked sep rest) := by
  rw [marked, List.flatMap_cons]
  rfl

theorem head_marked (sep : Char) (pieces : List (List Char)) :
    ∀ c ∈ (marked sep pieces).head?, c = sep := by
  intro c h_c
  cases pieces with
  | nil => cases h_c
  | cons piece rest =>
    rw [marked_cons] at h_c
    exact (Option.some.inj h_c).symm

/-- The separator before the first text is the only one that a joined text lacks. -/
theorem marked_eq (sep : Char) {pieces : List (List Char)} (h : pieces ≠ []) :
    marked sep pieces = sep :: [sep].intercalate pieces := by
  induction pieces with
  | nil => exact absurd rfl h
  | cons piece rest ih =>
    cases rest with
    | nil => rw [List.intercalate_singleton, marked_cons, marked, List.flatMap_nil, List.append_nil]
    | cons next rest =>
      rw [List.intercalate_cons_cons, marked_cons, ih (List.cons_ne_nil _ _), List.append_assoc]
      rfl

theorem toDigits_injective : Function.Injective (Nat.toDigits 10) :=
  Function.LeftInverse.injective (g := fun digits => Nat.ofDigitChars 10 digits 0) fun _ =>
    Nat.ofDigitChars_ten_toDigits

end Text

-- ============================================================================
-- Names
-- ============================================================================

namespace ElementGroup

/-- The characters of a piece with a number for its index. -/
def pieceChars (part : String) (n : Nat) : List Char :=
  (if part.isEmpty then [] else part.toList ++ ['_']) ++ Nat.toDigits 10 n

theorem toList_piece (part : String) (n : Nat) :
    (piece part (toString n)).toList = pieceChars part n := by
  have h_digits : (toString n).toList = Nat.toDigits 10 n := Nat.toList_repr
  rw [piece, pieceChars]
  split
  · rw [h_digits, List.nil_append]
  · rw [String.toList_append, String.toList_append, h_digits]
    rfl

theorem separator_not_mem_digits (n : Nat) : '_' ∉ Nat.toDigits 10 n := by
  intro h
  have h_digit := Nat.isDigit_of_mem_toDigits (by decide) (by decide) h
  exact absurd h_digit (by decide)

/-- The pieces of the name of a member with numbers for its indices. -/
def pieces (parts : List String) (endPart : Option String) (is : List Nat) : List (List Char) :=
  List.zipWith pieceChars parts is ++ endPart.toList.map String.toList

/-- The indices are read off the pieces, from left to right. -/
theorem indices_eq_of_marked {parts : List String} {endPart : Option String} {is js : List Nat}
    (h_is : is.length = parts.length) (h_js : js.length = parts.length)
    (h : Text.marked '_' (pieces parts endPart is) = Text.marked '_' (pieces parts endPart js)) :
    is = js := by
  induction parts generalizing is js with
  | nil => rw [List.eq_nil_of_length_eq_zero h_is, List.eq_nil_of_length_eq_zero h_js]
  | cons part parts ih =>
    obtain ⟨i, is, rfl⟩ := List.exists_cons_of_length_eq_add_one h_is
    obtain ⟨j, js, rfl⟩ := List.exists_cons_of_length_eq_add_one h_js
    rw [pieces, pieces, List.zipWith_cons_cons, List.zipWith_cons_cons, List.cons_append,
      List.cons_append, Text.marked_cons, Text.marked_cons, pieceChars, pieceChars,
      List.append_assoc, List.append_assoc] at h
    -- the part is the same in both names, and the digits behind it end at the next separator
    have h_tail := List.append_cancel_left (List.cons.inj h).2
    obtain ⟨h_digits, h_rest⟩ := Text.append_inj_of_stop (separator_not_mem_digits i)
      (separator_not_mem_digits j) (Text.head_marked _ _) (Text.head_marked _ _) h_tail
    rw [Text.toDigits_injective h_digits, ih (Nat.succ.inj h_is) (Nat.succ.inj h_js) h_rest]

variable {group : ElementGroup} {is js : List Nat}

/-- There is a name for numbers of the right count, and these are its pieces. -/
theorem name_numbers (h : is.length = group.arity) : ∃ name,
    group.name (is.map toString) = .ok name
      ∧ name.toList = ['_'].intercalate (pieces group.parts group.endPart is) := by
  refine ⟨_, if_pos (by rw [List.length_map, h]), ?_⟩
  rw [String.toList_intercalate, List.map_append, List.zipWith_map_right, List.map_zipWith, pieces]
  simp only [toList_piece]
  rfl

theorem pieces_ne_nil (h : is.length = group.arity) (h_ne : is ≠ []) :
    pieces group.parts group.endPart is ≠ [] := by
  intro h_nil
  have h_length := congrArg List.length h_nil
  have h_pos := List.length_pos_iff.mpr h_ne
  rw [pieces, List.length_append, List.length_zipWith, ← arity, h, Nat.min_self,
    List.length_nil] at h_length
  omega

/-- Different numbers give different names. -/
theorem indices_eq_of_name_eq (h_is : is.length = group.arity) (h_js : js.length = group.arity)
    {name : String} (h_name : group.name (is.map toString) = .ok name)
    (h_same : group.name (js.map toString) = .ok name) : is = js := by
  by_cases h_nil : is = []
  · subst h_nil
    exact (List.eq_nil_of_length_eq_zero (h_js.trans h_is.symm)).symm
  · have h_nil' : js ≠ [] := by
      rintro rfl
      exact h_nil (List.eq_nil_of_length_eq_zero (h_is.trans h_js.symm))
    obtain ⟨a, h_a, h_chars_a⟩ := name_numbers h_is
    obtain ⟨b, h_b, h_chars_b⟩ := name_numbers h_js
    obtain rfl : a = name := Except.ok.inj (h_a.symm.trans h_name)
    obtain rfl : b = a := Except.ok.inj (h_b.symm.trans h_same)
    have h_marked : Text.marked '_' (pieces group.parts group.endPart is)
        = Text.marked '_' (pieces group.parts group.endPart js) := by
      rw [Text.marked_eq _ (pieces_ne_nil h_is h_nil), Text.marked_eq _ (pieces_ne_nil h_js h_nil'),
        ← h_chars_a, ← h_chars_b]
    exact indices_eq_of_marked h_is h_js h_marked

end ElementGroup

-- ============================================================================
-- Members in the memory
-- ============================================================================

/-- What a page remembers under one name: the handles or the table, and the binding. -/
def Memory.at (memory : Memory) (name : String) : Option Cached × Option Binding :=
  (memory.cache.find? name, memory.members.find? name)

variable {W : Type} {context : Context W}

theorem Memory.at_steady (context : Context W) (name : String)
    (value : Option Cached × Option Binding) :
    Steady context fun run => run.memory.at name = value where
  exchange _ _ _ _ h_run := h_run
  pause _ _ h_run := h_run
  newHandle _ h_run := ⟨fun _ => h_run, fun _ _ h_later => h_later⟩

theorem Memory.at_keyFree {key name : String} (h_ne : key ≠ name)
    (value : Option Cached × Option Binding) :
    KeyFree (fun run : Run W => run.memory.at name = value) key := by
  rintro found run rfl
  rw [Memory.at, Keyed.find?_put_of_ne h_ne, Memory.at]

/-- To bind a member changes nothing under another name. -/
theorem Page.memberBinding_at (group : ElementGroup) {key name : String} (h_ne : key ≠ name)
    (value : Option Cached × Option Binding) :
    Keeps context (fun run => run.memory.at name = value) (memberBinding group key) := by
  apply Steady.memberBinding
  rintro binding run rfl
  rw [Memory.at, Keyed.find?_put_of_ne h_ne, Memory.at]

/-- Numbers of the right count name a member, and no other numbers name it: what is done for one
    member of a group leaves what is remembered of every other one. -/
theorem ElementGroup.names_apart (group : ElementGroup) (is js : List Nat)
    (h_is : is.length = group.arity) (h_js : js.length = group.arity) : ∃ a b,
      group.name (is.map toString) = .ok a ∧ group.name (js.map toString) = .ok b
        ∧ (a = b → is = js)
        ∧ (is ≠ js → ∀ (W : Type) (context : Context W) (run : Run W),
          (Page.groupBinding group (is.map toString) context run).2.memory.at b = run.memory.at b
            ∧ (Page.groupMember group (is.map toString) context run).2.memory.at b
              = run.memory.at b) := by
  obtain ⟨a, h_a, -⟩ := name_numbers h_is
  obtain ⟨b, h_b, -⟩ := name_numbers h_js
  have h_inj : a = b → is = js := by
    rintro rfl
    exact indices_eq_of_name_eq h_is h_js h_a h_b
  refine ⟨a, b, h_a, h_b, h_inj, fun h_ne W context run => ?_⟩
  have h_apart : a ≠ b := fun h_same => h_ne (h_inj h_same)
  have h_bound : Keeps context (fun other => other.memory.at b = run.memory.at b)
      (Page.memberBinding group a) := Page.memberBinding_at group h_apart (run.memory.at b)
  have h_steady := Memory.at_steady context b (run.memory.at b)
  refine ⟨?_, ?_⟩
  · rw [Page.groupBinding, h_a, run_bind_ok (run_lift _ _)]
    exact Keeps.iff.mp h_bound run rfl
  · rw [Page.groupMember, h_a, run_bind_ok (run_lift _ _)]
    exact Keeps.iff.mp (.bind h_bound fun binding =>
      h_steady.resolveBinding binding (Memory.at_keyFree h_apart _).slotFree) run rfl

/-- A group with an empty part and a part with digits and separators in it: the names of two members
    differ only in where the separators stand. -/
theorem ElementGroup.names_apart_digits : ∃ a b,
    (⟨["", "1_1"], some "1", .one, none⟩ : ElementGroup).name ([1, 11].map toString) = .ok a
      ∧ (⟨["", "1_1"], some "1", .one, none⟩ : ElementGroup).name ([11, 1].map toString) = .ok b
      ∧ a = "1_1_1_11_1" ∧ b = "11_1_1_1_1" ∧ a ≠ b := by
  obtain ⟨a, b, h_a, h_b, h_apart, -⟩ := ElementGroup.names_apart
    ⟨["", "1_1"], some "1", .one, none⟩ [1, 11] [11, 1] (by decide) (by decide)
  refine ⟨a, b, h_a, h_b, (Except.ok.inj h_a).symm, (Except.ok.inj h_b).symm, fun h_same => ?_⟩
  exact absurd (h_apart h_same) (by decide)

end PageObjects
