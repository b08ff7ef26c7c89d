/-
  PageObjects.Keyed

  Values under keys, in the order in which the keys came in. The lemmas say what
  each operation does to the view `find?`, and where its values come from.
-/

namespace PageObjects

/-- Values under keys. -/
abbrev Keyed (κ α : Type) := List (κ × α)

namespace Keyed

variable {κ α : Type} [DecidableEq κ]

/-- The value under a key. -/
def find? (key : κ) : Keyed κ α → Option α
  | [] => none
  | (other, value) :: rest => if other = key then some value else find? key rest

/-- Puts a value under a key, instead of an earlier one. -/
def put (key : κ) (value : α) : Keyed κ α → Keyed κ α
  | [] => [(key, value)]
  | (other, old) :: rest =>
    if other = key then (key, value) :: rest else (other, old) :: put key value rest

/-- Removes the value under a key. -/
def drop (key : κ) (entries : Keyed κ α) : Keyed κ α :=
  entries.filter fun entry => entry.1 ≠ key

/-- Changes the value under a key, from `default` if there is none. -/
def adjust (key : κ) (default : α) (f : α → α) (entries : Keyed κ α) : Keyed κ α :=
  entries.put key (f ((entries.find? key).getD default))

/-- Whether there is a value under a key. -/
def has (key : κ) (entries : Keyed κ α) : Bool :=
  (entries.find? key).isSome

theorem find?_put_self (key : κ) (value : α) (entries : Keyed κ α) :
    (entries.put key value).find? key = some value := by
  induction entries with
  | nil => simp [put, find?]
  | cons entry rest ih => by_cases h : entry.1 = key <;> simp [put, find?, h, ih]

theorem find?_put_of_ne {key other : κ} (h_ne : key ≠ other) (value : α) (entries : Keyed κ α) :
    (entries.put key value).find? other = entries.find? other := by
  induction entries with
  | nil => simp [put, find?, h_ne]
  | cons entry rest ih =>
    by_cases h : entry.1 = key
    · simp [put, find?, h, h_ne]
    · simp [put, find?, h, ih]

theorem find?_drop_self (key : κ) (entries : Keyed κ α) : (entries.drop key).find? key = none := by
  induction entries with
  | nil => rfl
  | cons entry rest ih =>
    by_cases h : entry.1 = key <;> simp_all [drop, find?]

theorem find?_drop_of_ne {key other : κ} (h_ne : key ≠ other) (entries : Keyed κ α) :
    (entries.drop key).find? other = entries.find? other := by
  induction entries with
  | nil => rfl
  | cons entry rest ih =>
    by_cases h : entry.1 = key <;> simp_all [drop, find?]

theorem find?_append (key : κ) (front back : Keyed κ α) :
    find? key (front ++ back) = (find? key front).or (find? key back) := by
  induction front with
  | nil => rfl
  | cons entry rest ih =>
    rw [List.cons_append, find?, find?]
    split
    · rfl
    · exact ih

theorem mem_of_find? {key : κ} {value : α} {entries : Keyed κ α}
    (h : entries.find? key = some value) : (key, value) ∈ entries := by
  induction entries with
  | nil => cases h
  | cons entry rest ih =>
    rw [find?] at h
    split at h
    · rename_i h_key
      obtain rfl := Option.some.inj h
      exact h_key ▸ List.mem_cons_self
    · exact List.mem_cons_of_mem _ (ih h)

end Keyed

end PageObjects
