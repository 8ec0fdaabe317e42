/-!
# Entries under keys

Looking up a key in a list of entries, and the two ways of storing under a key that keep its place:
replacing the value that stands there, and leaving it.
-/

namespace ConferenceBridge.Entries

variable {κ ν : Type} [DecidableEq κ]

/-- The value of the first entry of a key. -/
def find? (key : κ) : List (κ × ν) → Option ν
  | [] => none
  | entry :: rest => if entry.1 = key then some entry.2 else find? key rest

/-- Nothing is found where there are no entries. -/
@[simp] theorem find?_nil (key : κ) : find? key ([] : List (κ × ν)) = none := rfl

/-- The first entry is found under its key, and any other key is looked up among those behind it. -/
theorem find?_cons (key : κ) (entry : κ × ν) (rest : List (κ × ν)) :
    find? key (entry :: rest) = if entry.1 = key then some entry.2 else find? key rest := rfl

/-- A key is looked up in the first list, and in the second one only if it is not found there. -/
theorem find?_append (key : κ) (left right : List (κ × ν)) :
    find? key (left ++ right) = (find? key left).or (find? key right) := by
  induction left with
  | nil => simp
  | cons entry rest ih =>
    simp only [List.cons_append, find?_cons, ih]
    split <;> simp

/-- Nothing is found under a key if and only if no entry has it. -/
theorem find?_eq_none_iff {key : κ} {entries : List (κ × ν)} :
    find? key entries = none ↔ key ∉ entries.map Prod.fst := by
  induction entries with
  | nil => simp
  | cons entry rest ih =>
    by_cases h : entry.1 = key
    · simp [find?_cons, h]
    · simp [find?_cons, h, ih, Ne.symm h]

/-- Replaces the value of the first entry of a key, or adds an entry at the end. -/
def put (key : κ) (value : ν) : List (κ × ν) → List (κ × ν)
  | [] => [(key, value)]
  | entry :: rest => if entry.1 = key then (key, value) :: rest else entry :: put key value rest

/-- Found under the key is the value that was stored, and under any other key what was there
before. -/
theorem find?_put (key other : κ) (value : ν) (entries : List (κ × ν)) :
    find? other (put key value entries) =
      if key = other then some value else find? other entries := by
  induction entries with
  | nil => simp [put, find?_cons]
  | cons entry rest ih =>
    by_cases h : entry.1 = key
    · by_cases ho : key = other <;> simp [put, find?_cons, h, ho]
    · by_cases ho : key = other
      · subst ho
        simp [put, find?_cons, h, ih]
      · simp [put, find?_cons, h, ih, ho]

/-- Storing keeps the keys in their places and adds a new key at the end. -/
theorem keys_put (key : κ) (value : ν) (entries : List (κ × ν)) :
    (put key value entries).map Prod.fst =
      if key ∈ entries.map Prod.fst then entries.map Prod.fst
      else entries.map Prod.fst ++ [key] := by
  induction entries with
  | nil => simp [put]
  | cons entry rest ih =>
    by_cases h : entry.1 = key
    · simp [put, h]
    · simp only [put, h, if_false, List.map_cons, ih, List.mem_cons, Ne.symm h, false_or]
      split <;> simp

end ConferenceBridge.Entries
