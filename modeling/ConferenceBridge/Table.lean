import ConferenceBridge.Entries

/-!
# Tables

A finite map whose entries stand in ascending order of their keys, so that equal look-ups mean equal
tables. Main statements: looking up what was inserted, looking up any other key, and extensionality.
-/

namespace ConferenceBridge

/-- A finite map as a list of entries with ascending keys. -/
@[ext] structure Table (κ ν : Type) [LT κ] where
  /-- The entries in order of their keys. -/
  entries : List (κ × ν)
  /-- Each key is less than all keys after it. -/
  ascending : entries.Pairwise (fun a b => a.1 < b.1)

namespace Table

section Ascending

variable {κ ν : Type} [DecidableEq κ]

/-- Nothing is found under a key that is less than all others. -/
theorem find?_eq_none_of_lt [LT κ] [Std.Irrefl fun a b : κ => a < b] {key : κ}
    {entries : List (κ × ν)} (h : ∀ entry ∈ entries, key < entry.1) :
    Entries.find? key entries = none := by
  refine Entries.find?_eq_none_iff.2 fun hmem => ?_
  obtain ⟨entry, hentry, rfl⟩ := List.mem_map.1 hmem
  exact Std.lt_irrefl (h entry hentry)

/-- Entries with ascending keys are equal if all look-ups are. -/
theorem entries_ext [LE κ] [LT κ] [Std.IsLinearOrder κ] [Std.LawfulOrderLT κ]
    {left right : List (κ × ν)} (hleft : left.Pairwise (fun a b => a.1 < b.1))
    (hright : right.Pairwise (fun a b => a.1 < b.1))
    (h : ∀ key, Entries.find? key left = Entries.find? key right) : left = right := by
  induction left generalizing right with
  | nil =>
    cases right with
    | nil => rfl
    | cons entry rest => simpa [Entries.find?_cons] using h entry.1
  | cons first others ih =>
    rw [List.pairwise_cons] at hleft
    cases right with
    | nil => simpa [Entries.find?_cons] using h first.1
    | cons entry rest =>
      rw [List.pairwise_cons] at hright
      have hkey : first.1 = entry.1 := by
        rcases Std.lt_trichotomy first.1 entry.1 with hlt | heq | hgt
        · have hnone : Entries.find? first.1 (entry :: rest) = none :=
            find?_eq_none_of_lt fun other hother => by
              rcases List.mem_cons.1 hother with rfl | hother
              · exact hlt
              · exact Std.lt_trans hlt (hright.1 other hother)
          simp [← h, Entries.find?_cons] at hnone
        · exact heq
        · have hnone : Entries.find? entry.1 (first :: others) = none :=
            find?_eq_none_of_lt fun other hother => by
              rcases List.mem_cons.1 hother with rfl | hother
              · exact hgt
              · exact Std.lt_trans hgt (hleft.1 other hother)
          simp [h, Entries.find?_cons] at hnone
      have hvalue : first.2 = entry.2 := by
        simpa [Entries.find?_cons, hkey] using h entry.1
      have htails : others = rest := by
        refine ih hleft.2 hright.2 fun key => ?_
        by_cases hk : first.1 = key
        · subst hk
          rw [find?_eq_none_of_lt hleft.1, find?_eq_none_of_lt (hkey ▸ hright.1)]
        · simpa [Entries.find?_cons, hk, hkey ▸ hk] using h key
      rw [Prod.ext hkey hvalue, htails]

/-- The value stored under a key. -/
def get? [LT κ] (table : Table κ ν) (key : κ) : Option ν := Entries.find? key table.entries

/-- Tables with equal look-ups are equal. -/
theorem ext_get? [LE κ] [LT κ] [Std.IsLinearOrder κ] [Std.LawfulOrderLT κ]
    {left right : Table κ ν} (h : ∀ key, left.get? key = right.get? key) : left = right :=
  Table.ext (entries_ext left.ascending right.ascending h)

end Ascending

section Placing

variable {κ ν : Type} [LT κ] [DecidableLT κ] [DecidableEq κ]

/-- Puts an entry into its place, replacing the entry of an equal key. -/
def place (key : κ) (value : ν) : List (κ × ν) → List (κ × ν)
  | [] => [(key, value)]
  | entry :: rest =>
    if key < entry.1 then (key, value) :: entry :: rest
    else if key = entry.1 then (key, value) :: rest
    else entry :: place key value rest

/-- An entry that is there after placing one was placed itself or was there before. -/
theorem mem_place {key : κ} {value : ν} {entry : κ × ν} {entries : List (κ × ν)}
    (h : entry ∈ place key value entries) : entry = (key, value) ∨ entry ∈ entries := by
  induction entries with
  | nil => simpa [place] using h
  | cons first rest ih =>
    rw [place] at h
    split at h
    · simpa using h
    · split at h
      · simp only [List.mem_cons] at h ⊢
        rcases h with h | h
        · exact Or.inl h
        · exact Or.inr (Or.inr h)
      · simp only [List.mem_cons] at h ⊢
        rcases h with h | h
        · exact Or.inr (Or.inl h)
        · rcases ih h with h | h
          · exact Or.inl h
          · exact Or.inr (Or.inr h)

/-- Found under the key is the value that was placed, and under any other key what was there
before. -/
theorem find?_place (key other : κ) (value : ν) (entries : List (κ × ν)) :
    Entries.find? other (place key value entries) =
      if key = other then some value else Entries.find? other entries := by
  induction entries with
  | nil => simp [place, Entries.find?_cons]
  | cons entry rest ih =>
    rw [place]
    by_cases h : key = other
    · subst h
      split
      · simp [Entries.find?_cons]
      · split
        · simp [Entries.find?_cons]
        · next hne => simp [Entries.find?_cons, Ne.symm hne, ih]
    · split
      · simp [Entries.find?_cons, h]
      · split
        · next heq => simp [Entries.find?_cons, ← heq, h]
        · simp [Entries.find?_cons, ih, h]

end Placing

variable {κ ν : Type} [LE κ] [LT κ] [DecidableLT κ] [DecidableEq κ] [Std.IsLinearOrder κ]
  [Std.LawfulOrderLT κ]

/-- Placing an entry keeps the keys ascending. -/
theorem place_ascending (key : κ) (value : ν) {entries : List (κ × ν)}
    (h : entries.Pairwise (fun a b => a.1 < b.1)) :
    (place key value entries).Pairwise (fun a b => a.1 < b.1) := by
  induction entries with
  | nil => simp [place]
  | cons first rest ih =>
    rw [List.pairwise_cons] at h
    rw [place]
    split
    · next hlt =>
      refine List.pairwise_cons.2 ⟨fun entry hentry => ?_, List.pairwise_cons.2 h⟩
      rcases List.mem_cons.1 hentry with rfl | hentry
      · exact hlt
      · exact Std.lt_trans hlt (h.1 entry hentry)
    · next hnlt =>
      split
      · next heq =>
        subst heq
        exact List.pairwise_cons.2 h
      · next hne =>
        refine List.pairwise_cons.2 ⟨fun entry hentry => ?_, ih h.2⟩
        rcases mem_place hentry with rfl | hentry
        · rcases Std.lt_trichotomy first.1 key with hlt | heq | hgt
          · exact hlt
          · exact absurd heq.symm hne
          · exact absurd hgt hnlt
        · exact h.1 entry hentry

/-- The table without entries. -/
def empty : Table κ ν := ⟨[], List.Pairwise.nil⟩

/-- Whether a key has a value. -/
def contains (table : Table κ ν) (key : κ) : Bool := (table.get? key).isSome

/-- Stores a value under a key, replacing the value that stands there. -/
def insert (table : Table κ ν) (key : κ) (value : ν) : Table κ ν :=
  ⟨place key value table.entries, place_ascending key value table.ascending⟩

/-- Stores a value under a key unless the key has one: the first value of a key stays. -/
def insertIfNew (table : Table κ ν) (key : κ) (value : ν) : Table κ ν :=
  if table.contains key then table else table.insert key value

/-- The keys in ascending order. -/
def keys (table : Table κ ν) : List κ := table.entries.map Prod.fst

/-- The values in order of their keys. -/
def values (table : Table κ ν) : List ν := table.entries.map Prod.snd

/-- The table of a list of entries, in which the last entry of a key counts. -/
def ofList (entries : List (κ × ν)) : Table κ ν :=
  entries.foldl (fun table entry => table.insert entry.1 entry.2) empty

/-- Whether there is no entry. -/
def isEmpty (table : Table κ ν) : Bool := table.entries.isEmpty

/-- The key has the value that was stored, and any other key has what it had before. -/
theorem get?_insert (table : Table κ ν) (key other : κ) (value : ν) :
    (table.insert key value).get? other = if key = other then some value else table.get? other :=
  find?_place key other value table.entries

/-- The key has its first value, and any other key has what it had before. -/
theorem get?_insertIfNew (table : Table κ ν) (key other : κ) (value : ν) :
    (table.insertIfNew key value).get? other =
      if key = other then some ((table.get? key).getD value) else table.get? other := by
  unfold insertIfNew contains
  cases h : table.get? key with
  | none => simp [get?_insert]
  | some kept =>
    by_cases ho : key = other
    · subst ho
      simp [h]
    · simp [ho]

instance [DecidableEq ν] : DecidableEq (Table κ ν) := fun a b =>
  if h : a.entries = b.entries then isTrue (Table.ext h)
  else isFalse fun hab => h (hab ▸ rfl)

instance : Inhabited (Table κ ν) := ⟨empty⟩

end Table

end ConferenceBridge
