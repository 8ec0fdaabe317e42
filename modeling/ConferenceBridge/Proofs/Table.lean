import ConferenceBridge.Proofs.Registry
import ConferenceBridge.Table

/-!
# Tables of lists

A table made from a list has for each key the value that the list has for it last. The entries of a
table make up the table again, in whatever order they are listed.
-/

namespace ConferenceBridge.Table

variable {κ ν : Type} [LE κ] [LT κ] [DecidableLT κ] [DecidableEq κ] [Std.IsLinearOrder κ]
  [Std.LawfulOrderLT κ]

/-- Inserting entries into a table looks at the last of them first. -/
theorem get?_foldl_insert (table : Table κ ν) (entries : List (κ × ν)) (key : κ) :
    (entries.foldl (fun table entry => table.insert entry.1 entry.2) table).get? key =
      (Entries.find? key entries.reverse).or (table.get? key) := by
  induction entries generalizing table with
  | nil => simp
  | cons entry rest ih =>
    rw [List.foldl_cons, ih, get?_insert, List.reverse_cons, Entries.find?_append, Option.or_assoc]
    by_cases h : entry.1 = key <;> simp [Entries.find?_cons, h]

/-- Inserting what a key has already changes nothing. -/
theorem insert_of_get?_eq_some {table : Table κ ν} {key : κ} {value : ν}
    (h : table.get? key = some value) : table.insert key value = table := by
  refine ext_get? fun other => ?_
  rw [get?_insert]
  split
  · next hsame => rw [← hsame, h]
  · rfl

/-- A key has the value that the list has for it last. -/
theorem get?_ofList (entries : List (κ × ν)) (key : κ) :
    (ofList entries).get? key = Entries.find? key entries.reverse := by
  have hempty : (empty : Table κ ν).get? key = none := rfl
  rw [ofList, get?_foldl_insert, hempty, Option.or_none]

omit [DecidableLT κ] [DecidableEq κ] [Std.IsLinearOrder κ] in
/-- The keys of a table are different. -/
theorem nodup_keys (table : Table κ ν) : (table.entries.map Prod.fst).Nodup := by
  refine List.pairwise_map.2 (table.ascending.imp fun hless hsame => ?_)
  rw [hsame] at hless
  exact Std.lt_irrefl hless

omit [LE κ] [DecidableLT κ] [Std.IsLinearOrder κ] [Std.LawfulOrderLT κ] in
/-- A key has a value just if it is one of the keys. -/
theorem mem_keys_iff {table : Table κ ν} {key : κ} :
    key ∈ table.keys ↔ (table.get? key).isSome :=
  Entries.isSome_find?_iff.symm

omit [DecidableLT κ] [DecidableEq κ] in
/-- Tables that have the same keys list them in the same order. -/
theorem keys_eq_of_mem_iff {left right : Table κ ν}
    (h : ∀ key, key ∈ left.keys ↔ key ∈ right.keys) : left.keys = right.keys := by
  have hperm : left.keys.Perm right.keys :=
    (List.perm_ext_iff_of_nodup left.nodup_keys right.nodup_keys).2 h
  refine hperm.eq_of_pairwise (fun a b _ _ hless hgreater => ?_)
    (List.pairwise_map.2 left.ascending) (List.pairwise_map.2 right.ascending)
  exact absurd (Std.lt_trans hless hgreater) Std.lt_irrefl

/-- The entries of a table in any order make up the table. -/
theorem ofList_of_perm {table : Table κ ν} {entries : List (κ × ν)}
    (h : entries.Perm table.entries) : ofList entries = table := by
  refine ext_get? fun key => ?_
  have hreverse : table.entries.Perm entries.reverse := (entries.reverse_perm.trans h).symm
  rw [get?_ofList, get?, Entries.find?_perm hreverse table.nodup_keys]

omit [LE κ] [DecidableLT κ] [DecidableEq κ] [Std.IsLinearOrder κ] [Std.LawfulOrderLT κ] in
/-- The table with each value replaced by what a function makes of it. -/
def mapValues {μ : Type} (f : ν → μ) (table : Table κ ν) : Table κ μ where
  entries := table.entries.map fun entry => (entry.1, f entry.2)
  ascending := List.pairwise_map.2 table.ascending

end ConferenceBridge.Table
