import Mathlib.Data.List.Induction
import Mathlib.Data.List.Nodup

/-!
# Searches through lists

What a search finds depends on its first success only, so members that it finds nothing for may be
left out, and so may repetitions.
-/

namespace ConferenceBridge

variable {α β : Type}

/-- Searches that agree on all members of a list find the same. -/
theorem findSome?_congr {search other : α → Option β} {list : List α}
    (h : ∀ item ∈ list, search item = other item) :
    list.findSome? search = list.findSome? other := by
  induction list with
  | nil => rfl
  | cons item rest ih =>
    rw [List.findSome?_cons, List.findSome?_cons, h item List.mem_cons_self,
      ih fun next hnext => h next (List.mem_cons_of_mem _ hnext)]

/-- A search passes over members that it finds nothing for. -/
theorem findSome?_filter_of_skip {search : α → Option β} {keep : α → Bool}
    (h : ∀ item, keep item = false → search item = none) (list : List α) :
    (list.filter keep).findSome? search = list.findSome? search := by
  induction list with
  | nil => rfl
  | cons item rest ih =>
    cases hkeep : keep item with
    | true => rw [List.filter_cons_of_pos hkeep, List.findSome?_cons, List.findSome?_cons, ih]
    | false =>
      rw [List.filter_cons_of_neg (by simp [hkeep]), ih, List.findSome?_cons, h item hkeep]

/-- A search passes over repeated members. -/
theorem findSome?_eraseDups [DecidableEq α] (search : α → Option β) (list : List α) :
    list.eraseDups.findSome? search = list.findSome? search := by
  induction hlength : list.length using Nat.strongRecOn generalizing list with
  | _ length ih =>
    cases list with
    | nil => rfl
    | cons item rest =>
      rw [List.eraseDups_cons, List.findSome?_cons, List.findSome?_cons]
      cases hitem : search item with
      | some found => rfl
      | none =>
        have hshort : (rest.filter fun other => !other == item).length < length := by
          have hfilter := List.length_filter_le (fun other => !other == item) rest
          rw [List.length_cons] at hlength
          omega
        have hskip : ∀ other, (!other == item) = false → search other = none := by
          intro other hother
          have hsame : other = item := by simpa using hother
          rw [hsame, hitem]
        rw [ih _ hshort _ rfl, findSome?_filter_of_skip hskip]

/-- What a further member in front is mapped to comes first. -/
theorem filterMap_cons_toList (search : α → Option β) (item : α) (list : List α) :
    (item :: list).filterMap search = (search item).toList ++ list.filterMap search := by
  rw [List.filterMap_cons]
  cases search item <;> rfl

/-- What a further member is mapped to comes last. -/
theorem filterMap_concat (search : α → Option β) (list : List α) (item : α) :
    (list ++ [item]).filterMap search = list.filterMap search ++ (search item).toList := by
  rw [List.filterMap_append]
  cases hitem : search item <;> simp [hitem]

/-- A further member counts only if it is new. -/
theorem eraseDups_concat [DecidableEq α] (list : List α) (item : α) :
    (list ++ [item]).eraseDups =
      if item ∈ list then list.eraseDups else list.eraseDups ++ [item] := by
  rw [List.eraseDups_append, List.removeAll]
  by_cases hmem : item ∈ list
  · simp [hmem]
  · simp [hmem, List.eraseDups_cons]

/-- No member is repeated among those that are met first. -/
theorem nodup_eraseDups [DecidableEq α] (list : List α) : list.eraseDups.Nodup := by
  induction list using List.reverseRecOn with
  | nil => exact List.nodup_nil
  | append_singleton earlier item ih =>
    rw [eraseDups_concat]
    split
    · exact ih
    · next hnew =>
      rw [← List.concat_eq_append]
      exact ih.concat fun hmem => hnew (List.mem_eraseDups.1 hmem)

/-- A list without repetitions is its own list of first members. -/
theorem eraseDups_of_nodup [DecidableEq α] {list : List α} (h : list.Nodup) :
    list.eraseDups = list := by
  induction list using List.reverseRecOn with
  | nil => rfl
  | append_singleton earlier item ih =>
    rw [← List.concat_eq_append, List.nodup_concat] at h
    rw [eraseDups_concat, if_neg h.1, ih h.2]

/-- Among items of different keys, the only one of a key is the one that is found. -/
theorem filter_eq_singleton [DecidableEq β] {keyOf : α → β} {list : List α}
    (hdistinct : (list.map keyOf).Nodup) {key : β} {item : α}
    (h : list.find? (fun item => keyOf item == key) = some item) :
    list.filter (fun item => keyOf item == key) = [item] := by
  induction list with
  | nil => cases h
  | cons first rest ih =>
    rw [List.map_cons, List.nodup_cons] at hdistinct
    by_cases hkey : keyOf first = key
    · rw [List.find?_cons_of_pos (by simpa using hkey)] at h
      cases h
      have hrest : rest.filter (fun item => keyOf item == key) = [] := by
        refine List.filter_eq_nil_iff.2 fun other hother hsame => hdistinct.1 ?_
        exact List.mem_map.2 ⟨other, hother, by rw [hkey]; simpa using hsame⟩
      rw [List.filter_cons_of_pos (by simpa using hkey), hrest]
    · rw [List.find?_cons_of_neg (by simpa using hkey)] at h
      rw [List.filter_cons_of_neg (by simpa using hkey), ih hdistinct.2 h]

end ConferenceBridge
