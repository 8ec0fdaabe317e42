import ConferenceBridge.Proofs.Searching
import ConferenceBridge.Registry
import Mathlib.Data.List.Nodup

/-!
# Registries of lists

A registry made from a list has each key in the place where the list has it first, with the value
that the list has for it last, or first if first values are kept. A search through the values may
therefore go through the list itself, as long as it looks at the last value of each key.
-/

namespace ConferenceBridge

variable {κ ν : Type} [DecidableEq κ]

namespace Entries

/-- What is found under a key stands there. -/
theorem mem_of_find? {key : κ} {value : ν} {entries : List (κ × ν)}
    (h : find? key entries = some value) : (key, value) ∈ entries := by
  induction entries with
  | nil => simp at h
  | cons entry rest ih =>
    rw [find?_cons] at h
    split at h
    · next hkey =>
      cases h
      exact hkey ▸ List.mem_cons_self
    · exact List.mem_cons_of_mem _ (ih h)

/-- Just the keys of the entries are found. -/
theorem isSome_find?_iff {key : κ} {entries : List (κ × ν)} :
    (find? key entries).isSome ↔ key ∈ entries.map Prod.fst := by
  rw [Option.isSome_iff_ne_none, Ne, find?_eq_none_iff, not_not]

/-- A key that stands among entries is found. -/
theorem exists_find? {key : κ} {entries : List (κ × ν)} (h : key ∈ entries.map Prod.fst) :
    ∃ value, find? key entries = some value := by
  exact Option.isSome_iff_exists.1 (isSome_find?_iff.2 h)

/-- Among entries of different keys, each one is found under its key. -/
theorem find?_eq_some_iff {key : κ} {value : ν} {entries : List (κ × ν)}
    (hdistinct : (entries.map Prod.fst).Nodup) :
    find? key entries = some value ↔ (key, value) ∈ entries := by
  refine ⟨mem_of_find?, fun hmem => ?_⟩
  have hkey : key ∈ entries.map Prod.fst := List.mem_map.2 ⟨_, hmem, rfl⟩
  obtain ⟨found, hfound⟩ := exists_find? hkey
  have hsame : (key, found) = (key, value) :=
    List.inj_on_of_nodup_map hdistinct (mem_of_find? hfound) hmem rfl
  exact hfound.trans (congrArg (fun entry => some entry.2) hsame)

/-- The order of entries of different keys makes no difference to what is found. -/
theorem find?_perm {left right : List (κ × ν)} (h : left.Perm right)
    (hdistinct : (left.map Prod.fst).Nodup) (key : κ) : find? key left = find? key right := by
  have hright : (right.map Prod.fst).Nodup := (h.map Prod.fst).nodup_iff.1 hdistinct
  refine Option.ext fun value => ?_
  rw [find?_eq_some_iff hdistinct, find?_eq_some_iff hright, h.mem_iff]

/-- Looking a key up passes over entries of other keys, so these may be left out. -/
theorem find?_filter {key : κ} {keep : κ × ν → Bool} {entries : List (κ × ν)}
    (h : ∀ entry ∈ entries, entry.1 = key → keep entry = true) :
    find? key (entries.filter keep) = find? key entries := by
  induction entries with
  | nil => rfl
  | cons entry rest ih =>
    obtain ⟨hentry, hrest⟩ := List.forall_mem_cons.1 h
    cases hkeep : keep entry with
    | true => rw [List.filter_cons_of_pos hkeep, find?_cons, find?_cons, ih hrest]
    | false =>
      have hkey : entry.1 ≠ key := fun hkey => by simp [hentry hkey] at hkeep
      rw [List.filter_cons_of_neg (by simp [hkeep]), ih hrest, find?_cons, if_neg hkey]

/-- Looking a key up among mapped items is looking for the first item of the key. -/
theorem find?_map {α : Type} (keyOf : α → κ) (valueOf : α → ν) (list : List α) (key : κ) :
    find? key (list.map fun item => (keyOf item, valueOf item)) =
      (list.find? fun item => keyOf item == key).map valueOf := by
  induction list with
  | nil => rfl
  | cons item rest ih =>
    rw [List.map_cons, find?_cons, ih]
    by_cases hkey : keyOf item = key <;> simp [hkey]

end Entries

namespace Registry

/-- An entry is what is registered under its key. -/
theorem mem_entries_iff (registry : Registry κ ν) {key : κ} {value : ν} :
    (key, value) ∈ registry.entries ↔ registry.get? key = some value :=
  (Entries.find?_eq_some_iff registry.distinct).symm

/-- Values that know their keys are listed in the order of the keys. -/
theorem map_values {registry : Registry κ ν} {keyOf : ν → κ}
    (h : ∀ key value, registry.get? key = some value → keyOf value = key) :
    registry.values.map keyOf = registry.keys := by
  rw [values, keys, List.map_map]
  exact List.map_congr_left fun entry hentry =>
    h entry.1 entry.2 ((mem_entries_iff registry).1 hentry)

/-- Values that know their keys are found among the values. -/
theorem find?_values {registry : Registry κ ν} {keyOf : ν → κ}
    (h : ∀ key value, registry.get? key = some value → keyOf value = key) (key : κ) :
    registry.values.find? (fun value => keyOf value == key) = registry.get? key := by
  have hentries : ∀ entries : List (κ × ν), (∀ entry ∈ entries, keyOf entry.2 = entry.1) →
      (entries.map Prod.snd).find? (fun value => keyOf value == key) =
        Entries.find? key entries := by
    intro entries
    induction entries with
    | nil => exact fun _ => rfl
    | cons entry rest ih =>
      intro hkeys
      obtain ⟨hentry, hrest⟩ := List.forall_mem_cons.1 hkeys
      rw [Entries.find?_cons, List.map_cons]
      by_cases hkey : entry.1 = key
      · rw [if_pos hkey, List.find?_cons_of_pos (by simp [hentry, hkey])]
      · rw [if_neg hkey, List.find?_cons_of_neg (by simp [hentry, hkey]), ih hrest]
  exact hentries registry.entries fun entry hentry =>
    h entry.1 entry.2 ((mem_entries_iff registry).1 hentry)

/-- A removed key is not registered, and all others stay. -/
theorem get?_erase (registry : Registry κ ν) (key other : κ) :
    (registry.erase key).get? other = if key = other then none else registry.get? other := by
  by_cases h : key = other
  · subst h
    rw [if_pos rfl, get?, Entries.find?_eq_none_iff]
    simp [erase]
  · rw [if_neg h]
    refine Entries.find?_filter fun entry _ hkey => ?_
    simpa [hkey] using Ne.symm h

/-- The other keys stay in their places. -/
theorem keys_erase (registry : Registry κ ν) (key : κ) :
    (registry.erase key).keys = registry.keys.filter fun other => other != key := by
  rw [keys, erase, keys, List.filter_map]
  rfl

/-- Registering entries on top of others looks at the last of them first. -/
theorem get?_foldl_put (registry : Registry κ ν) (entries : List (κ × ν)) (key : κ) :
    (entries.foldl (fun registry entry => registry.put entry.1 entry.2) registry).get? key =
      (Entries.find? key entries.reverse).or (registry.get? key) := by
  induction entries generalizing registry with
  | nil => simp
  | cons entry rest ih =>
    rw [List.foldl_cons, ih, get?_put, List.reverse_cons, Entries.find?_append, Option.or_assoc]
    by_cases h : entry.1 = key <;> simp [Entries.find?_cons, h]

/-- A key has the value that the list has for it last. -/
theorem get?_ofList (entries : List (κ × ν)) (key : κ) :
    (ofList entries).get? key = Entries.find? key entries.reverse := by
  rw [ofList, get?_foldl_put, get?_empty, Option.or_none]

/-- Registering entries on top of others, unless their keys are registered, looks at the others
first. -/
theorem get?_foldl_putIfNew (registry : Registry κ ν) (entries : List (κ × ν)) (key : κ) :
    (entries.foldl (fun registry entry => registry.putIfNew entry.1 entry.2) registry).get? key =
      (registry.get? key).or (Entries.find? key entries) := by
  induction entries generalizing registry with
  | nil => simp
  | cons entry rest ih =>
    have hput : (registry.putIfNew entry.1 entry.2).get? key =
        (registry.get? key).or (if entry.1 = key then some entry.2 else none) := by
      unfold putIfNew contains
      cases hfound : registry.get? entry.1 with
      | some kept =>
        by_cases hkey : entry.1 = key
        · rw [hkey] at hfound
          simp [hfound]
        · simp [hkey]
      | none =>
        by_cases hkey : entry.1 = key
        · rw [hkey] at hfound
          simp [get?_put, hkey, hfound]
        · simp [get?_put, hkey]
    rw [List.foldl_cons, ih, hput, Option.or_assoc, Entries.find?_cons]
    by_cases hkey : entry.1 = key <;> simp [hkey]

/-- A key has the first value that the list has for it if first values are kept. -/
theorem get?_ofFirsts (entries : List (κ × ν)) (key : κ) :
    (ofFirsts entries).get? key = Entries.find? key entries := by
  rw [ofFirsts, get?_foldl_putIfNew, get?_empty, Option.none_or]

/-- A registry made from a list has each key in the place where the list has it first. -/
theorem keys_ofList (entries : List (κ × ν)) :
    (ofList entries).keys = (entries.map Prod.fst).eraseDups := by
  induction entries using List.reverseRecOn with
  | nil => rfl
  | append_singleton earlier entry ih =>
    have hput : ofList (earlier ++ [entry]) = (ofList earlier).put entry.1 entry.2 := by
      rw [ofList, List.foldl_append]
      rfl
    rw [hput, keys_put, ih, List.map_append, List.map_singleton, eraseDups_concat]
    simp only [List.mem_eraseDups]

/-- Keeping first values does not change the places of the keys. -/
theorem keys_ofFirsts (entries : List (κ × ν)) :
    (ofFirsts entries).keys = (entries.map Prod.fst).eraseDups := by
  induction entries using List.reverseRecOn with
  | nil => rfl
  | append_singleton earlier entry ih =>
    have hput : ofFirsts (earlier ++ [entry]) = (ofFirsts earlier).putIfNew entry.1 entry.2 := by
      rw [ofFirsts, List.foldl_append]
      rfl
    have hknown : (ofFirsts earlier).contains entry.1 = true ↔
        entry.1 ∈ earlier.map Prod.fst := by
      rw [← List.mem_eraseDups, ← ih]
      exact Entries.isSome_find?_iff
    rw [hput, putIfNew, List.map_append, List.map_singleton, eraseDups_concat]
    by_cases hmem : entry.1 ∈ earlier.map Prod.fst
    · rw [if_pos (hknown.2 hmem), if_pos hmem, ih]
    · rw [if_neg fun hcontains => hmem (hknown.1 hcontains), if_neg hmem, keys_put, ih,
        if_neg fun hkey => hmem (List.mem_eraseDups.1 hkey)]

/-- The entries are the keys, each with what is registered under it. -/
theorem entries_eq_filterMap (registry : Registry κ ν) :
    registry.entries =
      registry.keys.filterMap fun key => (registry.get? key).map fun value => (key, value) := by
  have hself : ∀ entry ∈ registry.entries,
      (registry.get? entry.1).map (fun value => (entry.1, value)) = some entry := by
    intro entry hentry
    rw [(mem_entries_iff registry).1 hentry]
    rfl
  rw [keys, List.filterMap_map]
  exact ((List.filterMap_congr hself).trans List.filterMap_some).symm

/-- The values are what is registered under the keys. -/
theorem values_eq_filterMap (registry : Registry κ ν) :
    registry.values = registry.keys.filterMap registry.get? := by
  rw [values, entries_eq_filterMap, List.map_filterMap]
  refine List.filterMap_congr fun key _ => ?_
  rw [Option.map_map]
  exact Option.map_id'

/-- A search through the keys goes on in the keys that are registered on top. Keys that are
registered already have been searched. -/
theorem findSome?_keys_foldl_put {β : Type} (search : κ → Option β) (registry : Registry κ ν)
    (entries : List (κ × ν)) :
    (entries.foldl (fun registry entry => registry.put entry.1 entry.2)
        registry).keys.findSome? search =
      (registry.keys.findSome? search).or (entries.findSome? fun entry => search entry.1) := by
  induction entries generalizing registry with
  | nil => simp
  | cons entry rest ih =>
    have hput : (registry.put entry.1 entry.2).keys.findSome? search =
        (registry.keys.findSome? search).or (search entry.1) := by
      rw [keys_put]
      split
      · next hmem =>
        cases hfound : registry.keys.findSome? search with
        | some result => simp
        | none => simp [List.findSome?_eq_none_iff.1 hfound _ hmem]
      · rw [List.findSome?_append, List.findSome?_singleton]
    rw [List.foldl_cons, ih, hput, Option.or_assoc, List.findSome?_cons]
    cases search entry.1 <;> simp

/-- A search through the values of a registry made from a list is a search through the list, for the
last value of each key. -/
theorem findSome?_values_ofList {β : Type} (search : ν → Option β) (entries : List (κ × ν)) :
    (ofList entries).values.findSome? search =
      entries.findSome? fun entry => ((ofList entries).get? entry.1).bind search := by
  have hentries : (ofList entries).entries.findSome? (fun entry => search entry.2) =
      (ofList entries).entries.findSome? fun entry =>
        ((ofList entries).get? entry.1).bind search := by
    refine findSome?_congr fun entry hentry => ?_
    rw [(mem_entries_iff _).1 hentry, Option.bind_some]
  calc (ofList entries).values.findSome? search
      = (ofList entries).entries.findSome? fun entry => search entry.2 := by
        rw [values, List.findSome?_map]
        rfl
    _ = (ofList entries).keys.findSome? fun key => ((ofList entries).get? key).bind search := by
        rw [hentries, keys, List.findSome?_map]
        rfl
    _ = entries.findSome? fun entry => ((ofList entries).get? entry.1).bind search := by
        rw [ofList, findSome?_keys_foldl_put]
        rfl

end Registry

end ConferenceBridge
