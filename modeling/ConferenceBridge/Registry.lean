import ConferenceBridge.Entries

/-!
# Registries

A finite map in order of registration: storing under a key that is registered keeps the key's place,
a new key comes last, and a key that is removed and stored again comes last as well.
-/

namespace ConferenceBridge

/-- A finite map whose entries stand in order of registration. -/
@[ext] structure Registry (κ ν : Type) where
  /-- The entries in order of registration. -/
  entries : List (κ × ν)
  /-- No key is registered twice. -/
  distinct : (entries.map Prod.fst).Nodup

namespace Registry

variable {κ ν : Type} [DecidableEq κ]

/-- The registry without entries. -/
def empty : Registry κ ν := ⟨[], List.nodup_nil⟩

/-- The value registered under a key. -/
def get? (registry : Registry κ ν) (key : κ) : Option ν := Entries.find? key registry.entries

/-- Whether a key is registered. -/
def contains (registry : Registry κ ν) (key : κ) : Bool := (registry.get? key).isSome

/-- The keys in order of registration. -/
def keys (registry : Registry κ ν) : List κ := registry.entries.map Prod.fst

/-- The values in order of registration. -/
def values (registry : Registry κ ν) : List ν := registry.entries.map Prod.snd

/-- Storing under a key keeps the keys distinct. -/
theorem put_distinct (key : κ) (value : ν) {entries : List (κ × ν)}
    (h : (entries.map Prod.fst).Nodup) : ((Entries.put key value entries).map Prod.fst).Nodup := by
  rw [Entries.keys_put]
  split
  · exact h
  · next hnew =>
    refine List.nodup_append.2 ⟨h, by simp, fun a ha b hb => ?_⟩
    rintro rfl
    exact hnew (List.mem_singleton.1 hb ▸ ha)

/-- Registers a value. A registered key keeps its place. -/
def put (registry : Registry κ ν) (key : κ) (value : ν) : Registry κ ν :=
  ⟨Entries.put key value registry.entries, put_distinct key value registry.distinct⟩

/-- Registers a value unless the key is registered: the first value of a key stays. -/
def putIfNew (registry : Registry κ ν) (key : κ) (value : ν) : Registry κ ν :=
  if registry.contains key then registry else registry.put key value

/-- Removes a key. -/
def erase (registry : Registry κ ν) (key : κ) : Registry κ ν :=
  ⟨registry.entries.filter fun entry => entry.1 != key,
    registry.distinct.sublist (List.filter_sublist.map _)⟩

/-- Registers entries one after the other: a key stands where it came first, with its last value. -/
def ofList (entries : List (κ × ν)) : Registry κ ν :=
  entries.foldl (fun registry entry => registry.put entry.1 entry.2) empty

/-- Registers entries one after the other, keeping the first value of each key. -/
def ofFirsts (entries : List (κ × ν)) : Registry κ ν :=
  entries.foldl (fun registry entry => registry.putIfNew entry.1 entry.2) empty

/-- The registry without entries has no value under any key. -/
@[simp] theorem get?_empty (key : κ) : (empty : Registry κ ν).get? key = none := rfl

/-- The key has the value that was registered, and any other key has what it had before. -/
theorem get?_put (registry : Registry κ ν) (key other : κ) (value : ν) :
    (registry.put key value).get? other = if key = other then some value else registry.get? other :=
  Entries.find?_put key other value registry.entries

/-- Registering keeps the keys in their places and adds a new key at the end. -/
theorem keys_put (registry : Registry κ ν) (key : κ) (value : ν) :
    (registry.put key value).keys =
      if key ∈ registry.keys then registry.keys else registry.keys ++ [key] :=
  Entries.keys_put key value registry.entries

instance [DecidableEq ν] : DecidableEq (Registry κ ν) := fun a b =>
  if h : a.entries = b.entries then isTrue (Registry.ext h)
  else isFalse fun hab => h (hab ▸ rfl)

instance : Inhabited (Registry κ ν) := ⟨empty⟩

end Registry

end ConferenceBridge
