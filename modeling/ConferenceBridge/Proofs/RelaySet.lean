import ConferenceBridge.Proofs.Table
import ConferenceBridge.RelaySet

/-!
# Members of sets of relays

A set of relays is known by its members: neither the order in which they were listed nor how often
they were listed is left in it.
-/

namespace ConferenceBridge.RelaySet

/-- A set does not name a relay twice. -/
theorem nodup_toList (set : RelaySet) : set.toList.Nodup := set.members.nodup_keys

/-- The members are in ascending order. -/
theorem ascending_toList (set : RelaySet) : set.toList.Pairwise (· < ·) :=
  List.pairwise_map.2 set.members.ascending

/-- Sets with the same members are the same. -/
theorem ext_mem {left right : RelaySet}
    (h : ∀ relay, relay ∈ left.toList ↔ relay ∈ right.toList) : left = right := by
  -- There is only one value that a member can have, so the entries are known from the keys.
  have hentries : ∀ set : RelaySet,
      set.members.entries = set.toList.map fun relay => (relay, ()) := by
    intro set
    rw [toList, Table.keys, List.map_map]
    exact (List.map_id _).symm
  have hkeys : left.toList = right.toList := Table.keys_eq_of_mem_iff h
  refine RelaySet.ext (Table.ext ?_)
  rw [hentries, hentries, hkeys]

/-- A set has the members that are listed. -/
theorem mem_toList_ofList {relays : List String} {relay : String} :
    relay ∈ (ofList relays).toList ↔ relay ∈ relays := by
  rw [toList, Table.mem_keys_iff, ofList, Table.get?_ofList, Entries.isSome_find?_iff]
  simp

/-- A set is made from its members in any order, repeated or not. -/
theorem ofList_of_mem_iff {set : RelaySet} {relays : List String}
    (h : ∀ relay, relay ∈ relays ↔ relay ∈ set.toList) : ofList relays = set :=
  ext_mem fun relay => mem_toList_ofList.trans (h relay)

/-- The union has the members of both sets. -/
theorem mem_toList_union {left right : RelaySet} {relay : String} :
    relay ∈ (left.union right).toList ↔ relay ∈ left.toList ∨ relay ∈ right.toList := by
  rw [union, mem_toList_ofList, List.mem_append]

end ConferenceBridge.RelaySet
