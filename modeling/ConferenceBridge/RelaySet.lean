import ConferenceBridge.Table

/-!
# Sets of relays

A set of relay addresses: a table without values, so it keeps one address of each kind in ascending
order, and equal members mean equal sets.
-/

namespace ConferenceBridge

/-- A finite set of relay addresses. -/
@[ext] structure RelaySet where
  /-- The members as keys. -/
  members : Table String Unit
  deriving DecidableEq, Inhabited

namespace RelaySet

/-- The set without members. -/
def empty : RelaySet := ⟨Table.empty⟩

/-- The set of the given addresses, whatever their order and number. -/
def ofList (relays : List String) : RelaySet := ⟨Table.ofList (relays.map fun relay => (relay, ()))⟩

/-- The members in ascending order. -/
def toList (set : RelaySet) : List String := set.members.keys

/-- Whether there is no member. -/
def isEmpty (set : RelaySet) : Bool := set.members.isEmpty

/-- The members of both sets. -/
def union (left right : RelaySet) : RelaySet := ofList (left.toList ++ right.toList)

end RelaySet

end ConferenceBridge
