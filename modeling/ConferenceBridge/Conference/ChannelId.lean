import ConferenceBridge.Text.Quoted

/-!
# Ids of channels

An id is the first half of a number of thirty-two hexadecimal digits. The supply counts the ids it
hands out, and numbers that were put aside are taken first.
-/

namespace ConferenceBridge

/-- The length of an id. -/
def channelIdLength : Nat := 16

/-- The id that a number in hexadecimal digits gives. -/
def channelIdOf (digits : String) : String :=
  String.ofList (digits.toList.take channelIdLength)

/-- Where ids come from. -/
structure IdSupply where
  /-- How many ids were handed out. -/
  count : Nat
  /-- The numbers that were put aside, the next one first. -/
  queue : List String
  deriving DecidableEq

namespace IdSupply

/-- The supply before any id was handed out. -/
def fresh : IdSupply := ⟨0, []⟩

/-- Puts a number aside for a later id. -/
def enqueue (supply : IdSupply) (digits : String) : IdSupply :=
  { supply with queue := supply.queue ++ [digits] }

/-- The next id, and the supply without it. -/
def next (supply : IdSupply) : String × IdSupply :=
  let count := supply.count + 1
  match supply.queue with
  | digits :: queue => (channelIdOf digits, ⟨count, queue⟩)
  | [] => (String.ofList (Text.hexDigits channelIdLength count), ⟨count, []⟩)

end IdSupply

end ConferenceBridge
