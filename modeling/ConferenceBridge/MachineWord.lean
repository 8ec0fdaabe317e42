/-!
# Machine words

The integers that a signed word of 64 bits holds.
-/

namespace ConferenceBridge

/-- Whether an integer fits into a signed machine word. -/
def fitsMachineWord (n : Int) : Bool := -0x8000000000000000 ≤ n && n < 0x8000000000000000

end ConferenceBridge
