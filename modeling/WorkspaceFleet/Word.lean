/-!
# WorkspaceFleet.Word

The ranges of the numbers that come in words of a fixed width.
-/

namespace WorkspaceFleet

def word32 : Nat := 4294967296

def word64 : Nat := 18446744073709551616

/-- Half as many; a signed 64-bit word reaches from the negative of this to one below it. -/
def halfWord64 : Nat := 9223372036854775808

def fitsSigned64 (n : Int) : Bool := -(halfWord64 : Int) ≤ n && n < halfWord64

end WorkspaceFleet
