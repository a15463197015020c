import WorkspaceFleet.Placement.Choice

/-!
# WorkspaceFleet.Placement.Placer

The round-robin cursor that outlives a single choice. It moves by one when a choice under
`roundRobin` succeeds, and stands still otherwise.
-/

namespace WorkspaceFleet

/-- Whose turn it is, counted in placements. -/
structure Placer where
  cursor : Nat
  deriving DecidableEq, Repr, Inhabited

namespace Placer

variable {κ : Type} [Quantity κ]

def initial : Placer := ⟨0⟩

/-- The placer after a turn; the cursor is a 64-bit word. -/
def advance (p : Placer) : Placer := ⟨(p.cursor + 1) % word64⟩

def preview (p : Placer) (req : Requirements κ) (strategy : Strategy) (servers : List (Server κ)) :
    Except PlacementError (Placement κ) :=
  Placement.choose req strategy servers p.cursor

def place (p : Placer) (req : Requirements κ) (strategy : Strategy) (servers : List (Server κ)) :
    Except PlacementError (Placement κ) × Placer :=
  match p.preview req strategy servers with
  | .ok placement => (.ok placement, if strategy = .roundRobin then p.advance else p)
  | .error e => (.error e, p)

end Placer
end WorkspaceFleet
