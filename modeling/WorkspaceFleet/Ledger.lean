import WorkspaceFleet.Registry

/-!
# WorkspaceFleet.Ledger

A registry together with the store behind it, if it has one. Every operation is performed on the
registry and its writes are carried to the store before the next. `Ledger.perform` is for a store that
takes every write; `Ledger.attempt` is for one that may refuse one of them.
-/

namespace WorkspaceFleet

structure Ledger (κ : Type) where
  registry : Registry κ
  store : Option (Store κ)

/-- One write of an operation is refused: how many were taken before it, and what the store says. -/
structure Refusal where
  taken : Nat
  cause : StoreError
  deriving DecidableEq, Repr

namespace Ledger

variable {κ : Type} [Quantity κ] {α ε : Type}

def inMemory {κ : Type} : Ledger κ := ⟨.empty, none⟩

/-- Performs an operation on a store that takes every write. -/
def perform (l : Ledger κ) (op : Registry κ → Change κ α) : α × Ledger κ :=
  let c := op l.registry
  (c.result, ⟨c.registry, l.store.map (·.applyAll c.writes)⟩)

/-- Performs an operation of which the store may refuse a write. It then answers with the store's error
and leaves what it has done so far. Without a store, or where that write is not made, nothing is refused. -/
def attempt (l : Ledger κ) (refusal : Option Refusal) (lift : RegistryError → ε)
    (op : Registry κ → Change κ (Except ε α)) : Except ε α × Ledger κ :=
  let c := op l.registry
  match refusal, l.store with
  | some refusal, some store =>
    if refusal.taken < c.writes.length then
      (.error (lift (.store refusal.cause)),
        ⟨c.refused refusal.taken, some (store.applyAll (c.writes.take refusal.taken))⟩)
    else l.perform op
  | _, _ => l.perform op

/-- Opens a store, which takes the corrections of what it holds. -/
def ofStore (store : Store κ) : Except RegistryError (Ledger κ) := do
  let c ← Registry.load store
  return ⟨c.registry, some (store.applyAll c.writes)⟩

end Ledger
end WorkspaceFleet
