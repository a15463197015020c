import WorkspaceFleet.Server

/-!
# WorkspaceFleet.Registry.Error

What can go wrong in the store and in the registry, and how it is said.
-/

namespace WorkspaceFleet

inductive StoreError where
  /-- A row does not read back as a value. -/
  | unreadable (cause : String)
  /-- A change of the store was not begun, or not brought to its end. -/
  | transaction (cause : String)
  | table (cause : String)
  | write (cause : String)
  deriving DecidableEq, Repr

def StoreError.message : StoreError → String
  | .unreadable cause => "deserialization error: " ++ cause
  | .transaction cause => "transaction error: " ++ cause
  | .table cause => "table error: " ++ cause
  | .write cause => "write error: " ++ cause

inductive RegistryError where
  | duplicateServer (serverId : String)
  | serverNotFound (serverId : String)
  | serverHasWorkspaces (serverId : String) (count : Nat)
  | capacityExhausted (serverId : String)
  | reservationNotFound (id : Nat)
  | counterUnderflow (serverId : String) (counter : Counter)
  | store (cause : StoreError)
  deriving DecidableEq, Repr

def RegistryError.message : RegistryError → String
  | .duplicateServer id => "server already registered: " ++ id
  | .serverNotFound id => "server not found: " ++ id
  | .serverHasWorkspaces id count =>
    "server " ++ id ++ " still hosts " ++ Text.Decimal.text count ++
      " workspace(s); migrate them first"
  | .capacityExhausted id => "server " ++ id ++ " has no residual capacity for this allocation"
  | .reservationNotFound id => "reservation " ++ Text.Decimal.text id ++ " is not pending"
  | .counterUnderflow id counter =>
    "counter " ++ counter.name ++ " on server " ++ id ++ " would underflow"
  | .store cause => "state store error: " ++ cause.message

/-- The failure behind a refusal, if there is one. -/
def RegistryError.source? : RegistryError → Option StoreError
  | .store cause => some cause
  | _ => none

end WorkspaceFleet
