import WorkspaceFleet.Document.Json
import WorkspaceFleet.Registry.Error
import WorkspaceFleet.Workspace.Encoding

/-!
# WorkspaceFleet.Store

What outlives the process: two tables of rows, one for servers and one for workspaces, in their
written form.

Each single `Write` is atomic. A row that does not read back as a value makes reading fail; a number
that is not finite has no written form and leads to such a row.
-/

namespace WorkspaceFleet

structure Store (κ : Type) where
  servers : Table (Document κ)
  workspaces : Table (Document κ)
  deriving BEq

inductive Write (κ : Type) where
  | putServer (s : Server κ)
  | deleteServer (serverId : String)
  | putWorkspace (w : Workspace κ)
  | deleteWorkspace (containerId : String)

namespace Store

variable {κ : Type} [Quantity κ]

def empty {κ : Type} : Store κ := ⟨∅, ∅⟩

/-- Makes one change. A row stands under the id that its value has. -/
def apply (s : Store κ) : Write κ → Store κ
  | .putServer v => { s with servers := s.servers.insert v.serverId v.encode }
  | .deleteServer id => { s with servers := s.servers.erase id }
  | .putWorkspace w => { s with workspaces := s.workspaces.insert w.containerId w.encode }
  | .deleteWorkspace id => { s with workspaces := s.workspaces.erase id }

def applyAll (s : Store κ) (writes : List (Write κ)) : Store κ := writes.foldl apply s

/-- A row with its numbers as reading gives them back. -/
def reread (d : Document κ) : Document κ := d.mapReal (fun x => .quantity (Quantity.reread x))

/-- Where rows have numbers of cores and percentages, in the order in which they are read. -/
def numberPaths : List (List String) :=
  [["total_cpu_cores"], ["current_cpu_used"], ["cpu_percent"], ["allocation", "cpu_cores"]]

/-- Why a number is not read: there is none, or it is too large. -/
def numberFault? : Document κ → Option String
  | .null => some "invalid type: null, expected f64"
  | .real x => if Quantity.isFinite (Quantity.reread x) then none else some "number out of range"
  | _ => none

/-- Why the number in this place of a row is not read, and at which byte of the row's text it ends. -/
def fault? (row : Document κ) (path : List String) : Option String := do
  let (cut, value) ← row.upTo path
  let fault ← numberFault? value
  -- the cut text closes as many records as there are names in the path
  let column := (Json.compact Quantity.text cut).utf8ByteSize - path.length
  return fault ++ " at line 1 column " ++ Text.Decimal.text column

/-- Why a row is not read. In rows that were written it is a number that is at fault. -/
def unreadableCause (row : Document κ) : String :=
  (numberPaths.findSome? (fault? row)).getD "invalid value"

def readRow {α : Type} (decode : Document κ → Decoded α) (row : Document κ) :
    Except StoreError α :=
  match decode (reread row) with
  | .ok v => .ok v
  | .error _ => .error (.unreadable (unreadableCause row))

def getServer (s : Store κ) (id : String) : Except StoreError (Option (Server κ)) :=
  match s.servers.get? id with
  | some row => (readRow Server.decode row).map some
  | none => .ok none

def getWorkspace (s : Store κ) (id : String) : Except StoreError (Option (Workspace κ)) :=
  match s.workspaces.get? id with
  | some row => (readRow Workspace.decode row).map some
  | none => .ok none

def listServers (s : Store κ) : Except StoreError (List (Server κ)) :=
  s.servers.values.mapM (readRow Server.decode)

def listWorkspaces (s : Store κ) : Except StoreError (List (Workspace κ)) :=
  s.workspaces.values.mapM (readRow Workspace.decode)

end Store
end WorkspaceFleet
