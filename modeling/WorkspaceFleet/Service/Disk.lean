import WorkspaceFleet.Files
import WorkspaceFleet.Store

/-!
# WorkspaceFleet.Service.Disk

What the service finds on the disk and leaves there: files, and the stores that it made.
-/

namespace WorkspaceFleet

structure Disk where
  files : Files
  /-- The stores, by their places. -/
  stores : List (List String × Store Float)

namespace Disk

/-- The store under a path, which is made where there is nothing or an empty file. Anything else is no
store. -/
def openStore (d : Disk) (path : String) : Option (Store Float) :=
  match d.stores.lookup (Files.place path) with
  | some store => some store
  | none =>
    match d.files.entry? (Files.place path) with
    | none => some .empty
    | some (.file []) => some .empty
    | some _ => none

def saveStore (d : Disk) (path : String) (store : Store Float) : Disk :=
  let place := Files.place path
  { d with stores := d.stores.filter (·.1 != place) ++ [(place, store)] }

end Disk
end WorkspaceFleet
