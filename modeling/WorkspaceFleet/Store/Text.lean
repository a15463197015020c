import WorkspaceFleet.Document.Json
import WorkspaceFleet.Store

/-!
# WorkspaceFleet.Store.Text

A store as the text of a file.

The text is JSON in which a real number stands as a record of its bits, so that the rows come back exactly
as they were, and not as numerals would.
-/

namespace WorkspaceFleet
namespace Store

/-- The name under which the bits of a real number stand. -/
def bitsField : String := "binary64"

def realBits (x : Float) : Document Float := .record [(bitsField, .nat x.toBits.toNat)]

def restoreReal : String × Document Float → String × Document Float
  | (k, .record [(field, .int (.ofNat n))]) =>
    if field = bitsField then (k, .real (Float.ofBits n.toUInt64))
    else (k, .record [(field, .nat n)])
  | e => e

def encode (s : Store Float) : Document Float :=
  .record [("servers", .table id s.servers), ("workspaces", .table id s.workspaces)]

def decode (d : Document Float) : Decoded (Store Float) := do
  let fs ← d.asFields ["servers", "workspaces"]
  return {
    servers := ← Document.field fs "servers" (Document.asTable .ok)
    workspaces := ← Document.field fs "workspaces" (Document.asTable .ok) }

def text (s : Store Float) : String := Json.compact Text.Real.text (s.encode.mapReal realBits)

def ofText? (text : String) : Option (Store Float) := do
  let d ← Json.parse text
  (decode (d.mapRecords (·.map restoreReal))).toOption

end Store
end WorkspaceFleet
