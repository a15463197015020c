import WorkspaceFleet.Document.Toml.Scalar
import WorkspaceFleet.Document.Toml.Tree

/-!
# WorkspaceFleet.Document.Toml

Documents as TOML texts: `Toml.parse` reads one.

Records keep their fields in the order of appearance. Whole numbers fit a signed 64-bit word, real numbers
may be infinite or not numbers at all, and a moment in time is a record of one field. Lists and tables in
braces nest at most 127 deep.
-/

namespace WorkspaceFleet
namespace Toml

mutual

/-- Reads a value; `depth` lists and tables may still be opened. -/
def value? : Nat → Nat → List Char → Option (Document Float × List Char)
  | 0, _, _ => none
  | fuel + 1, depth, cs =>
    match cs with
    | '[' :: r =>
      match depth with
      | 0 => none
      | depth + 1 => (items? fuel depth [] r).map (fun (items, r) => (.list items, r))
    | '\x7b' :: r =>
      match depth with
      | 0 => none
      | depth + 1 =>
        match skipBlanks r with
        | '\x7d' :: r => some (.record [], r)
        | r => (pairs? fuel depth [] r).map (fun (es, r) => (.record (Node.fields es), r))
    | cs => scalar? cs

def items? : Nat → Nat → List (Document Float) → List Char → Option (List (Document Float) × List Char)
  | 0, _, _, _ => none
  | fuel + 1, depth, acc, cs =>
    match skipLines cs.length cs with
    | ']' :: r => some (acc.reverse, r)
    | cs =>
      match value? fuel depth cs with
      | none => none
      | some (d, r) =>
        match skipLines r.length r with
        | ',' :: r => items? fuel depth (d :: acc) r
        | ']' :: r => some ((d :: acc).reverse, r)
        | _ => none

def pairs? : Nat → Nat → Entries → List Char → Option (Entries × List Char)
  | 0, _, _, _ => none
  | fuel + 1, depth, es, cs =>
    match key? cs.length cs with
    | some (path, '=' :: r) =>
      match value? fuel depth (skipBlanks r) with
      | none => none
      | some (d, r) =>
        match es.insert path.dropLast (path.getLastD "") d, skipBlanks r with
        | some es, ',' :: r => pairs? fuel depth es r
        | some es, '\x7d' :: r => some (es, r)
        | _, _ => none
    | _ => none

end

/-- What has been read of a text: the finished tables, the table under way and its header. -/
structure State where
  root : Entries
  current : Entries
  /-- The path of the table under way, its last part, and whether it belongs to a list; none before the
  first header. -/
  header : Option (List String × String × Bool)

namespace State

def initial : State := ⟨[], [], none⟩

/-- The tables with the one under way put in its place. -/
def close (s : State) : Option Entries :=
  match s.header with
  | none => some s.current
  | some (path, k, true) => s.root.closeItem path k s.current
  | some (path, k, false) => s.root.closeTable path k s.current

def turn (s : State) (path : List String) (k : String) (inList : Bool) : Option State := do
  let root ← s.close
  if inList then
    return ⟨← root.openItem path k, [], some (path, k, true)⟩
  else
    let (current, root) ← root.openTable path k
    return ⟨root, current, some (path, k, false)⟩

def insert (s : State) (path : List String) (k : String) (d : Document Float) : Option State :=
  (s.current.insert path k d).map (fun es => { s with current := es })

end State

def header? (s : State) (cs : List Char) : Option (State × List Char) :=
  match cs with
  | '[' :: '[' :: r =>
    match key? r.length r with
    | some (path, ']' :: ']' :: r) =>
      (s.turn path.dropLast (path.getLastD "") true).map (fun s => (s, r))
    | _ => none
  | '[' :: r =>
    match key? r.length r with
    | some (path, ']' :: r) =>
      (s.turn path.dropLast (path.getLastD "") false).map (fun s => (s, r))
    | _ => none
  | _ => none

def pair? (s : State) (cs : List Char) : Option (State × List Char) :=
  match key? cs.length cs with
  | some (path, '=' :: r) =>
    match value? (2 * r.length + 2) 127 (skipBlanks r) with
    | some (d, r) => (s.insert path.dropLast (path.getLastD "") d).map (fun s => (s, r))
    | none => none
  | _ => none

def lines? : Nat → State → List Char → Option State
  | 0, _, _ => none
  | fuel + 1, s, cs =>
    match skipBlanks cs with
    | [] => some s
    | '#' :: r => (lineEnd? ('#' :: r)).bind (lines? fuel s)
    | '[' :: r =>
      (header? s ('[' :: r)).bind (fun (s, r) => (lineEnd? r).bind (lines? fuel s))
    | c :: r =>
      match newline? (c :: r) with
      | some r => lines? fuel s r
      | none => (pair? s (c :: r)).bind (fun (s, r) => (lineEnd? r).bind (lines? fuel s))

/-- The document that a TOML text denotes. A byte order mark at the beginning does not count. -/
def parse (s : String) : Option (Document Float) := do
  let cs := s.toList
  let cs := if cs.head? = some (Char.ofNat 0xFEFF) then cs.drop 1 else cs
  let state ← lines? (cs.length + 1) .initial cs
  return .record (Node.fields (← state.close))

end Toml
end WorkspaceFleet
