import WorkspaceFleet.Document

/-!
# WorkspaceFleet.Document.Toml.Tree

The tables of a TOML text while they are put together.

A table comes about by its own header, by the header of a table below it, or by a dotted key. Which of
these it was decides whether it may be extended: a header may name a table once, and a dotted key may not
add to a table that a header or braces made.
-/

namespace WorkspaceFleet
namespace Toml

/-- How a table came about. -/
inductive Origin where
  /-- By a header of its own, or as the whole text. -/
  | header
  /-- By the header of a table below it. -/
  | below
  /-- By a dotted key. -/
  | dotted
  deriving DecidableEq, Repr

inductive Node where
  | value (d : Document Float)
  | table (origin : Origin) (entries : List (String × Node))
  /-- A list of tables, each made by a header of its own. -/
  | tables (items : List (List (String × Node)))

/-- What stands in a table, in the order of appearance. -/
abbrev Entries := List (String × Node)

namespace Entries

def replace (es : Entries) (k : String) (n : Node) : Entries :=
  es.map (fun e => if e.1 == k then (k, n) else e)

def remove (es : Entries) (k : String) : Entries := es.filter (·.1 != k)

/-- Changes the table that a path leads to from a table of some origin, making tables on the way where there
are none; `origin` is theirs. Of a list of tables the path leads into the last. A dotted key does not lead
through a table with a header. -/
def modifyAt {α : Type} (origin : Origin) (change : Origin → Entries → Option (α × Entries)) :
    List String → Origin → Entries → Option (α × Entries)
  | [], own, es => change own es
  | k :: path, _, es =>
    match es.lookup k with
    | none =>
      (modifyAt origin change path origin []).map (fun (a, sub) =>
        (a, es ++ [(k, .table origin sub)]))
    | some (.value _) => none
    | some (.table own sub) =>
      if origin = .dotted ∧ own = .header then none
      else
        (modifyAt origin change path own sub).map (fun (a, sub) =>
          (a, es.replace k (.table own sub)))
    | some (.tables items) =>
      match items.getLast? with
      | none => none
      | some last =>
        (modifyAt origin change path .header last).map (fun (a, sub) =>
          (a, es.replace k (.tables (items.dropLast ++ [sub]))))

/-- Puts a value under a key, which a path may lead to. A key stands once, and a table takes keys only in
the way in which it came about. -/
def insert (es : Entries) (path : List String) (k : String) (d : Document Float) : Option Entries :=
  let change (own : Origin) (es : Entries) : Option (Unit × Entries) :=
    if (own = .dotted) = (path = []) then none
    else if (es.lookup k).isSome then none
    else some ((), es ++ [(k, .value d)])
  (modifyAt .dotted change path .header es).map (·.2)

/-- Makes way for a table with a header of its own, and gives what headers below it have put there. -/
def openTable (es : Entries) (path : List String) (k : String) : Option (Entries × Entries) :=
  modifyAt .below (fun _ es =>
    match es.lookup k with
    | none => some ([], es)
    | some (.table .below sub) => some (sub, es.remove k)
    | some _ => none) path .header es

def closeTable (es : Entries) (path : List String) (k : String) (table : Entries) : Option Entries :=
  (modifyAt .below (fun _ es =>
    match es.lookup k with
    | none => some ((), es ++ [(k, .table .header table)])
    | some (.table .header _) => none
    | some (.table _ _) => some ((), es.replace k (.table .header table))
    | some _ => none) path .header es).map (·.2)

def openItem (es : Entries) (path : List String) (k : String) : Option Entries :=
  (modifyAt .below (fun _ es =>
    match es.lookup k with
    | none => some ((), es ++ [(k, .tables [])])
    | some (.tables _) => some ((), es)
    | some _ => none) path .header es).map (·.2)

def closeItem (es : Entries) (path : List String) (k : String) (table : Entries) : Option Entries :=
  (modifyAt .below (fun _ es =>
    match es.lookup k with
    | none => some ((), es ++ [(k, .tables [table])])
    | some (.tables items) => some ((), es.replace k (.tables (items ++ [table])))
    | some _ => none) path .header es).map (·.2)

end Entries

mutual

def Node.document : Node → Document Float
  | .value d => d
  | .table _ es => .record (Node.fields es)
  | .tables items => .list (Node.items items)

def Node.fields : List (String × Node) → List (String × Document Float)
  | [] => []
  | (k, n) :: rest => (k, n.document) :: Node.fields rest

def Node.items : List (List (String × Node)) → List (Document Float)
  | [] => []
  | es :: rest => .record (Node.fields es) :: Node.items rest

end

end Toml
end WorkspaceFleet
