import WorkspaceFleet.Duration
import WorkspaceFleet.Quantity
import WorkspaceFleet.Table

/-!
# WorkspaceFleet.Document

Structured values as they are persisted, configured and exchanged: the common content of JSON and
TOML texts, with real numbers of a type `κ`.

A record keeps its fields in the order in which they were written. The readers below turn a
document into a value of another type; they fail with a `DecodeError`.
-/

namespace WorkspaceFleet

inductive Document (κ : Type) where
  | null
  | bool (b : Bool)
  | int (n : Int)
  | real (x : κ)
  | text (s : String)
  | list (items : List (Document κ))
  | record (fields : List (String × Document κ))
  deriving BEq, Inhabited

inductive DecodeError where
  /-- It has another shape, a number out of range, or lacks a field. -/
  | mismatch
  | duration (cause : DurationError)
  deriving DecidableEq, Repr

abbrev Decoded (α : Type) := Except DecodeError α

namespace Document

variable {κ : Type} {α β : Type}

def nat (n : Nat) : Document κ := .int n

/-- A finite number; what is not finite has no written form and becomes `null`. -/
def quantity [Quantity κ] (x : κ) : Document κ :=
  if Quantity.isFinite x then .real x else .null

def option (f : α → Document κ) : Option α → Document κ
  | none => .null
  | some a => f a

/-- A table as a record, in key order. -/
def table (f : α → Document κ) (t : Table α) : Document κ :=
  .record (t.entries.map (fun e => (e.1, f e.2)))

def duration (d : Duration) : Document κ := .text d.format

mutual

/-- Puts a document in the place of every real number. -/
def mapReal (f : κ → Document β) : Document κ → Document β
  | .null => .null
  | .bool b => .bool b
  | .int n => .int n
  | .real x => f x
  | .text s => .text s
  | .list items => .list (mapRealItems f items)
  | .record fields => .record (mapRealFields f fields)

def mapRealItems (f : κ → Document β) : List (Document κ) → List (Document β)
  | [] => []
  | d :: rest => mapReal f d :: mapRealItems f rest

def mapRealFields (f : κ → Document β) : List (String × Document κ) → List (String × Document β)
  | [] => []
  | (k, d) :: rest => (k, mapReal f d) :: mapRealFields f rest

end

mutual

/-- Changes the fields of every record, those of the records within it first. -/
def mapRecords (f : List (String × Document κ) → List (String × Document κ)) :
    Document κ → Document κ
  | .null => .null
  | .bool b => .bool b
  | .int n => .int n
  | .real x => .real x
  | .text s => .text s
  | .list items => .list (mapRecordsItems f items)
  | .record fields => .record (f (mapRecordsFields f fields))

def mapRecordsItems (f : List (String × Document κ) → List (String × Document κ)) :
    List (Document κ) → List (Document κ)
  | [] => []
  | d :: rest => mapRecords f d :: mapRecordsItems f rest

def mapRecordsFields (f : List (String × Document κ) → List (String × Document κ)) :
    List (String × Document κ) → List (String × Document κ)
  | [] => []
  | (k, d) :: rest => (k, mapRecords f d) :: mapRecordsFields f rest

end

/-- The document up to the end of the value that stands under these names, outermost first, and that
value. -/
def upTo : List String → Document κ → Option (Document κ × Document κ)
  | [], d => some (d, d)
  | name :: path, .record fields => do
    let (cut, value) ← upTo path (← fields.lookup name)
    return (.record (fields.takeWhile (·.1 != name) ++ [(name, cut)]), value)
  | _ :: _, _ => none

/-! ## Readers -/

def asBool : Document κ → Decoded Bool
  | .bool b => .ok b
  | _ => .error .mismatch

def asText : Document κ → Decoded String
  | .text s => .ok s
  | _ => .error .mismatch

def asNat (limit : Nat) : Document κ → Decoded Nat
  | .int (.ofNat n) => if n < limit then .ok n else .error .mismatch
  | _ => .error .mismatch

def asQuantity [Quantity κ] : Document κ → Decoded κ
  | .real x => .ok x
  | .int n => .ok (Quantity.ofInt n)
  | _ => .error .mismatch

def asDuration : Document κ → Decoded Duration
  | .text s =>
    match Duration.parse s with
    | .ok d => .ok d
    | .error e => .error (.duration e)
  | _ => .error .mismatch

def asOption (read : Document κ → Decoded α) : Document κ → Decoded (Option α)
  | .null => .ok none
  | d => (read d).map some

def asList (read : Document κ → Decoded α) : Document κ → Decoded (List α)
  | .list items => items.mapM read
  | _ => .error .mismatch

def asTable (read : Document κ → Decoded α) : Document κ → Decoded (Table α)
  | .record fields => do
    let entries ← fields.mapM (fun e => do return (e.1, ← read e.2))
    return Table.ofList entries
  | _ => .error .mismatch

/-- Reads one of a few words; a word may also stand alone in a record, with nothing under it. -/
def asWord (words : List (String × α)) : Document κ → Decoded α
  | .text s => (words.lookup s).elim (.error .mismatch) .ok
  | .record [(s, .null)] => (words.lookup s).elim (.error .mismatch) .ok
  | _ => .error .mismatch

/-! ## Records -/

/-- The fields of a record whose known fields are `names`. A list gives the known fields in their
order. A known field that is given twice is refused. -/
def asFields (names : List String) : Document κ → Decoded (List (String × Document κ))
  | .record fields =>
    if names.all (fun n => (fields.filter (fun e => e.1 == n)).length ≤ 1) then .ok fields
    else .error .mismatch
  | .list items =>
    if items.length ≤ names.length then .ok (names.zip items) else .error .mismatch
  | _ => .error .mismatch

def field (fields : List (String × Document κ)) (name : String) (read : Document κ → Decoded α) :
    Decoded α :=
  match fields.lookup name with
  | some d => read d
  | none => .error .mismatch

def fieldD (fields : List (String × Document κ)) (name : String) (read : Document κ → Decoded α)
    (fallback : α) : Decoded α :=
  match fields.lookup name with
  | some d => read d
  | none => .ok fallback

/-- Reads a field that may be missing or `null`. -/
def field? (fields : List (String × Document κ)) (name : String) (read : Document κ → Decoded α) :
    Decoded (Option α) :=
  fieldD fields name (asOption read) none

end Document
end WorkspaceFleet
