import WorkspaceFleet.Document
import WorkspaceFleet.Text.Real

/-!
# WorkspaceFleet.Document.Json

Documents as JSON texts: `Json.parse` reads one, `Json.compact` and `Json.pretty` write one.

A number written without fraction and exponent is whole, if it fits a signed or an unsigned 64-bit
word; every other number is a binary64 value, rounded in two steps, and one beyond the largest is refused.
Lists and records nest at most 127 deep.
-/

namespace WorkspaceFleet
namespace Json

/-! ## Reading -/

def isSpace (c : Char) : Bool := c == ' ' || c == '\n' || c == '\t' || c == '\r'

def skipSpace (cs : List Char) : List Char := cs.dropWhile isSpace

def hexValue? (c : Char) : Option Nat :=
  let n := c.toNat
  if 48 ≤ n && n ≤ 57 then some (n - 48)
  else if 97 ≤ n && n ≤ 102 then some (n - 87)
  else if 65 ≤ n && n ≤ 70 then some (n - 55)
  else none

def hex4? : List Char → Option (Nat × List Char)
  | a :: b :: c :: d :: rest => do
    let w ← hexValue? a
    let x ← hexValue? b
    let y ← hexValue? c
    let z ← hexValue? d
    return (((w * 16 + x) * 16 + y) * 16 + z, rest)
  | _ => none

/-- The character that an escape after a backslash denotes, and the rest. Two escapes that make up a
surrogate pair denote one character; half a pair is refused. -/
def escape? : List Char → Option (Char × List Char)
  | '"' :: r => some ('"', r)
  | '\\' :: r => some ('\\', r)
  | '/' :: r => some ('/', r)
  | 'b' :: r => some ('\x08', r)
  | 'f' :: r => some ('\x0c', r)
  | 'n' :: r => some ('\n', r)
  | 'r' :: r => some ('\r', r)
  | 't' :: r => some ('\t', r)
  | 'u' :: r =>
    match hex4? r with
    | none => none
    | some (n, r) =>
      if n < 0xD800 ∨ 0xDFFF < n then some (Char.ofNat n, r)
      else if 0xDC00 ≤ n then none
      else
        match r with
        | '\\' :: 'u' :: r =>
          match hex4? r with
          | some (m, r) =>
            if 0xDC00 ≤ m ∧ m ≤ 0xDFFF then
              some (Char.ofNat (0x10000 + (n - 0xD800) * 0x400 + (m - 0xDC00)), r)
            else none
          | none => none
        | _ => none
  | _ => none

/-- Reads a text up to its closing quote; `acc` holds what is read, last character first. -/
def parseText : Nat → List Char → List Char → Option (String × List Char)
  | 0, _, _ => none
  | fuel + 1, acc, cs =>
    match cs with
    | [] => none
    | '"' :: rest => some (String.ofList acc.reverse, rest)
    | '\\' :: rest =>
      match escape? rest with
      | some (c, rest) => parseText fuel (c :: acc) rest
      | none => none
    | c :: rest => if c.toNat < 32 then none else parseText fuel (c :: acc) rest

/-- The value of a numeral. One without point and exponent is whole if it fits a 64-bit word. -/
def number? (n : Text.Numeral) : Option (Document Float) :=
  let m := Text.Decimal.value n.whole
  if n.fraction.isEmpty ∧ n.exponent = none ∧ n.negative ∧ 0 < m ∧ m ≤ halfWord64 then some (.int (-m))
  else if n.fraction.isEmpty ∧ n.exponent = none ∧ ¬n.negative ∧ m < word64 then some (.int m)
  else n.stepwise?.map .real

def parseExponent (cs : List Char) : Option (Int × List Char) :=
  let (negative, cs) :=
    match cs with
    | '+' :: r => (false, r)
    | '-' :: r => (true, r)
    | r => (false, r)
  let ds := cs.takeWhile Text.Decimal.isDigit
  if ds.isEmpty then none
  else
    let n : Int := Text.Decimal.value ds
    some (if negative then -n else n, cs.dropWhile Text.Decimal.isDigit)

def parseNumber (cs : List Char) : Option (Document Float × List Char) := do
  let (negative, cs) := if cs.head? = some '-' then (true, cs.drop 1) else (false, cs)
  let ds := cs.takeWhile Text.Decimal.isDigit
  let rest := cs.dropWhile Text.Decimal.isDigit
  guard (!ds.isEmpty && (ds.head? != some '0' || ds.length == 1))
  let (fraction, rest') ←
    match rest with
    | '.' :: r =>
      let fs := r.takeWhile Text.Decimal.isDigit
      if fs.isEmpty then none else some (fs, r.dropWhile Text.Decimal.isDigit)
    | r => some ([], r)
  let (exponent, rest'') ←
    match rest' with
    | 'e' :: r => (parseExponent r).map (fun p => (some p.1, p.2))
    | 'E' :: r => (parseExponent r).map (fun p => (some p.1, p.2))
    | r => some (none, r)
  return (← number? ⟨negative, ds, fraction, exponent⟩, rest'')

def expect? (word : List Char) (cs : List Char) : Option (List Char) :=
  if word.isPrefixOf cs then some (cs.drop word.length) else none

mutual

/-- Reads a value; `depth` lists and records may still be opened. -/
def parseValue : Nat → Nat → List Char → Option (Document Float × List Char)
  | 0, _, _ => none
  | fuel + 1, depth, cs =>
    match skipSpace cs with
    | 'n' :: r => (expect? ['u', 'l', 'l'] r).map (fun r => (.null, r))
    | 't' :: r => (expect? ['r', 'u', 'e'] r).map (fun r => (.bool true, r))
    | 'f' :: r => (expect? ['a', 'l', 's', 'e'] r).map (fun r => (.bool false, r))
    | '"' :: r => (parseText fuel [] r).map (fun p => (.text p.1, p.2))
    | '[' :: r =>
      match depth with
      | 0 => none
      | depth + 1 =>
        match skipSpace r with
        | ']' :: r => some (.list [], r)
        | r => (parseItems fuel depth [] r).map (fun p => (.list p.1, p.2))
    | '\x7b' :: r =>
      match depth with
      | 0 => none
      | depth + 1 =>
        match skipSpace r with
        | '\x7d' :: r => some (.record [], r)
        | r => (parseFields fuel depth [] r).map (fun p => (.record p.1, p.2))
    | r => parseNumber r

def parseItems : Nat → Nat → List (Document Float) → List Char →
    Option (List (Document Float) × List Char)
  | 0, _, _, _ => none
  | fuel + 1, depth, acc, cs =>
    match parseValue fuel depth cs with
    | none => none
    | some (d, r) =>
      match skipSpace r with
      | ',' :: r => parseItems fuel depth (d :: acc) r
      | ']' :: r => some ((d :: acc).reverse, r)
      | _ => none

def parseFields : Nat → Nat → List (String × Document Float) → List Char →
    Option (List (String × Document Float) × List Char)
  | 0, _, _, _ => none
  | fuel + 1, depth, acc, cs =>
    match skipSpace cs with
    | '"' :: r =>
      match parseText fuel [] r with
      | none => none
      | some (k, r) =>
        match skipSpace r with
        | ':' :: r =>
          match parseValue fuel depth r with
          | none => none
          | some (d, r) =>
            match skipSpace r with
            | ',' :: r => parseFields fuel depth ((k, d) :: acc) r
            | '\x7d' :: r => some (((k, d) :: acc).reverse, r)
            | _ => none
        | _ => none
    | _ => none

end

/-- The document that a JSON text denotes. Every step of the reader consumes a character, so the
length of the text bounds their number. -/
def parse (s : String) : Option (Document Float) :=
  let cs := s.toList
  match parseValue (2 * cs.length + 2) 127 cs with
  | some (d, rest) => if (skipSpace rest).isEmpty then some d else none
  | none => none

/-- A document in which every record has its fields in key order and each key once, with the value
given last. -/
def sortFields {κ : Type} (d : Document κ) : Document κ :=
  d.mapRecords (fun fields => (Table.ofList fields).entries)

/-! ## Writing -/

def escapeChar (c : Char) : List Char :=
  match c with
  | '"' => ['\\', '"']
  | '\\' => ['\\', '\\']
  | '\x08' => ['\\', 'b']
  | '\x0c' => ['\\', 'f']
  | '\n' => ['\\', 'n']
  | '\r' => ['\\', 'r']
  | '\t' => ['\\', 't']
  | c =>
    if c.toNat < 32 then
      ['\\', 'u', '0', '0', Text.hexDigit (c.toNat / 16), Text.hexDigit (c.toNat % 16)]
    else [c]

def quote (s : String) : String :=
  String.ofList ('"' :: s.toList.flatMap escapeChar ++ ['"'])

variable {κ : Type}

mutual

/-- A document on one line, without blanks; `real` writes its real numbers. -/
def compact (real : κ → String) : Document κ → String
  | .null => "null"
  | .bool b => if b then "true" else "false"
  | .int n => toString n
  | .real x => real x
  | .text s => quote s
  | .list items => "[" ++ String.intercalate "," (compactItems real items) ++ "]"
  | .record fields => "\x7b" ++ String.intercalate "," (compactFields real fields) ++ "\x7d"

def compactItems (real : κ → String) : List (Document κ) → List String
  | [] => []
  | d :: rest => compact real d :: compactItems real rest

def compactFields (real : κ → String) : List (String × Document κ) → List String
  | [] => []
  | (k, d) :: rest => (quote k ++ ":" ++ compact real d) :: compactFields real rest

end

def lineStart (level : Nat) : String := "\n" ++ String.ofList (List.replicate (2 * level) ' ')

mutual

/-- A document with every item and field on a line of its own, two blanks deeper than the list or
record that holds it. -/
def pretty (real : κ → String) (level : Nat) : Document κ → String
  | .list [] => "[]"
  | .record [] => "\x7b\x7d"
  | .list (d :: rest) =>
    "[" ++ String.intercalate "," (prettyItems real (level + 1) (d :: rest)) ++ lineStart level ++ "]"
  | .record (e :: rest) =>
    "\x7b" ++ String.intercalate "," (prettyFields real (level + 1) (e :: rest)) ++
      lineStart level ++ "\x7d"
  | .null => "null"
  | .bool b => if b then "true" else "false"
  | .int n => toString n
  | .real x => real x
  | .text s => quote s

def prettyItems (real : κ → String) (level : Nat) : List (Document κ) → List String
  | [] => []
  | d :: rest => (lineStart level ++ pretty real level d) :: prettyItems real level rest

def prettyFields (real : κ → String) (level : Nat) : List (String × Document κ) → List String
  | [] => []
  | (k, d) :: rest =>
    (lineStart level ++ quote k ++ ": " ++ pretty real level d) :: prettyFields real level rest

end

end Json
end WorkspaceFleet
