import WorkspaceFleet.Document
import WorkspaceFleet.Text.Real

/-!
# WorkspaceFleet.Document.Toml.Scalar

The words of TOML: blanks and comments, texts in their four notations, numbers, and moments in time.

Every reader takes the characters still to be read and gives what it read with the rest, or nothing where
the text is not TOML.
-/

namespace WorkspaceFleet
namespace Toml

/-! ## Blanks -/

def isBlank (c : Char) : Bool := c == ' ' || c == '\t'

def skipBlanks (cs : List Char) : List Char := cs.dropWhile isBlank

/-- Whether a character may stand in a comment, and in a text between single quotes. -/
def isPlain (c : Char) : Bool := c == '\t' || (32 ≤ c.toNat && c.toNat != 127)

def newline? : List Char → Option (List Char)
  | '\n' :: r => some r
  | '\r' :: '\n' :: r => some r
  | _ => none

def skipComment : List Char → List Char
  | '#' :: r => r.dropWhile isPlain
  | r => r

/-- The rest after what may stand at the end of a line: blanks, a comment, and the end itself. -/
def lineEnd? (cs : List Char) : Option (List Char) :=
  match skipComment (skipBlanks cs) with
  | [] => some []
  | r => newline? r

/-- The rest after blanks, comments and ends of lines. A carriage return that ends no line stays. -/
def skipLines : Nat → List Char → List Char
  | 0, cs => cs
  | fuel + 1, cs =>
    match skipComment (skipBlanks cs) with
    | '\n' :: r => skipLines fuel r
    | '\r' :: '\n' :: r => skipLines fuel r
    | r => r

/-! ## Texts -/

def hexValue? (c : Char) : Option Nat :=
  let n := c.toNat
  if 48 ≤ n && n ≤ 57 then some (n - 48)
  else if 97 ≤ n && n ≤ 102 then some (n - 87)
  else if 65 ≤ n && n ≤ 70 then some (n - 55)
  else none

def hexChar? (digits : Nat) (cs : List Char) : Option (Char × List Char) := do
  let ds ← (cs.take digits).mapM hexValue?
  let n := ds.foldl (fun n d => n * 16 + d) 0
  if ds.length = digits ∧ n.isValidChar then some (Char.ofNat n, cs.drop digits) else none

def escape? : List Char → Option (Char × List Char)
  | 'b' :: r => some ('\x08', r)
  | 't' :: r => some ('\t', r)
  | 'n' :: r => some ('\n', r)
  | 'f' :: r => some ('\x0c', r)
  | 'r' :: r => some ('\r', r)
  | '"' :: r => some ('"', r)
  | '\\' :: r => some ('\\', r)
  | 'u' :: r => hexChar? 4 r
  | 'U' :: r => hexChar? 8 r
  | _ => none

/-- Reads a text on one line up to its closing double quote; `acc` holds what is read, last character
first. -/
def basicText : Nat → List Char → List Char → Option (String × List Char)
  | 0, _, _ => none
  | fuel + 1, acc, cs =>
    match cs with
    | '"' :: r => some (String.ofList acc.reverse, r)
    | '\\' :: r =>
      match escape? r with
      | some (c, r) => basicText fuel (c :: acc) r
      | none => none
    | c :: r => if isPlain c then basicText fuel (c :: acc) r else none
    | [] => none

def literalText (cs : List Char) : Option (String × List Char) :=
  let body := cs.takeWhile (fun c => isPlain c && c != '\'')
  match cs.drop body.length with
  | '\'' :: r => some (String.ofList body, r)
  | _ => none

/-- The rest after a backslash that ends a line: blanks and ends of lines up to the next character. -/
def skipFolded? (cs : List Char) : Option (List Char) :=
  (newline? (skipBlanks cs)).map go
where
  go : List Char → List Char
    | ' ' :: r => go r
    | '\t' :: r => go r
    | '\n' :: r => go r
    | '\r' :: '\n' :: r => go r
    | r => r

/-- What a run of quotes means inside a text that three quotes close: up to two stand for themselves, and
from three on the text ends, with those before the last three standing for themselves. -/
def quoteRun (mark : Char) (cs : List Char) : Nat × Bool :=
  let n := (cs.takeWhile (· == mark)).length
  if n < 3 then (n, false) else (min (n - 3) 2, true)

def multilineText : Nat → List Char → List Char → Option (String × List Char)
  | 0, _, _ => none
  | fuel + 1, acc, cs =>
    match cs with
    | '"' :: _ =>
      match quoteRun '"' cs with
      | (n, true) => some (String.ofList ((List.replicate n '"' ++ acc).reverse), cs.drop (n + 3))
      | (n, false) => multilineText fuel (List.replicate n '"' ++ acc) (cs.drop n)
    | '\\' :: r =>
      match skipFolded? r with
      | some r => multilineText fuel acc r
      | none =>
        match escape? r with
        | some (c, r) => multilineText fuel (c :: acc) r
        | none => none
    | c :: r =>
      match newline? (c :: r) with
      | some r => multilineText fuel ('\n' :: acc) r
      | none => if isPlain c then multilineText fuel (c :: acc) r else none
    | [] => none

def multilineLiteral : Nat → List Char → List Char → Option (String × List Char)
  | 0, _, _ => none
  | fuel + 1, acc, cs =>
    match cs with
    | '\'' :: _ =>
      match quoteRun '\'' cs with
      | (n, true) => some (String.ofList ((List.replicate n '\'' ++ acc).reverse), cs.drop (n + 3))
      | (n, false) => multilineLiteral fuel (List.replicate n '\'' ++ acc) (cs.drop n)
    | c :: r =>
      match newline? (c :: r) with
      | some r => multilineLiteral fuel ('\n' :: acc) r
      | none => if isPlain c then multilineLiteral fuel (c :: acc) r else none
    | [] => none

/-- The text after three opening quotes; an end of line right after them does not count. -/
def skipFirstLine (cs : List Char) : List Char := (newline? cs).getD cs

/-- Reads a text in any of the four notations. -/
def text? : List Char → Option (String × List Char)
  | '"' :: '"' :: '"' :: r => multilineText (r.length + 1) [] (skipFirstLine r)
  | '"' :: r => basicText (r.length + 1) [] r
  | '\'' :: '\'' :: '\'' :: r => multilineLiteral (r.length + 1) [] (skipFirstLine r)
  | '\'' :: r => literalText r
  | _ => none

/-! ## Keys -/

def isKeyChar (c : Char) : Bool :=
  c.isAlpha || Text.Decimal.isDigit c || c == '-' || c == '_'

def keyPart? (cs : List Char) : Option (String × List Char) :=
  match cs with
  | '"' :: r => basicText (r.length + 1) [] r
  | '\'' :: r => literalText r
  | cs =>
    let part := cs.takeWhile isKeyChar
    if part.isEmpty then none else some (String.ofList part, cs.drop part.length)

/-- Reads a key: parts with dots between them, and blanks around each. -/
def key? : Nat → List Char → Option (List String × List Char)
  | 0, _ => none
  | fuel + 1, cs =>
    match keyPart? (skipBlanks cs) with
    | none => none
    | some (part, r) =>
      match skipBlanks r with
      | '.' :: r => (key? fuel r).map (fun (parts, r) => (part :: parts, r))
      | r => some ([part], r)

/-! ## Numbers -/

/-- Reads digits of a kind, of which two may have an underscore between them. -/
def digitRun (isDigit : Char → Bool) : List Char → List Char × List Char
  | '_' :: c :: r =>
    if isDigit c then
      let (ds, r) := digitRun isDigit r
      (c :: ds, r)
    else ([], '_' :: c :: r)
  | c :: r =>
    if isDigit c then
      let (ds, r) := digitRun isDigit r
      (c :: ds, r)
    else ([], c :: r)
  | [] => ([], [])

def digits? (isDigit : Char → Bool) : List Char → Option (List Char × List Char)
  | c :: r => if isDigit c then some (digitRun isDigit (c :: r)) else none
  | [] => none

/-- Reads a sign, if there is one. The answer tells whether it was a minus. -/
def sign : List Char → Bool × List Char
  | '-' :: r => (true, r)
  | '+' :: r => (false, r)
  | r => (false, r)

/-- Reads the digits of a whole number in decimal notation: a zero alone, or digits that do not begin with
one. -/
def wholeDigits? : List Char → Option (List Char × List Char)
  | '0' :: r => some (['0'], r)
  | r => digits? Text.Decimal.isDigit r

def word? (n : Int) : Option (Document Float) :=
  if fitsSigned64 n then some (.int n) else none

def based? (base : Nat) (cs : List Char) : Option (Document Float × List Char) := do
  let isDigit (c : Char) : Bool := (hexValue? c).any (· < base)
  let (ds, r) ← digits? isDigit cs
  let n := ds.foldl (fun n c => n * base + (hexValue? c).getD 0) 0
  return (← word? n, r)

def fraction? : List Char → Option (List Char × List Char)
  | '.' :: r => digits? Text.Decimal.isDigit r
  | r => some ([], r)

def exponent? (cs : List Char) : Option (Int × List Char) := do
  let (negative, r) := sign cs
  let (ds, r) ← digits? Text.Decimal.isDigit r
  let n : Int := Text.Decimal.value ds
  return (if negative then -n else n, r)

def optionalExponent? : List Char → Option (Option Int × List Char)
  | 'e' :: r => (exponent? r).map (fun (n, r) => (some n, r))
  | 'E' :: r => (exponent? r).map (fun (n, r) => (some n, r))
  | r => some (none, r)

/-- Reads a number that need not be whole, in decimal notation. Too large a positive one is refused. -/
def real? (cs : List Char) : Option (Document Float × List Char) := do
  let (negative, r) := sign cs
  let (ds, r) ← wholeDigits? r
  let (fs, r) ← fraction? r
  let (e, r) ← optionalExponent? r
  if fs.isEmpty && e.isNone then none
  else
    let x := Text.Numeral.nearest ⟨negative, ds, fs, e⟩
    if x.isInf && !negative then none else some (.real x, r)

def special? (cs : List Char) : Option (Document Float × List Char) :=
  let (negative, r) := sign cs
  let signed (x : Float) : Document Float := .real (if negative then -x else x)
  match r with
  | 'i' :: 'n' :: 'f' :: r => some (signed (1 / 0), r)
  | 'n' :: 'a' :: 'n' :: r => some (signed (0 / 0), r)
  | _ => none

def whole? : List Char → Option (Document Float × List Char)
  | '0' :: 'x' :: r => based? 16 r
  | '0' :: 'o' :: r => based? 8 r
  | '0' :: 'b' :: r => based? 2 r
  | cs => do
    let (negative, r) := sign cs
    let (ds, r) ← wholeDigits? r
    let n : Int := Text.Decimal.value ds
    return (← word? (if negative then -n else n), r)

/-! ## Moments -/

/-- Reads a number of exactly so many digits, within limits. -/
def fixed? (digits low high : Nat) (cs : List Char) : Option (Nat × List Char) :=
  let ds := cs.take digits
  let n := Text.Decimal.value ds
  if ds.length = digits ∧ ds.all Text.Decimal.isDigit ∧ low ≤ n ∧ n ≤ high then
    some (n, cs.drop digits)
  else none

def mark? (c : Char) : List Char → Option (List Char)
  | d :: r => if d == c then some r else none
  | [] => none

def padded (digits n : Nat) : String :=
  let ds := Text.Decimal.digits n
  String.ofList (List.replicate (digits - ds.length) '0' ++ ds)

def daysIn (year month : Nat) : Nat :=
  if month = 2 then if year % 4 = 0 ∧ (year % 100 ≠ 0 ∨ year % 400 = 0) then 29 else 28
  else if month = 4 ∨ month = 6 ∨ month = 9 ∨ month = 11 then 30
  else 31

def date? (cs : List Char) : Option (String × List Char) := do
  let (year, r) ← fixed? 4 0 9999 cs
  let (month, r) ← fixed? 2 1 12 (← mark? '-' r)
  let (day, r) ← fixed? 2 1 (daysIn year month) (← mark? '-' r)
  return (padded 4 year ++ "-" ++ padded 2 month ++ "-" ++ padded 2 day, r)

/-- The text of a fraction of a second: at most nine digits, without zeros at the end. -/
def secondsFraction (ds : List Char) : String :=
  let kept := ((ds.take 9).reverse.dropWhile (· == '0')).reverse
  if kept.isEmpty then "" else "." ++ String.ofList kept

def time? (cs : List Char) : Option (String × List Char) := do
  let (hour, r) ← fixed? 2 0 23 cs
  let (minute, r) ← fixed? 2 0 59 (← mark? ':' r)
  let (second, r) ← fixed? 2 0 60 (← mark? ':' r)
  let text := padded 2 hour ++ ":" ++ padded 2 minute ++ ":" ++ padded 2 second
  match r with
  | '.' :: r =>
    let ds := r.takeWhile Text.Decimal.isDigit
    if ds.isEmpty then none else some (text ++ secondsFraction ds, r.drop ds.length)
  | r => some (text, r)

def offset? (cs : List Char) : Option (String × List Char) :=
  let numeric (mark : String) (r : List Char) : Option (String × List Char) := do
    let (hour, r) ← fixed? 2 0 23 r
    let (minute, r) ← fixed? 2 0 59 (← mark? ':' r)
    return (mark ++ padded 2 hour ++ ":" ++ padded 2 minute, r)
  match cs with
  | 'Z' :: r => some ("Z", r)
  | 'z' :: r => some ("Z", r)
  | '+' :: r => numeric "+" r
  | '-' :: r => numeric "-" r
  | r => some ("", r)

def timeAfterDate? : List Char → Option (String × List Char)
  | c :: r =>
    if c == 'T' || c == 't' || c == ' ' then do
      let (time, r) ← time? r
      let (offset, r) ← offset? r
      return ("T" ++ time ++ offset, r)
    else none
  | [] => none

/-- The field that a moment in time stands under, as a record of one field. -/
def momentField : String := "$__toml_private_datetime"

def moment (text : String) : Document Float := .record [(momentField, .text text)]

/-- Reads a moment in time: a date, a time of day, or both. -/
def moment? (cs : List Char) : Option (Document Float × List Char) :=
  match date? cs with
  | some (date, r) =>
    match timeAfterDate? r with
    | some (time, r) => some (moment (date ++ time), r)
    | none => some (moment date, r)
  | none => (time? cs).map (fun (time, r) => (moment time, r))

def number? (cs : List Char) : Option (Document Float × List Char) :=
  (moment? cs).or ((real? cs).or ((special? cs).or (whole? cs)))

def flag? : List Char → Option (Document Float × List Char)
  | 't' :: 'r' :: 'u' :: 'e' :: r => some (.bool true, r)
  | 'f' :: 'a' :: 'l' :: 's' :: 'e' :: r => some (.bool false, r)
  | _ => none

def scalar? (cs : List Char) : Option (Document Float × List Char) :=
  match text? cs with
  | some (s, r) => some (.text s, r)
  | none => (flag? cs).or (number? cs)

end Toml
end WorkspaceFleet
