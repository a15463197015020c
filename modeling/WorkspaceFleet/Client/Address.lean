import WorkspaceFleet.Text.Decimal
import WorkspaceFleet.Text.Utf8

/-!
# WorkspaceFleet.Client.Address

The addresses of requests, by the rules of the WHATWG URL standard for `http` and `https`.

What follows the daemon's address is read as path, query and fragment: `?` begins a query and `#` a
fragment, a backslash counts as a slash, the segments `.` and `..` are resolved, tabs and line ends
are dropped, and characters that may not stand for themselves become percent signs with two
hexadecimal digits. Pairs of a name and a value are appended to the query in the encoding of forms.
-/

namespace WorkspaceFleet

structure Address where
  /-- The segments of the path; each has a slash before it. -/
  path : List String
  query : Option String
  fragment : Option String
  deriving DecidableEq, Repr

namespace Address

/-! ## Percent encoding -/

def hexDigit (n : Nat) : Char := if n < 10 then Char.ofNat (48 + n) else Char.ofNat (55 + n)

def percentByte (b : UInt8) : List Char :=
  ['%', hexDigit (b.toNat / 16), hexDigit (b.toNat % 16)]

/-- A text in which the characters of a set stand as their bytes. -/
def percentEncode (set : Char → Bool) (cs : List Char) : String :=
  String.ofList (cs.flatMap (fun c =>
    if set c then (Text.Utf8.encode c.toString).flatMap percentByte else [c]))

/-- The controls, and all that is not ASCII. -/
def isControl (c : Char) : Bool := c.toNat < 0x20 || 0x7E < c.toNat

/-- What may not stand in a fragment. -/
def inFragmentSet (c : Char) : Bool := isControl c || [' ', '"', '<', '>', '\x60'].contains c

def inQuerySet (c : Char) : Bool := isControl c || [' ', '"', '#', '<', '>', '\x27'].contains c

def inPathSet (c : Char) : Bool :=
  isControl c || [' ', '"', '#', '<', '>', '?', '^', '\x60', '\x7b', '\x7d'].contains c

/-! ## Reading -/

/-- Whether a character is dropped wherever it stands. -/
def isDropped (c : Char) : Bool := c == '\t' || c == '\n' || c == '\r'

/-- The characters that count: without controls and blanks at the end, and without tabs and line
ends. -/
def significant (cs : List Char) : List Char :=
  (cs.reverse.dropWhile (fun c => c.toNat ≤ 0x20)).reverse.filter (fun c => !isDropped c)

def splitSegments : List Char → List (List Char)
  | [] => [[]]
  | c :: cs =>
    if c == '/' || c == '\\' then [] :: splitSegments cs
    else
      match splitSegments cs with
      | [] => [[c]]
      | s :: rest => (c :: s) :: rest

def isSingleDot (s : String) : Bool := [".", "%2e"].contains s.toLower

def isDoubleDot (s : String) : Bool := ["..", ".%2e", "%2e.", "%2e%2e"].contains s.toLower

/-- The path with one more segment. Where the last segment stays or goes up, the path ends with a
slash. -/
def pushSegment (path : List String) (segment : String) (last : Bool) : List String :=
  let ended (p : List String) := if last then p ++ [""] else p
  if isDoubleDot segment then ended path.dropLast
  else if isSingleDot segment then ended path
  else path ++ [segment]

def resolve (path : List String) : List String → List String
  | [] => path
  | [s] => pushSegment path s true
  | s :: rest => resolve (pushSegment path s false) rest

def cut (mark : Char) (cs : List Char) : List Char × Option (List Char) :=
  match cs.dropWhile (· != mark) with
  | [] => (cs, none)
  | _ :: rest => (cs.takeWhile (· != mark), some rest)

/-- Reads what follows a daemon's address; it begins with a slash. -/
def read (s : String) : Address :=
  let (rest, fragment) := cut '#' (significant s.toList)
  let (path, query) := cut '?' rest
  { path := resolve [] ((splitSegments (path.drop 1)).map (percentEncode inPathSet))
    query := query.map (percentEncode inQuerySet)
    fragment := fragment.map (percentEncode inFragmentSet) }

/-! ## Queries -/

def formChar (c : Char) : List Char :=
  if Text.Decimal.isDigit c || c.isAlpha || ['*', '-', '.', '_'].contains c then [c]
  else if c == ' ' then ['+']
  else (Text.Utf8.encode c.toString).flatMap percentByte

def formEncode (s : String) : String := String.ofList (s.toList.flatMap formChar)

def formPairs (pairs : List (String × String)) : String :=
  String.intercalate "&" (pairs.map (fun p => formEncode p.1 ++ "=" ++ formEncode p.2))

def withQuery (a : Address) (pairs : List (String × String)) : Address :=
  if pairs.isEmpty then a
  else
    match a.query with
    | none => { a with query := some (formPairs pairs) }
    | some "" => { a with query := some (formPairs pairs) }
    | some q => { a with query := some (q ++ "&" ++ formPairs pairs) }

/-! ## Writing -/

def target (a : Address) : String :=
  String.join (a.path.map ("/" ++ ·)) ++ (a.query.map ("?" ++ ·)).getD ""

def text (a : Address) : String := a.target ++ (a.fragment.map ("#" ++ ·)).getD ""

end Address
end WorkspaceFleet
