import WorkspaceFleet.Text.Utf8

/-!
# WorkspaceFleet.Certificate.Pem

Sections of PEM files.

A section opens with a line `-----BEGIN LABEL-----`, closes with `-----END LABEL-----`, and holds base64
between them. What stands outside of sections is skipped, and so are whole sections whose label is not
known. `Pem.sections` reads a file section by section up to the first fault; the faults are an opening
line without its five hyphens, a section that is not closed, and text that is not base64.
-/

namespace WorkspaceFleet
namespace Pem

inductive Label where
  | certificate
  | privateKey
  | rsaPrivateKey
  | ecPrivateKey
  | publicKey
  | revocationList
  | certificateRequest
  deriving DecidableEq, Repr

namespace Label

def words : List (String × Label) :=
  [("CERTIFICATE", .certificate), ("PRIVATE KEY", .privateKey),
    ("RSA PRIVATE KEY", .rsaPrivateKey), ("EC PRIVATE KEY", .ecPrivateKey),
    ("PUBLIC KEY", .publicKey), ("X509 CRL", .revocationList),
    ("CERTIFICATE REQUEST", .certificateRequest)]

def ofBytes? (bytes : List UInt8) : Option Label :=
  (words.find? (fun w => Text.Utf8.encode w.1 == bytes)).map (·.2)

def isPrivateKey : Label → Bool
  | .privateKey | .rsaPrivateKey | .ecPrivateKey => true
  | _ => false

end Label

inductive Fault where
  | opening
  | unclosed
  | base64
  deriving DecidableEq, Repr

/-! ## Lines -/

/-- Whether a byte ends a line: a line feed or a carriage return, each on its own. -/
def isLineEnd (b : UInt8) : Bool := b == 10 || b == 13

/-- The lines of a file, each with its end; `current` holds the bytes of the line under way, last
first. -/
def linesFrom (current : List UInt8) : List UInt8 → List (List UInt8)
  | [] => if current.isEmpty then [] else [current.reverse]
  | b :: rest =>
    if isLineEnd b then (b :: current).reverse :: linesFrom [] rest
    else linesFrom (b :: current) rest

def lines (bytes : List UInt8) : List (List UInt8) := linesFrom [] bytes

def openingMark : List UInt8 := Text.Utf8.encode "-----BEGIN "

def closingMark : List UInt8 := Text.Utf8.encode "-----END "

def hyphens : List UInt8 := Text.Utf8.encode "-----"

/-- Whether a byte is a hyphen or may stand after the hyphens of a line. -/
def isTrailer (b : UInt8) : Bool := b == 45 || isLineEnd b || b == 32

/-- The label of an opening line. Behind it stand exactly five hyphens, with nothing but blanks and
line ends between and after them. -/
def openingLabel? (line : List UInt8) : Option (List UInt8) :=
  let trailer := line.reverse.takeWhile isTrailer
  if trailer.countP (· == 45) = 5 then
    let blanksBefore := (trailer.reverse.takeWhile (· != 45)).length
    some ((line.drop openingMark.length).take
      (line.length - trailer.length + blanksBefore - openingMark.length))
  else none

def closes (label line : List UInt8) : Bool := (closingMark ++ label ++ hyphens).isPrefixOf line

/-! ## Base64 -/

def isDigit64 (b : UInt8) : Bool :=
  (65 ≤ b && b ≤ 90) || (97 ≤ b && b ≤ 122) || (48 ≤ b && b ≤ 57) || b == 43 || b == 47

def isSkipped64 (b : UInt8) : Bool := b == 32 || b == 9 || b == 10 || b == 13

/-- Whether bytes are base64: groups of four digits, of which the last may be short by one or two, with
or without the padding that fills it up. -/
def isBase64 (bytes : List UInt8) : Bool :=
  let cs := bytes.filter (fun b => !isSkipped64 b)
  let ds := cs.takeWhile isDigit64
  let padding := cs.dropWhile isDigit64
  padding.all (· == 61) &&
    match ds.length % 4, padding.length with
    | 0, 0 => true
    | 2, 0 => true
    | 2, 2 => true
    | 3, 0 => true
    | 3, 1 => true
    | _, _ => false

/-! ## Sections -/

/-- Reads lines; `label` is the open section's, and `content` what stands in it so far. -/
def read (label : Option (List UInt8)) (content : List UInt8) :
    List (List UInt8) → List (Except Fault Label)
  | [] => if label.isSome then [.error .unclosed] else []
  | line :: rest =>
    if openingMark.isPrefixOf line then
      match openingLabel? line with
      | some opened => read (some opened) content rest
      | none => [.error .opening]
    else
      match label with
      | none => read none content rest
      | some opened =>
        if closes opened line then
          match Label.ofBytes? opened with
          | none => read none [] rest
          | some known =>
            if isBase64 content then .ok known :: read none [] rest else [.error .base64]
        else read (some opened) (content ++ line) rest

/-- The labels of the known sections of a file, up to its first fault. -/
def sections (bytes : List UInt8) : List (Except Fault Label) := read none [] (lines bytes)

def certificateCount (bytes : List UInt8) : Except Fault Nat := do
  let labels ← (sections bytes).mapM id
  return (labels.filter (· == .certificate)).length

/-- Whether there is a private key in a file; what stands after it is not looked at. -/
def hasPrivateKey (bytes : List UInt8) : Except Fault Bool :=
  go (sections bytes)
where
  go : List (Except Fault Label) → Except Fault Bool
    | [] => .ok false
    | .error e :: _ => .error e
    | .ok l :: rest => if l.isPrivateKey then .ok true else go rest

/-- Whether a file is a chain of certificates with a private key, and nothing else that is known. -/
def isIdentity (bytes : List UInt8) : Bool :=
  match (sections bytes).mapM id with
  | .error _ => false
  | .ok labels =>
    labels.all (fun l => l == .certificate || l.isPrivateKey) &&
      labels.any (· == .certificate) && labels.any Label.isPrivateKey

end Pem
end WorkspaceFleet
