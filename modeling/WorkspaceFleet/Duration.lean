import WorkspaceFleet.Text.Blank
import WorkspaceFleet.Text.Decimal
import WorkspaceFleet.Text.Quoted
import WorkspaceFleet.Word

/-!
# WorkspaceFleet.Duration

Spans of time, and the texts that configuration files give them as: a decimal number followed by
`ms`, `s`, `m`, `h` or nothing (seconds). Numbers are limited to 64 bits.

`Duration.parse` reads such a text and `Duration.format` writes one; `Duration.debugText` is the
form in which messages show a span.
-/

namespace WorkspaceFleet

/-- A span of time, in nanoseconds. -/
structure Duration where
  nanos : Nat
  deriving DecidableEq, Repr, Inhabited

/-- Why a text is not a duration; each cause carries the trimmed text. -/
inductive DurationError where
  /-- It does not start with a number of at most 64 bits. -/
  | invalid (text : String)
  | unknownUnit (text : String)
  /-- The number of seconds does not fit 64 bits. -/
  | outOfRange (text : String)
  deriving DecidableEq, Repr

def DurationError.message : DurationError → String
  | .invalid t => "invalid duration: " ++ Text.quoted t
  | .unknownUnit t => "invalid duration unit in " ++ Text.quoted t
  | .outOfRange t => "duration out of range: " ++ Text.quoted t

namespace Duration

instance : LE Duration := ⟨fun a b => a.nanos ≤ b.nanos⟩
instance : LT Duration := ⟨fun a b => a.nanos < b.nanos⟩
instance : Add Duration := ⟨fun a b => ⟨a.nanos + b.nanos⟩⟩
instance (a b : Duration) : Decidable (a ≤ b) := inferInstanceAs (Decidable (a.nanos ≤ b.nanos))
instance (a b : Duration) : Decidable (a < b) := inferInstanceAs (Decidable (a.nanos < b.nanos))

def second : Nat := 1000000000

def millisecond : Nat := 1000000

def microsecond : Nat := 1000

def ofSecs (n : Nat) : Duration := ⟨n * second⟩

def ofMillis (n : Nat) : Duration := ⟨n * millisecond⟩

def secs (d : Duration) : Nat := d.nanos / second

/-- The seconds are a 64-bit word. Whatever is read from a text is in range; a sum of two spans is
taken only where it is in range too. -/
def InRange (d : Duration) : Prop := d.secs < word64

def subsecNanos (d : Duration) : Nat := d.nanos % second

def millis (d : Duration) : Nat := d.nanos / millisecond

def isZero (d : Duration) : Bool := d.nanos == 0

/-- The span that a number and a unit name; `text` is what an error quotes. -/
def ofUnit (text : String) (n : Nat) (unit : String) : Except DurationError Duration :=
  let seconds (m : Nat) : Except DurationError Duration :=
    if m < word64 then .ok (ofSecs m) else .error (.outOfRange text)
  match unit with
  | "" | "s" => .ok (ofSecs n)
  | "ms" => .ok (ofMillis n)
  | "m" => seconds (n * 60)
  | "h" => seconds (n * 3600)
  | _ => .error (.unknownUnit text)

/-- Reads a duration: blanks at the ends aside, decimal digits and then a unit. -/
def parse (s : String) : Except DurationError Duration :=
  let t := Text.trim s
  let number := t.toList.takeWhile Text.Decimal.isDigit
  let unit := t.toList.dropWhile Text.Decimal.isDigit
  if number = [] ∨ word64 ≤ Text.Decimal.value number then .error (.invalid t)
  else ofUnit t (Text.Decimal.value number) (String.ofList unit)

/-- Writes a duration as configuration files give it, in whole seconds where that loses no
millisecond and in milliseconds otherwise; nothing at all is written in milliseconds. -/
def format (d : Duration) : String :=
  if d.subsecNanos / millisecond ≠ 0 ∨ d.secs = 0 then Text.Decimal.text d.millis ++ "ms"
  else Text.Decimal.text d.secs ++ "s"

/-- The digits after the point of a fraction `part / scale`, where `scale` is a power of ten, without
zeros at the end. -/
def fractionDigits (part scale : Nat) : List Char :=
  let padded := (Text.Decimal.digits (scale + part)).drop 1
  (padded.reverse.dropWhile (· == '0')).reverse

/-- A count of `scale` nanoseconds each, with a fraction where one remains. -/
def scaled (nanos scale : Nat) (unit : String) : String :=
  let frac := fractionDigits (nanos % scale) scale
  let point := if frac.isEmpty then "" else "." ++ String.ofList frac
  Text.Decimal.text (nanos / scale) ++ point ++ unit

/-- The form of a span in messages: in the largest of the units s, ms, µs and ns of which it holds a
whole one. -/
def debugText (d : Duration) : String :=
  if second ≤ d.nanos then scaled d.nanos second "s"
  else if millisecond ≤ d.nanos then scaled d.nanos millisecond "ms"
  else if microsecond ≤ d.nanos then scaled d.nanos microsecond "µs"
  else scaled d.nanos 1 "ns"

end Duration
end WorkspaceFleet
