/-!
# WorkspaceFleet.Text.Utf8

Bytes read as UTF-8.

`Utf8.decode` reads any bytes: where they are not UTF-8 it puts U+FFFD in the place of the longest
run that could still have become a character, or of a single byte. `Utf8.decode?` reads only bytes
that are UTF-8 throughout.
-/

namespace WorkspaceFleet
namespace Text
namespace Utf8

def encode (s : String) : List UInt8 := s.toUTF8.toList

def isContinuation (b : UInt8) : Bool := 0x80 ≤ b && b ≤ 0xBF

/-- The lowest and the highest second byte that a first byte admits, and how many bytes follow it;
none where it starts no character of several bytes. -/
def lead? (b : UInt8) : Option (UInt8 × UInt8 × Nat) :=
  if 0xC2 ≤ b && b ≤ 0xDF then some (0x80, 0xBF, 1)
  else if b == 0xE0 then some (0xA0, 0xBF, 2)
  else if b == 0xED then some (0x80, 0x9F, 2)
  else if 0xE1 ≤ b && b ≤ 0xEF then some (0x80, 0xBF, 2)
  else if b == 0xF0 then some (0x90, 0xBF, 3)
  else if 0xF1 ≤ b && b ≤ 0xF3 then some (0x80, 0xBF, 3)
  else if b == 0xF4 then some (0x80, 0x8F, 3)
  else none

/-- The bits that a first byte of a character of `n + 1` bytes carries. -/
def leadBits (b : UInt8) (n : Nat) : Nat := b.toNat % Nat.pow 2 (6 - n)

def codePoint (b : UInt8) (following : List UInt8) : Nat :=
  following.foldl (fun n c => n * 64 + c.toNat % 64) (leadBits b following.length)

/-- The character that starts with a byte, if the bytes after it complete it, and how many of them
belong to it or to the attempt at it. -/
def first (b : UInt8) (rest : List UInt8) : Option Char × Nat :=
  if b < 0x80 then (some (Char.ofNat b.toNat), 0)
  else
    match lead? b, rest with
    | some (low, high, n), c :: more =>
      if low ≤ c && c ≤ high then
        let following := c :: (more.take (n - 1)).takeWhile isContinuation
        if following.length = n then (some (Char.ofNat (codePoint b following)), n)
        else (none, following.length)
      else (none, 0)
    | _, _ => (none, 0)

def decodeChars : List UInt8 → List Char
  | [] => []
  | b :: rest =>
    let next := first b rest
    next.1.getD (Char.ofNat 0xFFFD) :: decodeChars (rest.drop next.2)
termination_by l => l.length
decreasing_by simp only [List.length_cons, List.length_drop]; omega

/-- The text of bytes, with U+FFFD for what is not UTF-8. -/
def decode (bytes : List UInt8) : String := String.ofList (decodeChars bytes)

/-- The text of bytes that are UTF-8 throughout. -/
def decode? (bytes : List UInt8) : Option String :=
  String.fromUTF8? ⟨bytes.toArray⟩

end Utf8
end Text
end WorkspaceFleet
