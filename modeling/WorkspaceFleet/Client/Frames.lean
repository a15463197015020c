import WorkspaceFleet.Text.Utf8

/-!
# WorkspaceFleet.Client.Frames

The framing of a command's output.

The output of a command may come in frames: a byte for the stream (0, 1 or 2), three zero bytes, the
length in four bytes, most significant first, and then as many bytes of content. `Frames.split?` takes
frames apart and gives up where bytes are not framed throughout; `Frames.frame` makes one.
-/

namespace WorkspaceFleet
namespace Frames

/-- The number that four bytes denote, most significant first. -/
def length (a b c d : UInt8) : Nat :=
  ((a.toNat * 256 + b.toNat) * 256 + c.toNat) * 256 + d.toNat

/-- The contents of the frames that bytes are made of; none where they are not made of frames. -/
def split? : List UInt8 → Option (List (List UInt8))
  | [] => some []
  | stream :: z₁ :: z₂ :: z₃ :: a :: b :: c :: d :: rest =>
    if stream ≤ 2 ∧ z₁ = 0 ∧ z₂ = 0 ∧ z₃ = 0 ∧ length a b c d ≤ rest.length then
      (split? (rest.drop (length a b c d))).map (rest.take (length a b c d) :: ·)
    else none
  | _ => none
termination_by bytes => bytes.length
decreasing_by simp only [List.length_cons, List.length_drop]; omega

def frame (stream : UInt8) (content : List UInt8) : List UInt8 :=
  let n := content.length
  [stream, 0, 0, 0, UInt8.ofNat (n / 16777216), UInt8.ofNat (n / 65536), UInt8.ofNat (n / 256),
    UInt8.ofNat n] ++ content

/-- The text of an output: the contents of its frames one after the other, or all of it where it is not
framed. -/
def text (bytes : List UInt8) : String :=
  match split? bytes with
  | some contents => Text.Utf8.decode contents.flatten
  | none => Text.Utf8.decode bytes

end Frames
end WorkspaceFleet
