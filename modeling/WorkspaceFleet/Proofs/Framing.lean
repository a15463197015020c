import WorkspaceFleet.Client.Frames
import WorkspaceFleet.Proofs.Decoding
import WorkspaceFleet.Word

/-!
# WorkspaceFleet.Proofs.Framing

Outputs in frames, and outputs that are not.

A `Frame` is one that a daemon may send: of a stream that is known, and no longer than four bytes can
tell. `Frames.split?` takes apart what is made of such frames and nothing else
(`Frames.split?_eq_some_iff`), and there is one way of taking it apart (`Frames.bytes_inj`). The loop
that does it one round at a time, appending to what it has, looks at no byte that is not there
(`Frames.round?_bytes`, `Frames.Scans`) and comes to the same end: `Frames.text_exact_or_whole`.
-/

namespace WorkspaceFleet
namespace Frames

/-- A frame of one of the streams, with as much content as its length can tell. -/
structure Frame where
  stream : UInt8
  content : List UInt8
  known : stream ≤ 2
  short : content.length < word32

namespace Frame

theorem ext {f g : Frame} (stream : f.stream = g.stream) (content : f.content = g.content) :
    f = g := by
  cases f
  cases g
  cases stream
  cases content
  rfl

def bytes (f : Frame) : List UInt8 := frame f.stream f.content

end Frame

/-- Frames one after the other. -/
def bytes (frames : List Frame) : List UInt8 := frames.flatMap Frame.bytes

/-! ## Lengths in four bytes -/

theorem length_ofNat {n : Nat} (short : n < word32) :
    length (UInt8.ofNat (n / 16777216)) (UInt8.ofNat (n / 65536)) (UInt8.ofNat (n / 256))
      (UInt8.ofNat n) = n := by
  simp only [length, UInt8.toNat_ofNat', word32] at short ⊢
  omega

theorem length_lt (a b c d : UInt8) : length a b c d < word32 := by
  have ha := a.toNat_lt
  have hb := b.toNat_lt
  have hc := c.toNat_lt
  have hd := d.toNat_lt
  simp only [length, word32]
  omega

theorem frame_of_length {a b c d : UInt8} {content : List UInt8}
    (told : content.length = length a b c d) (stream : UInt8) :
    frame stream content = stream :: 0 :: 0 :: 0 :: a :: b :: c :: d :: content := by
  have ha := a.toNat_lt
  have hb := b.toNat_lt
  have hc := c.toNat_lt
  have hd := d.toNat_lt
  simp only [length] at told
  have hbytes : UInt8.ofNat (content.length / 16777216) = a ∧
      UInt8.ofNat (content.length / 65536) = b ∧ UInt8.ofNat (content.length / 256) = c ∧
      UInt8.ofNat content.length = d := by
    simp only [← UInt8.toNat_inj, UInt8.toNat_ofNat']
    omega
  simp only [frame, hbytes, List.cons_append, List.nil_append]

/-! ## Bytes that are frames -/

namespace Frame

theorem bytes_eq (f : Frame) : f.bytes = f.stream :: 0 :: 0 :: 0 ::
    UInt8.ofNat (f.content.length / 16777216) :: UInt8.ofNat (f.content.length / 65536) ::
    UInt8.ofNat (f.content.length / 256) :: UInt8.ofNat f.content.length :: f.content :=
  rfl

/-- What begins with a frame begins with no other. -/
theorem append_inj {f g : Frame} {u v : List UInt8} (same : f.bytes ++ u = g.bytes ++ v) :
    f = g ∧ u = v := by
  simp only [bytes_eq, List.cons_append, List.cons.injEq, true_and] at same
  obtain ⟨hstream, ha, hb, hc, hd, hrest⟩ := same
  have hlength : f.content.length = g.content.length := by
    rw [← length_ofNat f.short, ← length_ofNat g.short, ha, hb, hc, hd]
  obtain ⟨hcontent, huv⟩ := List.append_inj hrest hlength
  exact ⟨Frame.ext hstream hcontent, huv⟩

end Frame

@[simp] theorem bytes_nil : bytes [] = [] := rfl

@[simp] theorem bytes_cons (f : Frame) (frames : List Frame) :
    bytes (f :: frames) = f.bytes ++ bytes frames :=
  rfl

theorem bytes_cons_ne_nil (f : Frame) (frames : List Frame) : bytes (f :: frames) ≠ [] := by
  rw [bytes_cons, Frame.bytes_eq]
  exact List.cons_ne_nil _ _

/-- **One way to be frames.** -/
theorem bytes_inj {frames others : List Frame} (same : bytes frames = bytes others) :
    frames = others := by
  induction frames generalizing others with
  | nil =>
    cases others with
    | nil => rfl
    | cons g others => exact absurd same.symm (bytes_cons_ne_nil g others)
  | cons f frames ih =>
    cases others with
    | nil => exact absurd same (bytes_cons_ne_nil f frames)
    | cons g others =>
      obtain ⟨rfl, hrest⟩ := Frame.append_inj same
      rw [ih hrest]

/-! ## Taking frames apart -/

theorem split?_frame (f : Frame) (rest : List UInt8) :
    split? (f.bytes ++ rest) = (split? rest).map (f.content :: ·) := by
  simp only [Frame.bytes_eq, List.cons_append]
  rw [split?, length_ofNat f.short, if_pos ⟨f.known, rfl, rfl, rfl, by simp⟩, List.drop_left,
    List.take_left]

theorem split?_bytes_append (frames : List Frame) (rest : List UInt8) :
    split? (bytes frames ++ rest) = (split? rest).map (frames.map Frame.content ++ ·) := by
  induction frames with
  | nil => simp
  | cons f frames ih =>
    rw [bytes_cons, List.append_assoc, split?_frame, ih, Option.map_map]
    rfl

theorem split?_bytes (frames : List Frame) :
    split? (bytes frames) = some (frames.map Frame.content) := by
  simpa [split?] using split?_bytes_append frames []

theorem exists_of_split? {raw : List UInt8} {contents : List (List UInt8)}
    (split : split? raw = some contents) : ∃ frames, raw = bytes frames := by
  fun_induction split? raw generalizing contents with
  | case1 => exact ⟨[], rfl⟩
  | case2 stream z₁ z₂ z₃ a b c d rest fits ih =>
    obtain ⟨hknown, rfl, rfl, rfl, hlength⟩ := fits
    obtain ⟨_, hsplit, -⟩ := Option.map_eq_some_iff.1 split
    obtain ⟨frames, hframes⟩ := ih hsplit
    have htold : (rest.take (length a b c d)).length = length a b c d :=
      List.length_take_of_le hlength
    have hshort : (rest.take (length a b c d)).length < word32 := by
      rw [htold]
      exact length_lt a b c d
    refine ⟨⟨stream, rest.take (length a b c d), hknown, hshort⟩ :: frames, ?_⟩
    rw [bytes_cons, ← hframes, Frame.bytes, frame_of_length htold]
    simp only [List.cons_append, List.take_append_drop]
  | case3 => cases split
  | case4 => cases split

/-- **Frames are taken apart, and nothing else is.** -/
theorem split?_eq_some_iff (raw : List UInt8) (contents : List (List UInt8)) :
    split? raw = some contents ↔
      ∃ frames, raw = bytes frames ∧ contents = frames.map Frame.content := by
  constructor
  · intro split
    obtain ⟨frames, rfl⟩ := exists_of_split? split
    rw [split?_bytes, Option.some.injEq] at split
    exact ⟨frames, rfl, split.symm⟩
  · rintro ⟨frames, rfl, rfl⟩
    exact split?_bytes frames

theorem split?_eq_none_iff (raw : List UInt8) :
    split? raw = none ↔ ∀ frames, raw ≠ bytes frames := by
  constructor
  · rintro hnone frames rfl
    rw [split?_bytes] at hnone
    cases hnone
  · intro other
    cases hsplit : split? raw with
    | none => rfl
    | some contents =>
      obtain ⟨frames, hframes⟩ := exists_of_split? hsplit
      exact absurd hframes (other frames)

/-- A frame that is cut short is none, whatever frames come before it. -/
theorem ne_bytes_of_cut (frames : List Frame) (f : Frame) {k : Nat} (positive : 0 < k)
    (cut : k < f.bytes.length) (others : List Frame) :
    bytes frames ++ f.bytes.take k ≠ bytes others := by
  intro same
  induction frames generalizing others with
  | nil =>
    cases others with
    | nil =>
      have hlength : (f.bytes.take k).length = 0 := congrArg List.length same
      rw [List.length_take_of_le (Nat.le_of_lt cut)] at hlength
      exact absurd hlength (Nat.ne_of_gt positive)
    | cons g others =>
      rw [bytes_nil, List.nil_append, bytes_cons] at same
      have hf : f.bytes ++ [] = g.bytes ++ (bytes others ++ f.bytes.drop k) := by
        rw [← List.append_assoc, ← same, List.take_append_drop, List.append_nil]
      have hrest := (Frame.append_inj hf).2
      have hdropped : f.bytes.drop k = [] := (List.append_eq_nil_iff.1 hrest.symm).2
      exact absurd (List.drop_eq_nil_iff.1 hdropped) (Nat.not_le.2 cut)
  | cons g frames ih =>
    cases others with
    | nil =>
      rw [bytes_cons, List.append_assoc, Frame.bytes_eq] at same
      cases same
    | cons g' others =>
      rw [bytes_cons, bytes_cons, List.append_assoc] at same
      exact ih others (Frame.append_inj same).2

/-! ## Round by round -/

/-- The bytes from one place up to another; none where one of the places is outside. -/
def slice? (bytes : List UInt8) (first last : Nat) : Option (List UInt8) :=
  if first ≤ last ∧ last ≤ bytes.length then some (bytes.extract first last) else none

/-- How a round of the loop ends: with what there is of the output and of the bytes, or with nothing. -/
inductive Round where
  | goesOn (out rest : List UInt8)
  | givesUp

/-- One round: a frame is moved from the bytes to the output. There is no outcome where the round would
look at bytes outside, or count beyond what a word holds. -/
def round? (out rest : List UInt8) : Option Round := do
  if rest.length < 8 then return .givesUp
  if 2 < (← rest[0]?) then return .givesUp
  if (← slice? rest 1 4) ≠ [0, 0, 0] then return .givesUp
  let n := length (← rest[4]?) (← rest[5]?) (← rest[6]?) (← rest[7]?)
  if word64 ≤ 8 + n then none
  if rest.length < 8 + n then return .givesUp
  return .goesOn (out ++ (← slice? rest 8 (8 + n))) (← slice? rest (8 + n) rest.length)

/-- What rounds come to while there are bytes: an output at the end of them, or nothing. A run of the
loop that looks outside, or that does not end, comes to neither. -/
inductive Scans : List UInt8 → List UInt8 → Option (List UInt8) → Prop
  | ended (out : List UInt8) : Scans out [] (some out)
  | gaveUp {out rest : List UInt8} (more : rest ≠ []) (round : round? out rest = some .givesUp) :
    Scans out rest none
  | went {out rest out' rest' : List UInt8} {r : Option (List UInt8)} (more : rest ≠ [])
    (round : round? out rest = some (.goesOn out' rest')) (scans : Scans out' rest' r) :
    Scans out rest r

theorem Scans.unique {out rest : List UInt8} {r r' : Option (List UInt8)} (scans : Scans out rest r)
    (scans' : Scans out rest r') : r = r' := by
  induction scans generalizing r' with
  | ended =>
    cases scans' with
    | ended => rfl
    | gaveUp more => exact absurd rfl more
    | went more => exact absurd rfl more
  | gaveUp more round =>
    cases scans' with
    | ended => exact absurd rfl more
    | gaveUp => rfl
    | went _ round' =>
      rw [round] at round'
      cases round'
  | went more round _ ih =>
    cases scans' with
    | ended => exact absurd rfl more
    | gaveUp _ round' =>
      rw [round] at round'
      cases round'
    | went _ round' scans' =>
      rw [round] at round'
      cases round'
      exact ih scans'

theorem round?_of_short {out rest : List UInt8} (short : rest.length < 8) :
    round? out rest = some .givesUp := by
  simp only [round?, if_pos short]
  rfl

theorem slice?_eq_some {bytes : List UInt8} {first last : Nat} (ordered : first ≤ last)
    (inside : last ≤ bytes.length) : slice? bytes first last = some (bytes.extract first last) :=
  if_pos ⟨ordered, inside⟩

theorem round?_of_header (out : List UInt8) (stream z₁ z₂ z₃ a b c d : UInt8) (rest : List UInt8) :
    round? out (stream :: z₁ :: z₂ :: z₃ :: a :: b :: c :: d :: rest) =
      some (if stream ≤ 2 ∧ z₁ = 0 ∧ z₂ = 0 ∧ z₃ = 0 ∧ length a b c d ≤ rest.length then
        .goesOn (out ++ rest.take (length a b c d)) (rest.drop (length a b c d))
      else .givesUp) := by
  generalize hbytes : stream :: z₁ :: z₂ :: z₃ :: a :: b :: c :: d :: rest = bytes
  have hlength : bytes.length = 8 + rest.length := by
    rw [← hbytes]
    simp only [List.length_cons]
    omega
  have hplaces : bytes[0]? = some stream ∧ bytes[4]? = some a ∧ bytes[5]? = some b ∧
      bytes[6]? = some c ∧ bytes[7]? = some d := by
    subst hbytes
    exact ⟨rfl, rfl, rfl, rfl, rfl⟩
  have hzeros : slice? bytes 1 4 = some [z₁, z₂, z₃] := by
    rw [slice?_eq_some (by decide) (by omega), ← hbytes]
    rfl
  have hword : ¬ word64 ≤ 8 + length a b c d := by
    have := length_lt a b c d
    simp only [word32, word64] at this ⊢
    omega
  have hlong : ¬ 8 + rest.length < 8 := by omega
  simp only [round?, hplaces, hzeros, hword, hlength, hlong, if_false, Option.bind_eq_bind,
    Option.bind_some]
  by_cases fits : stream ≤ 2 ∧ z₁ = 0 ∧ z₂ = 0 ∧ z₃ = 0 ∧ length a b c d ≤ rest.length
  · have hcontent : slice? bytes 8 (8 + length a b c d) = some (rest.take (length a b c d)) := by
      rw [slice?_eq_some (by omega) (by omega), ← hbytes, List.extract_eq_take_drop]
      simp
    have hrest : slice? bytes (8 + length a b c d) (8 + rest.length) =
        some (rest.drop (length a b c d)) := by
      rw [slice?_eq_some (by omega) (by omega), ← hbytes, List.extract_eq_take_drop,
        Nat.add_sub_add_left, ← List.drop_drop, ← List.length_drop]
      exact congrArg some List.take_length
    obtain ⟨hknown, rfl, rfl, rfl, hinside⟩ := fits
    rw [if_neg (UInt8.not_lt.2 hknown), if_neg (not_not.2 rfl), if_neg (by omega), hcontent, hrest,
      if_pos ⟨hknown, rfl, rfl, rfl, hinside⟩]
    rfl
  · rw [if_neg fits]
    split_ifs with hstream hheader hinside
    · rfl
    · rfl
    · rfl
    · simp only [ne_eq, List.cons.injEq, and_true, not_not] at hheader
      exact absurd ⟨UInt8.not_lt.1 hstream, hheader.1, hheader.2.1, hheader.2.2, by omega⟩ fits

theorem short_or_header (bytes : List UInt8) : bytes.length < 8 ∨
    ∃ stream z₁ z₂ z₃ a b c d rest, bytes = stream :: z₁ :: z₂ :: z₃ :: a :: b :: c :: d :: rest := by
  match bytes with
  | stream :: z₁ :: z₂ :: z₃ :: a :: b :: c :: d :: rest =>
    exact .inr ⟨stream, z₁, z₂, z₃, a, b, c, d, rest, rfl⟩
  | [] | [_] | [_, _] | [_, _, _] | [_, _, _, _] | [_, _, _, _, _] | [_, _, _, _, _, _]
  | [_, _, _, _, _, _, _] =>
    exact .inl (by simp)

/-- **No round looks outside**, whatever the bytes are. -/
theorem round?_ne_none (out rest : List UInt8) : round? out rest ≠ none := by
  rcases short_or_header rest with hshort | ⟨stream, z₁, z₂, z₃, a, b, c, d, rest, rfl⟩
  · rw [round?_of_short hshort]
    exact Option.some_ne_none _
  · rw [round?_of_header]
    exact Option.some_ne_none _

/-- **The rounds take apart what is frames**: they append the contents to what there is, and give up on
bytes that are not framed throughout. -/
theorem scans (out rest : List UInt8) :
    Scans out rest ((split? rest).map fun contents => out ++ contents.flatten) := by
  fun_induction split? rest generalizing out with
  | case1 => simpa using Scans.ended out
  | case2 stream z₁ z₂ z₃ a b c d rest fits ih =>
    have hround := round?_of_header out stream z₁ z₂ z₃ a b c d rest
    rw [if_pos fits] at hround
    have hscans := Scans.went (List.cons_ne_nil _ _) hround (ih _)
    rw [Option.map_map]
    simpa [Function.comp_def] using hscans
  | case3 stream z₁ z₂ z₃ a b c d rest fits =>
    have hround := round?_of_header out stream z₁ z₂ z₃ a b c d rest
    rw [if_neg fits] at hround
    exact .gaveUp (List.cons_ne_nil _ _) hround
  | case4 rest hnil hother =>
    rcases short_or_header rest with hshort | ⟨stream, z₁, z₂, z₃, a, b, c, d, rest, rfl⟩
    · exact .gaveUp hnil (round?_of_short hshort)
    · exact (hother stream z₁ z₂ z₃ a b c d rest rfl).elim

/-! ## Outputs -/

theorem text_bytes (frames : List Frame) :
    text (bytes frames) = Text.Utf8.decode (frames.flatMap Frame.content) := by
  rw [text, split?_bytes, List.flatMap_def]

theorem text_of_ne_bytes {raw : List UInt8} (other : ∀ frames, raw ≠ bytes frames) :
    text raw = Text.Utf8.decode raw := by
  rw [text, (split?_eq_none_iff raw).2 other]

/-- **An output comes without its framing, or as it is.** Of bytes that are frames, in the one way in
which they are, it is the contents one after the other, also where a character is cut in two by a
frame's end; of any others, such as frames of which the last is cut short, it is all of them. The loop
comes to the same, ends, and looks at no byte outside. -/
theorem text_exact_or_whole (raw : List UInt8) :
    (∀ frames, raw = bytes frames →
      text raw = Text.Utf8.decode (frames.flatMap Frame.content) ∧
      (∀ s, frames.flatMap Frame.content = Text.Utf8.encode s → text raw = s) ∧
      ∀ others, raw = bytes others → others = frames) ∧
    ((∀ frames, raw ≠ bytes frames) → text raw = Text.Utf8.decode raw) ∧
    (∀ (frames : List Frame) (f : Frame) (k : Nat), raw = bytes frames ++ f.bytes.take k →
      0 < k → k < f.bytes.length → text raw = Text.Utf8.decode raw) ∧
    (∃ r, Scans [] raw r ∧ (∀ r', Scans [] raw r' → r' = r) ∧
      text raw = Text.Utf8.decode (r.getD raw)) ∧
    ∀ out rest, round? out rest ≠ none := by
  refine ⟨?frames, text_of_ne_bytes, ?cut, ?loop, round?_ne_none⟩
  case frames =>
    rintro frames rfl
    refine ⟨text_bytes frames, ?_, fun others same => bytes_inj same.symm⟩
    intro s hs
    rw [text_bytes, hs, Text.Utf8.decode_encode]
  case cut =>
    rintro frames f k rfl positive cut
    exact text_of_ne_bytes (ne_bytes_of_cut frames f positive cut)
  case loop =>
    refine ⟨_, scans [] raw, fun r' scans' => scans'.unique (scans [] raw), ?_⟩
    rw [text]
    cases split? raw with
    | none => rfl
    | some contents => rfl

/-- Two frames of the first stream with one character between them; and the first of them whole and the
second without its content. -/
theorem text_exact_or_whole_cut :
    let f : Frame := ⟨1, [104, 195], by decide, by decide⟩
    let g : Frame := ⟨1, [169], by decide, by decide⟩
    let cut := bytes [f] ++ g.bytes.take 8
    text (bytes [f, g]) = "h\u00E9" ∧ Scans [] (bytes [f, g]) (some [104, 195, 169]) ∧
      text cut = Text.Utf8.decode cut ∧ Scans [] cut none := by
  intro f g cut
  have hframes := text_exact_or_whole (bytes [f, g])
  have hcut := text_exact_or_whole cut
  have htext : text cut = Text.Utf8.decode cut :=
    hcut.2.2.1 [f] g 8 rfl (by decide) (by decide)
  refine ⟨(hframes.1 [f, g] rfl).2.1 _ (by decide +kernel), ?_, htext, ?_⟩
  · have hscans := scans [] (bytes [f, g])
    rw [split?_bytes] at hscans
    exact hscans
  · have hscans := scans [] cut
    rw [(split?_eq_none_iff cut).2 (ne_bytes_of_cut [f] g (by decide) (by decide))] at hscans
    exact hscans

end Frames
end WorkspaceFleet
