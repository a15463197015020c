import Mathlib.Data.List.TakeWhile
import WorkspaceFleet.Proofs.ByteOrder

/-!
# WorkspaceFleet.Proofs.Decoding

What is read of bytes that are UTF-8.

`Utf8.decode` reads any bytes. Of the encoding of a character it reads the character and nothing of
what follows (`Utf8.first_encodeChar`), so a text that was encoded comes back as it was, whatever the
bytes after it are (`Utf8.decode_encode_append`).
-/

namespace WorkspaceFleet
namespace Text
namespace Utf8

/-! ## First bytes -/

theorem lead?_two {b : UInt8} (lower : 0xC2 ≤ b.toNat) (upper : b.toNat ≤ 0xDF) :
    lead? b = some (0x80, 0xBF, 1) := by
  have h : (0xC2 : UInt8) ≤ b ∧ b ≤ 0xDF := ⟨lower, upper⟩
  simp [lead?, h]

theorem lead?_three {b : UInt8} (lower : 0xE0 ≤ b.toNat) (upper : b.toNat ≤ 0xEF) :
    lead? b = some (if b = 0xE0 then 0xA0 else 0x80, if b = 0xED then 0x9F else 0xBF, 2) := by
  have hmany : ¬ b ≤ 0xDF := fun h => absurd (Nat.le_trans lower h) (by decide)
  have hupper : b ≤ 0xEF := upper
  by_cases hfirst : b = 0xE0
  · simp [lead?, hfirst]
  · by_cases hsurrogate : b = 0xED
    · simp [lead?, hsurrogate]
    · have hlower : (0xE1 : UInt8) ≤ b := by
        have hne : b.toNat ≠ 0xE0 := fun h => hfirst (UInt8.toNat_inj.1 h)
        show 0xE1 ≤ b.toNat
        omega
      simp [lead?, hmany, hfirst, hsurrogate, hlower, hupper]

theorem lead?_four {b : UInt8} (lower : 0xF0 ≤ b.toNat) (upper : b.toNat ≤ 0xF4) :
    lead? b = some (if b = 0xF0 then 0x90 else 0x80, if b = 0xF4 then 0x8F else 0xBF, 3) := by
  have hmany : ∀ x : UInt8, x.toNat < 0xF0 → ¬ b ≤ x :=
    fun x hx h => absurd (Nat.le_trans lower h) (Nat.not_le.2 hx)
  have hne : ∀ x : UInt8, x.toNat < 0xF0 → b ≠ x := by
    rintro x hx rfl
    exact hmany b hx (UInt8.le_refl b)
  have htwo := hmany 0xDF (by decide)
  have hthree := hmany 0xEF (by decide)
  by_cases hfirst : b = 0xF0
  · simp [lead?, hfirst]
  · by_cases hlast : b = 0xF4
    · simp [lead?, hlast]
    · have hwithin : (0xF1 : UInt8) ≤ b ∧ b ≤ 0xF3 := by
        have hne : b.toNat ≠ 0xF0 := fun h => hfirst (UInt8.toNat_inj.1 h)
        have hne' : b.toNat ≠ 0xF4 := fun h => hlast (UInt8.toNat_inj.1 h)
        show 0xF1 ≤ b.toNat ∧ b.toNat ≤ 0xF3
        omega
      simp [lead?, htwo, hthree, hne 0xE0 (by decide), hne 0xED (by decide), hfirst, hlast,
        hwithin]

/-- A character of several bytes is complete if its second byte is one that the first admits and the
others continue it. -/
theorem first_of_lead {b c low high : UInt8} {more : List UInt8} (large : 0x80 ≤ b.toNat)
    (lead : lead? b = some (low, high, more.length + 1)) (lower : low ≤ c) (upper : c ≤ high)
    (continues : ∀ x ∈ more, isContinuation x = true) (rest : List UInt8) :
    first b (c :: more ++ rest) =
      (some (Char.ofNat (codePoint b (c :: more))), more.length + 1) := by
  have htaken : ((more ++ rest).take (more.length + 1 - 1)).takeWhile isContinuation = more := by
    rw [Nat.add_sub_cancel, List.take_left, List.takeWhile_eq_self_iff]
    exact continues
  have hadmitted : (decide (low ≤ c) && decide (c ≤ high)) = true := by simp [lower, upper]
  have hlarge : ¬ b < 0x80 := Nat.not_lt.2 large
  simp only [first, if_neg hlarge, lead, List.cons_append, hadmitted, if_true, htaken,
    List.length_cons]

/-! ## Characters -/

/-- A byte that carries six bits of a character. -/
def continuing (n : Nat) : UInt8 := UInt8.ofNat (n % 64 + 128)

theorem toNat_continuing (n : Nat) : (continuing n).toNat = n % 64 + 128 := by
  rw [continuing, UInt8.toNat_ofNat']
  omega

theorem le_continuing (n : Nat) : 0x80 ≤ continuing n := by
  show 0x80 ≤ (continuing n).toNat
  rw [toNat_continuing]
  omega

theorem continuing_le (n : Nat) : continuing n ≤ 0xBF := by
  show (continuing n).toNat ≤ 0xBF
  rw [toNat_continuing]
  omega

theorem isContinuation_continuing (n : Nat) : isContinuation (continuing n) = true := by
  rw [isContinuation, decide_eq_true (le_continuing n), decide_eq_true (continuing_le n)]
  rfl

theorem first_one {n : Nat} (upper : n ≤ 0x7F) (rest : List UInt8) :
    first (UInt8.ofNat n) rest = (some (Char.ofNat n), 0) := by
  have hn : (UInt8.ofNat n).toNat = n := by
    rw [UInt8.toNat_ofNat']
    omega
  have hsmall : UInt8.ofNat n < 0x80 := by
    show (UInt8.ofNat n).toNat < 0x80
    omega
  simp only [first, if_pos hsmall, hn]

theorem first_two {n : Nat} (lower : 0x80 ≤ n) (upper : n ≤ 0x7FF) (rest : List UInt8) :
    first (UInt8.ofNat (n / 64 % 32 + 192)) ([continuing n] ++ rest) =
      (some (Char.ofNat n), 1) := by
  have hb : (UInt8.ofNat (n / 64 % 32 + 192)).toNat = n / 64 + 192 := by
    rw [UInt8.toNat_ofNat']
    omega
  have hlead := lead?_two (b := UInt8.ofNat (n / 64 % 32 + 192)) (by omega) (by omega)
  have hpoint : codePoint (UInt8.ofNat (n / 64 % 32 + 192)) [continuing n] = n := by
    show (UInt8.toNat _ % 32) * 64 + (continuing n).toNat % 64 = n
    rw [hb, toNat_continuing]
    omega
  rw [first_of_lead (by omega) hlead (le_continuing n) (continuing_le n) (List.forall_mem_nil _),
    hpoint]
  rfl

theorem first_three {n : Nat} (lower : 0x800 ≤ n) (upper : n ≤ 0xFFFF)
    (scalar : n < 0xD800 ∨ 0xDFFF < n) (rest : List UInt8) :
    first (UInt8.ofNat (n / 4096 % 16 + 224)) ([continuing (n / 64), continuing n] ++ rest) =
      (some (Char.ofNat n), 2) := by
  have hb : (UInt8.ofNat (n / 4096 % 16 + 224)).toNat = n / 4096 + 224 := by
    rw [UInt8.toNat_ofNat']
    omega
  have hlead := lead?_three (b := UInt8.ofNat (n / 4096 % 16 + 224)) (by omega) (by omega)
  have hpoint : codePoint (UInt8.ofNat (n / 4096 % 16 + 224))
      [continuing (n / 64), continuing n] = n := by
    show ((UInt8.toNat _ % 16) * 64 + (continuing (n / 64)).toNat % 64) * 64 +
      (continuing n).toNat % 64 = n
    rw [hb, toNat_continuing, toNat_continuing]
    omega
  rw [first_of_lead (by omega) hlead ?_ ?_ (by simp [isContinuation_continuing]), hpoint]
  · rfl
  · -- no character of fewer bytes has this form
    split
    · next hfirst =>
      rw [hfirst] at hb
      change 0xE0 = _ at hb
      show 0xA0 ≤ (continuing (n / 64)).toNat
      rw [toNat_continuing]
      omega
    · exact le_continuing _
  · -- nor has half of a pair of code units
    split
    · next hsurrogate =>
      rw [hsurrogate] at hb
      change 0xED = _ at hb
      show (continuing (n / 64)).toNat ≤ 0x9F
      rw [toNat_continuing]
      omega
    · exact continuing_le _

theorem first_four {n : Nat} (lower : 0x10000 ≤ n) (upper : n < 0x110000) (rest : List UInt8) :
    first (UInt8.ofNat (n / 262144 % 8 + 240))
        ([continuing (n / 4096), continuing (n / 64), continuing n] ++ rest) =
      (some (Char.ofNat n), 3) := by
  have hb : (UInt8.ofNat (n / 262144 % 8 + 240)).toNat = n / 262144 + 240 := by
    rw [UInt8.toNat_ofNat']
    omega
  have hlead := lead?_four (b := UInt8.ofNat (n / 262144 % 8 + 240)) (by omega) (by omega)
  have hpoint : codePoint (UInt8.ofNat (n / 262144 % 8 + 240))
      [continuing (n / 4096), continuing (n / 64), continuing n] = n := by
    show (((UInt8.toNat _ % 8) * 64 + (continuing (n / 4096)).toNat % 64) * 64 +
      (continuing (n / 64)).toNat % 64) * 64 + (continuing n).toNat % 64 = n
    rw [hb, toNat_continuing, toNat_continuing, toNat_continuing]
    omega
  rw [first_of_lead (by omega) hlead ?_ ?_ (by simp [isContinuation_continuing]), hpoint]
  · rfl
  · split
    · next hfirst =>
      rw [hfirst] at hb
      change 0xF0 = _ at hb
      show 0x90 ≤ (continuing (n / 4096)).toNat
      rw [toNat_continuing]
      omega
    · exact le_continuing _
  · split
    · next hlast =>
      rw [hlast] at hb
      change 0xF4 = _ at hb
      show (continuing (n / 4096)).toNat ≤ 0x8F
      rw [toNat_continuing]
      omega
    · exact continuing_le _

/-- **A character that was encoded** is read, and nothing after it. -/
theorem first_encodeChar (c : Char) : ∃ b following,
    String.utf8EncodeChar c = b :: following ∧
      ∀ rest, first b (following ++ rest) = (some c, following.length) := by
  have hscalar : c.val.toNat < 0x110000 ∧ (c.val.toNat < 0xD800 ∨ 0xDFFF < c.val.toNat) := by
    rcases c.valid with hlow | ⟨hhigh, hmax⟩
    · exact ⟨Nat.lt_trans hlow (by decide), .inl hlow⟩
    · exact ⟨hmax, .inr hhigh⟩
  have hread : ∀ k : Nat, (some (Char.ofNat c.val.toNat), k) = (some c, k) := by
    intro k
    rw [← Char.toNat, Char.ofNat_toNat]
  unfold String.utf8EncodeChar
  dsimp only
  split_ifs with hone htwo hthree
  · exact ⟨_, _, rfl, fun rest => (first_one hone rest).trans (hread _)⟩
  · exact ⟨_, _, rfl, fun rest => (first_two (by omega) htwo rest).trans (hread _)⟩
  · exact ⟨_, _, rfl, fun rest => (first_three (by omega) hthree hscalar.2 rest).trans (hread _)⟩
  · exact ⟨_, _, rfl, fun rest => (first_four (by omega) hscalar.1 rest).trans (hread _)⟩

/-! ## Texts -/

theorem decodeChars_encode_append (cs : List Char) (rest : List UInt8) :
    decodeChars (cs.flatMap String.utf8EncodeChar ++ rest) = cs ++ decodeChars rest := by
  induction cs with
  | nil => rfl
  | cons c cs ih =>
    obtain ⟨b, following, hc, hfirst⟩ := first_encodeChar c
    rw [List.flatMap_cons, hc, List.append_assoc, List.cons_append, decodeChars, hfirst]
    dsimp only
    rw [List.drop_left, ih]
    rfl

/-- **A text that was encoded** comes back, and then what is read of the bytes after it. -/
theorem decode_encode_append (s : String) (rest : List UInt8) :
    decode (encode s ++ rest) = s ++ decode rest := by
  rw [decode, encode_eq_flatMap, decodeChars_encode_append, String.ofList_append,
    String.ofList_toList]
  rfl

@[simp] theorem decode_nil : decode [] = "" := by
  rw [decode, decodeChars]

@[simp] theorem decode_encode (s : String) : decode (encode s) = s := by
  simpa using decode_encode_append s []

end Utf8
end Text
end WorkspaceFleet
