import Mathlib.Data.String.Basic
import WorkspaceFleet.Text.Utf8

/-!
# WorkspaceFleet.Proofs.ByteOrder

Texts are in the order of their bytes.

The model compares texts character by character. Of two characters the smaller one has the smaller
encoding, and the two encodings differ within both (`Utf8.below_encodeChar`), so that it does not
matter what follows them; hence texts are ordered as their encodings are (`Utf8.encode_lt_iff`).
-/

namespace WorkspaceFleet
namespace Text
namespace Utf8

theorem toList_loop (bytes : ByteArray) (i : Nat) (read : List UInt8) :
    ByteArray.toList.loop bytes i read = read.reverse ++ bytes.data.toList.drop i := by
  rw [ByteArray.toList.loop]
  split
  · next hi =>
    have hget : bytes.get! i = bytes.data.toList[i] := getElem!_pos bytes.data i hi
    rw [toList_loop bytes (i + 1), List.reverse_cons, List.append_assoc, hget,
      List.singleton_append, List.getElem_cons_drop]
  · next hi =>
    rw [List.drop_eq_nil_of_le (Nat.le_of_not_lt hi), List.append_nil]
termination_by bytes.size - i

/-- The encoding, character by character. -/
theorem encode_eq_flatMap (s : String) : encode s = s.toList.flatMap String.utf8EncodeChar := by
  show ByteArray.toList.loop s.toByteArray 0 [] = _
  rw [toList_loop, List.reverse_nil, List.nil_append, List.drop_zero, ← String.utf8Encode_toList,
    List.utf8Encode, List.toList_data_toByteArray]

/-- The first is smaller at a place within both, and they are equal up to there. -/
def Below : List UInt8 → List UInt8 → Prop
  | x :: u, y :: v => x < y ∨ x = y ∧ Below u v
  | _, _ => False

theorem Below.append_lt {u v : List UInt8} (h : Below u v) (u' v' : List UInt8) :
    u ++ u' < v ++ v' := by
  induction u generalizing v with
  | nil => cases h
  | cons x u ih =>
    cases v with
    | nil => cases h
    | cons y v =>
      rw [List.cons_append, List.cons_append, List.cons_lt_cons_iff]
      exact h.imp_right fun ⟨same, later⟩ => ⟨same, ih later⟩

/-- **The smaller character** has the smaller encoding, and the larger one does not begin with
it. -/
theorem below_encodeChar {c d : Char} (h : c < d) :
    Below (String.utf8EncodeChar c) (String.utf8EncodeChar d) := by
  have hlt : c.val.toNat < d.val.toNat := h
  have hmax : ∀ x : Char, x.val.toNat < 0x110000 := by
    intro x
    rcases x.valid with hlow | ⟨-, hhigh⟩
    · exact Nat.lt_trans hlow (by decide)
    · exact hhigh
  have hc := hmax c
  have hd := hmax d
  unfold String.utf8EncodeChar
  dsimp only
  generalize c.val.toNat = m at *
  generalize d.val.toNat = n at *
  -- the bytes after the first are digits to the base 64
  have hplaces : ∀ k : Nat, k / 4096 = k / 64 / 64 ∧ k / 262144 = k / 64 / 64 / 64 := by omega
  simp only [hplaces]
  split_ifs <;>
    simp (disch := omega) only [Below, UInt8.lt_iff_toNat_lt, ← UInt8.toNat_inj,
      UInt8.toNat_ofNat', Nat.mod_eq_of_lt, and_false, or_false] <;>
    omega

theorem encode_lt {s t : String} (h : s < t) : encode s < encode t := by
  rw [encode_eq_flatMap, encode_eq_flatMap]
  rw [String.lt_iff] at h
  generalize s.toList = cs at *
  generalize t.toList = ds at *
  induction cs generalizing ds with
  | nil =>
    cases ds with
    | nil => exact absurd h (List.lt_irrefl _)
    | cons d ds =>
      rw [List.flatMap_cons]
      cases hd : String.utf8EncodeChar d with
      | nil => exact absurd hd String.utf8EncodeChar_ne_nil
      | cons y v => exact List.nil_lt_cons _ _
  | cons c cs ih =>
    cases ds with
    | nil => exact absurd h (List.not_lt_nil _)
    | cons d ds =>
      rw [List.flatMap_cons, List.flatMap_cons]
      rcases List.cons_lt_cons_iff.1 h with smaller | ⟨rfl, later⟩
      · exact (below_encodeChar smaller).append_lt _ _
      · exact List.append_left_lt (ih ds later)

/-- **The order of texts** is that of their bytes. -/
theorem encode_lt_iff {s t : String} : encode s < encode t ↔ s < t := by
  refine ⟨fun h => ?_, encode_lt⟩
  rcases lt_trichotomy s t with hlt | rfl | hgt
  · exact hlt
  · exact absurd h (List.lt_irrefl _)
  · exact absurd h (List.lt_asymm (encode_lt hgt))

end Utf8
end Text
end WorkspaceFleet
