/-!
# WorkspaceFleet.Text.Decimal

Natural numbers in decimal digits: `digits` writes them, `value` reads them, `value_digits` says
that reading undoes writing.
-/

namespace WorkspaceFleet
namespace Text
namespace Decimal

def digitChar (n : Nat) : Char := Char.ofNat (48 + n)

def isDigit (c : Char) : Bool := 48 ≤ c.toNat && c.toNat ≤ 57

def digits (n : Nat) : List Char :=
  if n < 10 then [digitChar n] else digits (n / 10) ++ [digitChar (n % 10)]
termination_by n
decreasing_by omega

def value (cs : List Char) : Nat :=
  cs.foldl (fun acc c => acc * 10 + (c.toNat - 48)) 0

def text (n : Nat) : String := String.ofList (digits n)

theorem toNat_digitChar {n : Nat} (h : n < 10) : (digitChar n).toNat = 48 + n := by
  have : ∀ m : Fin 10, (digitChar m).toNat = 48 + m := by decide
  exact this ⟨n, h⟩

theorem value_append_singleton (cs : List Char) (c : Char) :
    value (cs ++ [c]) = value cs * 10 + (c.toNat - 48) := by
  simp [value]

theorem value_digits (n : Nat) : value (digits n) = n := by
  induction n using Nat.strongRecOn with
  | ind n ih =>
    rw [digits]
    split
    · next h => simp [value, toNat_digitChar h]
    · next h =>
      rw [value_append_singleton, ih (n / 10) (by omega), toNat_digitChar (by omega)]
      omega

theorem isDigit_of_mem_digits {n : Nat} {c : Char} (h : c ∈ digits n) : isDigit c = true := by
  induction n using Nat.strongRecOn with
  | ind n ih =>
    rw [digits] at h
    split at h
    · next hn =>
      simp only [List.mem_singleton] at h
      simp [h, isDigit, toNat_digitChar hn]
      omega
    · next hn =>
      rcases List.mem_append.1 h with h | h
      · exact ih (n / 10) (by omega) h
      · simp only [List.mem_singleton] at h
        simp [h, isDigit, toNat_digitChar (Nat.mod_lt n (by omega : 0 < 10))]
        omega

theorem digits_ne_nil (n : Nat) : digits n ≠ [] := by
  rw [digits]
  split <;> simp

end Decimal
end Text
end WorkspaceFleet
