import Mathlib.Data.List.Induction
import Mathlib.Data.List.TakeWhile
import Mathlib.Data.Nat.Digits.Defs
import WorkspaceFleet.Duration
import WorkspaceFleet.Proofs.Numerals

/-!
# WorkspaceFleet.Proofs.Spelling

Which texts are durations, and of what is not one the error that says so.

A text between blanks (`Text.Trimmed`) begins with a number and goes on with a unit
(`Duration.Begins`); there is one way to take it apart so. `Duration.Denotes` says which span a number
and a unit are, with no number of seconds beyond a word. `Duration.parse_exact` is the whole of it:
what is read, what is refused and with which message.
-/

namespace WorkspaceFleet

namespace Text

/-! ## Texts between blanks -/

/-- `t` is what is left of `s` when blanks are taken off at both ends. -/
structure Trimmed (s t : String) : Prop where
  split : ∃ before after, s.toList = before ++ t.toList ++ after ∧
    (∀ c ∈ before, isBlank c = true) ∧ ∀ c ∈ after, isBlank c = true
  first : ∀ c, t.toList.head? = some c → isBlank c = false
  last : ∀ c, t.toList.getLast? = some c → isBlank c = false

section Lists

variable {p : Char → Bool} {cs : List Char} {c : Char}

theorem dropWhile_eq_self (h : ∀ c, cs.head? = some c → p c = false) : cs.dropWhile p = cs := by
  cases cs with
  | nil => rfl
  | cons c cs => rw [List.dropWhile_cons_of_neg (by rw [h c rfl]; decide)]

theorem head?_dropWhile (h : (cs.dropWhile p).head? = some c) : p c = false := by
  have := List.head?_dropWhile_not p cs
  rwa [h] at this

end Lists

theorem toList_trim (s : String) : (trim s).toList = trimChars s.toList := String.toList_ofList

/-- What is taken off at the end, once it is taken off at the beginning. -/
theorem trimChars_append (cs : List Char) :
    trimChars cs ++ ((cs.dropWhile isBlank).reverse.takeWhile isBlank).reverse =
      cs.dropWhile isBlank := by
  rw [trimChars, ← List.reverse_append, List.takeWhile_append_dropWhile, List.reverse_reverse]

theorem trimmed_trim (s : String) : Trimmed s (trim s) where
  split := by
    refine ⟨s.toList.takeWhile isBlank,
      ((s.toList.dropWhile isBlank).reverse.takeWhile isBlank).reverse, ?_,
      fun c hc => List.mem_takeWhile_imp hc,
      fun c hc => List.mem_takeWhile_imp (List.mem_reverse.1 hc)⟩
    rw [toList_trim, List.append_assoc, trimChars_append, List.takeWhile_append_dropWhile]
  first := by
    intro c hc
    rw [toList_trim] at hc
    have hfirst : (s.toList.dropWhile isBlank).head? = some c := by
      rw [← trimChars_append, List.head?_append, hc]
      rfl
    exact head?_dropWhile hfirst
  last := by
    intro c hc
    rw [toList_trim, trimChars, List.getLast?_reverse] at hc
    exact head?_dropWhile hc

/-- There is one such text. -/
theorem Trimmed.eq_trim {s t : String} (trimmed : Trimmed s t) : trim s = t := by
  obtain ⟨before, after, hs, hbefore, hafter⟩ := trimmed.split
  rw [← String.toList_inj, toList_trim, hs, List.append_assoc, trimChars,
    List.dropWhile_append_of_pos hbefore]
  cases ht : t.toList with
  | nil =>
    rw [List.nil_append, List.dropWhile_eq_nil_iff.2 hafter]
    rfl
  | cons c cs =>
    have hfirst : ∀ x, (c :: cs ++ after).head? = some x → isBlank x = false := by
      rintro x ⟨⟩
      exact trimmed.first c (by rw [ht]; rfl)
    have hlast : ∀ x, (c :: cs).reverse.head? = some x → isBlank x = false := by
      intro x hx
      rw [List.head?_reverse, ← ht] at hx
      exact trimmed.last x hx
    have hafter' : ∀ x ∈ after.reverse, isBlank x = true := fun x hx =>
      hafter x (List.mem_reverse.1 hx)
    rw [dropWhile_eq_self hfirst, List.reverse_append, List.dropWhile_append_of_pos hafter',
      dropWhile_eq_self hlast, List.reverse_reverse]

/-! ## Numbers -/

namespace Decimal

/-- The last digit counts once, the one before it ten times, and so on. -/
theorem value_eq_ofDigits (cs : List Char) :
    value cs = Nat.ofDigits 10 (cs.reverse.map fun c => c.toNat - '0'.toNat) := by
  induction cs using List.reverseRecOn with
  | nil => rfl
  | append_singleton cs c ih =>
    rw [value_append_singleton, ih, List.reverse_append, List.reverse_singleton,
      List.singleton_append, List.map_cons, Nat.ofDigits_cons]
    show _ * 10 + (c.toNat - 48) = c.toNat - 48 + 10 * _
    omega

end Decimal
end Text

namespace Duration

open Text (Trimmed)
open Text.Decimal (isDigit value)

variable {s t unit : String} {n : Nat} {d : Duration}

/-- The text begins with a number in decimal digits, as many as there are, and goes on with `unit`. -/
def Begins (t : String) (n : Nat) (unit : String) : Prop :=
  ∃ digits : List Char, t.toList = digits ++ unit.toList ∧ digits ≠ [] ∧
    (∀ c ∈ digits, c.isDigit = true) ∧ (∀ c, unit.toList.head? = some c → c.isDigit = false) ∧
    n = Nat.ofDigits 10 (digits.reverse.map fun c => c.toNat - '0'.toNat)

/-- The span that a number and a unit name. Seconds are counted in a word. -/
inductive Denotes : Nat → String → Duration → Prop where
  | bare (n : Nat) : Denotes n "" (.ofSecs n)
  | seconds (n : Nat) : Denotes n "s" (.ofSecs n)
  | milliseconds (n : Nat) : Denotes n "ms" (.ofMillis n)
  | minutes {n : Nat} (fits : 60 * n < word64) : Denotes n "m" (.ofSecs (60 * n))
  | hours {n : Nat} (fits : 3600 * n < word64) : Denotes n "h" (.ofSecs (3600 * n))

theorem begins_iff : Begins t n unit ↔ t.toList.takeWhile isDigit ≠ [] ∧
    n = value (t.toList.takeWhile isDigit) ∧
    unit = String.ofList (t.toList.dropWhile isDigit) := by
  constructor
  · rintro ⟨digits, ht, hnonempty, hdigits, hunit, rfl⟩
    obtain ⟨htake, hdrop⟩ := Json.span_digits hdigits hunit
    rw [ht, htake, hdrop, String.ofList_toList]
    exact ⟨hnonempty, (Text.Decimal.value_eq_ofDigits digits).symm, rfl⟩
  · rintro ⟨hnonempty, rfl, rfl⟩
    refine ⟨t.toList.takeWhile isDigit, ?_, hnonempty, fun c hc => List.mem_takeWhile_imp hc, ?_,
      Text.Decimal.value_eq_ofDigits _⟩
    · rw [String.toList_ofList, List.takeWhile_append_dropWhile]
    · rw [String.toList_ofList]
      exact fun c hc => Text.head?_dropWhile hc

/-! ## Units -/

theorem ofUnit_of_denotes (denotes : Denotes n unit d) : ofUnit t n unit = .ok d := by
  cases denotes with
  | bare => rfl
  | seconds => rfl
  | milliseconds => rfl
  | minutes fits =>
    rw [Nat.mul_comm] at fits ⊢
    exact if_pos fits
  | hours fits =>
    rw [Nat.mul_comm] at fits ⊢
    exact if_pos fits

/-- A number and a unit that are no span: too many minutes or hours, or another unit. -/
theorem ofUnit_of_not_denotes (none : ∀ d, ¬ Denotes n unit d) :
    ofUnit t n unit =
      .error (if unit = "m" ∨ unit = "h" then .outOfRange t else .unknownUnit t) := by
  unfold ofUnit
  split
  · exact absurd (.bare n) (none _)
  · exact absurd (.seconds n) (none _)
  · exact absurd (.milliseconds n) (none _)
  · have hrange : ¬ n * 60 < word64 := fun fits =>
      none _ (.minutes (Nat.mul_comm n 60 ▸ fits))
    rw [if_pos (.inl rfl)]
    exact if_neg hrange
  · have hrange : ¬ n * 3600 < word64 := fun fits =>
      none _ (.hours (Nat.mul_comm n 3600 ▸ fits))
    rw [if_pos (.inr rfl)]
    exact if_neg hrange
  · next hminutes hhours =>
    rw [if_neg fun h => h.elim hminutes hhours]

theorem ofUnit_eq_ok_iff : ofUnit t n unit = .ok d ↔ Denotes n unit d := by
  refine ⟨fun h => ?_, ofUnit_of_denotes⟩
  by_cases hdenotes : ∃ d', Denotes n unit d'
  · obtain ⟨d', denotes⟩ := hdenotes
    cases (ofUnit_of_denotes denotes).symm.trans h
    exact denotes
  · cases (ofUnit_of_not_denotes (not_exists.1 hdenotes)).symm.trans h

/-! ## Texts -/

theorem parse_of_begins (trimmed : Trimmed s t) (begins : Begins t n unit) (fits : n < word64) :
    parse s = ofUnit t n unit := by
  obtain ⟨hnonempty, rfl, rfl⟩ := begins_iff.1 begins
  rw [parse, trimmed.eq_trim]
  exact if_neg fun h => h.elim hnonempty (Nat.not_le.2 fits)

/-- A text without a number in front that a word holds, whatever comes then. -/
theorem parse_of_not_begins (trimmed : Trimmed s t)
    (none : ∀ n unit, Begins t n unit → word64 ≤ n) : parse s = .error (.invalid t) := by
  rw [parse, trimmed.eq_trim]
  refine if_pos ?_
  by_cases hnonempty : t.toList.takeWhile isDigit = []
  · exact .inl hnonempty
  · exact .inr (none _ _ (begins_iff.2 ⟨hnonempty, rfl, rfl⟩))

theorem parse_eq_ok_iff (trimmed : Trimmed s t) :
    parse s = .ok d ↔ ∃ n unit, Begins t n unit ∧ n < word64 ∧ Denotes n unit d := by
  constructor
  · intro h
    by_cases hbegins : ∃ n unit, Begins t n unit ∧ n < word64
    · obtain ⟨n, unit, begins, fits⟩ := hbegins
      rw [parse_of_begins trimmed begins fits, ofUnit_eq_ok_iff] at h
      exact ⟨n, unit, begins, fits, h⟩
    · have hnone : ∀ n unit, Begins t n unit → word64 ≤ n := fun n unit begins =>
        Nat.not_lt.1 fun fits => hbegins ⟨n, unit, begins, fits⟩
      cases (parse_of_not_begins trimmed hnone).symm.trans h
  · rintro ⟨n, unit, begins, fits, denotes⟩
    rw [parse_of_begins trimmed begins fits, ofUnit_of_denotes denotes]

/-- **What is read as a duration, and what is said of the rest.** Between its blanks a text is a
number that a word holds, followed by a unit with which it is a span, and then it is read as that
span. If there is no such number in front, that is what the message says, whatever follows; if there
is one, the message is about the range for minutes and hours, and about the unit for any other. -/
theorem parse_exact (s : String) : ∃ t, Trimmed s t ∧
    (∀ d, parse s = .ok d ↔ ∃ n unit, Begins t n unit ∧ n < word64 ∧ Denotes n unit d) ∧
    ((∀ n unit, Begins t n unit → word64 ≤ n) →
      ∃ e, parse s = .error e ∧ e.message = "invalid duration: " ++ Text.quoted t) ∧
    ∀ n unit, Begins t n unit → n < word64 → (∀ d, ¬ Denotes n unit d) →
      ∃ e, parse s = .error e ∧
        e.message = (if unit = "m" ∨ unit = "h" then "duration out of range: "
          else "invalid duration unit in ") ++ Text.quoted t := by
  have trimmed := Text.trimmed_trim s
  refine ⟨Text.trim s, trimmed, fun d => parse_eq_ok_iff trimmed, fun hnone => ?_,
    fun n unit begins fits hnone => ?_⟩
  · exact ⟨_, parse_of_not_begins trimmed hnone, rfl⟩
  · refine ⟨_, (parse_of_begins trimmed begins fits).trans (ofUnit_of_not_denotes hnone), ?_⟩
    split <;> rfl

/-- The largest number that a word holds is one of seconds, but not of minutes, and no larger one is
read, whatever its unit. -/
theorem parse_exact_largest :
    (∃ n unit, Begins "18446744073709551615s" n unit ∧ n < word64 ∧
      Denotes n unit (.ofSecs (word64 - 1))) ∧
    (∃ e, parse " 18446744073709551615m\n" = .error e ∧
      e.message = "duration out of range: " ++ Text.quoted "18446744073709551615m") ∧
    ∃ e, parse "18446744073709551616x" = .error e ∧
      e.message = "invalid duration: " ++ Text.quoted "18446744073709551616x" := by
  refine ⟨?_, ?_, ?_⟩
  · obtain ⟨t, trimmed, hread, -, -⟩ := parse_exact "18446744073709551615s"
    obtain rfl : t = "18446744073709551615s" := trimmed.eq_trim.symm.trans (by decide +kernel)
    exact (hread _).1 (by decide +kernel)
  · obtain ⟨t, trimmed, -, -, hunit⟩ := parse_exact " 18446744073709551615m\n"
    obtain rfl : t = "18446744073709551615m" := trimmed.eq_trim.symm.trans (by decide +kernel)
    have begins : Begins "18446744073709551615m" 18446744073709551615 "m" :=
      begins_iff.2 (by decide +kernel)
    have hminutes : ofUnit "" 18446744073709551615 "m" = .error (.outOfRange "") := by
      decide +kernel
    refine hunit _ _ begins (by decide) fun d denotes => ?_
    cases hminutes.symm.trans (ofUnit_of_denotes denotes)
  · obtain ⟨t, trimmed, -, hnumber, -⟩ := parse_exact "18446744073709551616x"
    obtain rfl : t = "18446744073709551616x" := trimmed.eq_trim.symm.trans (by decide +kernel)
    refine hnumber fun n unit begins => ?_
    obtain ⟨-, hn, -⟩ := begins_iff.1 begins
    rw [hn]
    decide +kernel

end Duration
end WorkspaceFleet
