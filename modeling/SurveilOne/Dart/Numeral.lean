import SurveilOne.Dart.Text
import Mathlib.Data.List.TakeWhile

/-!
# Numbers in a text

Decimal numbers, alone and padded to two digits, and texts put together from them with
separators.  A number is read back from its text, and a text up to its first separator
from the whole, so the parts of such a text are known from it.
-/

namespace Dart

namespace Text

/-- A text is cut at its first separator in one way. -/
theorem append_separator_inj {c : Char} {x y s t : Text} (hx : c ∉ x) (hy : c ∉ y) :
    x ++ c :: s = y ++ c :: t ↔ x = y ∧ s = t := by
  constructor
  · intro h
    have hxy : x = y := by
      rw [← takeWhile_append_separator hx s, h, takeWhile_append_separator hy t]
    subst hxy
    exact ⟨rfl, (List.cons.inj (List.append_cancel_left h)).2⟩
  · rintro ⟨rfl, rfl⟩
    rfl

/-- `n.toString()`. -/
def decimal (n : Nat) : Text := Nat.toDigits 10 n

/-- `n.toString().padLeft(2, '0')`. -/
def twoDigits (n : Nat) : Text := List.leftpad 2 '0' (decimal n)

theorem decimal_inj {m n : Nat} : decimal m = decimal n ↔ m = n := by
  refine ⟨fun h => ?_, fun h => h ▸ rfl⟩
  calc
    m = Nat.ofDigitChars 10 (decimal m) 0 := Nat.ofDigitChars_ten_toDigits.symm
    _ = Nat.ofDigitChars 10 (decimal n) 0 := by rw [h]
    _ = n := Nat.ofDigitChars_ten_toDigits

theorem intText_ofNat (n : Nat) : (toString (Int.ofNat n)).toList = decimal n := Nat.toList_repr

theorem intText_negSucc (n : Nat) : (toString (Int.negSucc n)).toList = '-' :: decimal (n + 1) := by
  show ("-" ++ Nat.repr (n + 1)).toList = _
  rw [String.toList_append, Nat.toList_repr]
  rfl

/-- The padding does not change the number. -/
theorem ofDigitChars_twoDigits (n : Nat) : Nat.ofDigitChars 10 (twoDigits n) 0 = n := by
  rw [twoDigits, List.leftpad, Nat.ofDigitChars_append, Nat.ofDigitChars_replicate_zero,
    Nat.mul_zero]
  exact Nat.ofDigitChars_ten_toDigits

theorem twoDigits_inj {m n : Nat} : twoDigits m = twoDigits n ↔ m = n := by
  refine ⟨fun h => ?_, fun h => h ▸ rfl⟩
  rw [← ofDigitChars_twoDigits m, h, ofDigitChars_twoDigits]

section NotMem

variable {c : Char} (hc : c.isDigit = false)

include hc

theorem notMem_decimal (n : Nat) : c ∉ decimal n := by
  intro hmem
  have hdigit : c.isDigit = true := Nat.isDigit_of_mem_toDigits (by decide) (by decide) hmem
  rw [hc] at hdigit
  cases hdigit

theorem notMem_twoDigits (n : Nat) : c ∉ twoDigits n := by
  intro hmem
  rw [twoDigits, List.leftpad] at hmem
  rcases List.mem_append.mp hmem with hmem | hmem
  · obtain rfl := (List.mem_replicate.mp hmem).2
    cases hc
  · exact notMem_decimal hc n hmem

theorem notMem_intText (hminus : c ≠ '-') (i : Int) : c ∉ (toString i).toList := by
  intro hmem
  cases i with
  | ofNat n =>
    rw [intText_ofNat] at hmem
    exact notMem_decimal hc n hmem
  | negSucc n =>
    rw [intText_negSucc] at hmem
    rcases List.mem_cons.mp hmem with hmem | hmem
    · exact hminus hmem
    · exact notMem_decimal hc (n + 1) hmem

end NotMem

theorem intText_inj {i j : Int} : (toString i).toList = (toString j).toList ↔ i = j := by
  refine ⟨fun h => ?_, fun h => h ▸ rfl⟩
  cases i with
  | ofNat m =>
    cases j with
    | ofNat n =>
      rw [intText_ofNat, intText_ofNat, decimal_inj] at h
      rw [h]
    | negSucc n =>
      rw [intText_ofNat, intText_negSucc] at h
      exact absurd (h ▸ List.mem_cons_self) (notMem_decimal (by decide) m)
  | negSucc m =>
    cases j with
    | ofNat n =>
      rw [intText_negSucc, intText_ofNat] at h
      exact absurd (h ▸ List.mem_cons_self) (notMem_decimal (by decide) n)
    | negSucc n =>
      rw [intText_negSucc, intText_negSucc, List.cons.injEq, decimal_inj] at h
      rw [Nat.succ.inj h.2]

end Text

end Dart
