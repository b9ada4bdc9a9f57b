/-!
# Decimal digits

How `Nat.toDigits` writes a natural number: with decimal digits only, and without a leading zero
unless the number is zero.
-/

namespace RpcHost
namespace Text

variable {n : Nat}

theorem toDigits_of_lt_ten (h : n < 10) : Nat.toDigits 10 n = [n.digitChar] :=
  Nat.toDigits_of_lt_base h

theorem toDigits_of_ten_le (h : 10 ≤ n) :
    Nat.toDigits 10 n = Nat.toDigits 10 (n / 10) ++ [(n % 10).digitChar] :=
  Nat.toDigits_of_base_le (by decide) h

theorem digitChar_eq_zero (h : n < 10) (hzero : n.digitChar = '0') : n = 0 := by
  have hall : ∀ m : Fin 10, m.val.digitChar = '0' → m.val = 0 := by
    decide
  exact hall ⟨n, h⟩ hzero

/-- Only zero begins with the digit zero. -/
theorem eq_zero_of_toDigits_zero {ds : List Char} (h : Nat.toDigits 10 n = '0' :: ds) : n = 0 := by
  induction n using Nat.strongRecOn generalizing ds with
  | ind n ih =>
      by_cases hsmall : n < 10
      · rw [toDigits_of_lt_ten hsmall] at h
        exact digitChar_eq_zero hsmall (List.cons.inj h).1
      · -- The first digit is the first digit of a tenth of the number, which is not zero.
        rw [toDigits_of_ten_le (by omega)] at h
        cases hfront : Nat.toDigits 10 (n / 10) with
        | nil => exact absurd hfront Nat.toDigits_ne_nil
        | cons c front =>
            rw [hfront] at h
            have hc : c = '0' := (List.cons.inj h).1
            have htenth : n / 10 = 0 := ih (n / 10) (by omega) (hc ▸ hfront)
            omega

theorem toDigits_cons (n : Nat) : ∃ c ds, Nat.toDigits 10 n = c :: ds ∧ c.isDigit = true := by
  cases h : Nat.toDigits 10 n with
  | nil => exact absurd h Nat.toDigits_ne_nil
  | cons c ds =>
      refine ⟨c, ds, rfl, ?_⟩
      exact Nat.isDigit_of_mem_toDigits (by decide) (by decide) (h ▸ List.mem_cons_self)

/-- Where no digit follows, all digits of the number are taken and nothing else. -/
theorem takeWhile_toDigits {rest : List Char} (h : ∀ c ∈ rest.head?, c.isDigit = false) :
    (Nat.toDigits 10 n ++ rest).takeWhile Char.isDigit = Nat.toDigits 10 n
    ∧ (Nat.toDigits 10 n ++ rest).dropWhile Char.isDigit = rest := by
  have hdigits : ∀ c ∈ Nat.toDigits 10 n, c.isDigit = true := by
    intro c hc
    exact Nat.isDigit_of_mem_toDigits (by decide) (by decide) hc
  rw [List.takeWhile_append_of_pos hdigits, List.dropWhile_append_of_pos hdigits]
  cases rest with
  | nil => simp
  | cons c rest =>
      have hc : c.isDigit = false := h c rfl
      simp [hc]

/-- The digit of the value of a digit. -/
theorem toDigits_of_isDigit {c : Char} (h : c.isDigit = true) :
    c.toNat - '0'.toNat < 10 ∧ Nat.toDigits 10 (c.toNat - '0'.toNat) = [c] := by
  have hrange : 48 ≤ c.toNat ∧ c.toNat ≤ 57 := Char.isDigit_iff_toNat.1 h
  have hzero : '0'.toNat = 48 := rfl
  have hsmall : c.toNat - '0'.toNat < 10 := by
    omega
  have hchar : Nat.digitChar (c.toNat - '0'.toNat) = c := by
    refine Char.toNat_inj.1 ?_
    rw [Nat.toNat_digitChar_of_lt_ten hsmall]
    omega
  exact ⟨hsmall, by rw [toDigits_of_lt_ten hsmall, hchar]⟩

/-- Further digits after those of a number other than zero. -/
theorem toDigits_append_digits {cs : List Char} (hn : 0 < n) (hcs : ∀ c ∈ cs, c.isDigit = true) :
    Nat.toDigits 10 n ++ cs = Nat.toDigits 10 (Nat.ofDigitChars 10 cs n) := by
  induction cs generalizing n with
  | nil => simp
  | cons c cs ih =>
      rcases List.forall_mem_cons.1 hcs with ⟨hc, hrest⟩
      rcases toDigits_of_isDigit hc with ⟨hsmall, hdigit⟩
      calc
        Nat.toDigits 10 n ++ c :: cs
            = (Nat.toDigits 10 n ++ Nat.toDigits 10 (c.toNat - '0'.toNat)) ++ cs := by
              rw [hdigit, List.append_assoc, List.singleton_append]
        _ = Nat.toDigits 10 (10 * n + (c.toNat - '0'.toNat)) ++ cs := by
              rw [Nat.toDigits_append_toDigits (by decide) hn hsmall]
        _ = Nat.toDigits 10 (Nat.ofDigitChars 10 (c :: cs) n) := by
              rw [ih (by omega) hrest, Nat.ofDigitChars_cons]

/-- Digits without a leading zero are the digits of their number. -/
theorem toDigits_ofDigitChars {c : Char} {cs : List Char} (hcs : ∀ d ∈ c :: cs, d.isDigit = true)
    (hzero : c = '0' → cs = []) : Nat.toDigits 10 (Nat.ofDigitChars 10 (c :: cs) 0) = c :: cs := by
  rcases List.forall_mem_cons.1 hcs with ⟨hc, hrest⟩
  rcases toDigits_of_isDigit hc with ⟨_, hdigit⟩
  rw [Nat.ofDigitChars_cons, Nat.mul_zero, Nat.zero_add]
  by_cases hfirst : c.toNat - '0'.toNat = 0
  · have hc : c = '0' := by
      rw [hfirst] at hdigit
      exact (List.cons.inj hdigit).1.symm
    rw [hzero hc, Nat.ofDigitChars_nil, hdigit]
  · rw [← toDigits_append_digits (by omega) hrest, hdigit, List.singleton_append]

/-- A whole number as text: a sign when it is negative, and its digits. -/
theorem toList_toString_int (i : Int) :
    (toString i).toList = (if i < 0 then ['-'] else []) ++ Nat.toDigits 10 i.natAbs := by
  rw [Int.toString_eq_repr, Int.repr_eq_if]
  split
  · rename_i hpositive
    have habs : i.toNat = i.natAbs := by
      omega
    simp [Nat.toList_repr, habs, Int.not_lt.2 hpositive]
  · rename_i hnegative
    have habs : (-i).toNat = i.natAbs := by
      omega
    simp [Nat.toList_repr, habs, Int.not_le.1 hnegative]

end Text
end RpcHost
