import FactStore.Proofs.Number.Digits
import Mathlib.Data.List.TakeWhile

/-
  This file proves that the positional text of a decimal is
  read as the same number: digits behind the point are taken
  as they stand, and zeros before the point are digits.

  Key definitions include:
    * `Decimal.spread`

  Main statements include:
    * `Decimal.read?_positional`
-/

namespace FactStore

namespace Decimal

/-
  The decimal with all its digits written out: a positive
  power of ten becomes part of the coefficient.
-/
def spread (d : Decimal) : Decimal :=
  ⟨d.numerator, min d.exponent 0⟩

/- Digits without a point are read as a whole number. -/
theorem read?_of_isDigit
    {ds : List Char}
    (hNonempty : ds ≠ [])
    (hDigits : ∀ c ∈ ds, c.isDigit = true) :
    read? ds = some ⟨digitsValue 0 ds, 0⟩ := by
  have hWhole : ds.takeWhile Char.isDigit = ds :=
    List.takeWhile_eq_self_iff.mpr hDigits
  have hRest : ds.dropWhile Char.isDigit = [] :=
    List.dropWhile_eq_nil_iff.mpr hDigits
  simp [read?, hWhole, hRest, hNonempty, exponent?, digitsValue]

/- Digits around a point are read as one coefficient. -/
theorem read?_of_point
    {ds es : List Char}
    (hNonempty : ds ≠ [])
    (hDigits : ∀ c ∈ ds, c.isDigit = true)
    (hPlaces : ∀ c ∈ es, c.isDigit = true) :
    read? (ds ++ '.' :: es) =
      some ⟨digitsValue 0 (ds ++ es), -es.length⟩ := by
  have hPoint : Char.isDigit '.' = false := by decide
  have hWhole :
      (ds ++ '.' :: es).takeWhile Char.isDigit = ds := by
    rw [List.takeWhile_append_of_pos hDigits,
      List.takeWhile_cons_of_neg (by simp [hPoint]),
      List.append_nil]
  have hRest :
      (ds ++ '.' :: es).dropWhile Char.isDigit = '.' :: es := by
    rw [List.dropWhile_append_of_pos hDigits,
      List.dropWhile_cons_of_neg (by simp [hPoint])]
  have hAfter : es.takeWhile Char.isDigit = es :=
    List.takeWhile_eq_self_iff.mpr hPlaces
  have hTail : es.dropWhile Char.isDigit = [] :=
    List.dropWhile_eq_nil_iff.mpr hPlaces
  simp [read?, hWhole, hRest, hAfter, hTail, hNonempty,
    exponent?, digitsValue_append]

/- The positional text of a decimal is read as that decimal. -/
theorem read?_positional (d : Decimal) :
    read? d.positional = some d.spread := by
  have hDigits := isDigit_of_mem_digits d.coefficient
  have hZeros :
      ∀ n, ∀ c ∈ List.replicate n '0', c.isDigit = true := by
    intro n c hc
    rw [(List.mem_replicate.mp hc).2]
    rfl
  have hJoined :
      ∀ {cs ds : List Char}, (∀ c ∈ cs, c.isDigit = true) →
        (∀ c ∈ ds, c.isDigit = true) →
          ∀ c ∈ cs ++ ds, c.isDigit = true := by
    intro cs ds hcs hds c hc
    rcases List.mem_append.mp hc with h | h
    · exact hcs c h
    · exact hds c h
  unfold positional
  simp only
  split
  · rename_i hWhole
    have hExponent : 0 ≤ d.exponent := by omega
    rw [read?_of_isDigit (by simp) (hJoined hDigits (hZeros _)),
      digitsValue_append, digitsValue_toDigits,
      digitsValue_eq_add, digitsValue_zeros]
    simp [spread, numerator, Integer.power_eq_pow, hExponent]
  · rename_i hPlaces
    have hExponent : d.exponent < 0 := by omega
    have hSpread : d.spread = ⟨d.coefficient, d.exponent⟩ := by
      have hZero : d.exponent.toNat = 0 := by omega
      simp [spread, numerator, hZero, Integer.power,
        Int.min_eq_left (Int.le_of_lt hExponent)]
    split
    · rename_i hShort
      rw [read?_of_point ?_
        (fun c hc => hDigits c (List.mem_of_mem_take hc))
        (fun c hc => hDigits c (List.mem_of_mem_drop hc)),
        List.take_append_drop, digitsValue_toDigits, hSpread,
        List.length_drop]
      · congr 2
        omega
      · rw [← List.length_pos_iff, List.length_take]
        omega
    · rename_i hLong
      change read? (List.replicate 1 '0' ++ '.' :: _) = _
      rw [read?_of_point (by simp) (hZeros 1)
          (hJoined (hZeros _) hDigits),
        ← List.append_assoc, digitsValue_append, hSpread]
      have hZero :
          digitsValue 0
            (List.replicate 1 '0' ++ List.replicate
              ((-d.exponent).toNat -
                (Nat.toDigits 10 d.coefficient).length) '0') =
            0 :=
        digitsValue_zeros (_ + 1)
      rw [hZero, digitsValue_toDigits]
      congr 2
      simp only [List.length_append, List.length_replicate]
      omega

/- The positional text has digits and at most a point. -/
theorem isNumeral_positional (d : Decimal) :
    Text.IsNumeral d.positional := by
  have hDigits :
      Text.IsNumeral (Nat.toDigits 10 d.coefficient) :=
    Text.isNumeral_of_isDigit (isDigit_of_mem_digits _)
  have hZeros : ∀ n, Text.IsNumeral (List.replicate n '0') := by
    intro n c hc
    rw [(List.mem_replicate.mp hc).2]
    decide
  unfold positional
  simp only
  split
  · exact Text.isNumeral_append hDigits (hZeros _)
  · split
    · refine Text.isNumeral_append ?_
        (Text.isNumeral_cons (by decide) ?_)
      · exact fun c hc => hDigits c (List.mem_of_mem_take hc)
      · exact fun c hc => hDigits c (List.mem_of_mem_drop hc)
    · exact Text.isNumeral_cons (by decide)
        (Text.isNumeral_cons (by decide)
          (Text.isNumeral_append (hZeros _) hDigits))

/- The positional text starts with a digit. -/
theorem exists_positional_eq_cons (d : Decimal) :
    ∃ c cs, d.positional = c :: cs ∧ c.isDigit = true := by
  rcases Integer.exists_toDigits_eq_cons d.coefficient with
    ⟨c, cs, hDigits, hDigit⟩
  unfold positional
  simp only [hDigits]
  split
  · exact ⟨c, _, rfl, hDigit⟩
  · split
    · rename_i hShort
      obtain ⟨n, hn⟩ :
          ∃ n, (c :: cs).length - (-d.exponent).toNat = n + 1 :=
        ⟨_, (Nat.succ_pred_eq_of_pos
          (Nat.sub_pos_of_lt hShort)).symm⟩
      rw [hn]
      exact ⟨c, _, rfl, hDigit⟩
    · exact ⟨'0', _, rfl, rfl⟩

end Decimal

end FactStore
