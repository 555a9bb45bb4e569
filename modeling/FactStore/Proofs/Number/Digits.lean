import FactStore.Number.Decimal
import FactStore.Text.Blank
import Mathlib.Tactic.Ring

/-
  This file proves that the digits of a number are read as
  that number, and that bounded integers are read back from
  their decimal text.

  Key definitions include:
    * `Text.IsPlain`
    * `Text.IsNumeral`

  Main statements include:
    * `Decimal.digitsValue_toDigits`
    * `Integer.readUnsigned_digits`
    * `Integer.readSigned_digits`
-/

namespace FactStore

------------------------------------------------------------
-- Plain Texts
------------------------------------------------------------

namespace Text

/- A text without blanks and without backslashes. -/
def IsPlain (cs : List Char) : Prop :=
  ∀ c ∈ cs, isBlank c = false ∧ c ≠ '\\'

instance (cs : List Char) : Decidable (IsPlain cs) :=
  List.decidableBAll
    (fun c => isBlank c = false ∧ c ≠ '\\') cs

/- The characters that numbers are written with. -/
def isNumeral (c : Char) : Bool :=
  c.isDigit || ['-', '.', 'i', 'n', 'f', 'N', 'a'].contains c

/- A text of such characters. -/
def IsNumeral (cs : List Char) : Prop :=
  ∀ c ∈ cs, isNumeral c = true

instance (cs : List Char) : Decidable (IsNumeral cs) :=
  List.decidableBAll (fun c => isNumeral c = true) cs

theorem isNumeral_append
    {cs ds : List Char}
    (hFirst : IsNumeral cs)
    (hSecond : IsNumeral ds) : IsNumeral (cs ++ ds) := by
  intro c hc
  rcases List.mem_append.mp hc with h | h
  · exact hFirst c h
  · exact hSecond c h

theorem isNumeral_cons
    {c : Char}
    {cs : List Char}
    (hHead : isNumeral c = true)
    (hTail : IsNumeral cs) : IsNumeral (c :: cs) := by
  intro d hd
  rcases List.mem_cons.mp hd with rfl | h
  · exact hHead
  · exact hTail d h

theorem isNumeral_of_isDigit
    {cs : List Char}
    (h : ∀ c ∈ cs, c.isDigit = true) : IsNumeral cs := by
  intro c hc
  rw [isNumeral, h c hc, Bool.true_or]

/- Numbers are written without blanks and backslashes. -/
theorem isPlain_of_isNumeral
    {cs : List Char}
    (h : IsNumeral cs) : IsPlain cs := by
  intro c hc
  have hNumeral := h c hc
  rw [isNumeral, Bool.or_eq_true] at hNumeral
  rcases hNumeral with hDigit | hOther
  · simp only [Char.isDigit, ge_iff_le, Bool.and_eq_true,
      decide_eq_true_eq] at hDigit
    have hLow : 48 ≤ c.toNat := hDigit.1
    have hHigh : c.toNat ≤ 57 := hDigit.2
    constructor
    · simp [isBlank, inRanges, blankRanges]
      omega
    · rintro rfl
      exact absurd hHigh (by decide)
  · rw [List.contains_iff_mem] at hOther
    have hPlain :
        ∀ d ∈ ['-', '.', 'i', 'n', 'f', 'N', 'a'],
          isBlank d = false ∧ d ≠ '\\' := by
      simp [isBlank, inRanges, blankRanges]
    exact hPlain c hOther

/- Trimming leaves a text alone that has no blanks. -/
theorem trim_of_isPlain
    {cs : List Char}
    (h : IsPlain cs) : trim cs = cs := by
  have hStart : cs.dropWhile isBlank = cs := by
    cases cs with
    | nil => rfl
    | cons c cs =>
        rw [List.dropWhile_cons_of_neg]
        simp [(h c List.mem_cons_self).1]
  have hEnd : cs.reverse.dropWhile isBlank = cs.reverse := by
    cases hReverse : cs.reverse with
    | nil => rfl
    | cons c ds =>
        have hc : c ∈ cs := by
          rw [← List.mem_reverse, hReverse]
          exact List.mem_cons_self
        rw [List.dropWhile_cons_of_neg]
        simp [(h c hc).1]
  rw [trim, hStart, trimEnd, hEnd, List.reverse_reverse]

end Text

------------------------------------------------------------
-- Digits
------------------------------------------------------------

/- The digits of a number are digits. -/
theorem isDigit_of_mem_digits
    (n : Nat) :
    ∀ c ∈ Nat.toDigits 10 n, c.isDigit = true :=
  fun _ hc =>
    Nat.isDigit_of_mem_toDigits (by decide) (by decide) hc

namespace Integer

theorem power_eq_pow (base n : Nat) : power base n = base ^ n := by
  induction n with
  | zero => rfl
  | succ n ih => rw [power, ih, Nat.pow_succ, Nat.mul_comm]

end Integer

namespace Decimal

/- Digits are read from the left, one part after the other. -/
theorem digitsValue_append
    (value : Nat)
    (ds es : List Char) :
    digitsValue value (ds ++ es) =
      digitsValue (digitsValue value ds) es := by
  simp [digitsValue]

/- Digits behind a known value shift that value to the left. -/
theorem digitsValue_eq_add
    (value : Nat)
    (ds : List Char) :
    digitsValue value ds =
      value * 10 ^ ds.length + digitsValue 0 ds := by
  induction ds generalizing value with
  | nil => simp [digitsValue]
  | cons c ds ih =>
      have hCons : ∀ v, digitsValue v (c :: ds) =
          digitsValue (10 * v + Integer.digitValue c) ds :=
        fun _ => rfl
      rw [hCons, hCons, ih (10 * value + _), ih (10 * 0 + _),
        List.length_cons]
      ring

/- The digits of a number are read as that number. -/
theorem digitsValue_toDigits (n : Nat) :
    digitsValue 0 (Nat.toDigits 10 n) = n := by
  induction n using Nat.strongRecOn with
  | ind n ih =>
      have hLast :
          ∀ d < 10, Integer.digitValue d.digitChar = d :=
        fun d hd => Nat.toNat_digitChar_sub_48_of_lt_ten hd
      by_cases hSmall : n < 10
      · rw [Nat.toDigits_of_lt_base hSmall]
        simp [digitsValue, hLast n hSmall]
      · rw [Nat.toDigits_of_base_le (by decide) (by omega),
          digitsValue_append, ih (n / 10) (by omega)]
        change 10 * (n / 10) + Integer.digitValue _ = n
        rw [hLast (n % 10) (Nat.mod_lt n (by decide))]
        exact Nat.div_add_mod n 10

/- Zeros in front of digits add nothing. -/
theorem digitsValue_zeros (n : Nat) :
    digitsValue 0 (List.replicate n '0') = 0 := by
  induction n with
  | zero => rfl
  | succ n ih => exact ih

end Decimal

------------------------------------------------------------
-- Bounded Integers
------------------------------------------------------------

namespace Integer

/- Digits within a bound are read as the number they write. -/
theorem readDigits_of_le
    {bound : Nat}
    {beyond : NumberFault}
    (ds : List Char) :
    ∀ {value : Nat},
      (∀ c ∈ ds, c.isDigit = true) →
        Decimal.digitsValue value ds ≤ bound →
          readDigits bound beyond value ds =
            .ok (Decimal.digitsValue value ds) := by
  induction ds with
  | nil => exact fun _ _ => rfl
  | cons c ds ih =>
      intro value hDigits hBound
      have hDigit := hDigits c List.mem_cons_self
      have hValue : 10 * value + digitValue c ≤ bound := by
        refine Nat.le_trans ?_ hBound
        change _ ≤ Decimal.digitsValue (10 * value + _) ds
        rw [Decimal.digitsValue_eq_add]
        refine Nat.le_trans ?_ (Nat.le_add_right _ _)
        exact Nat.le_mul_of_pos_right _ (Nat.pow_pos (by decide))
      rw [readDigits, if_pos hDigit, if_pos hValue]
      exact ih (fun d hd => hDigits d (List.mem_cons_of_mem _ hd))
        hBound

/- The digits of a number within the bound are read back. -/
theorem readMagnitude_toDigits
    {bound n : Nat}
    (beyond : NumberFault)
    (hBound : n ≤ bound) :
    readMagnitude bound beyond (Nat.toDigits 10 n) = .ok n := by
  have hRead :
      readDigits bound beyond 0 (Nat.toDigits 10 n) = .ok n := by
    rw [readDigits_of_le _ (isDigit_of_mem_digits n)
      (by rwa [Decimal.digitsValue_toDigits]),
      Decimal.digitsValue_toDigits]
  cases hDigits : Nat.toDigits 10 n with
  | nil => exact absurd hDigits Nat.toDigits_ne_nil
  | cons c cs =>
      rw [hDigits] at hRead
      exact hRead

/- The digits of a number start with a digit, not with a sign. -/
theorem exists_toDigits_eq_cons (n : Nat) :
    ∃ c cs, Nat.toDigits 10 n = c :: cs ∧ c.isDigit = true := by
  rcases
      List.exists_cons_of_ne_nil (Nat.toDigits_ne_nil (n := n)) with
    ⟨c, cs, hDigits⟩
  refine ⟨c, cs, hDigits, isDigit_of_mem_digits n c ?_⟩
  rw [hDigits]
  exact List.mem_cons_self

/- A number within the bound is read back from its digits. -/
theorem readUnsigned_digits
    {bound n : Nat}
    (hBound : n ≤ bound) :
    readUnsigned bound (digits n) = .ok n := by
  have hMagnitude := readMagnitude_toDigits .tooLarge hBound
  change readUnsigned bound (Nat.toDigits 10 n) = _
  rcases exists_toDigits_eq_cons n with ⟨c, cs, hDigits, hDigit⟩
  have hPlus : c ≠ '+' := by
    rintro rfl
    cases hDigit
  rw [hDigits] at hMagnitude ⊢
  simpa [readUnsigned, hPlus] using hMagnitude

/- An integer within the bounds is read back from its text. -/
theorem readSigned_digits
    {bound : Nat}
    {n : Int}
    (hLow : -(bound + 1 : Int) ≤ n)
    (hHigh : n ≤ bound) :
    readSigned bound (digits n) = .ok n := by
  cases n with
  | ofNat n =>
      have hMagnitude :=
        readMagnitude_toDigits .tooLarge (Int.ofNat_le.mp hHigh)
      rcases exists_toDigits_eq_cons n with ⟨c, cs, hDigits, hDigit⟩
      have hPlus : c ≠ '+' := by
        rintro rfl
        cases hDigit
      have hMinus : c ≠ '-' := by
        rintro rfl
        cases hDigit
      rw [digits, hDigits]
      rw [hDigits] at hMagnitude
      simp [readSigned, hPlus, hMinus, hMagnitude, Except.map]
  | negSucc n =>
      have hMagnitude :=
        readMagnitude_toDigits .tooSmall
          (by omega : n + 1 ≤ bound + 1)
      simp only [digits, readSigned, hMagnitude, Except.map]
      rfl

/- An integer is written with digits and at most a sign. -/
theorem isNumeral_digits (n : Int) :
    Text.IsNumeral (digits n) := by
  cases n with
  | ofNat n =>
      exact Text.isNumeral_of_isDigit (isDigit_of_mem_digits n)
  | negSucc n =>
      exact Text.isNumeral_cons (by decide)
        (Text.isNumeral_of_isDigit (isDigit_of_mem_digits _))

/- The text of an integer has neither blanks nor backslashes. -/
theorem isPlain_digits (n : Int) : Text.IsPlain (digits n) :=
  Text.isPlain_of_isNumeral (isNumeral_digits n)

theorem digits_ne_nil (n : Int) : digits n ≠ [] := by
  cases n <;> simp [digits]

end Integer

end FactStore
