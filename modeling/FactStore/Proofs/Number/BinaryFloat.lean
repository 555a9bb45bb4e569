import FactStore.Number.BinaryFloat
import FactStore.Proofs.Number.Decimal
import Mathlib.Data.Int.Log
import Mathlib.Data.Rat.Floor
import Mathlib.Tactic.Linarith

/-
  This file proves that the text of a float that is no NaN is
  read as the same float.  A decimal of few digits was taken
  because it reads back, and the exact decimal reads back
  because rounding leaves finite patterns as they are.  The
  NaNs share one text, which is read as one of them.

  Main statements include:
    * `BinaryFormat.round_mul`
    * `BinaryFormat.round_of_pattern`
    * `BinaryFormat.ofDecimal_shortest`
    * `BinaryFormat.read_render`
    * `BinaryFormat.read_render_of_isNaN`
-/

namespace FactStore

namespace BinaryFormat

------------------------------------------------------------
-- Powers
------------------------------------------------------------

/- An integral power, with its negative part moved across. -/
theorem zpow_mul_pow_toNat
    {b : ℚ}
    (hb : b ≠ 0)
    (e : Int) : b ^ e * b ^ (-e).toNat = b ^ e.toNat := by
  rw [← zpow_natCast, ← zpow_natCast, ← zpow_add₀ hb]
  congr 1
  omega

/- Two shifted naturals are compared as a quotient. -/
theorem shiftLeft_lt_shiftLeft_iff
    {num den : Nat}
    (hDen : 0 < den)
    (e : Int) :
    num <<< (-e).toNat < den <<< e.toNat ↔
      (num : ℚ) / den < 2 ^ e := by
  have hDen' : (0 : ℚ) < den := by exact_mod_cast hDen
  have hPower : (0 : ℚ) < 2 ^ (-e).toNat := by positivity
  rw [div_lt_iff₀ hDen', ← mul_lt_mul_iff_left₀ hPower,
    mul_right_comm, zpow_mul_pow_toNat (by norm_num),
    Nat.shiftLeft_eq, Nat.shiftLeft_eq, mul_comm den]
  exact_mod_cast Iff.rfl

/- The scale of a quotient is its binary logarithm. -/
theorem binaryScale_eq_log
    {num den : Nat}
    (hNum : 0 < num)
    (hDen : 0 < den) :
    binaryScale num den = Int.log 2 ((num : ℚ) / den) := by
  have hNum' : (0 : ℚ) < num := by exact_mod_cast hNum
  have hDen' : (0 : ℚ) < den := by exact_mod_cast hDen
  have hQuotient : (0 : ℚ) < num / den := div_pos hNum' hDen'
  let e : Int := Int.ofNat num.log2 - Int.ofNat den.log2
  -- Above and below the line stand powers of two at most twice off.
  have hPower :
      ∀ m n : Nat, (2 : ℚ) ^ (Int.ofNat m - Int.ofNat n) =
        2 ^ m / 2 ^ n := by
    intro m n
    rw [zpow_sub₀ (by norm_num)]
    exact congrArg₂ (· / ·) (zpow_natCast 2 m) (zpow_natCast 2 n)
  have hLow : e - 1 ≤ Int.log 2 ((num : ℚ) / den) := by
    rw [← Int.zpow_le_iff_le_log (by decide) hQuotient]
    have hExponent :
        e - 1 =
          Int.ofNat num.log2 - Int.ofNat (den.log2 + 1) := by
      change _ - _ - _ = _ - (Int.ofNat den.log2 + 1)
      omega
    rw [hExponent]
    apply (hPower _ _).trans_le
    have hAbove : (2 : ℚ) ^ num.log2 ≤ num := by
      exact_mod_cast Nat.log2_self_le (Nat.ne_of_gt hNum)
    have hBelow : (den : ℚ) ≤ 2 ^ (den.log2 + 1) := by
      exact_mod_cast Nat.le_of_lt Nat.lt_log2_self
    exact div_le_div₀ hNum'.le hAbove hDen' hBelow
  have hHigh : Int.log 2 ((num : ℚ) / den) < e + 1 := by
    rw [← Int.lt_zpow_iff_log_lt (by decide) hQuotient]
    have hExponent :
        e + 1 =
          Int.ofNat (num.log2 + 1) - Int.ofNat den.log2 := by
      change _ - _ + _ = (Int.ofNat num.log2 + 1) - _
      omega
    rw [hExponent]
    refine lt_of_lt_of_eq ?_ (hPower _ _).symm
    have hAbove : (num : ℚ) < 2 ^ (num.log2 + 1) := by
      exact_mod_cast Nat.lt_log2_self
    have hBelow : (2 : ℚ) ^ den.log2 ≤ den := by
      exact_mod_cast Nat.log2_self_le (Nat.ne_of_gt hDen)
    exact div_lt_div₀ hAbove hBelow (by positivity) (by positivity)
  have hBelow :
      num <<< (-e).toNat < den <<< e.toNat ↔
        Int.log 2 ((num : ℚ) / den) < e := by
    rw [shiftLeft_lt_shiftLeft_iff hDen]
    exact Int.lt_zpow_iff_log_lt (by decide) hQuotient
  change (if num <<< (-e).toNat < den <<< e.toNat
    then e - 1 else e) = _
  split
  · rename_i hLt
    have := hBelow.mp hLt
    omega
  · rename_i hLt
    have := mt hBelow.mpr hLt
    omega

------------------------------------------------------------
-- Rounding
------------------------------------------------------------

/- A common factor does not change the nearest natural. -/
theorem nearest_mul
    {k : Nat}
    (hk : 0 < k)
    (num den : Nat) :
    nearest (k * num) (k * den) = nearest num den := by
  have hLess :
      2 * (k * (num % den)) < k * den ↔
        2 * (num % den) < den := by
    rw [Nat.mul_left_comm 2 k, Nat.mul_lt_mul_left hk]
  have hMore :
      k * den < 2 * (k * (num % den)) ↔
        den < 2 * (num % den) := by
    rw [Nat.mul_left_comm 2 k, Nat.mul_lt_mul_left hk]
  simp only [nearest, Nat.mul_div_mul_left num den hk,
    Nat.mul_mod_mul_left, hLess, hMore]

/- A natural is nearest to itself. -/
theorem nearest_mul_self
    {den : Nat}
    (hDen : 0 < den)
    (n : Nat) : nearest (n * den) den = n := by
  simp [nearest, Nat.mul_div_cancel n hDen, hDen]

/- A common factor does not change what is rounded to. -/
theorem round_mul
    (f : BinaryFormat)
    {k : Nat}
    (hk : 0 < k)
    (num : Nat)
    {den : Nat}
    (hDen : 0 < den) :
    f.round (k * num) (k * den) = f.round num den := by
  by_cases hNum : num = 0
  · simp [round, hNum]
  · have hNum' : 0 < num := Nat.pos_of_ne_zero hNum
    have hScale :
        binaryScale (k * num) (k * den) = binaryScale num den := by
      have hk' : (k : ℚ) ≠ 0 := by exact_mod_cast hk.ne'
      rw [binaryScale_eq_log (Nat.mul_pos hk hNum')
        (Nat.mul_pos hk hDen), binaryScale_eq_log hNum' hDen]
      push_cast
      rw [mul_div_mul_left _ _ hk']
    have hShift :
        ∀ m n : Nat, (k * m) <<< n = k * m <<< n := by
      intro m n
      rw [Nat.shiftLeft_eq, Nat.shiftLeft_eq, Nat.mul_assoc]
    simp only [round, hNum, hk.ne', mul_eq_zero, or_self,
      if_false, hScale, hShift, nearest_mul hk]

------------------------------------------------------------
-- Finite Patterns
------------------------------------------------------------

section Finite

variable {f : BinaryFormat}
variable {pattern : Nat}

/- The significand of a pattern has at most one bit before it. -/
theorem significand_lt (f : BinaryFormat) (pattern : Nat) :
    f.significand pattern < 2 ^ (f.fractionBits + 1) := by
  have hFraction :
      pattern % 2 ^ f.fractionBits < 2 ^ f.fractionBits :=
    Nat.mod_lt _ (Nat.two_pow_pos _)
  simp only [significand, Nat.one_shiftLeft, Nat.pow_succ]
  split <;> omega

theorem significand_pos (h : 0 < pattern) :
    0 < f.significand pattern := by
  have hPower : 0 < 2 ^ f.fractionBits := Nat.two_pow_pos _
  simp only [significand, Nat.one_shiftLeft,
    Nat.shiftRight_eq_div_pow]
  split
  · rename_i hZero
    have hSmall := (Nat.div_eq_zero_iff_lt hPower).mp hZero
    rwa [Nat.mod_eq_of_lt hSmall]
  · omega

/- A significand without its leading bit has the least place. -/
theorem lastPlace_eq_or_le_significand
    (f : BinaryFormat)
    (pattern : Nat) :
    f.lastPlace pattern = f.leastExponent ∨
      2 ^ f.fractionBits ≤ f.significand pattern := by
  simp only [lastPlace, significand, Nat.one_shiftLeft]
  split
  · rename_i hZero
    exact Or.inl (by simp [hZero])
  · exact Or.inr (Nat.le_add_right _ _)

theorem leastExponent_le_lastPlace
    (f : BinaryFormat)
    (pattern : Nat) :
    f.leastExponent ≤ f.lastPlace pattern := by
  simp [lastPlace]

/- A pattern is put together from its place and significand. -/
theorem place_add_significand
    (f : BinaryFormat)
    (pattern : Nat) :
    (f.lastPlace pattern - f.leastExponent).toNat <<<
        f.fractionBits + f.significand pattern = pattern := by
  have hDivide := Nat.div_add_mod pattern (2 ^ f.fractionBits)
  have hPlace :
      (f.lastPlace pattern - f.leastExponent).toNat =
        pattern / 2 ^ f.fractionBits - 1 := by
    simp [lastPlace, Nat.shiftRight_eq_div_pow]
  rw [hPlace, Nat.shiftLeft_eq]
  simp only [significand, Nat.one_shiftLeft,
    Nat.shiftRight_eq_div_pow]
  split
  · rename_i hZero
    simpa [hZero] using hDivide
  · rename_i hNonzero
    rcases Nat.exists_eq_succ_of_ne_zero hNonzero with ⟨n, hn⟩
    rw [hn] at hDivide ⊢
    rw [Nat.succ_sub_one, ← Nat.add_assoc, ← Nat.succ_mul,
      Nat.mul_comm]
    exact hDivide

/- The value of a pattern, as a quotient. -/
theorem numerator_div_denominator
    (f : BinaryFormat)
    (pattern : Nat) :
    (f.numerator pattern : ℚ) / f.denominator pattern =
      f.significand pattern * 2 ^ f.lastPlace pattern := by
  have hPower : (0 : ℚ) < 2 ^ (-f.lastPlace pattern).toNat := by
    positivity
  simp only [numerator, denominator, Nat.shiftLeft_eq, one_mul]
  push_cast
  rw [div_eq_iff hPower.ne', mul_assoc,
    zpow_mul_pow_toNat (by norm_num)]

theorem denominator_pos (f : BinaryFormat) (pattern : Nat) :
    0 < f.denominator pattern := by
  rw [denominator, Nat.one_shiftLeft]
  exact Nat.two_pow_pos _

theorem numerator_pos (h : 0 < pattern) :
    0 < f.numerator pattern := by
  rw [numerator, Nat.shiftLeft_eq]
  exact Nat.mul_pos (significand_pos h) (Nat.two_pow_pos _)

/- The last place of a pattern is the one rounding aims at. -/
theorem max_binaryScale_eq_lastPlace (h : 0 < pattern) :
    max
        (binaryScale (f.numerator pattern)
          (f.denominator pattern) - f.fractionBits)
        f.leastExponent =
      f.lastPlace pattern := by
  rw [binaryScale_eq_log (numerator_pos h)
    (f.denominator_pos pattern), numerator_div_denominator]
  have hLeast := f.leastExponent_le_lastPlace pattern
  have hSignificand : (0 : ℚ) < f.significand pattern := by
    exact_mod_cast significand_pos h
  have hPower : (0 : ℚ) < 2 ^ f.lastPlace pattern :=
    zpow_pos (by norm_num) _
  have hValue :
      (0 : ℚ) <
        f.significand pattern * 2 ^ f.lastPlace pattern :=
    mul_pos hSignificand hPower
  have hPlaces :
      ∀ n : Nat, (2 : ℚ) ^ (n + f.lastPlace pattern) =
        2 ^ n * 2 ^ f.lastPlace pattern := by
    intro n
    rw [zpow_add₀ (by norm_num), zpow_natCast]
  have hHigh :
      Int.log 2
          ((f.significand pattern : ℚ) * 2 ^ f.lastPlace pattern) <
        (f.fractionBits + 1 : Nat) + f.lastPlace pattern := by
    rw [← Int.lt_zpow_iff_log_lt (by decide) hValue]
    refine lt_of_lt_of_eq ?_ (hPlaces _).symm
    refine mul_lt_mul_of_pos_right ?_ hPower
    exact_mod_cast f.significand_lt pattern
  rcases f.lastPlace_eq_or_le_significand pattern with hLow | hLow
  · omega
  · have hLog :
        (f.fractionBits : Int) + f.lastPlace pattern ≤
          Int.log 2
            ((f.significand pattern : ℚ) *
              2 ^ f.lastPlace pattern) := by
      rw [← Int.zpow_le_iff_le_log (by decide) hValue]
      apply (hPlaces _).trans_le
      refine mul_le_mul_of_nonneg_right ?_ hPower.le
      exact_mod_cast hLow
    omega

/- The value of a finite pattern is rounded to that pattern. -/
theorem round_of_pattern
    (hPositive : 0 < pattern)
    (hFinite : pattern < f.infinity) :
    f.round (f.numerator pattern) (f.denominator pattern) =
      pattern := by
  have hNearest :
      nearest
          (f.numerator pattern <<< (-f.lastPlace pattern).toNat)
          (f.denominator pattern <<< (f.lastPlace pattern).toNat) =
        f.significand pattern := by
    simp only [numerator, denominator, Nat.shiftLeft_eq, one_mul]
    rw [Nat.mul_assoc, Nat.mul_comm (2 ^ _) (2 ^ _)]
    refine nearest_mul_self ?_ _
    exact Nat.mul_pos (Nat.two_pow_pos _) (Nat.two_pow_pos _)
  rw [round, if_neg (numerator_pos hPositive).ne']
  simp only [max_binaryScale_eq_lastPlace hPositive, hNearest,
    place_add_significand]
  exact Nat.min_eq_left hFinite.le

/- A finite value stays below a power of two. -/
theorem numerator_lt
    (hPositive : 0 < pattern)
    (hFinite : pattern < f.infinity) :
    f.numerator pattern <
      2 ^ (2 ^ (f.exponentBits - 1) + f.fractionBits) := by
  have hExponent :
      pattern / 2 ^ f.fractionBits < 2 ^ f.exponentBits - 1 := by
    rw [Nat.div_lt_iff_lt_mul (Nat.two_pow_pos _)]
    simpa [infinity, Nat.one_shiftLeft, Nat.shiftLeft_eq]
      using hFinite
  obtain ⟨n, hn⟩ : ∃ n, f.exponentBits = n + 1 := by
    apply Nat.exists_eq_succ_of_ne_zero
    intro hZero
    rw [hZero] at hExponent
    exact Nat.not_lt_zero _ hExponent
  have hFraction :
      pattern / 2 ^ f.fractionBits = 0 → 0 < f.fractionBits := by
    intro hZero
    apply Nat.pos_of_ne_zero
    intro hNone
    rw [hNone, Nat.pow_zero, Nat.div_one] at hZero
    omega
  have hPlace :
      (f.lastPlace pattern).toNat + (f.fractionBits + 1) ≤
        2 ^ n + f.fractionBits := by
    have hPower : 0 < 2 ^ n := Nat.two_pow_pos n
    rw [hn, Nat.pow_succ] at hExponent
    simp only [lastPlace, leastExponent, hn, Nat.one_shiftLeft,
      Nat.shiftRight_eq_div_pow, Nat.add_sub_cancel,
      Int.ofNat_eq_natCast]
    generalize pattern / 2 ^ f.fractionBits = exponent at *
    omega
  rw [numerator, Nat.shiftLeft_eq, hn, Nat.add_sub_cancel]
  calc f.significand pattern * 2 ^ (f.lastPlace pattern).toNat
      < 2 ^ (f.fractionBits + 1) *
          2 ^ (f.lastPlace pattern).toNat :=
        Nat.mul_lt_mul_of_pos_right (f.significand_lt pattern)
          (Nat.two_pow_pos _)
    _ = 2 ^ ((f.lastPlace pattern).toNat +
          (f.fractionBits + 1)) := by
        rw [← Nat.pow_add, Nat.add_comm]
    _ ≤ 2 ^ (2 ^ n + f.fractionBits) :=
        Nat.pow_le_pow_right (by decide) hPlace

end Finite

------------------------------------------------------------
-- Decimals
------------------------------------------------------------

/- A zero may move from the coefficient to the exponent. -/
theorem ofDecimal_shift
    (f : BinaryFormat)
    (c : Nat)
    (e : Int) :
    f.ofDecimal ⟨10 * c, e⟩ = f.ofDecimal ⟨c, e + 1⟩ := by
  by_cases hZero : c = 0
  · simp [ofDecimal, hZero]
  · have hLength :
        (Nat.toDigits 10 (10 * c)).length =
          (Nat.toDigits 10 c).length + 1 := by
      rw [Nat.toDigits_of_base_le (by decide) (by omega),
        Nat.mul_div_cancel_left c (by decide), List.length_append,
        List.length_singleton]
    have hRound :
        f.round (Decimal.numerator ⟨10 * c, e⟩)
            (Decimal.denominator ⟨10 * c, e⟩) =
          f.round (Decimal.numerator ⟨c, e + 1⟩)
            (Decimal.denominator ⟨c, e + 1⟩) := by
      simp only [Decimal.numerator, Decimal.denominator,
        Integer.power_eq_pow]
      by_cases hSign : 0 ≤ e
      · have hUp : (e + 1).toNat = e.toNat + 1 := by omega
        have hDown : (-e).toNat = 0 := by omega
        have hDown' : (-(e + 1)).toNat = 0 := by omega
        rw [hUp, hDown, hDown', Nat.pow_succ, Nat.mul_comm 10 c,
          Nat.mul_assoc, Nat.mul_comm 10]
      · have hUp : e.toNat = 0 := by omega
        have hUp' : (e + 1).toNat = 0 := by omega
        have hDown : (-e).toNat = (-(e + 1)).toNat + 1 := by
          omega
        rw [hUp, hUp', hDown, Nat.pow_zero, Nat.mul_one,
          Nat.mul_one, Nat.pow_succ, Nat.mul_comm _ 10]
        exact f.round_mul (by decide) c
          (Nat.pow_pos (by decide))
    have hScale :
        ((Nat.toDigits 10 (10 * c)).length : Int) + e =
          (Nat.toDigits 10 c).length + (e + 1) := by
      rw [hLength]
      push_cast
      omega
    simp only [ofDecimal, hScale, hRound, hZero, mul_eq_zero,
      OfNat.ofNat_ne_zero, or_self, if_false]

/- Writing out a positive power of ten keeps the float. -/
theorem ofDecimal_spread
    (f : BinaryFormat)
    (d : Decimal) : f.ofDecimal d.spread = f.ofDecimal d := by
  rcases d with ⟨c, e⟩
  have hShift :
      ∀ (n c : Nat) (e : Int),
        f.ofDecimal ⟨c * 10 ^ n, e⟩ = f.ofDecimal ⟨c, e + n⟩ := by
    intro n
    induction n with
    | zero => simp
    | succ n ih =>
        intro c e
        rw [Nat.pow_succ, ← Nat.mul_assoc, Nat.mul_comm _ 10,
          ofDecimal_shift, ih]
        congr 2
        push_cast
        omega
  simp only [Decimal.spread, Decimal.numerator,
    Integer.power_eq_pow]
  rw [hShift]
  congr 2
  omega

/- Moving trailing zeros into the exponent keeps the float. -/
theorem ofDecimal_normalize
    (f : BinaryFormat)
    (fuel : Nat)
    (d : Decimal) :
    f.ofDecimal (d.normalize fuel) = f.ofDecimal d := by
  induction fuel generalizing d with
  | zero => rfl
  | succ fuel ih =>
      rw [Decimal.normalize]
      split
      · rename_i hTen
        have hCoefficient :
            10 * (d.coefficient / 10) = d.coefficient := by
          omega
        rw [ih, ← ofDecimal_shift, hCoefficient]
      · rfl

------------------------------------------------------------
-- The Fewest Digits
------------------------------------------------------------

section Finite

variable {f : BinaryFormat}
variable {pattern : Nat}

/- The exact value of a finite pattern reads back to it. -/
theorem ofDecimal_exactDecimal
    (hPositive : 0 < pattern)
    (hFinite : pattern < f.infinity) :
    f.ofDecimal (f.exactDecimal pattern) = pattern := by
  let places := (-f.lastPlace pattern).toNat
  let c := f.numerator pattern * 5 ^ places
  have hExact :
      f.exactDecimal pattern = ⟨c, -(places : Int)⟩ := by
    rw [exactDecimal, Integer.power_eq_pow]
  have hc : 0 < c :=
    Nat.mul_pos (numerator_pos hPositive) (Nat.pow_pos (by decide))
  have hRound :
      f.round (Decimal.numerator ⟨c, -(places : Int)⟩)
          (Decimal.denominator ⟨c, -(places : Int)⟩) =
        pattern := by
    have hUp : (-(places : Int)).toNat = 0 := by omega
    have hDown : (- -(places : Int)).toNat = places := by omega
    simp only [Decimal.numerator, Decimal.denominator,
      Integer.power_eq_pow, hUp, hDown, Nat.pow_zero,
      Nat.mul_one]
    have hTen :
        10 ^ places = 5 ^ places * f.denominator pattern := by
      rw [denominator, Nat.one_shiftLeft, ← Nat.mul_pow]
    rw [hTen, show c = _ from Nat.mul_comm _ _,
      f.round_mul (Nat.pow_pos (by decide)) _
        (f.denominator_pos pattern)]
    exact round_of_pattern hPositive hFinite
  -- The reach is as many digits as a finite value has bits.
  let reach := 2 ^ (f.exponentBits - 1) + f.fractionBits
  have hReach : f.decimalReach = (reach : Int) := by
    simp [decimalReach, reach, Nat.one_shiftLeft]
  have hDigits :
      (Nat.toDigits 10 c).length ≤ reach + places := by
    rw [Nat.length_toDigits_le_iff (by decide)]
    · calc c < 2 ^ reach * 5 ^ places :=
            Nat.mul_lt_mul_of_pos_right
              (numerator_lt hPositive hFinite)
              (Nat.pow_pos (by decide))
        _ ≤ 10 ^ reach * 10 ^ places :=
            Nat.mul_le_mul
              (Nat.pow_le_pow_left (by decide) _)
              (Nat.pow_le_pow_left (by decide) _)
        _ = 10 ^ (reach + places) := (Nat.pow_add _ _ _).symm
    · have hPower : 0 < 2 ^ (f.exponentBits - 1) :=
        Nat.two_pow_pos _
      omega
  have hPlaces : places ≤ reach := by
    have hLeast := f.leastExponent_le_lastPlace pattern
    simp only [leastExponent, Nat.one_shiftLeft,
      Int.ofNat_eq_natCast] at hLeast
    omega
  rw [hExact]
  simp only [ofDecimal, hReach, hRound, hc.ne', if_false]
  rw [if_neg (by omega), if_neg (by omega)]

/- Digits are taken only when they read back. -/
theorem ofDecimal_of_onGrid?
    {exponent : Int}
    {d : Decimal}
    (h : f.onGrid? pattern exponent = some d) :
    f.ofDecimal d = pattern := by
  have hEither :
      ∀ near far : Decimal,
        (if f.ofDecimal near = pattern then some near
          else if f.ofDecimal far = pattern then some far
          else none) = some d →
        f.ofDecimal d = pattern := by
    intro near far hTaken
    split at hTaken
    · rename_i hNear
      cases hTaken
      exact hNear
    · split at hTaken
      · rename_i hFar
        cases hTaken
        exact hFar
      · cases hTaken
  exact hEither _ _ h

/- The fewest digits of a finite pattern read back to it. -/
theorem ofDecimal_shortest
    (hFinite : pattern < f.infinity) :
    f.ofDecimal (f.shortest pattern) = pattern := by
  unfold shortest
  split
  · rename_i hZero
    simp [ofDecimal, hZero]
  · rename_i hNonzero
    rw [ofDecimal_normalize]
    cases hFound :
        (List.range digitLimit).findSome? fun n =>
          f.onGrid? pattern
            (decimalScale (f.numerator pattern)
              (f.denominator pattern) - (n + 1 : Nat)) with
    | none =>
        exact ofDecimal_exactDecimal
          (Nat.pos_of_ne_zero hNonzero) hFinite
    | some d =>
        rcases List.exists_of_findSome?_eq_some hFound with
          ⟨n, _, hGrid⟩
        exact ofDecimal_of_onGrid? hGrid

end Finite

------------------------------------------------------------
-- Text
------------------------------------------------------------

/- The word for infinity is read as infinity. -/
theorem readUnsigned?_inf (f : BinaryFormat) :
    f.readUnsigned? "inf".toList = some f.infinity := by
  have hDecimal : Decimal.read? "inf".toList = none := by
    decide
  have hWord :
      String.ofList ("inf".toList.map Char.toLower) = "inf" := by
    decide
  simp only [readUnsigned?, hDecimal, ofWord?, hWord, true_or,
    if_true]

/- A pattern that is no NaN is read back from its digits. -/
theorem readUnsigned?_positional
    {f : BinaryFormat}
    {pattern : Nat}
    (hFinite : pattern < f.infinity) :
    f.readUnsigned? (f.shortest pattern).positional =
      some pattern := by
  simp only [readUnsigned?, Decimal.read?_positional,
    ofDecimal_spread, ofDecimal_shortest hFinite]

/- The text of a pattern that is neither signed nor a NaN. -/
def body
    (f : BinaryFormat)
    (pattern : Nat) : List Char :=
  if pattern = f.infinity then "inf".toList
  else (f.shortest pattern).positional

theorem readUnsigned?_body
    {f : BinaryFormat}
    {pattern : Nat}
    (hNumber : pattern ≤ f.infinity) :
    f.readUnsigned? (f.body pattern) = some pattern := by
  unfold body
  split
  · rename_i hInfinity
    rw [readUnsigned?_inf, hInfinity]
  · rename_i hFinite
    exact readUnsigned?_positional
      (Nat.lt_of_le_of_ne hNumber hFinite)

/- Neither digits nor the word for infinity start with a sign. -/
theorem exists_body_eq_cons
    (f : BinaryFormat)
    (pattern : Nat) :
    ∃ c cs, f.body pattern = c :: cs ∧ c ≠ '+' ∧ c ≠ '-' := by
  unfold body
  split
  · exact ⟨'i', ['n', 'f'], rfl, by decide, by decide⟩
  · rcases (f.shortest pattern).exists_positional_eq_cons with
      ⟨c, cs, hText, hDigit⟩
    refine ⟨c, cs, hText, ?_, ?_⟩
    · rintro rfl
      cases hDigit
    · rintro rfl
      cases hDigit

theorem isNumeral_body
    (f : BinaryFormat)
    (pattern : Nat) : Text.IsNumeral (f.body pattern) := by
  unfold body
  split
  · decide
  · exact (f.shortest pattern).isNumeral_positional

/- Behind the sign stands the text of the pattern. -/
theorem render_of_le_infinity
    {f : BinaryFormat}
    {bits : Nat}
    (hNumber : bits % f.signBit ≤ f.infinity) :
    f.render bits =
      (if bits / f.signBit % 2 = 1 then ['-'] else []) ++
        f.body (bits % f.signBit) := by
  simp only [render, body, if_neg (Nat.not_lt.mpr hNumber)]
  split <;> rfl

/- A float that is no NaN is read back from its text. -/
theorem read_render
    {f : BinaryFormat}
    {bits : Nat}
    (hBits : bits < 2 * f.signBit)
    (hNumber : bits % f.signBit ≤ f.infinity) :
    f.read (f.render bits) = .ok bits := by
  have hRead := readUnsigned?_body hNumber
  have hDivide := Nat.div_add_mod bits f.signBit
  have hSign : bits / f.signBit < 2 := by
    apply Nat.div_lt_of_lt_mul
    rwa [Nat.mul_comm]
  rcases f.exists_body_eq_cons (bits % f.signBit) with
    ⟨c, cs, hText, hPlus, hMinus⟩
  rw [render_of_le_infinity hNumber]
  rw [hText] at hRead ⊢
  generalize bits / f.signBit = sign at hDivide hSign ⊢
  split
  · rename_i hNegative
    have hOne : sign = 1 := by omega
    rw [hOne, Nat.mul_one] at hDivide
    simp [read, hRead, hDivide]
  · rename_i hPositive
    have hNone : sign = 0 := by omega
    rw [hNone, Nat.mul_zero, Nat.zero_add] at hDivide
    simp [read, hRead, hDivide, hPlus, hMinus]

/- A NaN is read back as the one without sign and payload. -/
theorem read_render_of_isNaN
    {f : BinaryFormat}
    {bits : Nat}
    (hNaN : f.infinity < bits % f.signBit) :
    f.read (f.render bits) = .ok f.quietNaN := by
  have hText : f.render bits = ['N', 'a', 'N'] := if_pos hNaN
  have hDecimal : Decimal.read? ['N', 'a', 'N'] = none := by
    decide
  have hWord :
      String.ofList (['N', 'a', 'N'].map Char.toLower) = "nan" := by
    decide
  have hFound :
      f.readUnsigned? ['N', 'a', 'N'] = some f.quietNaN := by
    simp only [readUnsigned?, hDecimal, ofWord?, hWord]
    rfl
  rw [hText]
  simp [read, hFound]

/- A float is written with digits, a sign and a point, or as a word. -/
theorem isNumeral_render
    (f : BinaryFormat)
    (bits : Nat) : Text.IsNumeral (f.render bits) := by
  by_cases hNumber : bits % f.signBit ≤ f.infinity
  · rw [render_of_le_infinity hNumber]
    refine Text.isNumeral_append ?_ (f.isNumeral_body _)
    split <;> decide
  · rw [render, if_pos (Nat.lt_of_not_le hNumber)]
    decide

/- The text of a float has neither blanks nor backslashes. -/
theorem isPlain_render
    (f : BinaryFormat)
    (bits : Nat) : Text.IsPlain (f.render bits) :=
  Text.isPlain_of_isNumeral (f.isNumeral_render bits)

theorem render_ne_nil
    (f : BinaryFormat)
    (bits : Nat) : f.render bits ≠ [] := by
  by_cases hNumber : bits % f.signBit ≤ f.infinity
  · rcases f.exists_body_eq_cons (bits % f.signBit) with
      ⟨c, cs, hText, _⟩
    rw [render_of_le_infinity hNumber, hText]
    simp
  · rw [render, if_pos (Nat.lt_of_not_le hNumber)]
    decide

end BinaryFormat

end FactStore
