import HostRouting.Number.Shortest
import HostRouting.Proofs.WholeNumbers
import Mathlib.Algebra.Order.Ring.Nat
import Mathlib.Tactic.Ring

/-!
# The texts of whole and of fractional numbers

A floating-point number up to `2 ^ 53` that is whole is written as this whole number in decimal, and
one that is not whole is written with a point.

Both come from one fact.  Let `10 ^ (-places)` be the decimal unit of a number whose exponent is not
positive.  The values that read back as the number lie within `2 * 5 ^ places` units around it, and
whole values are `10 ^ places` units apart, which is four times as far at least.  So no whole value
other than the number itself reads back as it, and whatever digits are dropped to make the text
short, it stays whole or stays fractional.
-/

namespace HostRouting

/-! ## Dropping digits -/

namespace ReadBack

variable {interval : ReadBack}

theorem multiple?_eq_some {step value : Nat} (hmultiple : interval.multiple? step = some value) :
    step ∣ value ∧ interval.holds value = true := by
  have hbelow : step ∣ interval.center / step * step := Nat.dvd_mul_left step _
  have habove : step ∣ interval.center / step * step + step := Nat.dvd_add hbelow (Nat.dvd_refl step)
  simp only [multiple?] at hmultiple
  split at hmultiple
  · split at hmultiple
    · cases hmultiple
      exact ⟨hbelow, ‹_›⟩
    · cases hmultiple
      exact ⟨habove, ‹_›⟩
  · cases hmultiple
    exact ⟨hbelow, ‹_›⟩
  · cases hmultiple
    exact ⟨habove, ‹_›⟩
  · cases hmultiple

/-- If the number is a multiple itself, some multiple reads back as it. -/
theorem multiple?_ne_none {step : Nat} (hcenter : interval.holds interval.center = true)
    (hstep : step ∣ interval.center) : interval.multiple? step ≠ none := by
  have hbelow : interval.center / step * step = interval.center := Nat.div_mul_cancel hstep
  simp only [multiple?, hbelow, hcenter]
  split
  · split <;> simp
  · simp
  · simp_all
  · simp_all

theorem between_of_holds {value : Nat} (hholds : interval.holds value = true) :
    interval.low ≤ value ∧ value ≤ interval.high := by
  rw [holds] at hholds
  split at hholds
  · simpa using hholds
  · simp only [Bool.and_eq_true, decide_eq_true_eq] at hholds
    exact ⟨hholds.1.le, hholds.2.le⟩

theorem holds_of_between {value : Nat} (hlow : interval.low < value)
    (hhigh : value < interval.high) : interval.holds value = true := by
  rw [holds]
  split
  · simp [hlow.le, hhigh.le]
  · simp [hlow, hhigh]

/-- What is written reads back. -/
theorem holds_shortest (hcenter : interval.holds interval.center = true) (zeros : Nat) :
    interval.holds (interval.shortest zeros) = true := by
  induction zeros with
  | zero => exact hcenter
  | succ zeros ih =>
      rw [shortest]
      cases hmultiple : interval.multiple? (Nat.pow 10 (zeros + 1)) with
      | none => exact ih
      | some value => exact (multiple?_eq_some hmultiple).2

/-- A number that is the only one of the multiples of a power of ten is written as it is. -/
theorem shortest_eq_center {zeros : Nat} (hcenter : interval.holds interval.center = true)
    (hzeros : Nat.pow 10 zeros ∣ interval.center)
    (honly : ∀ value, interval.holds value = true → Nat.pow 10 zeros ∣ value →
      value = interval.center)
    {most : Nat} (hmost : zeros ≤ most) : interval.shortest most = interval.center := by
  induction most with
  | zero => rfl
  | succ most ih =>
      rw [shortest]
      cases hmultiple : interval.multiple? (Nat.pow 10 (most + 1)) with
      | none =>
          have hother : zeros ≠ most + 1 := by
            rintro rfl
            exact multiple?_ne_none hcenter hzeros hmultiple
          exact ih (by omega)
      | some value =>
          obtain ⟨hdvd, hholds⟩ := multiple?_eq_some hmultiple
          exact honly value hholds ((Nat.pow_dvd_pow 10 hmost).trans hdvd)

end ReadBack

namespace Magnitude

/-! ## The positional form -/

theorem padded_zero_eq_nil (places : Nat) :
    ((Decimal.padded places 0).reverse.dropWhile (· == '0')).reverse = [] := by
  rw [List.reverse_eq_nil_iff, List.dropWhile_eq_nil_iff]
  intro digit hmem
  rw [List.mem_reverse, Decimal.padded, List.mem_append, List.mem_replicate] at hmem
  have hzero : Decimal.digits 0 = ['0'] := by decide
  rw [hzero, List.mem_singleton] at hmem
  rw [beq_iff_eq]
  exact hmem.elim And.right id

/-- A value that is not zero has a digit that is not. -/
theorem padded_ne_nil (places : Nat) {value : Nat} (hvalue : 0 < value) :
    ((Decimal.padded places value).reverse.dropWhile (· == '0')).reverse ≠ [] := by
  rw [ne_eq, List.reverse_eq_nil_iff, List.dropWhile_eq_nil_iff]
  intro hzeros
  apply Decimal.head?_digits_ne hvalue
  cases hdigits : Decimal.digits value with
  | nil => exact absurd hdigits Nat.toDigits_ne_nil
  | cons first others =>
      have hfirst := hzeros first (by simp [Decimal.padded, hdigits])
      rw [List.head?_cons, eq_of_beq hfirst]

/-- Whole values are written without a point. -/
theorem positional_mul (places whole : Nat) :
    positional places (whole * Nat.pow 10 places) = Decimal.digits whole := by
  have hpositive : 0 < Nat.pow 10 places := Nat.pow_pos (by decide)
  simp only [positional]
  rw [Nat.mul_div_cancel _ hpositive, Nat.mul_mod_left, padded_zero_eq_nil]

/-- All other values are written with a point behind the first digit. -/
theorem positional_of_not_dvd {places value : Nat} (hfraction : ¬ Nat.pow 10 places ∣ value) :
    ∃ first rest, positional places value = first :: rest ∧ first.isDigit = true ∧
      '.' ∈ rest := by
  have hrest : 0 < value % Nat.pow 10 places := by
    rw [Nat.pos_iff_ne_zero, ne_eq, ← Nat.dvd_iff_mod_eq_zero]
    exact hfraction
  have hkept := padded_ne_nil places hrest
  cases hwhole : Decimal.digits (value / Nat.pow 10 places) with
  | nil => exact absurd hwhole Nat.toDigits_ne_nil
  | cons first others =>
      have hfirst : first.isDigit = true :=
        Decimal.isDigit_of_mem_digits (hwhole ▸ List.mem_cons_self)
      simp only [positional, hwhole]
      exact ⟨first, _, rfl, hfirst, List.mem_append_right others List.mem_cons_self⟩

/-- A whole number has more digits the more places its unit has. -/
theorem places_le_length (places : Nat) {whole : Nat} (hwhole : 0 < whole) :
    places ≤ (Decimal.digits (whole * Nat.pow 10 places)).length - 1 := by
  cases places with
  | zero => exact Nat.zero_le _
  | succ places =>
      have hleast : Nat.pow 10 (places + 1) ≤ whole * Nat.pow 10 (places + 1) :=
        Nat.le_mul_of_pos_left _ hwhole
      have hlength := (Nat.length_toDigits_le_iff (n := whole * Nat.pow 10 (places + 1))
        (by decide : 1 < 10) (Nat.succ_pos places)).not.mpr (Nat.not_lt.mpr hleast)
      rw [Decimal.digits]
      omega

/-! ## What reads back as a size -/

section ReadBack

variable (magnitude : Magnitude)

theorem readBack_center (hexponent : magnitude.exponent < 2) :
    magnitude.readBack.center = 4 * magnitude.mantissa * Nat.pow 5 magnitude.places := by
  rw [readBack, if_pos hexponent]

theorem readBack_high (hexponent : magnitude.exponent < 2) :
    magnitude.readBack.high = (4 * magnitude.mantissa + 2) * Nat.pow 5 magnitude.places := by
  rw [readBack, if_pos hexponent]

theorem readBack_low (hexponent : magnitude.exponent < 2) :
    ∃ lower, 0 < lower ∧ lower ≤ 2 ∧
      magnitude.readBack.low =
        (4 * magnitude.mantissa - lower) * Nat.pow 5 magnitude.places := by
  rw [readBack, if_pos hexponent]
  refine ⟨_, ?_, ?_, rfl⟩
  · split <;> decide
  · split <;> decide

theorem holds_center (hexponent : magnitude.exponent < 2) (hmantissa : 0 < magnitude.mantissa) :
    magnitude.readBack.holds magnitude.readBack.center = true := by
  have hquarter : 0 < Nat.pow 5 magnitude.places := Nat.pow_pos (by decide)
  obtain ⟨lower, hlower, -, hlow⟩ := readBack_low magnitude hexponent
  apply ReadBack.holds_of_between
  · rw [hlow, readBack_center magnitude hexponent]
    exact Nat.mul_lt_mul_of_pos_right (by omega) hquarter
  · rw [readBack_high magnitude hexponent, readBack_center magnitude hexponent]
    exact Nat.mul_lt_mul_of_pos_right (by omega) hquarter

/-- A size in its decimal unit. -/
theorem cast_center (hexponent : magnitude.exponent < 2) :
    (magnitude.readBack.center : ℚ) = magnitude.value * (10 ^ magnitude.places : Nat) := by
  have hplaces : (magnitude.places : Int) = 2 - magnitude.exponent :=
    Int.toNat_of_nonneg (by omega)
  have hpower : (2 : ℚ) ^ magnitude.exponent * 2 ^ magnitude.places = 4 := by
    rw [← zpow_natCast, ← zpow_add₀ (by norm_num), hplaces, add_sub_cancel]
    norm_num
  rw [readBack_center magnitude hexponent, value, Nat.pow_eq]
  push_cast
  calc (4 * magnitude.mantissa * 5 ^ magnitude.places : ℚ)
      = magnitude.mantissa * (2 ^ magnitude.exponent * 2 ^ magnitude.places) *
          5 ^ magnitude.places := by rw [hpower]; ring
    _ = magnitude.mantissa * 2 ^ magnitude.exponent * (2 * 5) ^ magnitude.places := by
          rw [mul_pow]; ring
    _ = magnitude.mantissa * 2 ^ magnitude.exponent * 10 ^ magnitude.places := by norm_num

end ReadBack

variable {magnitude : Magnitude}

theorem value_pos (hmantissa : 0 < magnitude.mantissa) : 0 < magnitude.value :=
  mul_pos (Nat.cast_pos.mpr hmantissa) (zpow_pos (by norm_num) _)

/-- A size is whole where it is a multiple of as many units as make one. -/
theorem center_eq_iff (hexponent : magnitude.exponent < 2) {whole : Nat} :
    magnitude.readBack.center = whole * Nat.pow 10 magnitude.places ↔
      magnitude.value = whole := by
  have hunit : ((10 ^ magnitude.places : Nat) : ℚ) ≠ 0 :=
    Nat.cast_ne_zero.mpr (Nat.pow_pos (by decide)).ne'
  rw [← Nat.cast_inj (R := ℚ), cast_center magnitude hexponent, Nat.pow_eq, Nat.cast_mul]
  exact mul_left_inj' hunit

/-- No whole value other than the size itself reads back as it. -/
theorem eq_center_of_holds (hexponent : magnitude.exponent ≤ 0) {value : Nat}
    (hholds : magnitude.readBack.holds value = true)
    (hwhole : Nat.pow 10 magnitude.places ∣ value) : value = magnitude.readBack.center := by
  have hquarter : 0 < Nat.pow 5 magnitude.places := Nat.pow_pos (by decide)
  obtain ⟨lower, -, hlower, hlow⟩ := readBack_low magnitude (by omega)
  obtain ⟨count, rfl⟩ := hwhole
  -- There are two places at least, so whole values are multiples of four quarters.
  have hunit : Nat.pow 10 magnitude.places * count =
      4 * (2 ^ (magnitude.places - 2) * count) * Nat.pow 5 magnitude.places := by
    have htwo : magnitude.places = magnitude.places - 2 + 2 := by
      rw [places]
      omega
    calc Nat.pow 10 magnitude.places * count
        = (2 * 5) ^ magnitude.places * count := rfl
      _ = 2 ^ (magnitude.places - 2 + 2) * 5 ^ magnitude.places * count := by
            rw [mul_pow, ← htwo]
      _ = 4 * (2 ^ (magnitude.places - 2) * count) * 5 ^ magnitude.places := by
            rw [pow_add]; ring
  have hbetween := ReadBack.between_of_holds hholds
  rw [hunit, hlow, readBack_high magnitude (by omega)] at hbetween
  have hfrom := Nat.le_of_mul_le_mul_right hbetween.1 hquarter
  have hto := Nat.le_of_mul_le_mul_right hbetween.2 hquarter
  rw [hunit, readBack_center magnitude (by omega)]
  congr 1
  omega

/-! ## The texts -/

/-- Of the sizes up to `2 ^ 53` this one alone has a positive exponent. -/
theorem eq_of_exponent_pos (hexponent : 0 < magnitude.exponent) {whole : Nat}
    (hvalue : magnitude.value = whole) (hmost : whole ≤ 2 ^ 53) :
    magnitude = ⟨2 ^ 52, 1, by decide⟩ := by
  rw [value_of_nonneg hexponent.le, Nat.cast_inj] at hvalue
  obtain ⟨mantissa, exponent, canonical⟩ := magnitude
  dsimp only at hexponent hvalue
  obtain ⟨count, rfl⟩ : ∃ count : Nat, exponent = count + 1 := ⟨(exponent - 1).toNat, by omega⟩
  have hmantissa : 2 ^ 52 ≤ mantissa := canonical.2.2.2.resolve_right (by omega)
  have hcount : count = 0 := by
    by_contra hpositive
    have hpower : 2 ^ 2 ≤ Nat.pow 2 (count + 1) := Nat.pow_le_pow_right (by decide) (by omega)
    have hproduct := Nat.mul_le_mul hmantissa hpower
    have htoNat : ((count : Int) + 1).toNat = count + 1 := by omega
    rw [htoNat] at hvalue
    omega
  subst count
  have hproduct : mantissa * 2 = whole := hvalue
  obtain rfl : mantissa = 2 ^ 52 := by omega
  rfl

/-- A size that is whole, and not larger than `2 ^ 53`, is written as the whole number. -/
theorem text_of_whole {whole : Nat} (hvalue : magnitude.value = whole) (hmost : whole ≤ 2 ^ 53) :
    magnitude.text = Decimal.digits whole := by
  by_cases hzero : magnitude.mantissa = 0
  · have hnothing : whole = 0 := by
      rw [value, hzero, Nat.cast_zero, zero_mul] at hvalue
      exact_mod_cast hvalue.symm
    rw [text, if_pos hzero, hnothing]
    rfl
  by_cases hexponent : magnitude.exponent ≤ 0
  · have hcenter := (center_eq_iff (by omega)).mpr hvalue
    have hunits : Nat.pow 10 magnitude.places ∣ magnitude.readBack.center := by
      rw [hcenter]
      exact Nat.dvd_mul_left _ whole
    have hpositive : 0 < whole := by
      have hsize := value_pos (Nat.pos_of_ne_zero hzero)
      rw [hvalue] at hsize
      exact_mod_cast hsize
    have hlong := places_le_length magnitude.places hpositive
    rw [← hcenter] at hlong
    rw [text, if_neg hzero]
    simp only
    have hshortest := ReadBack.shortest_eq_center
      (holds_center magnitude (by omega) (Nat.pos_of_ne_zero hzero)) hunits
      (fun _ hholds hdvd => eq_center_of_holds hexponent hholds hdvd) hlong
    rw [hshortest, hcenter, positional_mul]
  · obtain rfl := eq_of_exponent_pos (Int.not_le.mp hexponent) hvalue hmost
    have hlargest : whole = 2 ^ 53 := by
      rw [value_of_nonneg (by decide), Nat.cast_inj] at hvalue
      exact hvalue.symm
    rw [hlargest]
    decide

/-- A size that is not whole is written with a point behind the first digit. -/
theorem text_of_fractional (hfraction : ∀ whole : Nat, magnitude.value ≠ whole) :
    ∃ first rest, magnitude.text = first :: rest ∧ first.isDigit = true ∧ '.' ∈ rest := by
  have hexponent : magnitude.exponent < 0 := by
    by_contra hnonneg
    exact hfraction _ (value_of_nonneg (by omega))
  have hmantissa : magnitude.mantissa ≠ 0 := by
    intro hzero
    apply hfraction 0
    rw [value, hzero, Nat.cast_zero, zero_mul]
  have hcenter := holds_center magnitude (by omega) (Nat.pos_of_ne_zero hmantissa)
  have hholds := ReadBack.holds_shortest hcenter
    ((Decimal.digits magnitude.readBack.center).length - 1)
  rw [text, if_neg hmantissa]
  apply positional_of_not_dvd
  intro hwhole
  rw [eq_center_of_holds hexponent.le hholds hwhole] at hwhole
  obtain ⟨whole, hcount⟩ := hwhole
  rw [mul_comm] at hcount
  exact hfraction whole ((center_eq_iff (by omega)).mp hcount)

end Magnitude

end HostRouting
