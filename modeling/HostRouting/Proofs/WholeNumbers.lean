import HostRouting.Proofs.Numerals
import HostRouting.Record
import Mathlib.Data.Rat.Cast.Order

/-!
# Reading whole numbers

A field of a record spells a whole number in one of three ways: as an integer, as a floating-point
number with this exact value, or as decimal digits in a text.  Reading the field gives this number
where a signed 64-bit number can hold it.  Where none can, an integer does not exist and a text is
refused, but a floating-point number is replaced by the nearer end of the range.
-/

namespace HostRouting

open Toml (Value)

/-! ## Floating-point numbers -/

namespace Magnitude

def value (magnitude : Magnitude) : ℚ :=
  magnitude.mantissa * 2 ^ magnitude.exponent

theorem value_nonneg (magnitude : Magnitude) : 0 ≤ magnitude.value :=
  mul_nonneg (Nat.cast_nonneg _) (zpow_nonneg (by norm_num) _)

theorem value_of_nonneg {magnitude : Magnitude} (hexponent : 0 ≤ magnitude.exponent) :
    magnitude.value = (magnitude.mantissa * Nat.pow 2 magnitude.exponent.toNat : Nat) := by
  have hpower : (2 : ℚ) ^ magnitude.exponent = 2 ^ magnitude.exponent.toNat := by
    rw [← zpow_natCast, Int.toNat_of_nonneg hexponent]
  rw [value, hpower, Nat.pow_eq, Nat.cast_mul, Nat.cast_pow, Nat.cast_ofNat]

theorem value_of_neg {magnitude : Magnitude} (hexponent : magnitude.exponent < 0) :
    magnitude.value = magnitude.mantissa / (Nat.pow 2 (-magnitude.exponent).toNat : Nat) := by
  have hpower : (2 : ℚ) ^ magnitude.exponent = (2 ^ (-magnitude.exponent).toNat)⁻¹ := by
    rw [← zpow_natCast, Int.toNat_of_nonneg (by omega), zpow_neg, inv_inv]
  rw [value, hpower, ← div_eq_mul_inv, Nat.pow_eq, Nat.cast_pow, Nat.cast_ofNat]

/-- A size is a whole number where its exact value is one. -/
theorem whole?_eq_some_iff {magnitude : Magnitude} {size : Nat} :
    magnitude.whole? = some size ↔ magnitude.value = size := by
  rw [whole?]
  by_cases hexponent : 0 ≤ magnitude.exponent
  · rw [if_pos hexponent, value_of_nonneg hexponent, Option.some.injEq, Nat.cast_inj]
  · rw [if_neg hexponent, value_of_neg (by omega)]
    have hpositive : 0 < Nat.pow 2 (-magnitude.exponent).toNat := Nat.pow_pos Nat.two_pos
    generalize Nat.pow 2 (-magnitude.exponent).toNat = divisor at hpositive ⊢
    have hdivisor : (divisor : ℚ) ≠ 0 := Nat.cast_ne_zero.mpr (by omega)
    rw [div_eq_iff hdivisor, ← Nat.cast_mul, Nat.cast_inj]
    constructor
    · intro hwhole
      by_cases hexact : magnitude.mantissa % divisor = 0
      · rw [if_pos hexact, Option.some.injEq] at hwhole
        rw [← hwhole, Nat.div_mul_cancel (Nat.dvd_of_mod_eq_zero hexact)]
      · rw [if_neg hexact] at hwhole
        cases hwhole
    · intro hproduct
      rw [hproduct, Nat.mul_mod_left, if_pos rfl, Nat.mul_div_cancel _ hpositive]

end Magnitude

namespace Binary64

/-- The exact value of a number, if it is finite. -/
def value? : Binary64 → Option ℚ
  | .nan => none
  | .infinity _ => none
  | .finite negative magnitude => some (if negative then -magnitude.value else magnitude.value)

/-- A number is whole where its exact value is. -/
theorem whole?_eq_some_iff {number : Binary64} {whole : Int} :
    number.whole? = some whole ↔ number.value? = some (whole : ℚ) := by
  cases number with
  | nan => simp [whole?, value?]
  | infinity negative => simp [whole?, value?]
  | finite negative magnitude =>
      have hsize : ∀ size : Int,
          (∃ count : Nat, magnitude.whole? = some count ∧ (count : Int) = size) ↔
            magnitude.value = size := by
        intro size
        constructor
        · rintro ⟨count, hcount, rfl⟩
          rw [Magnitude.whole?_eq_some_iff.mp hcount, Int.cast_natCast]
        · intro hvalue
          have hnonneg : 0 ≤ size := by
            have hcast := magnitude.value_nonneg
            rw [hvalue] at hcast
            exact_mod_cast hcast
          refine ⟨size.toNat, Magnitude.whole?_eq_some_iff.mpr ?_, Int.toNat_of_nonneg hnonneg⟩
          rw [hvalue, ← Int.cast_natCast, Int.toNat_of_nonneg hnonneg]
      have hwhole : (finite negative magnitude).whole? = some whole ↔
          ∃ count : Nat, magnitude.whole? = some count ∧
            (if negative then -(count : Int) else count) = whole := by
        simp [whole?, Option.bind_eq_some_iff]
      rw [hwhole, value?, Option.some.injEq]
      cases negative with
      | false => simpa using hsize whole
      | true =>
          have hopposite := hsize (-whole)
          rw [Int.cast_neg] at hopposite
          simpa only [if_true, neg_eq_iff_eq_neg] using hopposite

end Binary64

/-! ## Values -/

namespace Toml.Value

/-- A value spells a whole number: it is the integer, or a floating-point number with this very
value, or a text that has its decimal form with blanks around it. -/
inductive Spells : Value → Int → Prop
  | integer (number : Int64) : Spells (.integer number) number.toInt
  | float {number : Binary64} {whole : Int} (hvalue : number.value? = some (whole : ℚ)) :
      Spells (.float number) whole
  | string {content : String} {characters : List Char} {whole : Int}
      (hsurrounded : Text.Surrounded content.toList characters)
      (hnumeral : Decimal.Numeral characters whole) : Spells (.string content) whole

/-- A value is a floating-point number without fraction that is beyond the range. -/
def IsBeyondRange : Value → Prop
  | .float number => ∃ whole : Int, number.value? = some (whole : ℚ) ∧ ¬ Signed64.InRange whole
  | _ => False

/-- A number without fraction is read as the number of the range that is nearest to it. -/
theorem integer?_float {number : Binary64} {whole : Int}
    (hvalue : number.value? = some (whole : ℚ)) :
    (Value.float number).integer? = some (Signed64.clamp whole) := by
  rw [integer?, Binary64.toSigned64?, Binary64.whole?_eq_some_iff.mpr hvalue]
  rfl

/-- Within the range, a value is read as the number that it spells. -/
theorem integer?_eq_some_iff {value : Value} (hrange : ¬ value.IsBeyondRange) {held : Int64} :
    value.integer? = some held ↔ value.Spells held.toInt := by
  cases value with
  | integer number =>
      rw [integer?, Option.some.injEq]
      constructor
      · rintro rfl
        exact .integer number
      · intro hspells
        generalize hheld : held.toInt = whole at hspells
        cases hspells
        exact (Int64.toInt_inj.mp hheld).symm
  | float number =>
      constructor
      · intro hread
        obtain ⟨whole, hwhole, hclamp⟩ := Option.map_eq_some_iff.mp hread
        have hvalue := Binary64.whole?_eq_some_iff.mp hwhole
        have hheld : Signed64.InRange whole := by
          by_contra hbeyond
          exact hrange ⟨whole, hvalue, hbeyond⟩
        rw [(Signed64.clamp_eq_iff hheld).mp hclamp]
        exact .float hvalue
      · intro hspells
        cases hspells with
        | float hvalue =>
            rw [integer?_float hvalue, Option.some.injEq,
              Signed64.clamp_eq_iff (Signed64.inRange_toInt held)]
  | string content =>
      rw [integer?, Signed64.ofText?_eq_some_iff]
      constructor
      · rintro ⟨characters, hsurrounded, hnumeral⟩
        exact .string hsurrounded hnumeral
      · intro hspells
        cases hspells with
        | string hsurrounded hnumeral => exact ⟨_, hsurrounded, hnumeral⟩
  | _ =>
      constructor
      · intro hread
        cases hread
      · intro hspells
        cases hspells

end Toml.Value

/-! ## Fields -/

namespace Record

variable {record : Record} {field : String}

theorem read_eq_ok_iff {α : Type} {as? : Value → Option α} {content : α} :
    record.read field as? = .ok content ↔
      ∃ value, record.get? field = some value ∧ as? value = some content := by
  rw [← Option.bind_eq_some_iff, read]
  cases (record.get? field).bind as? <;> simp

/-- A field that is not read is missing. -/
theorem read_eq_missing {α : Type} {as? : Value → Option α}
    (hunread : ∀ content, record.read field as? ≠ .ok content) :
    record.read field as? = .error (.missingField record.label field) := by
  rw [read] at hunread ⊢
  cases hcontent : (record.get? field).bind as? with
  | none => rfl
  | some content =>
      rw [hcontent] at hunread
      exact absurd rfl (hunread content)

theorem integer_eq_ok_iff {number : Int64} :
    record.integer field = .ok number ↔
      ∃ value, record.get? field = some value ∧ value.integer? = some number :=
  read_eq_ok_iff

theorem flag?_eq_some_iff {value : Value} {flag : Bool} :
    flag? value = some flag ↔ value = .boolean flag ∨
      ∃ number, value.integer? = some number ∧ (number != 0) = flag := by
  rw [← Option.map_eq_some_iff]
  cases value with
  | boolean content => simp [flag?, Value.integer?]
  | _ => exact ⟨Or.inr, fun hflag => hflag.resolve_left Value.noConfusion⟩

/-- A flag is a truth value, or tells whether a number is not zero. -/
theorem flag_eq_ok_iff {flag : Bool} :
    record.flag field = .ok flag ↔ record.get? field = some (.boolean flag) ∨
      ∃ number, record.integer field = .ok number ∧ (number != 0) = flag := by
  simp only [Record.flag, read_eq_ok_iff, integer_eq_ok_iff, flag?_eq_some_iff]
  constructor
  · rintro ⟨value, hvalue, rfl | ⟨number, hnumber, hflag⟩⟩
    · exact Or.inl hvalue
    · exact Or.inr ⟨number, ⟨value, hvalue, hnumber⟩, hflag⟩
  · rintro (hvalue | ⟨number, ⟨value, hvalue, hnumber⟩, hflag⟩)
    · exact ⟨_, hvalue, Or.inl rfl⟩
    · exact ⟨value, hvalue, Or.inr ⟨number, hnumber, hflag⟩⟩

/-- A field is read exactly.  Its number is the one that its value spells; where it spells none, or
none that is in range, the field is missing.  Its flag is its truth value, or tells whether its
number is not zero; where it has neither, the field is missing. -/
structure ReadsExactly (record : Record) (field : String) : Prop where
  number : ∀ number : Int64, record.integer field = .ok number ↔
    ∃ value, record.get? field = some value ∧ value.Spells number.toInt
  noNumber : (∀ (number : Int64) (value : Value), record.get? field = some value →
      ¬ value.Spells number.toInt) →
    record.integer field = .error (.missingField record.label field)
  flag : ∀ flag, record.flag field = .ok flag ↔ record.get? field = some (.boolean flag) ∨
    ∃ number, record.integer field = .ok number ∧ (number != 0) = flag
  noFlag : (∀ flag, record.get? field ≠ some (.boolean flag)) →
    (∀ number, record.integer field ≠ .ok number) →
    record.flag field = .error (.missingField record.label field)

theorem readsExactly_of_inRange
    (hrange : ∀ value, record.get? field = some value → ¬ value.IsBeyondRange) :
    record.ReadsExactly field := by
  have hnumber : ∀ number : Int64, record.integer field = .ok number ↔
      ∃ value, record.get? field = some value ∧ value.Spells number.toInt := by
    intro number
    rw [integer_eq_ok_iff]
    apply exists_congr
    intro value
    exact and_congr_right fun hvalue => Value.integer?_eq_some_iff (hrange value hvalue)
  refine ⟨hnumber, ?_, fun _ => flag_eq_ok_iff, ?_⟩
  · intro hnone
    apply read_eq_missing
    intro number hread
    obtain ⟨value, hvalue, hspells⟩ := (hnumber number).mp hread
    exact hnone number value hvalue hspells
  · intro hnoFlag hnoNumber
    apply read_eq_missing
    intro flag hread
    rcases flag_eq_ok_iff.mp hread with hflag | ⟨number, hread, -⟩
    · exact hnoFlag flag hflag
    · exact hnoNumber number hread

/-- A floating-point number without fraction that is beyond the range is read all the same, as the
end of the range that is nearer to it. -/
theorem integer_of_beyondRange {number : Binary64} {whole : Int}
    (hfield : record.get? field = some (.float number))
    (hvalue : number.value? = some (whole : ℚ)) :
    record.integer field = .ok (Signed64.clamp whole) :=
  integer_eq_ok_iff.mpr ⟨_, hfield, Value.integer?_float hvalue⟩

/-- A value that is beyond the range spells no number of the range. -/
theorem not_readsExactly_of_beyondRange {value : Value} (hfield : record.get? field = some value)
    (hbeyond : value.IsBeyondRange) : ¬ record.ReadsExactly field := by
  intro hexactly
  cases value with
  | float number =>
      obtain ⟨whole, hvalue, hrange⟩ := hbeyond
      obtain ⟨other, hother, hspells⟩ :=
        (hexactly.number _).mp (integer_of_beyondRange hfield hvalue)
      obtain rfl := Option.some.inj (hfield.symm.trans hother)
      generalize hheld : (Signed64.clamp whole).toInt = held at hspells
      cases hspells with
      | float hsame =>
          have hwhole : held = whole := by
            exact_mod_cast Option.some.inj (hsame.symm.trans hvalue)
          rw [← hwhole, ← hheld] at hrange
          exact hrange (Signed64.inRange_toInt _)
  | _ => exact hbeyond

/-- A field is read exactly unless it holds a floating-point number without fraction that no signed
64-bit number is equal to.  Such a number is not refused: the field reads as the end of the range
on the side of the number. -/
theorem readsExactly_unless_beyond_range (record : Record) (field : String) :
    (record.ReadsExactly field ↔
      ∀ value, record.get? field = some value → ¬ value.IsBeyondRange) ∧
    (∀ number (whole : Int), record.get? field = some (.float number) →
      number.value? = some (whole : ℚ) → ¬ Signed64.InRange whole →
      record.integer field = .ok (if whole < 0 then Int64.minValue else Int64.maxValue)) := by
  refine ⟨⟨?_, readsExactly_of_inRange⟩, ?_⟩
  · intro hexactly value hfield hbeyond
    exact not_readsExactly_of_beyondRange hfield hbeyond hexactly
  · intro number whole hfield hvalue hbeyond
    rw [integer_of_beyondRange hfield hvalue, Signed64.clamp, if_neg hbeyond]

/-- A record whose only field holds the floating-point number `2 ^ 63`. -/
def beyondRange : Record :=
  .root [("port", .float (.finite false ⟨2 ^ 52, 11, by decide⟩))]

/-- The number `2 ^ 63` is read as the one before it. -/
theorem beyondRange_not_readsExactly :
    beyondRange.integer "port" = .ok Int64.maxValue ∧ ¬ beyondRange.ReadsExactly "port" := by
  refine ⟨by decide, not_readsExactly_of_beyondRange rfl ⟨2 ^ 63, ?_, by decide⟩⟩
  apply Binary64.whole?_eq_some_iff.mp
  decide

end Record

end HostRouting
