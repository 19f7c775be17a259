import HostRouting.Number.Numeral
import Mathlib.Data.List.Basic
import Mathlib.Data.List.TakeWhile

/-!
# Numerals

What the decimal digits of a number look like, which texts denote a number, and which numbers 64
bits hold with a sign.
-/

namespace HostRouting

/-! ## Decimal digits -/

namespace Decimal

/-- The digits of a positive number do not start with a zero. -/
theorem head?_digits_ne {number : Nat} (hpositive : 0 < number) :
    (digits number).head? ≠ some '0' := by
  induction number using Nat.strong_induction_on with
  | _ number ih =>
      rw [digits, Nat.toDigits_eq_if (by decide)]
      by_cases hsmall : number < 10
      · rw [if_pos hsmall, List.head?_singleton]
        intro hzero
        exact hpositive.ne' (Nat.digitChar_eq_zero.mp (Option.some.inj hzero))
      · rw [if_neg hsmall, List.head?_append_of_ne_nil _ Nat.toDigits_ne_nil]
        exact ih (number / 10) (by omega) (by omega)

theorem isDigit_of_mem_digits {number : Nat} {digit : Char}
    (hmem : digit ∈ digits number) : digit.isDigit = true :=
  Nat.isDigit_of_mem_toDigits (by decide) (by decide) hmem

/-- Characters are a whole number in decimal: at most one sign, and one digit or more. -/
def Numeral (characters : List Char) (number : Int) : Prop :=
  ∃ row, row ≠ [] ∧ (∀ digit ∈ row, digit.isDigit = true) ∧
    ((characters = row ∨ characters = '+' :: row) ∧ number = value row ∨
      characters = '-' :: row ∧ number = -value row)

theorem natural?_eq_some_iff {row : List Char} {size : Nat} :
    natural? row = some size ↔
      row ≠ [] ∧ (∀ digit ∈ row, digit.isDigit = true) ∧ size = value row := by
  rw [natural?, Option.ite_none_right_eq_some, List.all_eq_true, Option.some.injEq, and_assoc,
    @eq_comm _ (value row)]

/-- The number of a row of digits after its sign has changed it. -/
theorem map_natural?_eq_some_iff {row : List Char} {sign : Int → Int} {number : Int} :
    Option.map sign (do return ((← natural? row) : Int)) = some number ↔
      row ≠ [] ∧ (∀ digit ∈ row, digit.isDigit = true) ∧ number = sign (value row) := by
  simp only [Option.map_eq_some_iff, Option.bind_eq_bind, Option.bind_eq_some_iff,
    natural?_eq_some_iff, Option.pure_def, Option.some.injEq]
  constructor
  · rintro ⟨_, ⟨_, ⟨hne, hdigits, rfl⟩, rfl⟩, rfl⟩
    exact ⟨hne, hdigits, rfl⟩
  · rintro ⟨hne, hdigits, rfl⟩
    exact ⟨_, ⟨_, ⟨hne, hdigits, rfl⟩, rfl⟩, rfl⟩

/-- A row of digits does not begin with a sign. -/
theorem ne_sign_of_digits {row rest : List Char} {sign : Char}
    (hdigits : ∀ digit ∈ row, digit.isDigit = true) (hsign : sign.isDigit = false) :
    row ≠ sign :: rest := by
  rintro rfl
  rw [hdigits sign List.mem_cons_self] at hsign
  cases hsign

theorem integer?_eq_some_iff {characters : List Char} {number : Int} :
    integer? characters = some number ↔ Numeral characters number := by
  constructor
  · intro hinteger
    unfold integer? at hinteger
    split at hinteger
    · obtain ⟨hne, hdigits, rfl⟩ := map_natural?_eq_some_iff.mp hinteger
      exact ⟨_, hne, hdigits, Or.inr ⟨rfl, rfl⟩⟩
    · obtain ⟨hne, hdigits, rfl⟩ := map_natural?_eq_some_iff.mp hinteger
      exact ⟨_, hne, hdigits, Or.inl ⟨Or.inr rfl, rfl⟩⟩
    · obtain ⟨hne, hdigits, rfl⟩ := map_natural?_eq_some_iff.mp hinteger
      exact ⟨_, hne, hdigits, Or.inl ⟨Or.inl rfl, rfl⟩⟩
  · rintro ⟨row, hne, hdigits, ⟨rfl | rfl, rfl⟩ | ⟨rfl, rfl⟩⟩
    · unfold integer?
      split
      · exact absurd rfl (ne_sign_of_digits hdigits rfl)
      · exact absurd rfl (ne_sign_of_digits hdigits rfl)
      · exact map_natural?_eq_some_iff.mpr ⟨hne, hdigits, rfl⟩
    · exact map_natural?_eq_some_iff.mpr ⟨hne, hdigits, rfl⟩
    · exact map_natural?_eq_some_iff.mpr ⟨hne, hdigits, rfl⟩

theorem not_blank_of_isDigit {digit : Char} (hdigit : digit.isDigit = true) :
    Text.isBlank digit = false := by
  have hcode : 48 ≤ digit.toNat ∧ digit.toNat ≤ 57 := Char.isDigit_iff_toNat.mp hdigit
  rw [Bool.eq_false_iff]
  intro hblank
  simp only [Text.isBlank, Bool.or_eq_true, Bool.and_eq_true, decide_eq_true_eq,
    beq_iff_eq] at hblank
  omega

/-- What a number is made of is not blank. -/
theorem Numeral.not_blank {characters : List Char} {number : Int}
    (hnumeral : Numeral characters number) :
    characters ≠ [] ∧ ∀ character ∈ characters, Text.isBlank character = false := by
  obtain ⟨row, hne, hdigits, hsigned⟩ := hnumeral
  have hrow : ∀ digit ∈ row, Text.isBlank digit = false :=
    fun digit hmem => not_blank_of_isDigit (hdigits digit hmem)
  rcases hsigned with ⟨rfl | rfl, -⟩ | ⟨rfl, -⟩
  · exact ⟨hne, hrow⟩
  · exact ⟨List.cons_ne_nil _ _, List.forall_mem_cons.mpr ⟨by decide, hrow⟩⟩
  · exact ⟨List.cons_ne_nil _ _, List.forall_mem_cons.mpr ⟨by decide, hrow⟩⟩

end Decimal

/-! ## Blanks around a text -/

namespace Text

/-- A text consists of some characters and blanks around them. -/
def Surrounded (text characters : List Char) : Prop :=
  ∃ front back, text = front ++ characters ++ back ∧
    (∀ blank ∈ front, isBlank blank = true) ∧ ∀ blank ∈ back, isBlank blank = true

theorem surrounded_trimmed (text : List Char) : Surrounded text (trimmed text) := by
  let start := text.dropWhile isBlank
  refine ⟨text.takeWhile isBlank, (start.reverse.takeWhile isBlank).reverse, ?_, ?_, ?_⟩
  · have hstart : trimmed text ++ (start.reverse.takeWhile isBlank).reverse = start := by
      rw [trimmed, ← List.reverse_append, List.takeWhile_append_dropWhile, List.reverse_reverse]
    rw [List.append_assoc, hstart, List.takeWhile_append_dropWhile]
  · exact fun blank hmem => List.mem_takeWhile_imp hmem
  · exact fun blank hmem => List.mem_takeWhile_imp (List.mem_reverse.mp hmem)

/-- Blanks around characters that are not blank are what is taken off. -/
theorem Surrounded.trimmed_eq {text characters : List Char}
    (hsurrounded : Surrounded text characters) (hne : characters ≠ [])
    (hsolid : ∀ character ∈ characters, isBlank character = false) :
    trimmed text = characters := by
  obtain ⟨front, back, rfl, hfront, hback⟩ := hsurrounded
  have hkept : ∀ (row rest : List Char), row ≠ [] → (∀ character ∈ row, isBlank character = false) →
      (row ++ rest).dropWhile isBlank = row ++ rest := by
    intro row rest hrow hsolid
    cases row with
    | nil => exact absurd rfl hrow
    | cons first others =>
        exact List.dropWhile_cons_of_neg (by simp [hsolid first List.mem_cons_self])
  have hreverse : ∀ character ∈ characters.reverse, isBlank character = false :=
    fun character hmem => hsolid character (List.mem_reverse.mp hmem)
  rw [trimmed, List.append_assoc, List.dropWhile_append_of_pos hfront, hkept _ _ hne hsolid,
    List.reverse_append,
    List.dropWhile_append_of_pos fun blank hmem => hback blank (List.mem_reverse.mp hmem),
    ← List.append_nil characters.reverse, hkept _ _ (by simpa using hne) hreverse,
    List.append_nil, List.reverse_reverse]

end Text

/-! ## The signed 64-bit range -/

namespace Signed64

theorem inRange_toInt (number : Int64) : InRange number.toInt :=
  ⟨number.minValue_le_toInt, number.toInt_le⟩

theorem toInt_ofInt {number : Int} (hrange : InRange number) :
    (Int64.ofInt number).toInt = number := by
  obtain ⟨hlow, hhigh⟩ := hrange
  have hmin : Int64.minValue.toInt = -2 ^ 63 := rfl
  have hmax : Int64.maxValue.toInt = 2 ^ 63 - 1 := rfl
  exact Int64.toInt_ofInt_of_le (by omega) (by omega)

theorem ofInt_eq_iff {number : Int} (hrange : InRange number) {held : Int64} :
    Int64.ofInt number = held ↔ held.toInt = number := by
  rw [← Int64.toInt_inj, toInt_ofInt hrange, eq_comm]

/-- A number in range is itself, and no other number is any. -/
theorem ofInt?_eq_some_iff {number : Int} {held : Int64} :
    ofInt? number = some held ↔ held.toInt = number := by
  rw [ofInt?, Option.ite_none_right_eq_some, Option.some.injEq]
  constructor
  · rintro ⟨hrange, hheld⟩
    exact (ofInt_eq_iff hrange).mp hheld
  · rintro rfl
    exact ⟨inRange_toInt held, held.ofInt_toInt⟩

theorem ofInt?_toInt (number : Int64) : ofInt? number.toInt = some number :=
  ofInt?_eq_some_iff.mpr rfl

theorem clamp_eq_iff {number : Int} (hrange : InRange number) {held : Int64} :
    clamp number = held ↔ held.toInt = number := by
  rw [clamp, if_pos hrange, ofInt_eq_iff hrange]

/-- The text of a number is its digits, with a sign in front of them if it is negative. -/
theorem toList_text (number : Int64) :
    (0 ≤ number.toInt ∧ (text number).toList = Decimal.digits number.toInt.natAbs) ∨
      (number.toInt < 0 ∧
        (text number).toList = '-' :: Decimal.digits number.toInt.natAbs) := by
  rw [text]
  cases number.toInt with
  | ofNat size => exact Or.inl ⟨Int.natCast_nonneg size, String.toList_ofList⟩
  | negSucc size => exact Or.inr ⟨Int.negSucc_lt_zero size, String.toList_ofList⟩

/-- A text is read where it is a number in range with blanks around it. -/
theorem ofText?_eq_some_iff {text : String} {held : Int64} :
    ofText? text = some held ↔ ∃ characters,
      Text.Surrounded text.toList characters ∧ Decimal.Numeral characters held.toInt := by
  rw [ofText?, Option.bind_eq_some_iff]
  constructor
  · rintro ⟨number, hnumber, hheld⟩
    rw [ofInt?_eq_some_iff.mp hheld]
    exact ⟨_, Text.surrounded_trimmed _, Decimal.integer?_eq_some_iff.mp hnumber⟩
  · rintro ⟨characters, hsurrounded, hnumeral⟩
    obtain ⟨hne, hsolid⟩ := hnumeral.not_blank
    refine ⟨held.toInt, ?_, ofInt?_eq_some_iff.mpr rfl⟩
    rw [hsurrounded.trimmed_eq hne hsolid]
    exact Decimal.integer?_eq_some_iff.mpr hnumeral

end Signed64

end HostRouting
