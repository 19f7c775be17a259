import HostRouting.Proofs.ShortestTexts
import HostRouting.Proofs.WriteOnce
import Mathlib.Tactic.NormNum

/-!
# Numbers in settings

A number in the `settings` table can be come by in two ways: as a field of the table, or through the
store, which keeps the text of the value and reads the number from it again.  Both give the same
number, and neither gives one where the other does not.

Only floating-point numbers beyond `2 ^ 53` are left out.  The text of such a number may end in zeros
where its value does not, and one beyond the signed 64-bit range is a number as a field, but not as
a text.
-/

namespace HostRouting

open Toml (Table Value)

/-! ## Texts with and without a number -/

namespace Decimal

theorem numeral_digits (size : Nat) : Numeral (digits size) size :=
  ⟨digits size, Nat.toDigits_ne_nil, fun _ => isDigit_of_mem_digits,
    Or.inl ⟨Or.inl rfl, by rw [value_digits]⟩⟩

theorem numeral_neg_digits (size : Nat) : Numeral ('-' :: digits size) (-size) :=
  ⟨digits size, Nat.toDigits_ne_nil, fun _ => isDigit_of_mem_digits,
    Or.inr ⟨rfl, by rw [value_digits]⟩⟩

/-- Behind the first character of a numeral there are digits. -/
theorem Numeral.isDigit_of_mem_tail {characters : List Char} {number : Int}
    (hnumeral : Numeral characters number) :
    ∀ digit ∈ characters.tail, digit.isDigit = true := by
  obtain ⟨row, -, hdigits, ⟨rfl | rfl, -⟩ | ⟨rfl, -⟩⟩ := hnumeral
  · exact fun digit hmem => hdigits digit (List.mem_of_mem_tail hmem)
  · exact hdigits
  · exact hdigits

end Decimal

namespace Signed64

/-- A text that is a numeral is read as its number. -/
theorem ofText?_of_numeral {text : String} {held : Int64}
    (hnumeral : Decimal.Numeral text.toList held.toInt) : ofText? text = some held := by
  apply ofText?_eq_some_iff.mpr
  exact ⟨text.toList, ⟨[], [], by simp, List.forall_mem_nil _, List.forall_mem_nil _⟩, hnumeral⟩

/-- A number is read back from its text. -/
theorem ofText?_text (number : Int64) : ofText? (text number) = some number := by
  apply ofText?_of_numeral
  rcases toList_text number with ⟨hsign, htext⟩ | ⟨hsign, htext⟩
  · have hsize : number.toInt = number.toInt.natAbs := by omega
    rw [htext, hsize, Int.natAbs_natCast]
    exact Decimal.numeral_digits _
  · have hsize : number.toInt = -number.toInt.natAbs := by omega
    rw [htext]
    nth_rewrite 2 [hsize]
    exact Decimal.numeral_neg_digits _

/-- A text that has something else than digits and blanks behind its first character, which is not
blank, is no number. -/
theorem ofText?_eq_none {text : String} {first other : Char} {rest : List Char}
    (htext : text.toList = first :: rest) (hfirst : Text.isBlank first = false)
    (hmem : other ∈ rest) (hdigit : other.isDigit = false)
    (hblank : Text.isBlank other = false) : ofText? text = none := by
  rw [Option.eq_none_iff_forall_ne_some]
  intro number hnumber
  obtain ⟨characters, ⟨front, back, hsplit, hfront, hback⟩, hnumeral⟩ :=
    ofText?_eq_some_iff.mp hnumber
  rw [htext] at hsplit
  -- The text starts with the numeral, as nothing blank stands in front.
  have hempty : front = [] := by
    cases front with
    | nil => rfl
    | cons blank others =>
        obtain ⟨rfl, -⟩ := List.cons.inj hsplit
        rw [hfront first List.mem_cons_self] at hfirst
        cases hfirst
  subst front
  cases characters with
  | nil => exact hnumeral.not_blank.1 rfl
  | cons sign digits =>
      obtain ⟨rfl, rfl⟩ := List.cons.inj hsplit
      rcases List.mem_append.mp hmem with hmem | hmem
      · rw [hnumeral.isDigit_of_mem_tail other hmem] at hdigit
        cases hdigit
      · rw [hback other hmem] at hblank
        cases hblank

theorem toInt_clamp {number : Int} (hleast : -(2 ^ 53) ≤ number) (hmost : number ≤ 2 ^ 53) :
    (clamp number).toInt = number := by
  have hmin : Int64.minValue.toInt = -2 ^ 63 := rfl
  have hmax : Int64.maxValue.toInt = 2 ^ 63 - 1 := rfl
  exact (clamp_eq_iff ⟨by omega, by omega⟩).mp rfl

end Signed64

/-! ## The texts of values -/

namespace Decimal

theorem padded_eq_cons (width number : Nat) :
    ∃ first rest, padded width number = first :: rest ∧ first.isDigit = true := by
  cases hpadded : padded width number with
  | nil =>
      rw [padded, List.append_eq_nil_iff] at hpadded
      exact absurd hpadded.2 Nat.toDigits_ne_nil
  | cons first rest =>
      refine ⟨first, rest, rfl, ?_⟩
      have hmem : first ∈ padded width number := hpadded ▸ List.mem_cons_self
      rcases List.mem_append.mp hmem with hmem | hmem
      · rw [List.eq_of_mem_replicate hmem]
        rfl
      · exact isDigit_of_mem_digits hmem

end Decimal

namespace Binary64

section Finite

variable {negative : Bool} {magnitude : Magnitude} {whole : Nat}

theorem toSigned64?_of_whole (hvalue : magnitude.value = whole) :
    (finite negative magnitude).toSigned64? =
      some (Signed64.clamp (if negative then -whole else whole)) := by
  have hsize : magnitude.whole? = some whole := Magnitude.whole?_eq_some_iff.mpr hvalue
  rw [toSigned64?, whole?, hsize]
  rfl

theorem toSigned64?_of_fractional (hfraction : ∀ whole : Nat, magnitude.value ≠ whole) :
    (finite negative magnitude).toSigned64? = none := by
  have hsize : magnitude.whole? = none := by
    rw [Option.eq_none_iff_forall_ne_some]
    exact fun whole hsize => hfraction whole (Magnitude.whole?_eq_some_iff.mp hsize)
  rw [toSigned64?, whole?, hsize]
  rfl

theorem toList_text_finite (negative : Bool) (magnitude : Magnitude) :
    (text (.finite negative magnitude)).toList =
      if negative then '-' :: magnitude.text else magnitude.text := by
  cases negative <;> exact String.toList_ofList

theorem ofText?_text_of_whole (hvalue : magnitude.value = whole) (hmost : whole ≤ 2 ^ 53) :
    Signed64.ofText? (text (.finite negative magnitude)) =
      some (Signed64.clamp (if negative then -whole else whole)) := by
  have htext := Magnitude.text_of_whole hvalue hmost
  apply Signed64.ofText?_of_numeral
  rw [toList_text_finite, htext]
  cases negative with
  | false =>
      rw [if_neg Bool.false_ne_true, if_neg Bool.false_ne_true,
        Signed64.toInt_clamp (by omega) (by omega)]
      exact Decimal.numeral_digits whole
  | true =>
      rw [if_pos rfl, if_pos rfl, Signed64.toInt_clamp (by omega) (by omega)]
      exact Decimal.numeral_neg_digits whole

theorem ofText?_text_of_fractional (hfraction : ∀ whole : Nat, magnitude.value ≠ whole) :
    Signed64.ofText? (text (.finite negative magnitude)) = none := by
  obtain ⟨first, rest, htext, hfirst, hpoint⟩ := Magnitude.text_of_fractional hfraction
  have hcharacters := toList_text_finite negative magnitude
  rw [htext] at hcharacters
  cases negative with
  | false =>
      exact Signed64.ofText?_eq_none hcharacters (Decimal.not_blank_of_isDigit hfirst) hpoint
        rfl rfl
  | true =>
      exact Signed64.ofText?_eq_none hcharacters rfl (List.mem_cons_of_mem first hpoint) rfl rfl

end Finite

/-- A number up to `2 ^ 53` is read from its text as what it is, and its text has no number if it is
no whole number itself. -/
theorem ofText?_text {number : Binary64}
    (hmoderate : ∀ exact ∈ number.value?, |exact| ≤ 2 ^ 53) :
    Signed64.ofText? number.text = number.toSigned64? := by
  cases number with
  | nan =>
      have htext : (text .nan).toList = ['N', 'a', 'N'] := by decide
      exact Signed64.ofText?_eq_none htext rfl List.mem_cons_self rfl rfl
  | infinity negative =>
      have htext : (text (.infinity false)).toList = ['i', 'n', 'f'] ∧
          (text (.infinity true)).toList = ['-', 'i', 'n', 'f'] := by decide
      cases negative with
      | false => exact Signed64.ofText?_eq_none htext.1 rfl List.mem_cons_self rfl rfl
      | true => exact Signed64.ofText?_eq_none htext.2 rfl List.mem_cons_self rfl rfl
  | finite negative magnitude =>
      by_cases hwhole : ∃ whole : Nat, magnitude.value = whole
      · obtain ⟨whole, hvalue⟩ := hwhole
        have hmost : whole ≤ 2 ^ 53 := by
          have hbound : |if negative then -magnitude.value else magnitude.value| ≤ 2 ^ 53 :=
            hmoderate _ rfl
          have hsize : |if negative then -magnitude.value else magnitude.value| = whole := by
            cases negative <;> simp [hvalue]
          rw [hsize] at hbound
          exact_mod_cast hbound
        rw [ofText?_text_of_whole hvalue hmost, toSigned64?_of_whole hvalue]
      · rw [not_exists] at hwhole
        rw [ofText?_text_of_fractional hwhole, toSigned64?_of_fractional hwhole]

end Binary64

namespace Toml

/-- The text of a moment begins with a digit and is no number: there is a hyphen in each date, and a
colon in each time. -/
theorem Datetime.ofText?_text (moment : Datetime) : Signed64.ofText? moment.text = none := by
  have hdate : ∀ (date : Date) (more : List Char),
      Signed64.ofText? (String.ofList (date.text ++ more)) = none := by
    intro date more
    obtain ⟨first, rest, hyear, hfirst⟩ := Decimal.padded_eq_cons 4 date.year
    have htext : (String.ofList (date.text ++ more)).toList = first :: (rest ++ '-' ::
        (Decimal.padded 2 date.month ++ '-' :: Decimal.padded 2 date.day ++ more)) := by
      rw [String.toList_ofList, Date.text, hyear]
      simp
    exact Signed64.ofText?_eq_none htext (Decimal.not_blank_of_isDigit hfirst)
      (List.mem_append_right rest List.mem_cons_self) rfl rfl
  cases moment with
  | offsetDateTime date time offset =>
      have hsplit := hdate date ('T' :: time.text ++ offset.text)
      rw [← List.append_assoc] at hsplit
      exact hsplit
  | localDateTime date time => exact hdate date ('T' :: time.text)
  | localDate date =>
      have hsplit := hdate date []
      rw [List.append_nil] at hsplit
      exact hsplit
  | localTime time =>
      obtain ⟨first, rest, hhour, hfirst⟩ := Decimal.padded_eq_cons 2 time.hour
      have htext : (Datetime.localTime time).text.toList = first :: (rest ++ ':' ::
          (Decimal.padded 2 time.minute ++ ':' :: Decimal.padded 2 time.second ++
            Time.fractionText time.nanosecond)) := by
        rw [Datetime.text, String.toList_ofList, Time.text, hhour]
        simp
      exact Signed64.ofText?_eq_none htext (Decimal.not_blank_of_isDigit hfirst)
        (List.mem_append_right rest List.mem_cons_self) rfl rfl

/-- A value is not a floating-point number beyond `2 ^ 53`. -/
def Value.IsModerate : Value → Prop
  | .float number => ∀ exact ∈ number.value?, |exact| ≤ 2 ^ 53
  | _ => True

/-- The text of a value has the number that the value itself is read as, if there is one. -/
theorem Value.ofText?_scalarText {value : Value} {text : String} (hmoderate : value.IsModerate)
    (htext : value.scalarText? = some text) : Signed64.ofText? text = value.integer? := by
  rcases scalarText?_eq_some_iff.mp htext with rfl | ⟨number, rfl, rfl⟩ | ⟨number, rfl, rfl⟩ |
    ⟨rfl, rfl⟩ | ⟨rfl, rfl⟩ | ⟨moment, rfl, rfl⟩
  · rfl
  · rw [← Signed64.text_eq_repr]
    exact Signed64.ofText?_text number
  · exact Binary64.ofText?_text hmoderate
  · decide
  · decide
  · exact moment.ofText?_text

end Toml

/-! ## Settings -/

namespace GlobalStore

/-- The texts of values that all have one are found where the values are. -/
theorem lookup_texts {entries : Table}
    (hscalars : ∀ entry ∈ entries, entry.2.scalarText?.isSome = true) (key : String) :
    (texts entries).lookup key = (entries.lookup key).bind Value.scalarText? := by
  induction entries with
  | nil => rfl
  | cons entry rest ih =>
      obtain ⟨hentry, hrest⟩ := List.forall_mem_cons.mp hscalars
      obtain ⟨text, htext⟩ := Option.isSome_iff_exists.mp hentry
      have htexts : texts (entry :: rest) = (entry.1, text) :: texts rest := by
        simp [texts, htext]
      rw [htexts, List.lookup_cons, List.lookup_cons, ih hrest]
      cases key == entry.1 with
      | false => rfl
      | true => exact htext.symm

end GlobalStore

namespace Settings

theorem integer_run {settings : Settings} {key text : String}
    (hget : settings.get? key = some text) (default : Int64) :
    (integer key default).run settings = match Signed64.ofText? text with
      | some number => ⟨.ok number, settings, []⟩
      | none => ⟨.ok default, settings, [.settingNotInteger key text default]⟩ := by
  rw [integer, Audited.run_get_bind]
  simp only [hget]
  cases Signed64.ofText? text with
  | none => rfl
  | some number => rfl

/-- The settings that loading a table of values with texts leaves behind have the number that the
table has in the same field.  Where the table has none they have the default, and say so.  This
leaves out floating-point numbers beyond `2 ^ 53` alone, and so holds for every integer, which
comes through its text unharmed. -/
theorem integer_agrees_with_record {root : Record} {entries : Table}
    (hentries : Declared.entries? root.table "settings" = some entries)
    (hkeys : (entries.map Prod.fst).Nodup)
    (hscalars : ∀ entry ∈ entries, entry.2.scalarText?.isSome = true) :
    let record : Record := ⟨GlobalStore.tableLabel .settings root, entries⟩
    root.subtable "settings" = .ok record ∧
    ∃ settings : Settings,
      (GlobalStore.load root).run {} =
        ⟨.ok entries.length, settings, [.mapLoaded .settings entries.length]⟩ ∧
      (∀ key value, (key, value) ∈ entries → value.IsModerate →
        ∃ text, value.scalarText? = some text ∧
          ∀ default, (integer key default).run settings = match record.integer key with
            | .ok number => ⟨.ok number, settings, []⟩
            | .error _ => ⟨.ok default, settings, [.settingNotInteger key text default]⟩) ∧
      ∀ key number, (key, Value.integer number) ∈ entries →
        ∀ default, (integer key default).run settings = ⟨.ok number, settings, []⟩ := by
  intro record
  have haccepted : ∀ entry ∈ entries,
      ({} : Settings).refusal? (GlobalStore.tableLabel .settings root) entry = none := by
    intro entry hmem
    exact GlobalStore.refusal?_eq_none_iff.mpr
      ⟨hscalars entry hmem, GlobalStore.holds_nil.get entry.1⟩
  obtain ⟨settings, hrun, hgained⟩ := GlobalStore.load_of_accepted hentries hkeys haccepted
  have hboth : ∀ key value, (key, value) ∈ entries → value.IsModerate →
      ∃ text, value.scalarText? = some text ∧
        ∀ default, (integer key default).run settings = match record.integer key with
          | .ok number => ⟨.ok number, settings, []⟩
          | .error _ => ⟨.ok default, settings, [.settingNotInteger key text default]⟩ := by
    intro key value hmem hmoderate
    have hlookup : entries.lookup key = some value := lookup_eq_some_of_mem hkeys hmem
    obtain ⟨text, htext⟩ := Option.isSome_iff_exists.mp (hscalars _ hmem)
    have hget : settings.get? key = some text := by
      rw [hgained.get, GlobalStore.holds_nil.get, List.lookup_nil, Option.none_or,
        GlobalStore.lookup_texts hscalars, hlookup]
      exact htext
    have hread : record.integer key = match value.integer? with
        | some number => .ok number
        | none => .error (record.missing key) := by
      rw [Record.integer, Record.read, Record.get?, hlookup, Option.bind_some]
      cases value.integer? <;> rfl
    refine ⟨text, htext, ?_⟩
    intro default
    rw [integer_run hget, Value.ofText?_scalarText hmoderate htext, hread]
    cases value.integer? <;> rfl
  refine ⟨Record.subtable_of_some hentries, settings, hrun, hboth, ?_⟩
  intro key number hmem default
  obtain ⟨text, -, hinteger⟩ := hboth key (.integer number) hmem trivial
  have hread : record.integer key = .ok number := by
    rw [Record.integer, Record.read, Record.get?, lookup_eq_some_of_mem hkeys hmem]
    rfl
  rw [hinteger, hread]

def minusHalf : Binary64 :=
  .finite true ⟨2 ^ 52, -53, by decide⟩

/-- A document with an integer at the end of the range and two settings that are no integers. -/
def assorted : Record :=
  .root [("settings", .table [("limits.least", .integer Int64.minValue),
    ("limits.ratio", .float minusHalf), ("limits.since", .datetime (.localDate ⟨2024, 2, 29⟩))])]

def assortedEntries : Table :=
  (Declared.entries? assorted.table "settings").getD []

theorem integer_agrees_with_record_assorted :
    Declared.entries? assorted.table "settings" = some assortedEntries ∧
    (assortedEntries.map Prod.fst).Nodup ∧
    (∀ entry ∈ assortedEntries, entry.2.scalarText?.isSome = true) ∧
    ("limits.least", .integer Int64.minValue) ∈ assortedEntries ∧
    ("limits.ratio", .float minusHalf) ∈ assortedEntries ∧ (Value.float minusHalf).IsModerate ∧
    ∃ settings : Settings,
      (GlobalStore.load assorted).run {} = ⟨.ok 3, settings, [.mapLoaded .settings 3]⟩ ∧
      (integer "limits.least" 7).run settings = ⟨.ok Int64.minValue, settings, []⟩ ∧
      (integer "limits.ratio" 7).run settings =
        ⟨.ok 7, settings, [.settingNotInteger "limits.ratio" "-0.5" 7]⟩ := by
  have hentries : Declared.entries? assorted.table "settings" = some assortedEntries := rfl
  have hkeys : (assortedEntries.map Prod.fst).Nodup := by decide
  have hscalars : ∀ entry ∈ assortedEntries, entry.2.scalarText?.isSome = true := by decide
  have hleast : ("limits.least", .integer Int64.minValue) ∈ assortedEntries :=
    List.mem_cons_self
  have hratio : ("limits.ratio", .float minusHalf) ∈ assortedEntries :=
    List.mem_cons_of_mem _ List.mem_cons_self
  have hmoderate : (Value.float minusHalf).IsModerate := by
    intro exact hexact
    obtain rfl := Option.some.inj hexact
    have hhalf : (2 ^ 52 : Nat) * (2 : ℚ) ^ (-53 : Int) = 1 / 2 := by norm_num
    rw [if_pos rfl, Magnitude.value, hhalf, abs_neg, abs_of_pos (by norm_num)]
    norm_num
  obtain ⟨-, settings, hrun, hfields, hintegers⟩ :=
    integer_agrees_with_record hentries hkeys hscalars
  obtain ⟨text, htext, hread⟩ := hfields _ _ hratio hmoderate
  have hwritten : text = "-0.5" := by
    rw [← Option.some.inj htext]
    decide
  refine ⟨hentries, hkeys, hscalars, hleast, hratio, hmoderate, settings, hrun,
    hintegers _ _ hleast 7, ?_⟩
  rw [hread 7, hwritten]
  rfl

end Settings

end HostRouting
