import HostRouting.Text
import Mathlib.Data.List.Infix

/-!
# Texts and their bytes

The bytes of one character never start with the bytes of another one, so bytes can be cut into
characters in one way only.  Therefore a text starts with another one exactly when its bytes start
with the bytes of the other, whatever characters the two are made of, and two texts with the same
bytes are the same.
-/

namespace HostRouting.Utf8

theorem head_eq_of_append_eq {left right : Char} {more others : List UInt8}
    (heq : String.utf8EncodeChar left ++ more = String.utf8EncodeChar right ++ others) :
    left = right := by
  have hdecoded := congrArg (fun bytes => bytes.toByteArray.utf8DecodeChar? 0) heq
  simp only [List.toByteArray_append, ByteArray.utf8DecodeChar?_utf8EncodeChar_append] at hdecoded
  exact Option.some.inj hdecoded

/-- Bytes of characters start with bytes of characters where the characters do. -/
theorem flatMap_prefix_iff {left right : List Char} :
    left.flatMap String.utf8EncodeChar <+: right.flatMap String.utf8EncodeChar ↔
      left <+: right := by
  constructor
  · intro hbytes
    induction left generalizing right with
    | nil => exact List.nil_prefix
    | cons first rest ih =>
        rw [List.flatMap_cons] at hbytes
        cases right with
        | nil =>
            have hempty := List.prefix_nil.mp hbytes
            simp at hempty
        | cons other others =>
            obtain ⟨tail, htail⟩ := hbytes
            rw [List.flatMap_cons, List.append_assoc] at htail
            obtain rfl := head_eq_of_append_eq htail
            apply (List.prefix_cons_inj first).mpr
            exact ih ⟨tail, List.append_cancel_left htail⟩
  · rintro ⟨tail, rfl⟩
    rw [List.flatMap_append]
    exact List.prefix_append _ _

theorem bytes_prefix_iff {left right : String} :
    bytes left <+: bytes right ↔ left.toList <+: right.toList :=
  flatMap_prefix_iff

theorem bytes_injective : Function.Injective bytes := by
  intro left right heq
  have hleft : left.toList <+: right.toList := by
    apply bytes_prefix_iff.mp
    rw [heq]
  have hright : right.toList <+: left.toList := by
    apply bytes_prefix_iff.mp
    rw [heq]
  exact String.toList_inj.mp (hleft.eq_of_length_le hright.length_le)

/-! ## The order of texts -/

theorem not_precedes_self (text : String) : ¬ Precedes text text :=
  List.lt_irrefl (bytes text)

theorem Precedes.trans {first second third : String} (hfirst : Precedes first second)
    (hsecond : Precedes second third) : Precedes first third :=
  List.lt_trans hfirst hsecond

/-- Of two different texts, one comes before the other. -/
theorem precedes_of_not_precedes {left right : String} (hne : left ≠ right)
    (hnot : ¬ Precedes left right) : Precedes right left := by
  by_contra hother
  apply hne
  apply bytes_injective
  exact List.le_antisymm (List.not_lt.mp hother) (List.not_lt.mp hnot)

end HostRouting.Utf8
