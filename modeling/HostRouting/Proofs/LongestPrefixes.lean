import HostRouting.Proofs.SearchTrees

/-!
# The longest stored prefix of a text

Of the texts that were given values, those that a given text starts with start with one another, so
one of them is the longest.  The answer for the given text is the value that this one was given
last.  No other text has any influence: the answer is the same as if only prefixes had been given
values.
-/

namespace HostRouting.SearchTree

variable {α : Type}

/-! ## What an answer depends on -/

/-- Trees that find the same for all prefixes of a key have the same answer for the key. -/
theorem longestPrefix?_congr {left right : SearchTree α} {key : List UInt8}
    (hsame : ∀ start, start <+: key → left.find? start = right.find? start) :
    left.longestPrefix? key = right.longestPrefix? key := by
  cases hright : right.longestPrefix? key with
  | none =>
      rw [longestPrefix?_eq_none_iff] at hright ⊢
      intro start hstart
      rw [hsame start hstart]
      exact hright start hstart
  | some value =>
      rw [longestPrefix?_eq_some_iff] at hright ⊢
      obtain ⟨start, hstart, hfound, hlongest⟩ := hright
      refine ⟨start, hstart, (hsame start hstart).trans hfound, ?_⟩
      intro other hother hsome
      rw [hsame other hother] at hsome
      exact hlongest other hother hsome

/-- Keys that are left out are not found, and the others are found as before. -/
theorem find?_ofInsertions_filter {kept : List UInt8 → Bool} {key : List UInt8}
    (hkey : kept key = true) (insertions : List (List UInt8 × α)) :
    (ofInsertions (insertions.filter fun insertion => kept insertion.1)).find? key =
      (ofInsertions insertions).find? key := by
  induction insertions using List.reverseRecOn with
  | nil => rfl
  | append_singleton insertions last ih =>
      rw [List.filter_append, ofInsertions_append, find?_insert, ← ih]
      cases hlast : kept last.1 with
      | true =>
          have hrow : [last].filter (fun insertion => kept insertion.1) = [last] := by
            simp [hlast]
          rw [hrow, ofInsertions_append, find?_insert]
      | false =>
          have hrow : [last].filter (fun insertion => kept insertion.1) = [] := by
            simp [hlast]
          have hother : key ≠ last.1 := by
            rintro rfl
            rw [hkey] at hlast
            cases hlast
          rw [hrow, List.append_nil, if_neg hother]

/-- A run answers for a key as if it had only set the values of prefixes of the key. -/
theorem longestPrefix?_ofInsertions_filter (insertions : List (List UInt8 × α))
    (key : List UInt8) :
    (ofInsertions (insertions.filter fun insertion => insertion.1 <+: key)).longestPrefix? key =
      (ofInsertions insertions).longestPrefix? key := by
  apply longestPrefix?_congr
  intro start hstart
  let kept (own : List UInt8) : Bool := own <+: key
  have hkept : kept start = true := decide_eq_true hstart
  exact find?_ofInsertions_filter hkept insertions

/-! ## Texts -/

/-- A text is the longest of some with whose bytes those of a given text start.  The empty text is
a prefix of every text, and each text is one of itself. -/
structure LongestPrefix (texts : List String) (text start : String) : Prop where
  mem : start ∈ texts
  isPrefix : Utf8.bytes start <+: Utf8.bytes text
  longest : ∀ other ∈ texts, Utf8.bytes other <+: Utf8.bytes text →
    (Utf8.bytes other).length ≤ (Utf8.bytes start).length

theorem find?_ofTexts (insertions : List (String × α)) (text : String) :
    (ofTexts insertions).find? (Utf8.bytes text) = insertions.reverse.lookup text := by
  rw [ofTexts, find?_ofInsertions, ← List.map_reverse, lookup_map_bytes]

/-- Only the bytes of texts that were given values are found. -/
theorem find?_ofTexts_isSome_iff (insertions : List (String × α)) (key : List UInt8) :
    ((ofTexts insertions).find? key).isSome = true ↔
      ∃ text ∈ insertions.map Prod.fst, Utf8.bytes text = key := by
  rw [ofTexts, find?_ofInsertions_isSome_iff, keys_map_bytes, List.mem_map]

theorem longestPrefix?_ofTexts_eq_some_iff {insertions : List (String × α)} {text : String}
    {value : α} :
    (ofTexts insertions).longestPrefix? (Utf8.bytes text) = some value ↔
      ∃ start, LongestPrefix (insertions.map Prod.fst) text start ∧
        insertions.reverse.lookup start = some value := by
  rw [longestPrefix?_eq_some_iff]
  constructor
  · rintro ⟨key, hkey, hfound, hlongest⟩
    obtain ⟨start, hmem, rfl⟩ :=
      (find?_ofTexts_isSome_iff insertions key).mp (Option.isSome_of_eq_some hfound)
    refine ⟨start, ⟨hmem, hkey, ?_⟩, (find?_ofTexts insertions start).symm.trans hfound⟩
    intro other hother hprefix
    exact hlongest _ hprefix ((find?_ofTexts_isSome_iff insertions _).mpr ⟨other, hother, rfl⟩)
  · rintro ⟨start, hstart, hvalue⟩
    refine ⟨_, hstart.isPrefix, (find?_ofTexts insertions start).trans hvalue, ?_⟩
    intro key hkey hfound
    obtain ⟨other, hother, rfl⟩ := (find?_ofTexts_isSome_iff insertions key).mp hfound
    exact hstart.longest other hother hkey

theorem longestPrefix?_ofTexts_eq_none_iff {insertions : List (String × α)} {text : String} :
    (ofTexts insertions).longestPrefix? (Utf8.bytes text) = none ↔
      ∀ start ∈ insertions.map Prod.fst, ¬ Utf8.bytes start <+: Utf8.bytes text := by
  rw [longestPrefix?_eq_none_iff]
  constructor
  · intro hmissing start hmem hprefix
    have hfound := (find?_ofTexts_isSome_iff insertions _).mpr ⟨start, hmem, rfl⟩
    rw [hmissing _ hprefix] at hfound
    cases hfound
  · intro hother key hkey
    by_contra hfound
    obtain ⟨start, hmem, rfl⟩ :=
      (find?_ofTexts_isSome_iff insertions key).mp (Option.isSome_iff_ne_none.mpr hfound)
    exact hother start hmem hkey

/-- However texts were given values: the answer for a text is the value that was last given to the
longest of its prefixes among them, and there is none exactly when no prefix was given a value.  The
empty text is a prefix of each text, a text is a prefix of itself, and texts that are no prefixes
might as well not have been given values. -/
theorem longestPrefix?_ofTexts (insertions : List (String × α)) (text : String) :
    let tree := ofTexts insertions
    let texts := insertions.map Prod.fst
    (∀ value, tree.longestPrefix? (Utf8.bytes text) = some value ↔
      ∃ start, LongestPrefix texts text start ∧ insertions.reverse.lookup start = some value) ∧
    (tree.longestPrefix? (Utf8.bytes text) = none ↔
      ∀ start ∈ texts, ¬ Utf8.bytes start <+: Utf8.bytes text) ∧
    ("" ∈ texts → (tree.longestPrefix? (Utf8.bytes text)).isSome = true) ∧
    (text ∈ texts →
      tree.longestPrefix? (Utf8.bytes text) = insertions.reverse.lookup text) ∧
    tree.longestPrefix? (Utf8.bytes text) =
      (ofTexts (insertions.filter fun insertion =>
        Utf8.bytes insertion.1 <+: Utf8.bytes text)).longestPrefix? (Utf8.bytes text) := by
  intro tree texts
  refine ⟨fun value => longestPrefix?_ofTexts_eq_some_iff, longestPrefix?_ofTexts_eq_none_iff,
    ?_, ?_, ?_⟩
  · intro hempty
    rw [Option.isSome_iff_ne_none, ne_eq, longestPrefix?_ofTexts_eq_none_iff]
    intro hother
    exact hother "" hempty List.nil_prefix
  · intro hmem
    have hfound := (find?_ofTexts_isSome_iff insertions _).mpr ⟨text, hmem, rfl⟩
    rw [find?_ofTexts] at hfound
    obtain ⟨value, hvalue⟩ := Option.isSome_iff_exists.mp hfound
    rw [hvalue, longestPrefix?_ofTexts_eq_some_iff]
    exact ⟨text, ⟨hmem, List.prefix_refl _, fun _ _ hother => hother.length_le⟩, hvalue⟩
  · have hkeys := longestPrefix?_ofInsertions_filter
      (insertions.map fun insertion => (Utf8.bytes insertion.1, insertion.2)) (Utf8.bytes text)
    rw [List.filter_map] at hkeys
    exact hkeys.symm

/-- Texts that start with one another, one of them with two values, and two texts that part from
them within a character and behind the end. -/
def nestedTexts : List (String × Nat) :=
  [("é", 0), ("éa", 1), ("è", 2), ("éab", 3), ("", 4), ("éa", 5), ("éaz", 6)]

theorem longestPrefix?_ofTexts_nested :
    (ofTexts nestedTexts).longestPrefix? (Utf8.bytes "éac") = some 5 ∧
    ("" ∈ nestedTexts.map Prod.fst ∧
      ((ofTexts nestedTexts).longestPrefix? (Utf8.bytes "x")).isSome = true) ∧
    ("éa" ∈ nestedTexts.map Prod.fst ∧
      (ofTexts nestedTexts).longestPrefix? (Utf8.bytes "éa") =
        nestedTexts.reverse.lookup "éa") := by
  refine ⟨?_, ⟨by decide, ?_⟩, by decide, ?_⟩
  · apply ((longestPrefix?_ofTexts nestedTexts "éac").1 5).mpr
    exact ⟨"éa", ⟨by decide, by decide, by decide⟩, by decide⟩
  · exact (longestPrefix?_ofTexts nestedTexts "x").2.2.1 (by decide)
  · exact (longestPrefix?_ofTexts nestedTexts "éa").2.2.2.1 (by decide)

end HostRouting.SearchTree
