import HostRouting.Proofs.StoreRuns

/-!
# Media types by suffix

Extensions and paths are stored and looked up back to front and as bytes.  All the same, the answer
for a path depends on characters and suffixes alone: it is the type of the longest known extension
in which the path ends, whatever characters the two are written in.
-/

namespace HostRouting

namespace GlobalMap

/-- Where a path ends in an extension, its stored form starts with that of the extension. -/
theorem storedKey_prefix_iff {extension path : String} :
    mimeTypes.storedKey extension <+: mimeTypes.storedKey path ↔
      extension.toList <:+ path.toList := by
  rw [storedKey, storedKey, Utf8.bytes_prefix_iff, String.toList_ofList, String.toList_ofList]
  exact List.reverse_prefix

/-- Of two extensions in which a path ends, the one with more bytes has more characters. -/
theorem storedKey_length_le_iff {left right path : String}
    (hleft : left.toList <:+ path.toList) (hright : right.toList <:+ path.toList) :
    (mimeTypes.storedKey left).length ≤ (mimeTypes.storedKey right).length ↔
      left.toList.length ≤ right.toList.length := by
  constructor
  · intro hlength
    have hprefix := List.prefix_of_prefix_length_le (storedKey_prefix_iff.mpr hleft)
      (storedKey_prefix_iff.mpr hright) hlength
    exact (storedKey_prefix_iff.mp hprefix).length_le
  · intro hlength
    have hsuffix := List.suffix_of_suffix_length_le hleft hright hlength
    exact (storedKey_prefix_iff.mpr hsuffix).length_le

end GlobalMap

namespace MimeTypes

variable {mimeTypes : MimeTypes} {mapping : Mapping}

/-- An extension is the longest of some in which a path ends. -/
def LongestSuffix (extensions : List String) (path extension : String) : Prop :=
  extension.toList <:+ path.toList ∧
    ∀ other ∈ extensions, other.toList <:+ path.toList →
      other.toList.length ≤ extension.toList.length

theorem lookup?_eq_some_iff (hholds : mimeTypes.Holds mapping) {path type : String} :
    mimeTypes.lookup? path = some type ↔
      ∃ extension, (extension, type) ∈ mapping ∧ LongestSuffix mapping.keys path extension := by
  rw [lookup?, SearchTree.longestPrefix?_eq_some_iff]
  constructor
  · rintro ⟨start, hstart, hfound, hlongest⟩
    obtain ⟨extension, rfl⟩ := hholds.stored start (by rw [hfound]; rfl)
    have hsuffix := GlobalMap.storedKey_prefix_iff.mp hstart
    refine ⟨extension, hholds.get?_eq_some_iff.mp hfound, hsuffix, ?_⟩
    intro other hmem hother
    apply (GlobalMap.storedKey_length_le_iff hother hsuffix).mp
    exact hlongest _ (GlobalMap.storedKey_prefix_iff.mpr hother)
      ((hholds.isSome_iff other).mpr hmem)
  · rintro ⟨extension, hmem, hsuffix, hlongest⟩
    refine ⟨_, GlobalMap.storedKey_prefix_iff.mpr hsuffix, hholds.get?_eq_some_iff.mpr hmem, ?_⟩
    intro start hstart hsome
    obtain ⟨other, rfl⟩ := hholds.stored start hsome
    have hother := GlobalMap.storedKey_prefix_iff.mp hstart
    apply (GlobalMap.storedKey_length_le_iff hother hsuffix).mpr
    exact hlongest other ((hholds.isSome_iff other).mp hsome) hother

theorem lookup?_eq_none_iff (hholds : mimeTypes.Holds mapping) {path : String} :
    mimeTypes.lookup? path = none ↔
      ∀ extension ∈ mapping.keys, ¬ extension.toList <:+ path.toList := by
  rw [lookup?, SearchTree.longestPrefix?_eq_none_iff]
  constructor
  · intro hnone extension hmem hsuffix
    have hsome := (hholds.isSome_iff extension).mpr hmem
    rw [GlobalStore.get?, hnone _ (GlobalMap.storedKey_prefix_iff.mpr hsuffix)] at hsome
    cases hsome
  · intro hother start hstart
    by_contra hfound
    have hsome := Option.isSome_iff_ne_none.mpr hfound
    obtain ⟨extension, rfl⟩ := hholds.stored start hsome
    exact hother extension ((hholds.isSome_iff extension).mp hsome)
      (GlobalMap.storedKey_prefix_iff.mp hstart)

/-- A known extension is its own longest suffix. -/
theorem lookup?_eq_get? (hholds : mimeTypes.Holds mapping) {extension : String}
    (hmem : extension ∈ mapping.keys) :
    mimeTypes.lookup? extension = mimeTypes.get? extension := by
  obtain ⟨type, htype⟩ := Option.isSome_iff_exists.mp ((hholds.isSome_iff extension).mpr hmem)
  rw [htype, lookup?_eq_some_iff hholds]
  exact ⟨extension, hholds.get?_eq_some_iff.mp htype, List.suffix_refl _,
    fun _ _ hother => hother.length_le⟩

theorem add_eq_error_iff (hholds : mimeTypes.Holds mapping) (extension type : String) :
    GlobalStore.add extension type mimeTypes = .error (.duplicateKey .mimeTypes extension) ↔
      extension ∈ mapping.keys := by
  by_cases hknown : extension ∈ mapping.keys
  · simp [GlobalStore.add_of_isSome ((hholds.isSome_iff extension).mpr hknown), hknown]
  · simp [GlobalStore.add_of_eq_none (hholds.eq_none_of_not_mem hknown), hknown]

/-- Another extension than the one that is added leads where it led. -/
theorem get?_after_add_of_ne (hholds : mimeTypes.Holds mapping) {extension other : String}
    (hne : extension ≠ other) (type : String) :
    (mimeTypes.after (.add other type)).get? extension = mimeTypes.get? extension := by
  rw [GlobalStore.after]
  by_cases hknown : other ∈ mapping.keys
  · rw [GlobalStore.run_add_of_isSome ((hholds.isSome_iff other).mpr hknown)]
  · rw [GlobalStore.run_add_of_eq_none (hholds.eq_none_of_not_mem hknown),
      GlobalStore.get?_withEntry, if_neg hne]

/-- However media types were filled, and wherever that has failed: a path has the type of the
longest known extension that is a suffix of its characters, and none if no known extension is one;
a known extension has its own type; and no two extensions get into each other's way. -/
theorem lookup_by_longest_suffix (calls : List StoreCall) (path : String) :
    let mimeTypes : MimeTypes := GlobalStore.ofCalls calls
    let mapping := Mapping.ofCalls .mimeTypes calls
    (∀ type, mimeTypes.lookup? path = some type ↔
      ∃ extension, (extension, type) ∈ mapping ∧ LongestSuffix mapping.keys path extension) ∧
    (mimeTypes.lookup? path = none ↔
      ∀ extension ∈ mapping.keys, ¬ extension.toList <:+ path.toList) ∧
    (∀ extension type, mimeTypes.get? extension = some type ↔ (extension, type) ∈ mapping) ∧
    (∀ extension ∈ mapping.keys,
      mimeTypes.lookup? extension = mimeTypes.get? extension) ∧
    (∀ extension type,
      GlobalStore.add extension type mimeTypes = .error (.duplicateKey .mimeTypes extension) ↔
        extension ∈ mapping.keys) ∧
    (∀ extension other type, extension ≠ other →
      GlobalMap.mimeTypes.storedKey extension ≠ GlobalMap.mimeTypes.storedKey other ∧
      (mimeTypes.after (.add other type)).get? extension = mimeTypes.get? extension) := by
  intro mimeTypes mapping
  have hholds : mimeTypes.Holds mapping := GlobalStore.holds_ofCalls .mimeTypes calls
  refine ⟨fun _ => lookup?_eq_some_iff hholds, lookup?_eq_none_iff hholds,
    fun _ _ => hholds.get?_eq_some_iff, fun _ => lookup?_eq_get? hholds,
    add_eq_error_iff hholds, ?_⟩
  intro extension other type hne
  exact ⟨GlobalMap.mimeTypes.storedKey_injective.ne hne, get?_after_add_of_ne hholds hne type⟩

/-- Extensions outside of ASCII that end in one another, one of which comes twice. -/
def accentedCalls : List StoreCall :=
  [.add "é" "text/accent", .add ".né" "text/born", .add "é" "text/other"]

theorem lookup_by_longest_suffix_accented :
    let mimeTypes : MimeTypes := GlobalStore.ofCalls accentedCalls
    mimeTypes.lookup? "/a.né" = some "text/born" ∧
    ("é" ∈ (Mapping.ofCalls .mimeTypes accentedCalls).keys ∧
      mimeTypes.lookup? "é" = mimeTypes.get? "é") ∧
    ("é" ≠ ".né" ∧
      (mimeTypes.after (.add ".né" "text/other")).get? "é" = mimeTypes.get? "é") := by
  intro mimeTypes
  have hpath := lookup_by_longest_suffix accentedCalls "/a.né"
  obtain ⟨hlookup, -, -, hown, -, hother⟩ := hpath
  refine ⟨(hlookup _).mpr ⟨".né", by decide, by decide, by decide⟩, ⟨by decide, ?_⟩,
    by decide, ?_⟩
  · exact hown "é" (by decide)
  · exact (hother "é" ".né" "text/other" (by decide)).2

end MimeTypes

end HostRouting
