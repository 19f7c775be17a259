import HostRouting.Proofs.Utf8Texts
import HostRouting.SearchTree
import Mathlib.Data.List.Dedup
import Mathlib.Data.List.Infix

/-!
# Search trees as maps

Setting the value of a key changes what is found for this key and nothing else.  Looking a key up
takes the same way down the tree as setting its value did, whatever the tree looks like, so this
needs no assumption on the tree; in particular it does not need that the bytes of a level are
ordered.

The prefixes of a key lie on the way to the key itself, so the longest stored one among them is the
last value met on this way.
-/

namespace HostRouting.SearchTree

variable {α : Type}

/-! ## Subtrees -/

namespace Node

@[simp]
theorem find?_leaf (byte : UInt8) (rest : List UInt8) :
    (leaf : Node α).find? byte rest = none := rfl

/-- The three ways on from a branch. -/
theorem find?_branch (split byte : UInt8) (here : Option α) (low equal high : Node α)
    (rest : List UInt8) :
    (branch split here low equal high).find? byte rest =
      if byte < split then low.find? byte rest
      else if split < byte then high.find? byte rest
      else match rest with
        | [] => here
        | next :: rest => equal.find? next rest := rfl

/-- A byte that is on neither side of a split is the split. -/
theorem eq_of_not_lt {byte split : UInt8} (hlow : ¬ byte < split) (hhigh : ¬ split < byte) :
    byte = split :=
  UInt8.le_antisymm (UInt8.not_lt.mp hhigh) (UInt8.not_lt.mp hlow)

theorem find?_branch_self (byte : UInt8) (here : Option α) (low equal high : Node α)
    (rest : List UInt8) :
    (branch byte here low equal high).find? byte rest =
      match rest with
      | [] => here
      | next :: rest => equal.find? next rest := by
  rw [find?_branch, if_neg (UInt8.lt_irrefl byte), if_neg (UInt8.lt_irrefl byte)]

/-- Another byte than that of the branch leads to one of its sides. -/
theorem find?_branch_of_ne {split byte : UInt8} (hne : byte ≠ split) (here : Option α)
    (low equal high : Node α) (rest : List UInt8) :
    (branch split here low equal high).find? byte rest =
      if byte < split then low.find? byte rest else high.find? byte rest := by
  rw [find?_branch]
  by_cases hlow : byte < split
  · rw [if_pos hlow, if_pos hlow]
  · have hhigh : split < byte := by
      by_contra hhigh
      exact hne (eq_of_not_lt hlow hhigh)
    rw [if_neg hlow, if_neg hlow, if_pos hhigh]

/-- A single key is found, and no other one. -/
theorem find?_single (value : α) (byte other : UInt8) (rest others : List UInt8) :
    (single byte value rest).find? other others =
      if other :: others = byte :: rest then some value else none := by
  induction rest generalizing byte other others with
  | nil =>
      by_cases hsame : other = byte
      · subst other
        rw [single, find?_branch_self]
        cases others <;> simp
      · rw [single, find?_branch_of_ne hsame]
        simp [hsame]
  | cons next rest ih =>
      by_cases hsame : other = byte
      · subst other
        rw [single, find?_branch_self]
        cases others with
        | nil => simp
        | cons after others => simp [ih]
      · rw [single, find?_branch_of_ne hsame]
        simp [hsame]

/-- Setting a value takes the same three ways. -/
theorem insert_branch (value : α) (split byte : UInt8) (here : Option α) (low equal high : Node α)
    (rest : List UInt8) :
    insert value (branch split here low equal high) byte rest =
      if byte < split then
        ((insert value low byte rest).1,
          branch split here (insert value low byte rest).2 equal high)
      else if split < byte then
        ((insert value high byte rest).1,
          branch split here low equal (insert value high byte rest).2)
      else match rest with
        | [] => (here, branch split (some value) low equal high)
        | next :: rest =>
            ((insert value equal next rest).1,
              branch split here low (insert value equal next rest).2 high) := rfl

/-- Setting a value answers with what was found before. -/
theorem insert_fst (value : α) (node : Node α) (byte : UInt8) (rest : List UInt8) :
    (insert value node byte rest).1 = node.find? byte rest := by
  induction node generalizing byte rest with
  | leaf => rfl
  | branch split here low equal high ihLow ihEqual ihHigh =>
      rw [insert_branch, find?_branch]
      by_cases hlow : byte < split
      · simp only [if_pos hlow, ihLow]
      by_cases hhigh : split < byte
      · simp only [if_neg hlow, if_pos hhigh, ihHigh]
      simp only [if_neg hlow, if_neg hhigh]
      cases rest with
      | nil => rfl
      | cons next rest => simp only [ihEqual]

/-- Setting a value changes what is found for its key only. -/
theorem find?_insert (value : α) (node : Node α) (byte other : UInt8) (rest others : List UInt8) :
    (insert value node byte rest).2.find? other others =
      if other :: others = byte :: rest then some value else node.find? other others := by
  induction node generalizing byte rest other others with
  | leaf => rw [insert, find?_single, find?_leaf]
  | branch split here low equal high ihLow ihEqual ihHigh =>
      rw [insert_branch]
      by_cases hlow : byte < split
      · simp only [if_pos hlow, find?_branch, ihLow]
        by_cases hsame : other = byte
        · simp [hsame, hlow]
        · simp [hsame]
      by_cases hhigh : split < byte
      · simp only [if_neg hlow, if_pos hhigh, find?_branch, ihHigh]
        by_cases hsame : other = byte
        · simp [hsame, hlow, hhigh]
        · simp [hsame]
      obtain rfl := eq_of_not_lt hlow hhigh
      by_cases hsame : other = byte
      · subst other
        simp only [if_neg hlow, find?_branch_self]
        cases rest with
        | nil => cases others <;> simp [find?_branch_self]
        | cons next rest => cases others <;> simp [find?_branch_self, ihEqual]
      · -- The other key leaves this branch to a side that stays as it is.
        simp only [if_neg hlow]
        cases rest <;> simp [find?_branch_of_ne hsame, hsame]

theorem longestPrefix?_branch (best : Option α) (split byte : UInt8) (here : Option α)
    (low equal high : Node α) (rest : List UInt8) :
    (branch split here low equal high).longestPrefix? best byte rest =
      if byte < split then low.longestPrefix? best byte rest
      else if split < byte then high.longestPrefix? best byte rest
      else match rest with
        | [] => here.or best
        | next :: rest => equal.longestPrefix? (here.or best) next rest := rfl

/-- The best prefix is looked for among the prefixes of a key from the longest on. -/
theorem longestPrefix?_eq (best : Option α) (node : Node α) (byte : UInt8) (rest : List UInt8) :
    node.longestPrefix? best byte rest =
      (rest.inits.reverse.findSome? (node.find? byte)).or best := by
  induction node generalizing best byte rest with
  | leaf =>
      have hnone : rest.inits.reverse.findSome? ((leaf : Node α).find? byte) = none :=
        List.findSome?_eq_none_iff.mpr fun _ _ => rfl
      rw [hnone, longestPrefix?, Option.none_or]
  | branch split here low equal high ihLow ihEqual ihHigh =>
      rw [longestPrefix?_branch]
      by_cases hlow : byte < split
      · have hfind : (branch split here low equal high).find? byte = low.find? byte := by
          funext others
          rw [find?_branch, if_pos hlow]
        rw [if_pos hlow, ihLow, hfind]
      by_cases hhigh : split < byte
      · have hfind : (branch split here low equal high).find? byte = high.find? byte := by
          funext others
          rw [find?_branch, if_neg hlow, if_pos hhigh]
        rw [if_neg hlow, if_pos hhigh, ihHigh, hfind]
      obtain rfl := eq_of_not_lt hlow hhigh
      rw [if_neg hlow, if_neg hlow]
      cases rest with
      | nil => simp [find?_branch_self]
      | cons next rest =>
          change equal.longestPrefix? (here.or best) next rest = _
          have hfind : (branch byte here low equal high).find? byte ∘ List.cons next =
              equal.find? next := by
            funext others
            exact find?_branch_self byte here low equal high (next :: others)
          rw [List.inits_cons, List.reverse_cons, ← List.map_reverse, List.findSome?_append,
            List.findSome?_map, hfind, Option.or_assoc, ihEqual]
          simp [find?_branch_self]

end Node

/-! ## Trees -/

@[simp]
theorem find?_empty (key : List UInt8) : ({} : SearchTree α).find? key = none := by
  cases key <;> rfl

theorem insert_fst (tree : SearchTree α) (key : List UInt8) (value : α) :
    (tree.insert key value).1 = tree.find? key := by
  cases key with
  | nil => rfl
  | cons byte rest => exact Node.insert_fst value tree.root byte rest

theorem find?_insert (tree : SearchTree α) (key other : List UInt8) (value : α) :
    (tree.insert key value).2.find? other =
      if other = key then some value else tree.find? other := by
  cases key with
  | nil => cases other <;> simp [insert, find?]
  | cons byte rest =>
      cases other with
      | nil => simp [insert, find?]
      | cons next others => exact Node.find?_insert value tree.root byte next rest others

/-- A key that had no value counts as one more. -/
theorem size_insert (tree : SearchTree α) (key : List UInt8) (value : α) :
    (tree.insert key value).2.size =
      if (tree.find? key).isNone then tree.size + 1 else tree.size := by
  rw [← insert_fst tree key value]
  cases key <;> rfl

theorem longestPrefix?_eq (tree : SearchTree α) (key : List UInt8) :
    tree.longestPrefix? key = key.inits.reverse.findSome? tree.find? := by
  cases key with
  | nil => simp [longestPrefix?, find?]
  | cons byte rest =>
      have hfind : tree.find? ∘ List.cons byte = tree.root.find? byte := rfl
      rw [longestPrefix?, Node.longestPrefix?_eq, List.inits_cons, List.reverse_cons,
        ← List.map_reverse, List.findSome?_append, List.findSome?_map, hfind]
      simp [find?]

/-- The first success among the prefixes of a list, from the longest on, is that of the longest
prefix with one. -/
theorem findSome?_inits_eq_some_iff {β : Type} {find : List β → Option α} {list : List β}
    {value : α} :
    list.inits.reverse.findSome? find = some value ↔
      ∃ start, start <+: list ∧ find start = some value ∧
        ∀ other, other <+: list → (find other).isSome = true → other.length ≤ start.length := by
  induction list using List.reverseRecOn with
  | nil => simp
  | append_singleton list last ih =>
      have hinits : (list ++ [last]).inits.reverse = (list ++ [last]) :: list.inits.reverse := by
        simp [List.inits_append]
      rw [hinits, List.findSome?_cons]
      cases hwhole : find (list ++ [last]) with
      | some found =>
          simp only [Option.some.injEq]
          constructor
          · rintro rfl
            exact ⟨list ++ [last], List.prefix_refl _, hwhole, fun _ hother _ => hother.length_le⟩
          · rintro ⟨start, hstart, hfound, hlongest⟩
            have hlength := hlongest (list ++ [last]) (List.prefix_refl _) (by simp [hwhole])
            rw [hstart.eq_of_length_le hlength, hwhole] at hfound
            exact Option.some.inj hfound
      | none =>
          simp only [ih, List.prefix_concat_iff]
          constructor
          · rintro ⟨start, hstart, hfound, hlongest⟩
            refine ⟨start, Or.inr hstart, hfound, ?_⟩
            rintro other (rfl | hother) hsome
            · simp [hwhole] at hsome
            · exact hlongest other hother hsome
          · rintro ⟨start, rfl | hstart, hfound, hlongest⟩
            · simp [hwhole] at hfound
            · exact ⟨start, hstart, hfound, fun other hother => hlongest other (Or.inr hother)⟩

/-- What is found for a key is the value of its longest stored prefix. -/
theorem longestPrefix?_eq_some_iff {tree : SearchTree α} {key : List UInt8} {value : α} :
    tree.longestPrefix? key = some value ↔
      ∃ start, start <+: key ∧ tree.find? start = some value ∧
        ∀ other, other <+: key → (tree.find? other).isSome = true →
          other.length ≤ start.length := by
  rw [longestPrefix?_eq]
  exact findSome?_inits_eq_some_iff

theorem longestPrefix?_eq_none_iff {tree : SearchTree α} {key : List UInt8} :
    tree.longestPrefix? key = none ↔ ∀ start, start <+: key → tree.find? start = none := by
  rw [longestPrefix?_eq, List.findSome?_eq_none_iff]
  simp

/-! ## Rows of insertions -/

/-- The tree in which some keys have been given values, one after another. -/
def ofInsertions (insertions : List (List UInt8 × α)) : SearchTree α :=
  insertions.foldl (fun tree insertion => (tree.insert insertion.1 insertion.2).2) {}

theorem ofInsertions_append (insertions : List (List UInt8 × α)) (last : List UInt8 × α) :
    ofInsertions (insertions ++ [last]) = ((ofInsertions insertions).insert last.1 last.2).2 := by
  rw [ofInsertions, List.foldl_append]
  rfl

/-- A tree finds the value that was given last. -/
theorem find?_ofInsertions (insertions : List (List UInt8 × α)) (key : List UInt8) :
    (ofInsertions insertions).find? key = insertions.reverse.lookup key := by
  induction insertions using List.reverseRecOn with
  | nil => exact find?_empty key
  | append_singleton insertions last ih =>
      rw [ofInsertions_append, find?_insert, ih, List.reverse_append, List.reverse_singleton,
        List.singleton_append, List.lookup_cons]
      by_cases hsame : key = last.1
      · simp [hsame]
      · simp [hsame, beq_eq_false_iff_ne.mpr hsame]

theorem find?_ofInsertions_isSome_iff (insertions : List (List UInt8 × α)) (key : List UInt8) :
    ((ofInsertions insertions).find? key).isSome = true ↔ key ∈ insertions.map Prod.fst := by
  induction insertions using List.reverseRecOn with
  | nil => simp [ofInsertions]
  | append_singleton insertions last ih =>
      rw [ofInsertions_append, find?_insert, List.map_append, List.mem_append, ← ih]
      by_cases hsame : key = last.1 <;> simp [hsame]

/-- A tree counts the distinct keys. -/
theorem size_ofInsertions (insertions : List (List UInt8 × α)) :
    (ofInsertions insertions).size = (insertions.map Prod.fst).dedup.length := by
  induction insertions using List.reverseRecOn with
  | nil => rfl
  | append_singleton insertions last ih =>
      have hcount : ((insertions ++ [last]).map Prod.fst).dedup.length =
          (last.1 :: insertions.map Prod.fst).dedup.length := by
        apply List.Perm.length_eq
        apply List.Perm.dedup
        rw [List.map_append]
        exact List.perm_append_comm
      rw [ofInsertions_append, size_insert, ih, hcount]
      have hfound := find?_ofInsertions_isSome_iff insertions last.1
      by_cases hknown : last.1 ∈ insertions.map Prod.fst
      · rw [List.dedup_cons_of_mem hknown]
        simp [Option.isNone_iff_eq_none, Option.isSome_iff_ne_none.mp (hfound.mpr hknown)]
      · rw [List.dedup_cons_of_notMem hknown]
        have hnone : (ofInsertions insertions).find? last.1 = none := by
          simpa using mt hfound.mp hknown
        simp [hnone]

/-! ## Texts as keys -/

/-- The tree in which some texts have been given values, one after another. -/
def ofTexts (insertions : List (String × α)) : SearchTree α :=
  ofInsertions (insertions.map fun insertion => (Utf8.bytes insertion.1, insertion.2))

theorem lookup_map_bytes (insertions : List (String × α)) (text : String) :
    (insertions.map fun insertion => (Utf8.bytes insertion.1, insertion.2)).lookup
      (Utf8.bytes text) = insertions.lookup text := by
  induction insertions with
  | nil => rfl
  | cons insertion rest ih =>
      have hbeq : (Utf8.bytes text == Utf8.bytes insertion.1) = (text == insertion.1) := by
        rw [Bool.eq_iff_iff, beq_iff_eq, beq_iff_eq]
        exact Utf8.bytes_injective.eq_iff
      rw [List.map_cons, List.lookup_cons, List.lookup_cons, hbeq, ih]

theorem keys_map_bytes (insertions : List (String × α)) :
    (insertions.map fun insertion => (Utf8.bytes insertion.1, insertion.2)).map Prod.fst =
      (insertions.map Prod.fst).map Utf8.bytes := by
  rw [List.map_map, List.map_map]
  rfl

/-- A tree is a map, however often and in whatever order texts are given values: it finds the value
that was given last, answers with what it found before, and counts the distinct texts. -/
theorem ofTexts_is_map (insertions : List (String × α)) (text : String) (value : α) :
    let tree := ofTexts insertions
    tree.find? (Utf8.bytes text) = insertions.reverse.lookup text ∧
    (tree.find? (Utf8.bytes text) = none ↔ text ∉ insertions.map Prod.fst) ∧
    (tree.insert (Utf8.bytes text) value).1 = tree.find? (Utf8.bytes text) ∧
    (tree.contains (Utf8.bytes text) = true ↔ text ∈ insertions.map Prod.fst) ∧
    tree.size = (insertions.map Prod.fst).dedup.length ∧
    (tree.isEmpty = true ↔ (insertions.map Prod.fst).dedup.length = 0) := by
  intro tree
  have hkeys := keys_map_bytes insertions
  have hfound : (tree.find? (Utf8.bytes text)).isSome = true ↔ text ∈ insertions.map Prod.fst := by
    rw [← List.mem_map_of_injective Utf8.bytes_injective, ← hkeys]
    exact find?_ofInsertions_isSome_iff _ _
  have hsize : tree.size = (insertions.map Prod.fst).dedup.length := by
    calc
      tree.size = ((insertions.map Prod.fst).map Utf8.bytes).dedup.length := by
        rw [← hkeys]
        exact size_ofInsertions _
      _ = ((insertions.map Prod.fst).dedup.map Utf8.bytes).length := by
        rw [List.dedup_map_of_injective Utf8.bytes_injective]
      _ = (insertions.map Prod.fst).dedup.length := List.length_map _
  refine ⟨?_, ?_, insert_fst tree _ value, hfound, hsize, ?_⟩
  · calc
      tree.find? (Utf8.bytes text) =
          (insertions.map fun insertion =>
            (Utf8.bytes insertion.1, insertion.2)).reverse.lookup (Utf8.bytes text) :=
        find?_ofInsertions _ _
      _ = insertions.reverse.lookup text := by
        rw [← List.map_reverse]
        exact lookup_map_bytes insertions.reverse text
  · rw [← hfound, Option.isSome_iff_ne_none, not_not]
  · rw [isEmpty, beq_iff_eq, hsize]

end HostRouting.SearchTree
