import HostRouting.Proofs.SearchTrees

/-!
# The shape of search trees

The branches that one can get to by going low and high only form a level of a tree.  A level is a
binary search tree of bytes, and the equal subtree of each of its branches starts a level for the
next byte.  Insertions keep this, and they leave no branch behind that is on the way to no key: a
branch has a value, or something in its equal subtree.

So a walk from low to high, with the value of a branch before its equal subtree, comes upon each key
of the tree once, in the order of bytes.
-/

namespace HostRouting.SearchTree

variable {α : Type}

namespace Node

/-! ## Levels and walks -/

/-- The bytes of the level that starts at a subtree, from low to high. -/
def level : Node α → List UInt8
  | .leaf => []
  | .branch split _ low _ high => low.level ++ split :: high.level

/-- In every level, the bytes on the low side of a branch are smaller than its own byte, and those on
the high side are larger. -/
def Ordered : Node α → Prop
  | .leaf => True
  | .branch split _ low equal high =>
      (∀ byte ∈ low.level, byte < split) ∧ (∀ byte ∈ high.level, split < byte) ∧
        low.Ordered ∧ equal.Ordered ∧ high.Ordered

/-- Every branch has a value or an equal subtree. -/
def Live : Node α → Prop
  | .leaf => True
  | .branch _ here low equal high =>
      (here.isSome = true ∨ equal ≠ .leaf) ∧ low.Live ∧ equal.Live ∧ high.Live

/-- The keys that lead exactly to the branches of a subtree, whether or not they have a value. -/
def places : Node α → List (List UInt8)
  | .leaf => []
  | .branch split _ low equal high =>
      low.places ++ [split] :: equal.places.map (split :: ·) ++ high.places

/-- The keys and values of a subtree: first those on the low side, then the value here, then those
of the equal subtree, then those on the high side. -/
def walk : Node α → List (List UInt8 × α)
  | .leaf => []
  | .branch split here low equal high =>
      low.walk ++ here.toList.map (fun value => ([split], value)) ++
        equal.walk.map (fun entry => (split :: entry.1, entry.2)) ++ high.walk

/-! ## What an insertion keeps -/

/-- Everything that setting the value of a key can do to a subtree: it takes one of the ways on and
does the same there, or the key ends at the branch, or the key is laid down where there is no
branch. -/
inductive Inserts (value : α) : UInt8 → List UInt8 → Node α → Node α → Prop
  | laid (byte : UInt8) (rest : List UInt8) :
      Inserts value byte rest .leaf (single byte value rest)
  | low {byte split : UInt8} {rest : List UInt8} {here : Option α} {low grown equal high : Node α}
      (hless : byte < split) (hinserts : Inserts value byte rest low grown) :
      Inserts value byte rest (.branch split here low equal high)
        (.branch split here grown equal high)
  | high {byte split : UInt8} {rest : List UInt8} {here : Option α} {low equal high grown : Node α}
      (hgreater : split < byte) (hinserts : Inserts value byte rest high grown) :
      Inserts value byte rest (.branch split here low equal high)
        (.branch split here low equal grown)
  | here (split : UInt8) (old : Option α) (low equal high : Node α) :
      Inserts value split [] (.branch split old low equal high)
        (.branch split (some value) low equal high)
  | equal {split next : UInt8} {rest : List UInt8} {here : Option α} {low equal grown high : Node α}
      (hinserts : Inserts value next rest equal grown) :
      Inserts value split (next :: rest) (.branch split here low equal high)
        (.branch split here low grown high)

theorem inserts_insert (value : α) (node : Node α) (byte : UInt8) (rest : List UInt8) :
    Inserts value byte rest node (insert value node byte rest).2 := by
  induction node generalizing byte rest with
  | leaf => exact .laid byte rest
  | branch split here low equal high ihLow ihEqual ihHigh =>
      rw [insert_branch]
      by_cases hless : byte < split
      · rw [if_pos hless]
        exact .low hless (ihLow byte rest)
      by_cases hgreater : split < byte
      · rw [if_neg hless, if_pos hgreater]
        exact .high hgreater (ihHigh byte rest)
      obtain rfl := eq_of_not_lt hless hgreater
      rw [if_neg hless, if_neg hless]
      cases rest with
      | nil => exact .here byte here low equal high
      | cons next rest => exact .equal (ihEqual next rest)

section Insertion

variable {value : α} {byte : UInt8} {rest : List UInt8} {node grown : Node α}

@[simp]
theorem level_single (byte : UInt8) (value : α) (rest : List UInt8) :
    (single byte value rest).level = [byte] := by
  cases rest <;> rfl

theorem single_ne_leaf (byte : UInt8) (value : α) (rest : List UInt8) :
    single byte value rest ≠ .leaf := by
  cases rest <;> simp [single]

/-- An insertion brings no other byte than its own to a level. -/
theorem Inserts.mem_level (hinserts : Inserts value byte rest node grown) {other : UInt8}
    (hmem : other ∈ grown.level) : other = byte ∨ other ∈ node.level := by
  induction hinserts with
  | laid byte rest =>
      rw [level_single] at hmem
      exact Or.inl (List.mem_singleton.mp hmem)
  | low _ _ ih =>
      simp only [level, List.mem_append] at hmem ⊢
      rcases hmem with hmem | hmem
      · exact (ih hmem).imp_right Or.inl
      · exact Or.inr (Or.inr hmem)
  | high _ _ ih =>
      simp only [level, List.mem_append, List.mem_cons] at hmem ⊢
      rcases hmem with hmem | hmem | hmem
      · exact Or.inr (Or.inl hmem)
      · exact Or.inr (Or.inr (Or.inl hmem))
      · exact (ih hmem).imp_right fun hknown => Or.inr (Or.inr hknown)
  | here => exact Or.inr hmem
  | equal => exact Or.inr hmem

theorem ordered_single (byte : UInt8) (value : α) (rest : List UInt8) :
    (single byte value rest).Ordered := by
  induction rest generalizing byte with
  | nil => simp [single, Ordered, level]
  | cons next rest ih => simp [single, Ordered, level, ih]

theorem Inserts.ordered (hinserts : Inserts value byte rest node grown)
    (hordered : node.Ordered) : grown.Ordered := by
  induction hinserts with
  | laid byte rest => exact ordered_single byte value rest
  | low hless hinserts ih =>
      obtain ⟨hbelow, habove, hlow, hequal, hhigh⟩ := hordered
      refine ⟨?_, habove, ih hlow, hequal, hhigh⟩
      intro other hmem
      rcases hinserts.mem_level hmem with rfl | hmem
      · exact hless
      · exact hbelow other hmem
  | high hgreater hinserts ih =>
      obtain ⟨hbelow, habove, hlow, hequal, hhigh⟩ := hordered
      refine ⟨hbelow, ?_, hlow, hequal, ih hhigh⟩
      intro other hmem
      rcases hinserts.mem_level hmem with rfl | hmem
      · exact hgreater
      · exact habove other hmem
  | here => exact hordered
  | equal _ ih =>
      obtain ⟨hbelow, habove, hlow, hequal, hhigh⟩ := hordered
      exact ⟨hbelow, habove, hlow, ih hequal, hhigh⟩

theorem Inserts.ne_leaf (hinserts : Inserts value byte rest node grown) : grown ≠ .leaf := by
  cases hinserts with
  | laid => exact single_ne_leaf byte value rest
  | _ => simp

/-- The whole key is laid down, so its branches lead to its value. -/
theorem live_single (byte : UInt8) (value : α) (rest : List UInt8) :
    (single byte value rest).Live := by
  induction rest generalizing byte with
  | nil => simp [single, Live]
  | cons next rest ih => simp [single, Live, single_ne_leaf, ih]

theorem Inserts.live (hinserts : Inserts value byte rest node grown) (hlive : node.Live) :
    grown.Live := by
  induction hinserts with
  | laid byte rest => exact live_single byte value rest
  | low _ _ ih =>
      obtain ⟨hhere, hlow, hequal, hhigh⟩ := hlive
      exact ⟨hhere, ih hlow, hequal, hhigh⟩
  | high _ _ ih =>
      obtain ⟨hhere, hlow, hequal, hhigh⟩ := hlive
      exact ⟨hhere, hlow, hequal, ih hhigh⟩
  | here =>
      obtain ⟨-, hlow, hequal, hhigh⟩ := hlive
      exact ⟨Or.inl rfl, hlow, hequal, hhigh⟩
  | equal hinserts ih =>
      obtain ⟨-, hlow, hequal, hhigh⟩ := hlive
      exact ⟨Or.inr hinserts.ne_leaf, hlow, ih hequal, hhigh⟩

end Insertion

/-! ## What a walk comes upon -/

theorem mem_walk_branch_iff {split : UInt8} {here : Option α} {low equal high : Node α}
    {entry : List UInt8 × α} :
    entry ∈ (branch split here low equal high).walk ↔
      entry ∈ low.walk ∨ (∃ value, here = some value ∧ entry = ([split], value)) ∨
        (∃ inner ∈ equal.walk, entry = (split :: inner.1, inner.2)) ∨ entry ∈ high.walk := by
  simp only [walk, List.mem_append, List.mem_map, Option.mem_toList, or_assoc, eq_comm]

/-- The keys of a subtree start with the bytes of its level. -/
theorem exists_eq_cons_of_mem_walk {node : Node α} {entry : List UInt8 × α}
    (hmem : entry ∈ node.walk) : ∃ byte rest, entry.1 = byte :: rest ∧ byte ∈ node.level := by
  induction node with
  | leaf => cases hmem
  | branch split here low equal high ihLow _ ihHigh =>
      simp only [level, List.mem_append, List.mem_cons]
      rcases mem_walk_branch_iff.mp hmem with
        hmem | ⟨value, -, rfl⟩ | ⟨inner, -, rfl⟩ | hmem
      · obtain ⟨byte, rest, hkey, hbyte⟩ := ihLow hmem
        exact ⟨byte, rest, hkey, Or.inl hbyte⟩
      · exact ⟨split, [], rfl, Or.inr (Or.inl rfl)⟩
      · exact ⟨split, inner.1, rfl, Or.inr (Or.inl rfl)⟩
      · obtain ⟨byte, rest, hkey, hbyte⟩ := ihHigh hmem
        exact ⟨byte, rest, hkey, Or.inr (Or.inr hbyte)⟩

theorem mem_level_of_mem_walk {node : Node α} {byte : UInt8} {rest : List UInt8} {value : α}
    (hmem : (byte :: rest, value) ∈ node.walk) : byte ∈ node.level := by
  obtain ⟨_, _, hkey, hbyte⟩ := exists_eq_cons_of_mem_walk hmem
  obtain ⟨rfl, -⟩ := List.cons.inj hkey
  exact hbyte

theorem nil_not_mem_walk (node : Node α) (value : α) : ([], value) ∉ node.walk := by
  intro hmem
  obtain ⟨_, _, hkey, -⟩ := exists_eq_cons_of_mem_walk hmem
  cases hkey

/-- In an ordered subtree, a walk comes upon the keys that are found, with their values. -/
theorem mem_walk_iff {node : Node α} (hordered : node.Ordered) {byte : UInt8}
    {rest : List UInt8} {value : α} :
    (byte :: rest, value) ∈ node.walk ↔ node.find? byte rest = some value := by
  induction node generalizing byte rest with
  | leaf => simp [walk]
  | branch split here low equal high ihLow ihEqual ihHigh =>
      obtain ⟨hbelow, habove, hlow, hequal, hhigh⟩ := hordered
      have hless : (byte :: rest, value) ∈ low.walk → byte < split :=
        fun hmem => hbelow byte (mem_level_of_mem_walk hmem)
      have hgreater : (byte :: rest, value) ∈ high.walk → split < byte :=
        fun hmem => habove byte (mem_level_of_mem_walk hmem)
      rw [mem_walk_branch_iff, find?_branch]
      by_cases hlowSide : byte < split
      · have hne : byte ≠ split := UInt8.ne_of_lt hlowSide
        have hnot := mt hgreater (UInt8.lt_asymm hlowSide)
        simp [hlowSide, hne, hnot, ihLow hlow]
      by_cases hhighSide : split < byte
      · have hne : byte ≠ split := (UInt8.ne_of_lt hhighSide).symm
        simp [hlowSide, hhighSide, hne, mt hless hlowSide, ihHigh hhigh]
      obtain rfl := eq_of_not_lt hlowSide hhighSide
      have hnotLow := mt hless hlowSide
      have hnotHigh := mt hgreater hlowSide
      cases rest with
      | nil => simp [hlowSide, hnotLow, hnotHigh, nil_not_mem_walk]
      | cons next rest => simp [hlowSide, hnotLow, hnotHigh, ihEqual hequal]

section Bounds

variable {node : Node α} {split : UInt8} {entry : List UInt8 × α}

/-- The keys on the low side of a branch come before all keys that start with its byte. -/
theorem lt_cons_of_mem_walk (hbelow : ∀ byte ∈ node.level, byte < split)
    (hmem : entry ∈ node.walk) (rest : List UInt8) : entry.1 < split :: rest := by
  obtain ⟨byte, others, hkey, hbyte⟩ := exists_eq_cons_of_mem_walk hmem
  rw [hkey]
  exact List.cons_lt_cons_iff.mpr (Or.inl (hbelow byte hbyte))

/-- The keys on the high side of a branch come after all keys that start with its byte. -/
theorem cons_lt_of_mem_walk (habove : ∀ byte ∈ node.level, split < byte)
    (hmem : entry ∈ node.walk) (rest : List UInt8) : split :: rest < entry.1 := by
  obtain ⟨byte, others, hkey, hbyte⟩ := exists_eq_cons_of_mem_walk hmem
  rw [hkey]
  exact List.cons_lt_cons_iff.mpr (Or.inl (habove byte hbyte))

end Bounds

/-- A walk through an ordered subtree goes up. -/
theorem pairwise_walk {node : Node α} (hordered : node.Ordered) :
    node.walk.Pairwise fun left right => left.1 < right.1 := by
  induction node with
  | leaf => exact List.Pairwise.nil
  | branch split here low equal high ihLow ihEqual ihHigh =>
      obtain ⟨hbelow, habove, hlow, hequal, hhigh⟩ := hordered
      have hhere : ∀ entry ∈ here.toList.map (fun value => ([split], value)),
          entry.1 = [split] := by
        simp
      have hinner : ∀ entry ∈ equal.walk.map (fun inner => (split :: inner.1, inner.2)),
          ∃ next rest, entry.1 = split :: next :: rest := by
        simp only [List.mem_map]
        rintro _ ⟨inner, hmem, rfl⟩
        obtain ⟨next, rest, hkey, -⟩ := exists_eq_cons_of_mem_walk hmem
        exact ⟨next, rest, congrArg (split :: ·) hkey⟩
      rw [walk]
      refine List.pairwise_append.mpr ⟨List.pairwise_append.mpr ⟨List.pairwise_append.mpr
        ⟨ihLow hlow, ?own, ?beforeOwn⟩, ?inner, ?beforeInner⟩, ihHigh hhigh, ?beforeHigh⟩
      case own =>
        cases here <;> simp
      case beforeOwn =>
        intro left hleft right hright
        rw [hhere right hright]
        exact lt_cons_of_mem_walk hbelow hleft []
      case inner =>
        rw [List.pairwise_map]
        exact (ihEqual hequal).imp List.cons_lt_cons_self.mpr
      case beforeInner =>
        intro left hleft right hright
        obtain ⟨next, rest, hkey⟩ := hinner right hright
        rw [hkey]
        rcases List.mem_append.mp hleft with hleft | hleft
        · exact lt_cons_of_mem_walk hbelow hleft (next :: rest)
        · rw [hhere left hleft]
          simp
      case beforeHigh =>
        intro left hleft right hright
        rcases List.mem_append.mp hleft with hleft | hleft
        · rcases List.mem_append.mp hleft with hleft | hleft
          · exact List.lt_trans (lt_cons_of_mem_walk hbelow hleft [])
              (cons_lt_of_mem_walk habove hright [])
          · rw [hhere left hleft]
            exact cons_lt_of_mem_walk habove hright []
        · obtain ⟨next, rest, hkey⟩ := hinner left hleft
          rw [hkey]
          exact cons_lt_of_mem_walk habove hright (next :: rest)

/-! ## Branches on the way to keys -/

theorem exists_mem_walk {node : Node α} (hlive : node.Live) (hne : node ≠ .leaf) :
    ∃ entry, entry ∈ node.walk := by
  induction node with
  | leaf => exact absurd rfl hne
  | branch split here low equal high _ ihEqual _ =>
      obtain ⟨hhere | hequal, -, hlive, -⟩ := hlive
      · obtain ⟨value, hvalue⟩ := Option.isSome_iff_exists.mp hhere
        exact ⟨_, mem_walk_branch_iff.mpr (Or.inr (Or.inl ⟨value, hvalue, rfl⟩))⟩
      · obtain ⟨inner, hinner⟩ := ihEqual hlive hequal
        exact ⟨_, mem_walk_branch_iff.mpr (Or.inr (Or.inr (Or.inl ⟨inner, hinner, rfl⟩)))⟩

/-- Where no branch is dead, each is on the way to a key. -/
theorem exists_key_of_mem_places {node : Node α} (hlive : node.Live) {place : List UInt8}
    (hplace : place ∈ node.places) : ∃ entry ∈ node.walk, place <+: entry.1 := by
  induction node generalizing place with
  | leaf => cases hplace
  | branch split here low equal high ihLow ihEqual ihHigh =>
      obtain ⟨hhere, hlow, hequal, hhigh⟩ := hlive
      simp only [places, List.mem_append, List.mem_cons, List.mem_map] at hplace
      obtain (hplace | rfl | ⟨inner, hplace, rfl⟩) | hplace := hplace
      · obtain ⟨entry, hmem, hprefix⟩ := ihLow hlow hplace
        exact ⟨entry, mem_walk_branch_iff.mpr (Or.inl hmem), hprefix⟩
      · rcases hhere with hhere | hne
        · obtain ⟨value, hvalue⟩ := Option.isSome_iff_exists.mp hhere
          exact ⟨_, mem_walk_branch_iff.mpr (Or.inr (Or.inl ⟨value, hvalue, rfl⟩)),
            List.prefix_refl _⟩
        · obtain ⟨entry, hmem⟩ := exists_mem_walk hequal hne
          exact ⟨_, mem_walk_branch_iff.mpr (Or.inr (Or.inr (Or.inl ⟨entry, hmem, rfl⟩))),
            List.prefix_append [split] entry.1⟩
      · obtain ⟨entry, hmem, hprefix⟩ := ihEqual hequal hplace
        exact ⟨_, mem_walk_branch_iff.mpr (Or.inr (Or.inr (Or.inl ⟨entry, hmem, rfl⟩))),
          (List.prefix_cons_inj split).mpr hprefix⟩
      · obtain ⟨entry, hmem, hprefix⟩ := ihHigh hhigh hplace
        exact ⟨entry, mem_walk_branch_iff.mpr (Or.inr (Or.inr (Or.inr hmem))), hprefix⟩

end Node

/-! ## Whole trees -/

/-- The keys and values of a tree, that of the empty key first. -/
def walk (tree : SearchTree α) : List (List UInt8 × α) :=
  tree.atEmptyKey.toList.map (fun value => ([], value)) ++ tree.root.walk

theorem root_insert (tree : SearchTree α) (key : List UInt8) (value : α) :
    (tree.insert key value).2.root = tree.root ∨
      ∃ byte rest, Node.Inserts value byte rest tree.root (tree.insert key value).2.root := by
  cases key with
  | nil => exact Or.inl rfl
  | cons byte rest => exact Or.inr ⟨byte, rest, Node.inserts_insert value tree.root byte rest⟩

/-- Rows of insertions leave ordered levels and no dead branch. -/
theorem root_ofInsertions (insertions : List (List UInt8 × α)) :
    (ofInsertions insertions).root.Ordered ∧ (ofInsertions insertions).root.Live := by
  induction insertions using List.reverseRecOn with
  | nil => exact ⟨trivial, trivial⟩
  | append_singleton insertions last ih =>
      rw [ofInsertions_append]
      rcases root_insert (ofInsertions insertions) last.1 last.2 with hsame | ⟨_, _, hinserts⟩
      · rw [hsame]
        exact ih
      · exact ⟨hinserts.ordered ih.1, hinserts.live ih.2⟩

/-- A walk through an ordered tree comes upon the keys that are found, with their values. -/
theorem mem_walk_iff {tree : SearchTree α} (hordered : tree.root.Ordered) {key : List UInt8}
    {value : α} : (key, value) ∈ tree.walk ↔ tree.find? key = some value := by
  rw [walk, List.mem_append]
  cases key with
  | nil => simp [Node.nil_not_mem_walk, find?]
  | cons byte rest => simp [Node.mem_walk_iff hordered, find?]

theorem pairwise_walk {tree : SearchTree α} (hordered : tree.root.Ordered) :
    (tree.walk.map Prod.fst).Pairwise (· < ·) := by
  rw [List.pairwise_map, walk]
  refine List.pairwise_append.mpr ⟨?_, Node.pairwise_walk hordered, ?_⟩
  · cases tree.atEmptyKey <;> simp
  · simp only [List.mem_map]
    rintro _ ⟨value, -, rfl⟩ entry hmem
    obtain ⟨byte, rest, hkey, -⟩ := Node.exists_eq_cons_of_mem_walk hmem
    simp [hkey]

/-- However keys were given values: the bytes of each level are in order, each branch has a value or
an equal subtree, and so each is on the way to a key that was given a value.  A walk through the
tree comes upon these keys and no others, with the values that they were given last, in the order
of bytes, and there are as many of them as the tree counts. -/
theorem ofInsertions_in_order (insertions : List (List UInt8 × α)) :
    let tree := ofInsertions insertions
    tree.root.Ordered ∧ tree.root.Live ∧
    (∀ place ∈ tree.root.places, ∃ key ∈ insertions.map Prod.fst, place <+: key) ∧
    (∀ key value, (key, value) ∈ tree.walk ↔ insertions.reverse.lookup key = some value) ∧
    (∀ key, key ∈ tree.walk.map Prod.fst ↔ key ∈ insertions.map Prod.fst) ∧
    (tree.walk.map Prod.fst).Pairwise (· < ·) ∧
    tree.walk.length = tree.size := by
  intro tree
  obtain ⟨hordered, hlive⟩ := root_ofInsertions insertions
  have hwalk : ∀ key value, (key, value) ∈ tree.walk ↔ tree.find? key = some value :=
    fun _ _ => mem_walk_iff hordered
  have hkeys : ∀ key, key ∈ tree.walk.map Prod.fst ↔ key ∈ insertions.map Prod.fst := by
    intro key
    rw [← find?_ofInsertions_isSome_iff insertions key, Option.isSome_iff_exists, List.mem_map]
    constructor
    · rintro ⟨entry, hmem, rfl⟩
      exact ⟨entry.2, (hwalk entry.1 entry.2).mp hmem⟩
    · rintro ⟨value, hfound⟩
      exact ⟨_, (hwalk key value).mpr hfound, rfl⟩
  have hsorted : (tree.walk.map Prod.fst).Pairwise (· < ·) := pairwise_walk hordered
  refine ⟨hordered, hlive, ?_, ?_, hkeys, hsorted, ?_⟩
  · intro place hplace
    obtain ⟨entry, hmem, hprefix⟩ := Node.exists_key_of_mem_places hlive hplace
    refine ⟨entry.1, (hkeys entry.1).mp (List.mem_map_of_mem ?_), hprefix⟩
    exact List.mem_append_right _ hmem
  · intro key value
    rw [hwalk, find?_ofInsertions]
  · have hnodup : (tree.walk.map Prod.fst).Nodup := by
      refine hsorted.imp ?_
      rintro left right hless rfl
      exact List.lt_irrefl left hless
    have hperm : (tree.walk.map Prod.fst).Perm (insertions.map Prod.fst).dedup := by
      rw [List.perm_ext_iff_of_nodup hnodup (List.nodup_dedup _)]
      intro key
      rw [List.mem_dedup, hkeys]
    calc
      tree.walk.length = (tree.walk.map Prod.fst).length := List.length_map _ |>.symm
      _ = (insertions.map Prod.fst).dedup.length := hperm.length_eq
      _ = tree.size := (size_ofInsertions insertions).symm

/-- Keys that part from one another in their first and second bytes.  One of them begins two others
and has two values, and the branch for the second byte of another has no value. -/
def partingKeys : List (List UInt8 × Nat) :=
  [([98, 97, 99], 0), ([98], 1), ([97], 2), ([98, 100], 3), ([], 4), ([98], 5)]

theorem ofInsertions_in_order_parting :
    [98, 97] ∈ (ofInsertions partingKeys).root.places ∧
      (ofInsertions partingKeys).find? [98, 97] = none ∧
      ∃ key ∈ partingKeys.map Prod.fst, [98, 97] <+: key :=
  ⟨by decide, by decide, (ofInsertions_in_order partingKeys).2.2.1 _ (by decide)⟩

example :
    (ofInsertions partingKeys).walk =
      [([], 4), ([97], 2), ([98], 5), ([98, 97, 99], 0), ([98, 100], 3)] := by
  decide

end HostRouting.SearchTree
