import HostRouting.Proofs.DistinctKeys
import HostRouting.Toml.Assembly

/-!
# Assembled tables have distinct keys

Whatever a line adds to an unfinished table, it changes what one key stands for or adds one new key.
So the tables of a document list each key once, as long as the values on its lines do.
-/

namespace HostRouting.Toml

mutual

def Item.hasDistinctKeys : Item → Bool
  | .value content => content.hasDistinctKeys
  | .table _ entries => Items.haveDistinctKeys entries
  | .tables finished last =>
      Value.itemsHaveDistinctKeys finished && Items.haveDistinctKeys last

/-- Whether neither an unfinished table nor any table in it lists a key twice. -/
def Items.haveDistinctKeys : List (String × Item) → Bool
  | [] => true
  | (key, item) :: rest =>
      decide (key ∉ rest.map Prod.fst) && item.hasDistinctKeys && Items.haveDistinctKeys rest

end

namespace Items

theorem haveDistinctKeys_iff {items : Items} :
    haveDistinctKeys items = true ↔
      (items.map Prod.fst).Nodup ∧ ∀ entry ∈ items, entry.2.hasDistinctKeys = true := by
  induction items with
  | nil => simp [haveDistinctKeys]
  | cons entry rest ih =>
      obtain ⟨key, item⟩ := entry
      simp only [haveDistinctKeys, Bool.and_eq_true, decide_eq_true_eq, ih, List.map_cons,
        List.nodup_cons, List.forall_mem_cons]
      tauto

/-- A change of what a key stands for keeps the keys, or adds this one at the end. -/
theorem keys_alter {key : String} {change : Option Item → Option Item} {items result : Items}
    (halter : items.alter key change = some result) :
    result.map Prod.fst =
      if key ∈ items.map Prod.fst then items.map Prod.fst else items.map Prod.fst ++ [key] := by
  induction items generalizing result with
  | nil =>
      obtain ⟨item, -, rfl⟩ := Option.map_eq_some_iff.mp halter
      simp
  | cons entry rest ih =>
      obtain ⟨other, item⟩ := entry
      rw [alter] at halter
      by_cases hsame : other = key
      · rw [if_pos hsame] at halter
        obtain ⟨changed, -, rfl⟩ := Option.map_eq_some_iff.mp halter
        simp [hsame]
      · rw [if_neg hsame] at halter
        obtain ⟨tail, htail, rfl⟩ := Option.map_eq_some_iff.mp halter
        rw [List.map_cons, ih htail]
        by_cases hmem : key ∈ rest.map Prod.fst
        · simp [hmem]
        · simp [hmem, Ne.symm hsame]

/-- The items after a change are those before it, except for the changed one. -/
theorem mem_alter {key : String} {change : Option Item → Option Item} {items result : Items}
    (halter : items.alter key change = some result) {entry : String × Item}
    (hmem : entry ∈ result) :
    entry ∈ items ∨ ∃ before, change before = some entry.2 ∧
      ∀ item, before = some item → (key, item) ∈ items := by
  induction items generalizing result with
  | nil =>
      obtain ⟨item, hitem, rfl⟩ := Option.map_eq_some_iff.mp halter
      obtain rfl := List.mem_singleton.mp hmem
      exact Or.inr ⟨none, hitem, by simp⟩
  | cons first rest ih =>
      obtain ⟨other, item⟩ := first
      rw [alter] at halter
      by_cases hsame : other = key
      · rw [if_pos hsame] at halter
        obtain ⟨changed, hchanged, rfl⟩ := Option.map_eq_some_iff.mp halter
        rcases List.mem_cons.mp hmem with rfl | hmem
        · refine Or.inr ⟨some item, hchanged, ?_⟩
          rintro _ ⟨⟩
          rw [hsame]
          exact List.mem_cons_self
        · exact Or.inl (List.mem_cons_of_mem _ hmem)
      · rw [if_neg hsame] at halter
        obtain ⟨tail, htail, rfl⟩ := Option.map_eq_some_iff.mp halter
        rcases List.mem_cons.mp hmem with rfl | hmem
        · exact Or.inl List.mem_cons_self
        · rcases ih htail hmem with hold | ⟨before, hchange, hbefore⟩
          · exact Or.inl (List.mem_cons_of_mem _ hold)
          · exact Or.inr ⟨before, hchange,
              fun item hitem => List.mem_cons_of_mem _ (hbefore item hitem)⟩

/-- A change keeps keys distinct if it makes sound items of sound ones. -/
theorem haveDistinctKeys_alter {key : String} {change : Option Item → Option Item}
    {items result : Items} (hitems : haveDistinctKeys items = true)
    (halter : items.alter key change = some result)
    (hchange : ∀ before item, change before = some item →
      (∀ old, before = some old → old.hasDistinctKeys = true) → item.hasDistinctKeys = true) :
    haveDistinctKeys result = true := by
  obtain ⟨hnodup, hsound⟩ := haveDistinctKeys_iff.mp hitems
  refine haveDistinctKeys_iff.mpr ⟨?_, ?_⟩
  · rw [keys_alter halter]
    by_cases hmem : key ∈ items.map Prod.fst
    · rw [if_pos hmem]
      exact hnodup
    · rw [if_neg hmem, List.nodup_append_comm]
      exact List.nodup_cons.mpr ⟨hmem, hnodup⟩
  · intro entry hmem
    rcases mem_alter halter hmem with hold | ⟨before, hitem, hbefore⟩
    · exact hsound entry hold
    · exact hchange before entry.2 hitem fun old hold => hsound _ (hbefore old hold)

theorem haveDistinctKeys_of_lookup {items : Items} (hitems : haveDistinctKeys items = true)
    {name : String} {item : Item} (hlookup : items.lookup name = some item) :
    item.hasDistinctKeys = true :=
  (haveDistinctKeys_iff.mp hitems).2 _ (mem_of_lookup_eq_some hlookup)

/-- A new key at the end keeps keys distinct. -/
theorem haveDistinctKeys_append {items : Items} (hitems : haveDistinctKeys items = true)
    {name : String} (hnew : name ∉ items.map Prod.fst) {item : Item}
    (hitem : item.hasDistinctKeys = true) : haveDistinctKeys (items ++ [(name, item)]) = true := by
  obtain ⟨hnodup, hsound⟩ := haveDistinctKeys_iff.mp hitems
  refine haveDistinctKeys_iff.mpr ⟨?_, ?_⟩
  · rw [List.map_append, List.nodup_append_comm]
    exact List.nodup_cons.mpr ⟨hnew, hnodup⟩
  · intro entry hmem
    rcases List.mem_append.mp hmem with hold | hlast
    · exact hsound entry hold
    · rw [List.mem_singleton.mp hlast]
      exact hitem

theorem haveDistinctKeys_without {items : Items} (hitems : haveDistinctKeys items = true)
    (name : String) : haveDistinctKeys (items.without name) = true := by
  obtain ⟨hnodup, hsound⟩ := haveDistinctKeys_iff.mp hitems
  have hsublist : (items.without name).Sublist items := List.filter_sublist
  exact haveDistinctKeys_iff.mpr ⟨hnodup.sublist (hsublist.map Prod.fst),
    fun entry hmem => hsound entry (hsublist.subset hmem)⟩

theorem not_mem_keys_without (items : Items) (name : String) :
    name ∉ (items.without name).map Prod.fst := by
  intro hmem
  obtain ⟨entry, hentry, rfl⟩ := List.mem_map.mp hmem
  simpa using (List.mem_filter.mp hentry).2

/-! ## What lines add -/

/-- Whether a change of an unfinished table keeps keys distinct. -/
def Preserves (change : Items → Option Items) : Prop :=
  ∀ items result, change items = some result → haveDistinctKeys items = true →
    haveDistinctKeys result = true

theorem preserves_openTable (name : String) : Preserves (openTable name) := by
  intro items result hopen hitems
  rw [openTable] at hopen
  split at hopen
  · rename_i hlookup
    obtain rfl := Option.some.inj hopen
    exact haveDistinctKeys_append hitems (lookup_eq_none_iff_not_mem_keys.mp hlookup) rfl
  · rename_i inner hlookup
    obtain rfl := Option.some.inj hopen
    have hinner : haveDistinctKeys inner = true := haveDistinctKeys_of_lookup hitems hlookup
    exact haveDistinctKeys_append (haveDistinctKeys_without hitems name)
      (not_mem_keys_without items name) hinner
  · cases hopen

theorem preserves_addEntry (name : String) {content : Value}
    (hcontent : content.hasDistinctKeys = true) (parents : List String) :
    Preserves (addEntry name content parents) := by
  induction parents with
  | nil =>
      intro items result hadd hitems
      apply haveDistinctKeys_alter hitems hadd
      intro before item hchange _
      cases before with
      | none =>
          obtain rfl := Option.some.inj hchange
          exact hcontent
      | some old => cases hchange
  | cons parent parents ih =>
      intro items result hadd hitems
      apply haveDistinctKeys_alter hitems hadd
      intro before item hchange hbefore
      split at hchange
      · obtain ⟨inner, hinner, rfl⟩ := Option.map_eq_some_iff.mp hchange
        exact ih [] inner hinner rfl
      · obtain ⟨inner, hinner, rfl⟩ := Option.map_eq_some_iff.mp hchange
        exact ih _ inner hinner (hbefore _ rfl)
      · split at hchange
        · cases hchange
        · obtain ⟨inner, hinner, rfl⟩ := Option.map_eq_some_iff.mp hchange
          exact ih _ inner hinner (hbefore _ rfl)
      · split at hchange
        · cases hchange
        · obtain ⟨inner, hinner, rfl⟩ := Option.map_eq_some_iff.mp hchange
          have hold := hbefore _ rfl
          simp only [Item.hasDistinctKeys, Bool.and_eq_true] at hold ⊢
          exact ⟨hold.1, ih _ inner hinner hold.2⟩
      · cases hchange
      · cases hchange

/-- What keeps keys distinct in a table keeps them so in the table around it. -/
theorem preserves_inside {change : Items → Option Items} (hchange : Preserves change)
    (names : List String) : Preserves (inside change names) := by
  induction names with
  | nil => exact hchange
  | cons name names ih =>
      intro items result hinside hitems
      apply haveDistinctKeys_alter hitems hinside
      intro before item hstep hbefore
      split at hstep
      · obtain ⟨inner, hinner, rfl⟩ := Option.map_eq_some_iff.mp hstep
        exact ih [] inner hinner rfl
      · obtain ⟨inner, hinner, rfl⟩ := Option.map_eq_some_iff.mp hstep
        exact ih _ inner hinner (hbefore _ rfl)
      · obtain ⟨inner, hinner, rfl⟩ := Option.map_eq_some_iff.mp hstep
        have hold := hbefore _ rfl
        simp only [Item.hasDistinctKeys, Bool.and_eq_true] at hold ⊢
        exact ⟨hold.1, ih _ inner hinner hold.2⟩
      · cases hstep

end Items

/-! ## Finished tables -/

theorem Items.keys_toTable (items : Items) :
    (Items.toTable items).map Prod.fst = items.map Prod.fst := by
  induction items with
  | nil => rfl
  | cons entry rest ih => simp [Items.toTable, ih]

theorem Value.itemsHaveDistinctKeys_concat {items : List Value} {last : Value}
    (hitems : Value.itemsHaveDistinctKeys items = true) (hlast : last.hasDistinctKeys = true) :
    Value.itemsHaveDistinctKeys (items ++ [last]) = true := by
  rw [Value.itemsHaveDistinctKeys_iff] at hitems ⊢
  intro item hmem
  rcases List.mem_append.mp hmem with hmem | hmem
  · exact hitems item hmem
  · rw [List.mem_singleton.mp hmem]
    exact hlast

mutual

theorem Item.hasDistinctKeys_toValue : (item : Item) → item.hasDistinctKeys = true →
    item.toValue.hasDistinctKeys = true
  | .value _, hitem => hitem
  | .table _ entries, hitem => Items.hasDistinctKeys_toTable entries hitem
  | .tables finished last, hitem => by
      simp only [Item.hasDistinctKeys, Bool.and_eq_true] at hitem
      have hlast := Items.hasDistinctKeys_toTable last hitem.2
      exact Value.itemsHaveDistinctKeys_concat hitem.1 hlast

/-- A table is finished with the keys that it has been given. -/
theorem Items.hasDistinctKeys_toTable : (items : List (String × Item)) →
    Items.haveDistinctKeys items = true → Table.hasDistinctKeys (Items.toTable items) = true
  | [], _ => rfl
  | (key, item) :: rest, hitems => by
      simp only [Items.haveDistinctKeys, Bool.and_eq_true, decide_eq_true_eq] at hitems
      obtain ⟨⟨hnew, hitem⟩, hrest⟩ := hitems
      simp only [Items.toTable, Table.hasDistinctKeys, Bool.and_eq_true, decide_eq_true_eq,
        Items.keys_toTable]
      exact ⟨⟨hnew, item.hasDistinctKeys_toValue hitem⟩,
        Items.hasDistinctKeys_toTable rest hrest⟩

end

namespace Items

theorem preserves_openElement (name : String) : Preserves (openElement name) := by
  intro items result hopen hitems
  apply haveDistinctKeys_alter hitems hopen
  intro before item hchange hbefore
  split at hchange
  · obtain rfl := Option.some.inj hchange
    rfl
  · obtain rfl := Option.some.inj hchange
    have hold := hbefore _ rfl
    simp only [Item.hasDistinctKeys, Bool.and_eq_true] at hold ⊢
    have hlast : (Value.table (toTable _)).hasDistinctKeys = true :=
      hasDistinctKeys_toTable _ hold.2
    exact ⟨Value.itemsHaveDistinctKeys_concat hold.1 hlast, rfl⟩
  · cases hchange

end Items

/-! ## Whole documents -/

def Statement.hasDistinctKeys : Statement → Bool
  | .entry _ content => content.hasDistinctKeys
  | _ => true

theorem Draft.haveDistinctKeys_add {draft result : Draft} {statement : Statement}
    (hadd : draft.add statement = some result) (hstatement : statement.hasDistinctKeys = true)
    (hdraft : Items.haveDistinctKeys draft.items = true) :
    Items.haveDistinctKeys result.items = true := by
  cases statement with
  | header key =>
      obtain ⟨items, hitems, rfl⟩ := Option.map_eq_some_iff.mp hadd
      exact Items.preserves_inside (Items.preserves_openTable key.name) _ _ _ hitems hdraft
  | element key =>
      obtain ⟨items, hitems, rfl⟩ := Option.map_eq_some_iff.mp hadd
      exact Items.preserves_inside (Items.preserves_openElement key.name) _ _ _ hitems hdraft
  | entry key content =>
      obtain ⟨items, hitems, rfl⟩ := Option.map_eq_some_iff.mp hadd
      exact Items.preserves_inside (Items.preserves_addEntry key.name hstatement key.parents) _ _ _
        hitems hdraft

/-- What each step of a fold keeps, the fold keeps. -/
theorem foldlM_preserves {α β : Type} {step : β → α → Option β} (holds : β → Prop)
    {list : List α} (hstep : ∀ state, holds state → ∀ member ∈ list, ∀ next,
      step state member = some next → holds next)
    {start result : β} (hstart : holds start) (hfold : list.foldlM step start = some result) :
    holds result := by
  induction list generalizing start with
  | nil =>
      obtain rfl := Option.some.inj hfold
      exact hstart
  | cons member rest ih =>
      rw [List.foldlM_cons] at hfold
      obtain ⟨next, hnext, hrest⟩ := Option.bind_eq_some_iff.mp hfold
      have hfirst := hstep start hstart member List.mem_cons_self next hnext
      exact ih (fun state hstate other hother =>
        hstep state hstate other (List.mem_cons_of_mem _ hother)) hfirst hrest

theorem Table.hasDistinctKeys_ofEntries {entries : List (Key × Value)} {table : Table}
    (hentries : ∀ entry ∈ entries, entry.2.hasDistinctKeys = true)
    (htable : Table.ofEntries? entries = some table) : Table.hasDistinctKeys table = true := by
  obtain ⟨items, hfold, rfl⟩ := Option.map_eq_some_iff.mp htable
  apply Items.hasDistinctKeys_toTable
  refine foldlM_preserves (fun items => Items.haveDistinctKeys items = true) ?_ rfl hfold
  intro state hstate entry hmem next hnext
  exact Items.preserves_addEntry entry.1.name (hentries entry hmem) entry.1.parents _ _ hnext hstate

theorem Table.hasDistinctKeys_ofStatements {statements : List Statement} {table : Table}
    (hstatements : ∀ statement ∈ statements, statement.hasDistinctKeys = true)
    (htable : Table.ofStatements? statements = some table) :
    Table.hasDistinctKeys table = true := by
  obtain ⟨draft, hfold, rfl⟩ := Option.map_eq_some_iff.mp htable
  apply Items.hasDistinctKeys_toTable
  refine foldlM_preserves (fun draft => Items.haveDistinctKeys draft.items = true) ?_ rfl hfold
  intro state hstate statement hmem next hnext
  exact Draft.haveDistinctKeys_add hnext (hstatements statement hmem) hstate

end HostRouting.Toml
