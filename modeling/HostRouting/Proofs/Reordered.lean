import HostRouting.Proofs.Defects
import HostRouting.Proofs.DistinctKeys
import Mathlib.Data.List.Perm.Basic

/-!
# Records in another order

The record of a server may list its hosts in another order, and each host its routes.  What such a
record declares stays the same up to the order of its parts: it has the same shell, its hosts have
the same names, and it has the same handler records.
-/

namespace HostRouting.Declared

open Toml (Table Value)

/-! ## Reorderings -/

/-- Two tables list the same keys with the same values, but that the values of one field are only
related. -/
def SameBut (field : String) (relation : Value → Value → Prop) : Table → Table → Prop :=
  List.Forall₂ fun entry other =>
    entry.1 = other.1 ∧ (entry.2 = other.2 ∨ entry.1 = field ∧ relation entry.2 other.2)

inductive RoutesReordered : Value → Value → Prop where
  | table {left right : Table} (hperm : left.Perm right) :
      RoutesReordered (.table left) (.table right)

/-- An element of `hosts`, or the same one with its routes in another order. -/
inductive HostReordered : Value → Value → Prop where
  | same (element : Value) : HostReordered element element
  | table {left right : Table} (hsame : SameBut "routes" RoutesReordered left right) :
      HostReordered (.table left) (.table right)

/-- The same hosts in another order, each with its routes in another order. -/
def ElementsReordered (left right : List Value) : Prop :=
  ∃ middle, List.Forall₂ HostReordered left middle ∧ middle.Perm right

inductive HostsReordered : Value → Value → Prop where
  | array {left right : List Value} (helements : ElementsReordered left right) :
      HostsReordered (.array left) (.array right)

/-- The same record of a server with its hosts, and the routes of each, in another order. -/
def ServerReordered : Table → Table → Prop :=
  SameBut "hosts" HostsReordered

theorem ElementsReordered.refl (elements : List Value) : ElementsReordered elements elements :=
  ⟨elements, List.forall₂_same.mpr fun element _ => .same element, List.Perm.refl _⟩

/-! ## Fields -/

section Fields

variable {field : String} {relation : Value → Value → Prop} {left right : Table}

theorem SameBut.lookup (hsame : SameBut field relation left right) (key : String) :
    left.lookup key = right.lookup key ∨ key = field ∧ ∃ value other,
      left.lookup key = some value ∧ right.lookup key = some other ∧ relation value other := by
  induction hsame with
  | nil => exact Or.inl rfl
  | @cons entry other rest others hentry hrest ih =>
      obtain ⟨hkey, hvalue⟩ := hentry
      rw [List.lookup_cons, List.lookup_cons, ← hkey]
      by_cases hfound : key = entry.1
      · rw [hfound, beq_self_eq_true]
        rcases hvalue with hvalue | ⟨hfield, hrelated⟩
        · exact Or.inl (congrArg some hvalue)
        · exact Or.inr ⟨hfield, entry.2, other.2, rfl, rfl, hrelated⟩
      · rw [beq_eq_false_iff_ne.mpr hfound]
        exact ih

theorem SameBut.lookup_of_ne (hsame : SameBut field relation left right) {key : String}
    (hne : key ≠ field) : left.lookup key = right.lookup key :=
  (hsame.lookup key).resolve_right fun hfield => hne hfield.1

theorem SameBut.keys_eq (hsame : SameBut field relation left right) :
    left.map Prod.fst = right.map Prod.fst := by
  induction hsame with
  | nil => rfl
  | cons hentry _ ih => rw [List.map_cons, List.map_cons, hentry.1, ih]

theorem SameBut.hasDistinctKeys (hsame : SameBut field relation left right)
    (hrelation : ∀ value other, relation value other → value.hasDistinctKeys = true →
      other.hasDistinctKeys = true)
    (hkeys : Table.hasDistinctKeys left = true) : Table.hasDistinctKeys right = true := by
  induction hsame with
  | nil => exact hkeys
  | @cons entry other rest others hentry hrest ih =>
      simp only [Table.hasDistinctKeys, Bool.and_eq_true, decide_eq_true_eq] at hkeys ⊢
      obtain ⟨⟨hfresh, hfirst⟩, hothers⟩ := hkeys
      obtain ⟨hkey, hvalue⟩ := hentry
      refine ⟨⟨?_, ?_⟩, ih hothers⟩
      · rw [← hkey, ← SameBut.keys_eq hrest]
        exact hfresh
      · rcases hvalue with hvalue | ⟨-, hrelated⟩
        · rw [← hvalue]
          exact hfirst
        · exact hrelation _ _ hrelated hfirst

end Fields

/-! ## Distinct keys -/

theorem RoutesReordered.hasDistinctKeys {left right : Value} (hroutes : RoutesReordered left right)
    (hkeys : left.hasDistinctKeys = true) : right.hasDistinctKeys = true := by
  cases hroutes with
  | table hperm =>
      obtain ⟨hnodup, hvalues⟩ := Table.hasDistinctKeys_iff.mp hkeys
      apply Table.hasDistinctKeys_iff.mpr
      exact ⟨(hperm.map Prod.fst).nodup_iff.mp hnodup,
        fun entry hmem => hvalues entry (hperm.mem_iff.mpr hmem)⟩

theorem HostReordered.hasDistinctKeys {left right : Value} (hhost : HostReordered left right)
    (hkeys : left.hasDistinctKeys = true) : right.hasDistinctKeys = true := by
  cases hhost with
  | same element => exact hkeys
  | table hsame => exact hsame.hasDistinctKeys (fun _ _ hroutes => hroutes.hasDistinctKeys) hkeys

theorem HostsReordered.hasDistinctKeys {left right : Value} (hhosts : HostsReordered left right)
    (hkeys : left.hasDistinctKeys = true) : right.hasDistinctKeys = true := by
  cases hhosts with
  | array helements =>
      obtain ⟨middle, hall, hperm⟩ := helements
      have hleft := Value.itemsHaveDistinctKeys_iff.mp hkeys
      apply Value.itemsHaveDistinctKeys_iff.mpr
      intro element hmem
      obtain ⟨position, hlt, rfl⟩ := List.mem_iff_getElem.mp (hperm.mem_iff.mpr hmem)
      have hlength := hall.length_eq
      have hhost := (List.forall₂_iff_get.mp hall).2 position (by omega) hlt
      exact hhost.hasDistinctKeys (hleft _ (List.getElem_mem _))

theorem ServerReordered.hasDistinctKeys {left right : Table}
    (hserver : ServerReordered left right) (hkeys : Table.hasDistinctKeys left = true) :
    Table.hasDistinctKeys right = true :=
  SameBut.hasDistinctKeys hserver (fun _ _ hhosts => hhosts.hasDistinctKeys) hkeys

/-! ## Hosts -/

section Hosts

variable {left right : Value}

/-- The fields of a host besides its routes stay. -/
theorem HostReordered.text?_eq {left right : Table} (hhost : HostReordered (.table left)
    (.table right)) {field : String} (hne : field ≠ "routes") :
    text? left field = text? right field := by
  cases hhost with
  | same element => rfl
  | table hsame => rw [text?, text?, SameBut.lookup_of_ne hsame hne]

theorem HostReordered.hostName?_eq (hhost : HostReordered left right) :
    hostName? left = hostName? right := by
  cases hhost with
  | same element => rfl
  | table hsame => exact HostReordered.text?_eq (.table hsame) (by decide)

/-- The table of routes stays up to its order. -/
theorem HostReordered.entries?_perm {left right : Table} (hhost : HostReordered (.table left)
    (.table right)) :
    entries? left "routes" = none ∧ entries? right "routes" = none ∨
      ∃ entries others, entries? left "routes" = some entries ∧
        entries? right "routes" = some others ∧ entries.Perm others := by
  have hequal : ∀ found : Option Table, found = none ∧ found = none ∨
      ∃ entries others, found = some entries ∧ found = some others ∧ entries.Perm others := by
    intro found
    cases found with
    | none => exact Or.inl ⟨rfl, rfl⟩
    | some entries => exact Or.inr ⟨entries, entries, rfl, rfl, List.Perm.refl _⟩
  cases hhost with
  | same element => exact hequal _
  | table hsame =>
      rw [entries?, entries?]
      rcases SameBut.lookup hsame "routes" with hlookup | ⟨-, value, other, hvalue, hother, hroutes⟩
      · rw [hlookup]
        exact hequal _
      · cases hroutes with
        | table hperm => exact Or.inr ⟨_, _, by rw [hvalue]; rfl, by rw [hother]; rfl, hperm⟩

theorem HostReordered.routes_perm (hhost : HostReordered left right) :
    (routes left).Perm (routes right) := by
  cases hhost with
  | same element => exact List.Perm.refl _
  | @table left right hsame =>
      change ((entries? left "routes").getD []).Perm ((entries? right "routes").getD [])
      rcases HostReordered.entries?_perm (.table hsame) with
        ⟨hleft, hright⟩ | ⟨entries, others, hleft, hright, hperm⟩
      · rw [hleft, hright]
      · rw [hleft, hright]
        exact hperm

theorem HostReordered.describesHost_iff (hhost : HostReordered left right) :
    DescribesHost left ↔ DescribesHost right := by
  cases hhost with
  | same element => rfl
  | @table left right hsame =>
      have hname : text? left "name" = text? right "name" :=
        HostReordered.text?_eq (.table hsame) (by decide)
      have hmatching : text? left "matching" = text? right "matching" :=
        HostReordered.text?_eq (.table hsame) (by decide)
      simp only [DescribesHost, Value.table.injEq, exists_and_left, exists_eq_left', hname,
        hmatching]
      rcases HostReordered.entries?_perm (.table hsame) with
        ⟨hleft, hright⟩ | ⟨entries, others, hleft, hright, hperm⟩
      · simp [hleft, hright]
      · simp [hleft, hright, hperm.mem_iff]

end Hosts

/-! ## Rows of hosts -/

section Rows

variable {left right : List Value}

theorem ElementsReordered.exists_right (helements : ElementsReordered left right) {element : Value}
    (hmem : element ∈ left) : ∃ other ∈ right, HostReordered element other := by
  obtain ⟨middle, hall, hperm⟩ := helements
  obtain ⟨position, hlt, rfl⟩ := List.mem_iff_getElem.mp hmem
  have hmiddle : position < middle.length := by
    rw [← hall.length_eq]
    exact hlt
  exact ⟨middle[position], hperm.mem_iff.mp (List.getElem_mem hmiddle),
    (List.forall₂_iff_get.mp hall).2 position hlt hmiddle⟩

theorem ElementsReordered.exists_left (helements : ElementsReordered left right) {other : Value}
    (hmem : other ∈ right) : ∃ element ∈ left, HostReordered element other := by
  obtain ⟨middle, hall, hperm⟩ := helements
  obtain ⟨position, hlt, rfl⟩ := List.mem_iff_getElem.mp (hperm.mem_iff.mpr hmem)
  have hleft : position < left.length := by
    rw [hall.length_eq]
    exact hlt
  exact ⟨left[position], List.getElem_mem hleft,
    (List.forall₂_iff_get.mp hall).2 position hleft hlt⟩

theorem ElementsReordered.names_perm (helements : ElementsReordered left right) :
    (left.filterMap hostName?).Perm (right.filterMap hostName?) := by
  obtain ⟨middle, hall, hperm⟩ := helements
  have hnames : left.filterMap hostName? = middle.filterMap hostName? := by
    clear hperm
    induction hall with
    | nil => rfl
    | cons hhost _ ih => rw [List.filterMap_cons, List.filterMap_cons, hhost.hostName?_eq, ih]
  rw [hnames]
  exact hperm.filterMap _

theorem ElementsReordered.handlers_perm (helements : ElementsReordered left right) :
    (hostHandlers left).Perm (hostHandlers right) := by
  obtain ⟨middle, hall, hperm⟩ := helements
  have hhandlers : (hostHandlers left).Perm (hostHandlers middle) := by
    clear hperm
    induction hall with
    | nil => exact List.Perm.refl _
    | cons hhost _ ih =>
        have hfirst := hhost.routes_perm.flatMap_right fun entry => candidates entry.2
        exact hfirst.append ih
  exact hhandlers.trans (hperm.flatMap_right _)

theorem ElementsReordered.describe_iff (helements : ElementsReordered left right) :
    (∀ element ∈ left, DescribesHost element) ↔ ∀ element ∈ right, DescribesHost element := by
  constructor
  · intro hleft other hmem
    obtain ⟨element, helement, hhost⟩ := helements.exists_left hmem
    exact hhost.describesHost_iff.mp (hleft element helement)
  · intro hright element hmem
    obtain ⟨other, hother, hhost⟩ := helements.exists_right hmem
    exact hhost.describesHost_iff.mpr (hright other hother)

end Rows

/-! ## Servers -/

section Servers

variable {left right : Table}

theorem ServerReordered.shell?_eq (hserver : ServerReordered left right) :
    shell? left = shell? right := by
  have hlookup : ∀ key, key ≠ "hosts" → left.lookup key = right.lookup key :=
    fun _ hne => SameBut.lookup_of_ne hserver hne
  simp only [shell?, text?, number?, flag?]
  rw [hlookup "uuid" (by decide), hlookup "default_host" (by decide),
    hlookup "bind_addr" (by decide), hlookup "port" (by decide),
    hlookup "access_log" (by decide), hlookup "error_log" (by decide),
    hlookup "pid_file" (by decide), hlookup "use_ssl" (by decide)]

/-- The array of hosts stays up to its order. -/
theorem ServerReordered.items?_reordered (hserver : ServerReordered left right) :
    items? left "hosts" = none ∧ items? right "hosts" = none ∨
      ∃ elements others, items? left "hosts" = some elements ∧
        items? right "hosts" = some others ∧ ElementsReordered elements others := by
  rw [items?, items?]
  rcases SameBut.lookup hserver "hosts" with hlookup | ⟨-, value, other, hvalue, hother, hhosts⟩
  · rw [hlookup]
    cases hitems : (right.lookup "hosts").bind Value.array? with
    | none => exact Or.inl ⟨rfl, rfl⟩
    | some elements => exact Or.inr ⟨elements, elements, rfl, rfl, .refl elements⟩
  · cases hhosts with
    | array helements =>
        exact Or.inr ⟨_, _, by rw [hvalue]; rfl, by rw [hother]; rfl, helements⟩

theorem ServerReordered.hosts_reordered (hserver : ServerReordered left right) :
    ElementsReordered (hosts left) (hosts right) := by
  rw [hosts, hosts]
  rcases hserver.items?_reordered with
    ⟨hleft, hright⟩ | ⟨elements, others, hleft, hright, helements⟩
  · rw [hleft, hright]
    exact .refl []
  · rw [hleft, hright]
    exact helements

theorem ServerReordered.handlers_perm (hserver : ServerReordered left right) :
    (handlers left).Perm (handlers right) :=
  hserver.hosts_reordered.handlers_perm

/-- A record has what a server needs if it shares all fields but the hosts with one that has. -/
theorem WellFormed.of_lookup_eq (hleft : WellFormed left)
    (hlookup : ∀ key, key ≠ "hosts" → left.lookup key = right.lookup key)
    (hhosts : ∃ elements, items? right "hosts" = some elements ∧
      (∀ element ∈ elements, DescribesHost element) ∧ (elements.filterMap hostName?).Nodup) :
    WellFormed right where
  uuid := by
    rw [text?, ← hlookup "uuid" (by decide)]
    exact hleft.uuid
  defaultHost := by
    rw [text?, ← hlookup "default_host" (by decide)]
    exact hleft.defaultHost
  bindAddress := by
    rw [text?, ← hlookup "bind_addr" (by decide)]
    exact hleft.bindAddress
  port := by
    rw [number?, ← hlookup "port" (by decide)]
    exact hleft.port
  accessLog := by
    rw [text?, ← hlookup "access_log" (by decide)]
    exact hleft.accessLog
  errorLog := by
    rw [text?, ← hlookup "error_log" (by decide)]
    exact hleft.errorLog
  pidFile := by
    rw [text?, ← hlookup "pid_file" (by decide)]
    exact hleft.pidFile
  useSsl := by
    rw [flag?, ← hlookup "use_ssl" (by decide)]
    exact hleft.useSsl
  hosts := hhosts

/-- What is well formed is so in every order. -/
theorem ServerReordered.wellFormed_iff (hserver : ServerReordered left right) :
    WellFormed left ↔ WellFormed right := by
  have hlookup : ∀ key, key ≠ "hosts" → left.lookup key = right.lookup key :=
    fun _ hne => SameBut.lookup_of_ne hserver hne
  rcases hserver.items?_reordered with
    ⟨hleft, hright⟩ | ⟨elements, others, hleft, hright, helements⟩
  · constructor
    · intro hformed
      obtain ⟨elements, hitems, -⟩ := hformed.hosts
      rw [hleft] at hitems
      cases hitems
    · intro hformed
      obtain ⟨elements, hitems, -⟩ := hformed.hosts
      rw [hright] at hitems
      cases hitems
  · constructor
    · intro hformed
      obtain ⟨found, hitems, hdescribe, hnames⟩ := hformed.hosts
      obtain rfl := Option.some.inj (hleft.symm.trans hitems)
      exact hformed.of_lookup_eq hlookup ⟨others, hright, helements.describe_iff.mp hdescribe,
        helements.names_perm.nodup_iff.mp hnames⟩
    · intro hformed
      obtain ⟨found, hitems, hdescribe, hnames⟩ := hformed.hosts
      obtain rfl := Option.some.inj (hright.symm.trans hitems)
      exact hformed.of_lookup_eq (fun key hne => (hlookup key hne).symm)
        ⟨elements, hleft, helements.describe_iff.mpr hdescribe,
          helements.names_perm.nodup_iff.mpr hnames⟩

end Servers

end HostRouting.Declared
