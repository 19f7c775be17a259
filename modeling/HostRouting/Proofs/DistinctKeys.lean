import HostRouting.Toml.Value
import Mathlib.Data.List.Nodup

/-!
# Tables with distinct keys

A table of a document lists each key once, at every depth.  In such a table, looking up a key and
listing the entries tell the same: a key holds a value exactly when the two stand together in the
list.
-/

namespace HostRouting

theorem mem_of_lookup_eq_some {β : Type} {table : List (String × β)} {key : String} {value : β}
    (hlookup : table.lookup key = some value) : (key, value) ∈ table := by
  obtain ⟨before, after, rfl, -⟩ := List.lookup_eq_some_iff.mp hlookup
  simp

theorem lookup_eq_some_of_mem {β : Type} {table : List (String × β)} {key : String} {value : β}
    (hkeys : (table.map Prod.fst).Nodup) (hmem : (key, value) ∈ table) :
    table.lookup key = some value := by
  induction table with
  | nil => simp at hmem
  | cons entry rest ih =>
      obtain ⟨hfresh, hrest⟩ := List.nodup_cons.mp hkeys
      rcases List.mem_cons.mp hmem with rfl | hmem
      · simp
      · have hne : (key == entry.1) = false := by
          rw [beq_eq_false_iff_ne]
          rintro rfl
          exact hfresh (List.mem_map.mpr ⟨_, hmem, rfl⟩)
        rw [List.lookup_cons, hne]
        exact ih hrest hmem

theorem lookup_eq_none_iff_not_mem_keys {β : Type} {table : List (String × β)} {key : String} :
    table.lookup key = none ↔ key ∉ table.map Prod.fst := by
  rw [List.lookup_eq_none_iff]
  constructor
  · rintro hnone hmem
    obtain ⟨entry, hentry, rfl⟩ := List.mem_map.mp hmem
    simpa using hnone entry hentry
  · intro hfresh entry hentry
    rw [bne_iff_ne]
    rintro rfl
    exact hfresh (List.mem_map.mpr ⟨entry, hentry, rfl⟩)

namespace Toml

theorem Value.table?_eq_some_iff {value : Value} {entries : Table} :
    value.table? = some entries ↔ value = .table entries := by
  cases value <;> simp [Value.table?]

theorem Value.array?_eq_some_iff {value : Value} {items : List Value} :
    value.array? = some items ↔ value = .array items := by
  cases value <;> simp [Value.array?]

mutual

/-- Whether no table in a value lists a key twice. -/
def Value.hasDistinctKeys : Value → Bool
  | .array items => Value.itemsHaveDistinctKeys items
  | .table entries => Table.hasDistinctKeys entries
  | _ => true

def Value.itemsHaveDistinctKeys : List Value → Bool
  | [] => true
  | item :: items => item.hasDistinctKeys && Value.itemsHaveDistinctKeys items

/-- Whether neither a table nor any table in it lists a key twice. -/
def Table.hasDistinctKeys : List (String × Value) → Bool
  | [] => true
  | (key, value) :: entries =>
      decide (key ∉ entries.map Prod.fst) && value.hasDistinctKeys &&
        Table.hasDistinctKeys entries

end

theorem Value.itemsHaveDistinctKeys_iff {items : List Value} :
    Value.itemsHaveDistinctKeys items = true ↔ ∀ item ∈ items, item.hasDistinctKeys = true := by
  induction items with
  | nil => simp [Value.itemsHaveDistinctKeys]
  | cons item rest ih => simp [Value.itemsHaveDistinctKeys, ih]

theorem Table.hasDistinctKeys_iff {table : Table} :
    Table.hasDistinctKeys table = true ↔
      (table.map Prod.fst).Nodup ∧ ∀ entry ∈ table, entry.2.hasDistinctKeys = true := by
  induction table with
  | nil => simp [Table.hasDistinctKeys]
  | cons entry rest ih =>
      simp only [Table.hasDistinctKeys, Bool.and_eq_true, decide_eq_true_eq, ih, List.map_cons,
        List.nodup_cons, List.forall_mem_cons]
      tauto

theorem Table.nodup_keys {table : Table} (hkeys : Table.hasDistinctKeys table = true) :
    (table.map Prod.fst).Nodup :=
  (Table.hasDistinctKeys_iff.mp hkeys).1

theorem Table.hasDistinctKeys_of_lookup {table : Table}
    (hkeys : Table.hasDistinctKeys table = true) {key : String} {value : Value}
    (hlookup : table.lookup key = some value) : value.hasDistinctKeys = true :=
  (Table.hasDistinctKeys_iff.mp hkeys).2 _ (mem_of_lookup_eq_some hlookup)

end Toml

end HostRouting
