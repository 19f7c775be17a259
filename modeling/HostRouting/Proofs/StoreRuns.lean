import HostRouting.GlobalStore
import HostRouting.Proofs.DistinctKeys
import HostRouting.Proofs.RouteReading
import HostRouting.Proofs.SearchTrees

/-!
# What a store holds after any calls

A store is filled by calls that add one entry or load a table of entries, and each of them may fail.
A list of entries without repeated keys says what it then holds: an entry counts if its key is new,
and of a table those before the first one that is refused.  Neither the tree nor the order of bytes
under which keys are stored shows in this.
-/

namespace HostRouting

open Toml (Table Value)

inductive StoreCall where
  | add (key value : String)
  | load (root : Record)

/-! ## Lists of entries -/

/-- Entries without repeated keys, in the order in which they came. -/
abbrev Mapping := List (String × String)

namespace Mapping

def keys (mapping : Mapping) : List String :=
  mapping.map Prod.fst

/-- Takes in entries of a table up to the first one that has no text or whose key is known. -/
def takeIn (mapping : Mapping) : Table → Mapping
  | [] => mapping
  | (key, value) :: rest =>
      match value.scalarText? with
      | none => mapping
      | some text =>
          if key ∈ mapping.keys then mapping else takeIn (mapping ++ [(key, text)]) rest

def after (map : GlobalMap) (mapping : Mapping) : StoreCall → Mapping
  | .add key value => if key ∈ mapping.keys then mapping else mapping ++ [(key, value)]
  | .load root => (Declared.entries? root.table map.name).elim mapping mapping.takeIn

/-- The entries that count after some calls. -/
def ofCalls (map : GlobalMap) (calls : List StoreCall) : Mapping :=
  calls.foldl (after map) []

end Mapping

/-! ## Stored keys -/

theorem GlobalMap.storedKey_injective (map : GlobalMap) : Function.Injective map.storedKey := by
  intro left right heq
  cases map with
  | settings => exact Utf8.bytes_injective heq
  | mimeTypes =>
      have hreversed := congrArg String.toList (Utf8.bytes_injective heq)
      simp only [String.toList_ofList, List.reverse_inj] at hreversed
      exact String.toList_inj.mp hreversed

namespace GlobalStore

variable {map : GlobalMap}

structure Holds (store : GlobalStore map) (mapping : Mapping) : Prop where
  get : ∀ key, store.get? key = mapping.lookup key
  stored : ∀ bytes, (store.tree.find? bytes).isSome = true → ∃ key, map.storedKey key = bytes
  size : store.size = mapping.length
  nodup : mapping.keys.Nodup

theorem holds_nil : Holds ({} : GlobalStore map) [] where
  get key := SearchTree.find?_empty (map.storedKey key)
  stored bytes hsome := by simp at hsome
  size := rfl
  nodup := List.nodup_nil

variable {store : GlobalStore map} {mapping : Mapping}

/-- A key has a value where it is one of the entries. -/
theorem Holds.isSome_iff (hholds : store.Holds mapping) (key : String) :
    (store.get? key).isSome = true ↔ key ∈ mapping.keys := by
  rw [hholds.get, Option.isSome_iff_ne_none, ne_eq, lookup_eq_none_iff_not_mem_keys, not_not]
  rfl

theorem Holds.get?_eq_some_iff (hholds : store.Holds mapping) {key value : String} :
    store.get? key = some value ↔ (key, value) ∈ mapping := by
  rw [hholds.get]
  exact ⟨mem_of_lookup_eq_some, lookup_eq_some_of_mem hholds.nodup⟩

def withEntry (store : GlobalStore map) (key value : String) : GlobalStore map :=
  ⟨(store.tree.insert (map.storedKey key) value).2⟩

/-- A key that has a value is refused. -/
theorem add_of_isSome {key : String} (hknown : (store.get? key).isSome = true) (value : String) :
    store.add key value = .error (.duplicateKey map key) :=
  if_pos hknown

theorem add_of_eq_none {key : String} (hnone : store.get? key = none) (value : String) :
    store.add key value = .ok (store.withEntry key value) :=
  if_neg (Option.not_isSome_iff_eq_none.mpr hnone)

theorem run_add_of_isSome {key : String} (hknown : (store.get? key).isSome = true)
    (value : String) :
    (Audited.update (add key value)).run store = ⟨.error (.duplicateKey map key), store, []⟩ := by
  rw [Audited.run_update, add_of_isSome hknown]

theorem run_add_of_eq_none {key : String} (hnone : store.get? key = none) (value : String) :
    (Audited.update (add key value)).run store = ⟨.ok (), store.withEntry key value, []⟩ := by
  rw [Audited.run_update, add_of_eq_none hnone]

theorem Holds.eq_none_of_not_mem (hholds : store.Holds mapping) {key : String}
    (hnew : key ∉ mapping.keys) : store.get? key = none := by
  rw [hholds.get]
  exact lookup_eq_none_iff_not_mem_keys.mpr hnew

/-- Storing a value changes what its own key leads to. -/
theorem get?_withEntry (store : GlobalStore map) (key value other : String) :
    (store.withEntry key value).get? other =
      if other = key then some value else store.get? other := by
  rw [get?, withEntry, SearchTree.find?_insert]
  simp only [map.storedKey_injective.eq_iff]
  rfl

/-- Storing a value under a new key makes the store larger by one. -/
theorem size_withEntry {key : String} (hnone : store.get? key = none)
    (value : String) : (store.withEntry key value).size = store.size + 1 := by
  have hfound : store.tree.find? (map.storedKey key) = none := hnone
  change (store.tree.insert (map.storedKey key) value).2.size = store.tree.size + 1
  rw [SearchTree.size_insert, hfound]
  rfl

theorem Holds.withEntry (hholds : store.Holds mapping) {key : String}
    (hnew : key ∉ mapping.keys) (value : String) :
    (store.withEntry key value).Holds (mapping ++ [(key, value)]) := by
  have hnone := hholds.eq_none_of_not_mem hnew
  refine ⟨?_, ?_, ?_, ?_⟩
  · intro other
    rw [get?_withEntry, List.lookup_append, hholds.get]
    by_cases hsame : other = key
    · subst other
      rw [if_pos rfl, ← hholds.get, hnone]
      simp
    · have hbeq : (other == key) = false := beq_eq_false_iff_ne.mpr hsame
      simp [hsame, List.lookup_cons, hbeq]
  · intro bytes hsome
    rw [GlobalStore.withEntry, SearchTree.find?_insert] at hsome
    by_cases hsame : bytes = map.storedKey key
    · exact ⟨key, hsame.symm⟩
    · rw [if_neg hsame] at hsome
      exact hholds.stored bytes hsome
  · rw [size_withEntry hnone, hholds.size, List.length_append]
    rfl
  · rw [Mapping.keys, List.map_append, List.nodup_append_comm]
    exact List.nodup_cons.mpr ⟨hnew, hholds.nodup⟩

/-! ## Calls -/

/-- What a call leaves of a store, also when it fails. -/
def after (store : GlobalStore map) : StoreCall → GlobalStore map
  | .add key value => ((Audited.update (add key value)).run store).state
  | .load root => ((load root).run store).state

def ofCalls (calls : List StoreCall) : GlobalStore map :=
  calls.foldl after {}

/-- Loading entries takes them in up to the first one that is refused. -/
theorem Holds.countEach_addEntry (hholds : store.Holds mapping) (record : Record)
    (entries : Table) :
    ((Audited.countEach (addEntry record) entries).run store).state.Holds
      (mapping.takeIn entries) := by
  induction entries generalizing store mapping with
  | nil => exact hholds
  | cons entry rest ih =>
      obtain ⟨key, value⟩ := entry
      rw [Mapping.takeIn]
      cases htext : value.scalarText? with
      | none =>
          have hrun : (addEntry record (key, value)).run store =
              ⟨.error (record.missing key), store, []⟩ := by
            simp [addEntry, htext]
          rw [Audited.run_countEach_of_error hrun]
          exact hholds
      | some text =>
          have hentry : @addEntry map record (key, value) =
              .update (GlobalStore.add key text) := by
            simp [addEntry, htext]
          by_cases hknown : key ∈ mapping.keys
          · have hrun := run_add_of_isSome ((hholds.isSome_iff key).mpr hknown) text
            rw [← hentry] at hrun
            rw [Audited.run_countEach_of_error hrun]
            simpa [hknown] using hholds
          · have hrun := run_add_of_eq_none (hholds.eq_none_of_not_mem hknown) text
            rw [← hentry] at hrun
            rw [Audited.run_countEach_of_ok hrun]
            simpa [hknown] using ih (hholds.withEntry hknown text)

def tableLabel (map : GlobalMap) (root : Record) : String :=
  root.label ++ " " ++ map.name

theorem load_of_none (store : GlobalStore map) {root : Record}
    (hentries : Declared.entries? root.table map.name = none) :
    (load root).run store = ⟨.error (.missingField root.label map.name), store, []⟩ := by
  rw [load, Audited.run_ofExcept_bind_of_error (Record.subtable_of_none hentries)]
  rfl

theorem load_of_some (store : GlobalStore map) {root : Record} {entries : Table}
    (hentries : Declared.entries? root.table map.name = some entries) :
    (load root).run store = (do
      let count ← Audited.countEach (addEntry ⟨tableLabel map root, entries⟩) entries
      Audited.emit (.mapLoaded map count)
      return count : Audited (GlobalStore map) Nat).run store := by
  rw [load, Audited.run_ofExcept_bind_of_ok (Record.subtable_of_some hentries)]
  rfl

/-- Every call does to a store what it does to the entries that the store holds. -/
theorem Holds.after (hholds : store.Holds mapping) (call : StoreCall) :
    (store.after call).Holds (mapping.after map call) := by
  cases call with
  | add key value =>
      rw [GlobalStore.after, Mapping.after]
      by_cases hknown : key ∈ mapping.keys
      · rw [run_add_of_isSome ((hholds.isSome_iff key).mpr hknown), if_pos hknown]
        exact hholds
      · rw [run_add_of_eq_none (hholds.eq_none_of_not_mem hknown), if_neg hknown]
        exact hholds.withEntry hknown value
  | load root =>
      rw [GlobalStore.after, Mapping.after]
      cases hentries : Declared.entries? root.table map.name with
      | none =>
          rw [load_of_none store hentries]
          exact hholds
      | some entries =>
          have hloaded := hholds.countEach_addEntry ⟨tableLabel map root, entries⟩ entries
          rw [load_of_some store hentries, Audited.run_bind]
          -- Only an event follows the entries, so they decide what is left.
          rcases hrun : (Audited.countEach
            (@addEntry map ⟨tableLabel map root, entries⟩) entries).run store
            with ⟨failure | count, loaded, events⟩
          · rw [hrun] at hloaded
            exact hloaded
          · rw [hrun] at hloaded
            exact hloaded

/-- A store holds what counts after the calls that have filled it. -/
theorem holds_ofCalls (map : GlobalMap) (calls : List StoreCall) :
    (ofCalls calls : GlobalStore map).Holds (Mapping.ofCalls map calls) := by
  induction calls using List.reverseRecOn with
  | nil => exact holds_nil
  | append_singleton calls call ih =>
      rw [ofCalls, Mapping.ofCalls, List.foldl_append, List.foldl_append]
      exact ih.after call

end GlobalStore

end HostRouting
