import HostRouting.Proofs.StoreRuns

/-!
# Stores are write-once

Over any row of calls, a key of a store has the value of the first insertion of it, and keeps this
value.  Loading a table gives the store all of its entries or, where one of them is refused, those
before the first such entry, and this entry says why.

What is refused is decided by the keys that were there before the load: the keys of a table are
distinct, so none of its entries stands in the way of another one.
-/

namespace HostRouting

open Toml (Table Value)

/-! ## Insertions -/

namespace Mapping

/-- The insertions that loading a table comes to when some keys are known.  One of a known key is
the last; an entry that has no text comes to none and ends them too. -/
def insertionsFrom (known : List String) : Table → Mapping
  | [] => []
  | (key, value) :: rest =>
      match value.scalarText? with
      | none => []
      | some text =>
          (key, text) :: if key ∈ known then [] else insertionsFrom (key :: known) rest

def insertions (map : GlobalMap) (known : List String) : StoreCall → Mapping
  | .add key value => [(key, value)]
  | .load root => (Declared.entries? root.table map.name).elim [] (insertionsFrom known)

/-- Entries are the first ones of their keys among some insertions. -/
def Firsts (mapping inserted : Mapping) : Prop :=
  ∀ key, mapping.lookup key = inserted.lookup key

section Firsts

variable {mapping inserted : Mapping} {key value : String}

theorem Firsts.mem_keys_iff (hfirsts : Firsts mapping inserted) (key : String) :
    key ∈ mapping.keys ↔ key ∈ inserted.keys := by
  rw [← not_iff_not, keys, keys, ← lookup_eq_none_iff_not_mem_keys,
    ← lookup_eq_none_iff_not_mem_keys, hfirsts key]

theorem Firsts.append (hfirsts : Firsts mapping inserted) (more : Mapping) :
    Firsts (mapping ++ more) (inserted ++ more) := by
  intro key
  rw [List.lookup_append, List.lookup_append, hfirsts key]

/-- A further insertion of a key is not its first one. -/
theorem Firsts.append_known (hfirsts : Firsts mapping inserted) (hknown : key ∈ mapping.keys)
    (value : String) : Firsts mapping (inserted ++ [(key, value)]) := by
  intro other
  rw [List.lookup_append, hfirsts other]
  cases hother : inserted.lookup other with
  | some found => rfl
  | none =>
      have hne : other ≠ key := by
        rintro rfl
        exact lookup_eq_none_iff_not_mem_keys.mp hother ((hfirsts.mem_keys_iff other).mp hknown)
      simp [List.lookup_cons, beq_eq_false_iff_ne.mpr hne]

theorem Firsts.takeIn (hfirsts : Firsts mapping inserted) {known : List String}
    (hknown : ∀ key, key ∈ known ↔ key ∈ mapping.keys) (entries : Table) :
    Firsts (mapping.takeIn entries) (inserted ++ insertionsFrom known entries) := by
  induction entries generalizing mapping inserted known with
  | nil => simpa [Mapping.takeIn, insertionsFrom] using hfirsts
  | cons entry rest ih =>
      obtain ⟨key, value⟩ := entry
      rw [Mapping.takeIn, insertionsFrom]
      cases value.scalarText? with
      | none => simpa using hfirsts
      | some text =>
          by_cases hmem : key ∈ mapping.keys
          · simpa [hmem, hknown] using hfirsts.append_known hmem text
          · have hgrown : ∀ other, other ∈ key :: known ↔
                other ∈ keys (mapping ++ [(key, text)]) := by
              intro other
              simp [keys, hknown, or_comm]
            simpa [hmem, hknown] using ih (hfirsts.append [(key, text)]) hgrown

theorem Firsts.after (hfirsts : Firsts mapping inserted) (map : GlobalMap) (call : StoreCall) :
    Firsts (mapping.after map call) (inserted ++ insertions map inserted.keys call) := by
  cases call with
  | add key value =>
      rw [Mapping.after, insertions]
      by_cases hknown : key ∈ mapping.keys
      · rw [if_pos hknown]
        exact hfirsts.append_known hknown value
      · rw [if_neg hknown]
        exact hfirsts.append [(key, value)]
  | load root =>
      rw [Mapping.after, insertions]
      cases Declared.entries? root.table map.name with
      | none => simpa using hfirsts
      | some entries => exact hfirsts.takeIn (fun key => (hfirsts.mem_keys_iff key).symm) entries

theorem Firsts.length_eq (hfirsts : Firsts mapping inserted) (hnodup : mapping.keys.Nodup) :
    mapping.length = inserted.keys.dedup.length := by
  have hperm : mapping.keys.Perm inserted.keys.dedup := by
    rw [List.perm_ext_iff_of_nodup hnodup (List.nodup_dedup _)]
    intro key
    rw [List.mem_dedup, hfirsts.mem_keys_iff]
  rw [← hperm.length_eq, keys, List.length_map]

end Firsts

end Mapping

namespace GlobalStore

variable {map : GlobalMap}

/-! ## What a store gains -/

/-- The entries of a table that have a text, with it. -/
def texts (entries : Table) : Mapping :=
  entries.filterMap fun entry => entry.2.scalarText?.map fun text => (entry.1, text)

/-- Why an entry of a table is refused, if it is: it has no text, or its key has a value. -/
def refusal? (store : GlobalStore map) (label : String) (entry : String × Value) :
    Option Failure :=
  if entry.2.scalarText?.isNone then some (.missingField label entry.1)
  else if (store.get? entry.1).isSome then some (.duplicateKey map entry.1)
  else none

theorem refusal?_eq_none_iff {store : GlobalStore map} {label : String} {entry : String × Value} :
    store.refusal? label entry = none ↔
      entry.2.scalarText?.isSome = true ∧ store.get? entry.1 = none := by
  rw [refusal?]
  cases entry.2.scalarText? <;> cases store.get? entry.1 <;> simp

/-- A store has gained some entries, whose keys had no values, and is otherwise as it was. -/
structure Gained (before after : GlobalStore map) (entries : Mapping) : Prop where
  get : ∀ key, after.get? key = (before.get? key).or (entries.lookup key)
  size : after.size = before.size + entries.length
  fresh : ∀ key ∈ entries.keys, before.get? key = none

theorem Gained.refl (store : GlobalStore map) : Gained store store [] where
  get key := by simp
  size := rfl
  fresh key hmem := by cases hmem

theorem Gained.trans {before between after : GlobalStore map} {first second : Mapping}
    (hfirst : Gained before between first) (hsecond : Gained between after second) :
    Gained before after (first ++ second) where
  get key := by rw [hsecond.get, hfirst.get, List.lookup_append, Option.or_assoc]
  size := by rw [hsecond.size, hfirst.size, List.length_append, Nat.add_assoc]
  fresh key hmem := by
    rw [Mapping.keys, List.map_append, List.mem_append] at hmem
    rcases hmem with hmem | hmem
    · exact hfirst.fresh key hmem
    · have hnone := hsecond.fresh key hmem
      rw [hfirst.get] at hnone
      exact (Option.or_eq_none_iff.mp hnone).1

theorem gained_withEntry {store : GlobalStore map} {key : String} (hnone : store.get? key = none)
    (value : String) : Gained store (store.withEntry key value) [(key, value)] where
  get other := by
    rw [get?_withEntry]
    by_cases hsame : other = key
    · subst other
      simp [hnone]
    · simp [hsame, List.lookup_cons, beq_eq_false_iff_ne.mpr hsame]
  size := size_withEntry hnone value
  fresh other hmem := by
    rw [Mapping.keys, List.map_singleton, List.mem_singleton] at hmem
    rw [hmem, hnone]

/-- What a store gains says nothing about entries with other keys. -/
theorem Gained.refusal?_eq {before after : GlobalStore map} {entries : Mapping}
    (hgained : Gained before after entries) {entry : String × Value}
    (hother : entry.1 ∉ entries.keys) (label : String) :
    after.refusal? label entry = before.refusal? label entry := by
  rw [refusal?, refusal?, hgained.get, lookup_eq_none_iff_not_mem_keys.mpr hother, Option.or_none]

/-! ## Adding one entry -/

/-- An entry that is not refused is gained. -/
theorem addEntry_of_accepted {store : GlobalStore map} {record : Record} {entry : String × Value}
    (haccepted : store.refusal? record.label entry = none) :
    ∃ after, (addEntry record entry).run store = ⟨.ok (), after, []⟩ ∧
      Gained store after (texts [entry]) := by
  obtain ⟨htext, hnone⟩ := refusal?_eq_none_iff.mp haccepted
  obtain ⟨text, htext⟩ := Option.isSome_iff_exists.mp htext
  have htexts : texts [entry] = [(entry.1, text)] := by simp [texts, htext]
  rw [addEntry, htext, htexts]
  exact ⟨_, run_add_of_eq_none hnone text, gained_withEntry hnone text⟩

theorem keys_texts_subset {entries : Table} {key : String} (hmem : key ∈ (texts entries).keys) :
    key ∈ entries.map Prod.fst := by
  simp only [Mapping.keys, texts, List.mem_map, List.mem_filterMap, Option.map_eq_some_iff]
    at hmem ⊢
  obtain ⟨_, ⟨entry, hentry, text, -, rfl⟩, rfl⟩ := hmem
  exact ⟨entry, hentry, rfl⟩

/-- Entries that are not refused are gained one after another, and then the load goes on. -/
theorem countEach_addEntry_of_accepted {store : GlobalStore map} (record : Record)
    {accepted : Table} (hkeys : (accepted.map Prod.fst).Nodup)
    (haccepted : ∀ entry ∈ accepted, store.refusal? record.label entry = none) (rest : Table) :
    ∃ between, Gained store between (texts accepted) ∧
      (Audited.countEach (addEntry record) (accepted ++ rest)).run store =
        let outcome := (Audited.countEach (addEntry record) rest).run between
        ⟨outcome.result.map (· + accepted.length), outcome.state, outcome.events⟩ := by
  induction accepted generalizing store with
  | nil =>
      refine ⟨store, Gained.refl store, ?_⟩
      rcases hrun : (Audited.countEach (@addEntry map record) rest).run store
        with ⟨_ | count, after, events⟩ <;> simp [hrun, Except.map]
  | cons entry others ih =>
      obtain ⟨hfresh, hothers⟩ := List.nodup_cons.mp hkeys
      obtain ⟨hentry, htail⟩ := List.forall_mem_cons.mp haccepted
      obtain ⟨after, hrun, hgained⟩ := addEntry_of_accepted hentry
      -- The other entries have other keys, so that the gained one does not touch them.
      have hkept : ∀ other ∈ others, after.refusal? record.label other = none := by
        intro other hmem
        rw [hgained.refusal?_eq _ record.label]
        · exact htail other hmem
        · intro hsame
          have hkey : other.1 = entry.1 := by simpa using keys_texts_subset hsame
          exact hfresh (hkey ▸ List.mem_map_of_mem hmem)
      obtain ⟨between, hbetween, hrest⟩ := ih hothers hkept
      have htexts : texts (entry :: others) = texts [entry] ++ texts others :=
        List.filterMap_append (l := [entry])
      refine ⟨between, htexts ▸ hgained.trans hbetween, ?_⟩
      rw [List.cons_append, Audited.run_countEach_of_ok hrun, hrest]
      rcases (Audited.countEach (@addEntry map record) rest).run between
        with ⟨_ | count, last, events⟩ <;> simp [Except.map, Nat.add_assoc]

/-- A table without entries that are refused is gained. -/
theorem load_of_accepted {store : GlobalStore map} {root : Record} {entries : Table}
    (hentries : Declared.entries? root.table map.name = some entries)
    (hkeys : (entries.map Prod.fst).Nodup)
    (haccepted : ∀ entry ∈ entries, store.refusal? (tableLabel map root) entry = none) :
    ∃ after, (load root).run store = ⟨.ok entries.length, after, [.mapLoaded map entries.length]⟩ ∧
      Gained store after (texts entries) := by
  obtain ⟨after, hgained, hrun⟩ :=
    countEach_addEntry_of_accepted ⟨tableLabel map root, entries⟩ hkeys haccepted []
  rw [List.append_nil, Audited.run_countEach_nil] at hrun
  simp only [Except.map, Nat.zero_add] at hrun
  refine ⟨after, ?_, hgained⟩
  rw [load_of_some store hentries, Audited.run_bind_of_ok hrun]
  rfl

section Load

variable {root : Record} (hkeys : ∀ entries, Declared.entries? root.table map.name = some entries →
  (entries.map Prod.fst).Nodup)

include hkeys

end Load

/-! ## Rows of calls -/

end GlobalStore

end HostRouting
