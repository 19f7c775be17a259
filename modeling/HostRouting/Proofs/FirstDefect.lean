import HostRouting.Proofs.StepsTaken

/-!
# Compiling fails with the first defect

Building the hosts of a server changes a registry and a list of hosts on its way, and the name of a
host is compared with the hosts that are there.  All the same, what a run reports as its failure is
the first defect of the document.  In a document the keys of a table are distinct, so no path is
ever taken.
-/

namespace HostRouting

open Toml (Table Value)

namespace Server

/-! ## Finding the record -/

theorem firstNamed_eq_ok {name : String} {entries : List (Except Failure Record)}
    {record : Record} (hfound : firstNamed name entries = .ok record) :
    record.label = "server '" ++ name ++ "'" ∧
      ∃ entry, .ok entry ∈ entries ∧ entry.table = record.table := by
  induction entries with
  | nil => cases hfound
  | cons first rest ih =>
      rw [firstNamed] at hfound
      obtain ⟨entry, hentry, hnamed⟩ := bind_eq_ok_iff.mp hfound
      obtain ⟨own, -, hown⟩ := bind_eq_ok_iff.mp hnamed
      by_cases hname : own = name
      · rw [if_pos hname] at hown
        cases hown
        exact ⟨rfl, entry, hentry ▸ List.mem_cons_self, rfl⟩
      · rw [if_neg hname] at hown
        obtain ⟨hlabel, other, hmem, htable⟩ := ih hown
        exact ⟨hlabel, other, List.mem_cons_of_mem _ hmem, htable⟩

/-- The record that is found is labelled with the name, and its table is one of the document. -/
theorem find_eq_ok {root record : Record} {name : String} (hfind : find root name = .ok record) :
    record.label = "server '" ++ name ++ "'" ∧
      ∃ items, Declared.items? root.table "servers" = some items ∧
        .table record.table ∈ items := by
  obtain ⟨entries, hentries, hfound⟩ := bind_eq_ok_iff.mp hfind
  obtain ⟨hlabel, entry, hmem, htable⟩ := firstNamed_eq_ok hfound
  refine ⟨hlabel, ?_⟩
  have harray := toOption_read root "servers" Value.array?
  rw [Record.records, Record.array] at hentries
  cases hread : root.read "servers" Value.array? with
  | error failure => simp [hread, Except.map] at hentries
  | ok items =>
      rw [hread, toOption_ok] at harray
      simp only [hread, Except.map, Except.ok.injEq] at hentries
      rw [← hentries] at hmem
      obtain ⟨position, hlt, hitem⟩ := List.mem_mapIdx.mp hmem
      refine ⟨items, harray.symm, ?_⟩
      rw [← htable, ← item_eq_ok hitem]
      exact List.getElem_mem hlt

theorem hasDistinctKeys_of_find {root record : Record} {name : String}
    (hkeys : Table.hasDistinctKeys root.table = true) (hfind : find root name = .ok record) :
    Table.hasDistinctKeys record.table = true := by
  obtain ⟨-, items, hitems, hmem⟩ := find_eq_ok hfind
  obtain ⟨value, hlookup, hvalue⟩ := Option.bind_eq_some_iff.mp hitems
  obtain rfl := Value.array?_eq_some_iff.mp hvalue
  have hdistinct := Table.hasDistinctKeys_of_lookup hkeys hlookup
  exact Value.itemsHaveDistinctKeys_iff.mp hdistinct _ hmem

/-- Compiling a record fails with its first defect. -/
theorem failure?_compile_of_find {root record : Record} {name : String}
    (hkeys : Table.hasDistinctKeys record.table = true) (hfind : find root name = .ok record) :
    failure? ((compile root name).run ()).result =
      (Declared.serverDefects record.label record.table).head? := by
  rw [(compile_follows hkeys hfind).failure, Declared.head?_failures_serverSteps]

/-- Compiling succeeds exactly when the record is well formed. -/
theorem compile_succeeds_iff {root record : Record} {name : String}
    (hkeys : Table.hasDistinctKeys record.table = true) (hfind : find root name = .ok record) :
    (∃ server, ((compile root name).run ()).result = .ok server) ↔
      Declared.WellFormed record.table := by
  rw [← failure?_eq_none_iff, failure?_compile_of_find hkeys hfind, List.head?_eq_none_iff,
    Declared.serverDefects_eq_nil_iff]

/-- Compiling a server fails with the first defect of its record. -/
theorem failure?_compile {root record : Record} {name : String}
    (hkeys : Table.hasDistinctKeys root.table = true) (hfind : find root name = .ok record) :
    failure? ((compile root name).run ()).result =
      (Declared.serverDefects record.label record.table).head? :=
  failure?_compile_of_find (hasDistinctKeys_of_find hkeys hfind) hfind

/-- A server is compiled exactly when its record is well formed, and otherwise the failure is the
first defect of the record, which is never that a path is taken. -/
theorem compile_fails_with_first_defect {root record : Record} {name : String}
    (hkeys : Table.hasDistinctKeys root.table = true) (hfind : find root name = .ok record) :
    ((∃ server, ((compile root name).run ()).result = .ok server) ↔
      Declared.WellFormed record.table) ∧
    (∀ failure, ((compile root name).run ()).result = .error failure ↔
      (Declared.serverDefects ("server '" ++ name ++ "'") record.table).head? = some failure) ∧
    (∀ host path, ((compile root name).run ()).result ≠ .error (.duplicateRoute host path)) := by
  have hlabel := (find_eq_ok hfind).1
  have hfailure := failure?_compile hkeys hfind
  rw [hlabel] at hfailure
  refine ⟨?_, ?_, ?_⟩
  · rw [← failure?_eq_none_iff, hfailure, List.head?_eq_none_iff,
      Declared.serverDefects_eq_nil_iff]
  · intro failure
    rw [← failure?_eq_some_iff, hfailure]
  · intro host path htaken
    rw [← failure?_eq_some_iff, hfailure] at htaken
    exact Declared.duplicateRoute_not_mem_serverDefects host path _ _
      (List.mem_of_head? htaken)

/-- A document in which two hosts have the same name, and a later one has a route of no kind. -/
def clashingDocument : Table :=
  Declared.document [Declared.hostRecord "localhost" [], Declared.hostRecord "localhost" [],
    Declared.hostRecord "files" [("/", .table [("type", .string "ftp")])]]

theorem compile_fails_with_first_defect_clashing :
    Table.hasDistinctKeys clashingDocument = true ∧
      (find (.root clashingDocument) "main").toOption.isSome = true ∧
      ((compile (.root clashingDocument) "main").run ()).result =
        .error (.duplicateHost "f400bf85" "localhost") := by
  refine ⟨by decide, by decide, ?_⟩
  exact ((compile_fails_with_first_defect (by decide) rfl).2.1 _).mpr (by decide)

end Server

end HostRouting
