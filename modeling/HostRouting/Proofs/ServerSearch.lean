import HostRouting.Proofs.UnreadFields
import Mathlib.Data.List.Induction

/-!
# Which server is found

The search for a server goes through the elements of `servers` in order and ends at the first one
that has the name that is asked for, or that has no name at all.  In the first case it is the
record that is found, in the second the failure says where the element stands.  Elements behind it
play no part, whatever they are.
-/

namespace HostRouting

open Toml (Table Value)

namespace Declared

/-- The search for a name goes on behind some elements of `servers`: each of them is a table with a
string for its name, and has another name. -/
def PassedOver (name : String) (elements : List Value) : Prop :=
  ∀ element ∈ elements, ∃ table other,
    element = .table table ∧ text? table "name" = some other ∧ other ≠ name

/-- An element of `servers` has no name, with the failure that says so: the element is missing if
it is no table, and otherwise its name is.  Positions are counted from zero and shown from one. -/
inductive Nameless (label : String) (position : Nat) : Value → Failure → Prop
  | noTable {element : Value} (htable : element.table? = none) :
      Nameless label position element
        (.missingField label ("servers[" ++ toString (position + 1) ++ "]"))
  | noName {table : Table} (hname : text? table "name" = none) :
      Nameless label position (.table table)
        (.missingField (label ++ " servers[" ++ toString (position + 1) ++ "]") "name")

theorem nameless_or_named (label : String) (position : Nat) (element : Value) :
    (∃ failure, Nameless label position element failure) ∨
      ∃ table own, element = .table table ∧ text? table "name" = some own := by
  cases element with
  | table table =>
      cases hname : text? table "name" with
      | none => exact Or.inl ⟨_, .noName hname⟩
      | some own => exact Or.inr ⟨table, own, rfl, hname⟩
  | _ => exact Or.inl ⟨_, .noTable rfl⟩

/-- The search passes over all elements, or there is a first one at which it ends. -/
theorem passedOver_or_ends (name label : String) (elements : List Value) :
    PassedOver name elements ∨ ∃ before element after,
      elements = before ++ element :: after ∧ PassedOver name before ∧
        ((∃ failure, Nameless label before.length element failure) ∨
          ∃ table, element = .table table ∧ text? table "name" = some name) := by
  induction elements using List.reverseRecOn with
  | nil => exact Or.inl (List.forall_mem_nil _)
  | append_singleton elements last ih =>
      rcases ih with hall | ⟨before, element, after, rfl, hbefore, hends⟩
      · rcases nameless_or_named label elements.length last with
          hnameless | ⟨table, own, rfl, hname⟩
        · exact Or.inr ⟨elements, last, [], rfl, hall, Or.inl hnameless⟩
        by_cases hsame : own = name
        · subst own
          exact Or.inr ⟨elements, _, [], rfl, hall, Or.inr ⟨table, rfl, hname⟩⟩
        · apply Or.inl
          intro element hmem
          rcases List.mem_append.mp hmem with hmem | hmem
          · exact hall element hmem
          · exact ⟨table, own, List.mem_singleton.mp hmem, hname, hsame⟩
      · refine Or.inr ⟨before, element, after ++ [last], ?_, hbefore, hends⟩
        rw [List.append_assoc, List.cons_append]

end Declared

namespace Server

/-- The elements of `servers` as records, counted from a position on. -/
def serversFrom (root : Record) (position : Nat) (elements : List Value) :
    List (Except Failure Record) :=
  elements.mapIdx fun index => root.item "servers" (position + index)

theorem serversFrom_cons (root : Record) (position : Nat) (element : Value)
    (rest : List Value) :
    serversFrom root position (element :: rest) =
      root.item "servers" position element :: serversFrom root (position + 1) rest := by
  rw [serversFrom, List.mapIdx_cons]
  simp only [serversFrom, Nat.add_assoc, Nat.add_comm 1, Nat.add_zero]

/-! ## One element after another -/

variable (root : Record) (position : Nat)

/-- A table with a name is found, or the search goes on behind it. -/
theorem firstNamed_of_table {table : Table} {own : String}
    (hown : Declared.text? table "name" = some own) (name : String) (rest : List Value) :
    firstNamed name (serversFrom root position (.table table :: rest)) =
      if own = name then .ok ⟨"server '" ++ name ++ "'", table⟩
      else firstNamed name (serversFrom root (position + 1) rest) := by
  rw [serversFrom_cons]
  exact firstNamed_cons hown name _ _

/-- An element without a name ends the search. -/
theorem firstNamed_of_nameless {element : Value} {failure : Failure}
    (hnameless : Declared.Nameless root.label position element failure) (name : String)
    (rest : List Value) :
    firstNamed name (serversFrom root position (element :: rest)) = .error failure := by
  rw [serversFrom_cons]
  cases hnameless with
  | noTable htable =>
      rw [Record.item, htable]
      rfl
  | @noName table hname =>
      have hlabel : root.label ++ " " ++ Record.itemName "servers" position =
          root.label ++ " servers[" ++ toString (position + 1) ++ "]" := by
        have hstart : " servers[" = " " ++ "servers[" := rfl
        rw [hstart, Record.itemName]
        simp only [String.append_assoc]
        rfl
      have hread : (Record.mk (root.label ++ " " ++ Record.itemName "servers" position)
          table).string "name" = _ := Record.read_of_none hname
      rw [Record.item, Value.table?, firstNamed, ok_bind, hread, hlabel]
      rfl

theorem firstNamed_of_passedOver {name : String} {before : List Value}
    (hbefore : Declared.PassedOver name before) (rest : List Value) :
    firstNamed name (serversFrom root position (before ++ rest)) =
      firstNamed name (serversFrom root (position + before.length) rest) := by
  induction before generalizing position with
  | nil => rfl
  | cons first others ih =>
      obtain ⟨⟨table, other, rfl, hother, hne⟩, hothers⟩ := List.forall_mem_cons.mp hbefore
      rw [List.cons_append, firstNamed_of_table root position hother, if_neg hne,
        ih _ hothers, List.length_cons, Nat.add_assoc, Nat.add_comm 1]

/-! ## The whole search -/

section Search

variable {root} {name : String}

theorem find_of_none (hitems : Declared.items? root.table "servers" = none) :
    find root name = .error (.missingField root.label "servers") := by
  have hread : root.array "servers" = _ := Record.read_of_none hitems
  rw [find, Record.records, hread]
  rfl

theorem find_of_some {elements : List Value}
    (hitems : Declared.items? root.table "servers" = some elements) :
    find root name = firstNamed name (serversFrom root 0 elements) := by
  have hread : root.array "servers" = _ := Record.read_of_some hitems
  rw [find, Record.records, hread, serversFrom]
  simp only [Nat.zero_add]
  rfl

/-- What the search makes of the first element at which it ends. -/
theorem find_of_split {before after : List Value} {element : Value}
    (hitems : Declared.items? root.table "servers" = some (before ++ element :: after))
    (hbefore : Declared.PassedOver name before) :
    find root name = firstNamed name (serversFrom root before.length (element :: after)) := by
  rw [find_of_some hitems, firstNamed_of_passedOver root 0 hbefore, Nat.zero_add]

theorem find_of_passedOver {elements : List Value}
    (hitems : Declared.items? root.table "servers" = some elements)
    (helements : Declared.PassedOver name elements) :
    find root name = .error (.unknownServer name) := by
  have hall := firstNamed_of_passedOver root 0 helements []
  rw [List.append_nil] at hall
  rw [find_of_some hitems, hall]
  rfl

end Search

/-- Everything that the search for a name can do. -/
inductive SearchOutcome (root : Record) (name : String) : Except Failure Record → Prop
  | noArray (hitems : Declared.items? root.table "servers" = none) :
      SearchOutcome root name (.error (.missingField root.label "servers"))
  | found {before after : List Value} {table : Table}
      (hitems : Declared.items? root.table "servers" = some (before ++ .table table :: after))
      (hbefore : Declared.PassedOver name before)
      (hname : Declared.text? table "name" = some name) :
      SearchOutcome root name (.ok ⟨"server '" ++ name ++ "'", table⟩)
  | nameless {before after : List Value} {element : Value} {failure : Failure}
      (hitems : Declared.items? root.table "servers" = some (before ++ element :: after))
      (hbefore : Declared.PassedOver name before)
      (hnameless : Declared.Nameless root.label before.length element failure) :
      SearchOutcome root name (.error failure)
  | exhausted {elements : List Value}
      (hitems : Declared.items? root.table "servers" = some elements)
      (helements : Declared.PassedOver name elements) :
      SearchOutcome root name (.error (.unknownServer name))

theorem SearchOutcome.eq {root : Record} {name : String} {result : Except Failure Record}
    (houtcome : SearchOutcome root name result) : find root name = result := by
  cases houtcome with
  | noArray hitems => exact find_of_none hitems
  | @found before after table hitems hbefore hname =>
      rw [find_of_split hitems hbefore, firstNamed_of_table root before.length hname, if_pos rfl]
  | @nameless before after element failure hitems hbefore hnameless =>
      rw [find_of_split hitems hbefore, firstNamed_of_nameless root before.length hnameless]
  | exhausted hitems helements => exact find_of_passedOver hitems helements

theorem find_outcome (root : Record) (name : String) :
    SearchOutcome root name (find root name) := by
  obtain ⟨result, houtcome⟩ : ∃ result, SearchOutcome root name result := by
    cases hitems : Declared.items? root.table "servers" with
    | none => exact ⟨_, .noArray hitems⟩
    | some elements =>
        rcases Declared.passedOver_or_ends name root.label elements with
          hall | ⟨before, element, after, rfl, hbefore, ⟨failure, hnameless⟩ | ⟨table, rfl, hname⟩⟩
        · exact ⟨_, .exhausted hitems hall⟩
        · exact ⟨_, .nameless hitems hbefore hnameless⟩
        · exact ⟨_, .found hitems hbefore hname⟩
  rw [houtcome.eq]
  exact houtcome

/-- The record that is found is the first element of `servers` with the name, labelled with it, if
all elements before are tables with a string for their name.  The search fails where there is no
array, at the first element without a name if the name does not come before, and at the end if no
element has the name.  What stands behind the element that decides has no influence. -/
theorem find_first_named (root : Record) (name : String) :
    (∀ record, find root name = .ok record ↔ ∃ before table after,
      Declared.items? root.table "servers" = some (before ++ .table table :: after) ∧
      Declared.PassedOver name before ∧ Declared.text? table "name" = some name ∧
      record = ⟨"server '" ++ name ++ "'", table⟩) ∧
    (∀ failure, find root name = .error failure ↔
      (Declared.items? root.table "servers" = none ∧
        failure = .missingField root.label "servers") ∨
      (∃ before element after,
        Declared.items? root.table "servers" = some (before ++ element :: after) ∧
        Declared.PassedOver name before ∧
        Declared.Nameless root.label before.length element failure) ∨
      (∃ elements, Declared.items? root.table "servers" = some elements ∧
        Declared.PassedOver name elements ∧ failure = .unknownServer name)) := by
  have houtcome := find_outcome root name
  constructor
  · intro record
    constructor
    · intro hfound
      rw [hfound] at houtcome
      cases houtcome with
      | found hitems hbefore hname => exact ⟨_, _, _, hitems, hbefore, hname, rfl⟩
    · rintro ⟨before, table, after, hitems, hbefore, hname, rfl⟩
      exact (SearchOutcome.found hitems hbefore hname).eq
  · intro failure
    constructor
    · intro hfailed
      rw [hfailed] at houtcome
      cases houtcome with
      | noArray hitems => exact Or.inl ⟨hitems, rfl⟩
      | nameless hitems hbefore hnameless =>
          exact Or.inr (Or.inl ⟨_, _, _, hitems, hbefore, hnameless⟩)
      | exhausted hitems helements => exact Or.inr (Or.inr ⟨_, hitems, helements, rfl⟩)
    · rintro (⟨hitems, rfl⟩ | ⟨before, element, after, hitems, hbefore, hnameless⟩ |
        ⟨elements, hitems, helements, rfl⟩)
      · exact (SearchOutcome.noArray hitems).eq
      · exact (SearchOutcome.nameless hitems hbefore hnameless).eq
      · exact (SearchOutcome.exhausted hitems helements).eq

/-- A server behind an element that is no table is not found. -/
example :
    find ⟨"root", [("servers", .array [.table [("name", .string "admin")], .integer 5,
      .table [("name", .string "main")]])]⟩ "main" =
        .error (.missingField "root" "servers[2]") := by
  cbv

end Server

end HostRouting
