import HostRouting.Proofs.Histories
import HostRouting.Proofs.StepsTaken
import Mathlib.Data.List.TakeWhile

/-!
# What a failed host leaves behind

A server gains hosts and handlers by different rules.  A host is added when all its routes are
built, so a host that fails is not there at all; but its handlers are registered one by one as its
routes are built, and stay registered.  So a run that fails leaves the hosts before the failure,
and in the registry also the handlers of those routes of the failed host that come before its
defect.  When the defect is that its name is taken, these are all its routes.
-/

namespace HostRouting

open Toml (Table Value)

namespace Declared

def describesBackend (entry : String × Value) : Bool :=
  (backend? entry.2).isSome

/-- Whether an element of `hosts` has a name and a pattern, without which its routes are not looked
at. -/
def hasNameAndPattern : Value → Bool
  | .table table => (text? table "name").isSome && (text? table "matching").isSome
  | _ => false

/-- The routes of an element of `hosts` that are built: those before the first defect. -/
def builtRoutes (element : Value) : Table :=
  if hasNameAndPattern element then (routes element).takeWhile describesBackend else []

def isNamed (name : String) (element : Value) : Bool :=
  hostName? element == some name

end Declared

/-! ## Routes -/

/-- What is wrong with a route is never that the name of its host is taken. -/
theorem readRoute_ne_duplicateHost {name : String} {routes : Record} {entry : String × Value}
    {failure : Failure} (hread : readRoute name routes entry = .error failure)
    (server host : String) : failure ≠ .duplicateHost server host := by
  have hdefects := failure?_readRoute name routes entry
  rw [hread, failure?_error] at hdefects
  obtain ⟨_, ⟨_, rfl⟩ | ⟨_, rfl⟩⟩ := Declared.mem_routeDefects (List.mem_of_head? hdefects.symm)
  · simp
  · simp

theorem describesBackend_of_readRoute {name : String} {routes : Record} {entry : String × Value}
    {failure : Failure} (hread : readRoute name routes entry = .error failure) :
    Declared.describesBackend entry = false := by
  rw [Declared.describesBackend, ← toOption_readRoute name routes entry, hread]
  rfl

theorem Declared.describesBackend_of_some {entry : String × Value} {candidate : Backend}
    (hdeclared : Declared.backend? entry.2 = some candidate) :
    Declared.describesBackend entry = true :=
  Option.isSome_of_eq_some hdeclared

namespace Construction

theorem Built.describesBackend {before after : Construction} {entries : Table}
    (hbuilt : Built before entries after) :
    ∀ entry ∈ entries, Declared.describesBackend entry = true := by
  intro entry hmem
  obtain ⟨candidate, backend, hdeclared, -⟩ := hbuilt.added entry hmem
  exact Declared.describesBackend_of_some hdeclared

/-- Where all routes are built, none is cut off. -/
theorem Built.takeWhile_eq {before after : Construction} {entries : Table}
    (hbuilt : Built before entries after) :
    entries.takeWhile Declared.describesBackend = entries :=
  List.takeWhile_eq_self_iff.mpr hbuilt.describesBackend

/-- Routes that fail have registered the handlers of those before the first that describes no
backend, if no path comes twice. -/
theorem countEach_loadRoute_failed {routes : Record} {entries : Table}
    {before after : Construction} {failure : Failure} {events : List Event}
    (hkeys : (entries.map Prod.fst).Nodup)
    (hfresh : ∀ path ∈ entries.map Prod.fst, path ∉ before.host.paths)
    (hrun : (Audited.countEach (loadRoute routes) entries).run before =
      ⟨.error failure, after, events⟩) :
    after.registry = before.registry.extend
        (Declared.routeHandlers (entries.takeWhile Declared.describesBackend)) ∧
      ∀ server host, failure ≠ .duplicateHost server host := by
  obtain ⟨done, entry, rest, middle, reported, more, rfl, hdone, hentry⟩ :=
    Audited.run_countEach_eq_error hrun
  obtain ⟨-, hbuilt⟩ := countEach_loadRoute_built hdone
  have houtcome := loadRoute_outcome routes entry middle
  rw [hentry] at houtcome
  cases houtcome with
  | unread hread =>
      refine ⟨?_, readRoute_ne_duplicateHost hread⟩
      have hcut : (entry :: rest).takeWhile Declared.describesBackend = [] := by
        rw [List.takeWhile_cons, describesBackend_of_readRoute hread]
        rfl
      rw [List.takeWhile_append_of_pos hbuilt.describesBackend, hcut, List.append_nil,
        hbuilt.registry]
  | taken hread htaken =>
      -- The paths of the routes before are others, and so are those of the host at the start.
      rw [List.map_append, List.map_cons] at hkeys hfresh
      have hnew : entry.1 ∉ done.map Prod.fst := fun hmem =>
        List.disjoint_of_nodup_append hkeys hmem List.mem_cons_self
      rcases List.mem_append.mp (hbuilt.paths.mem_iff.mp htaken) with hmem | hmem
      · exact absurd hmem hnew
      · exact absurd hmem
          (hfresh entry.1 (List.mem_append_right _ List.mem_cons_self))

end Construction

/-! ## One host -/

namespace Server

section Reading

variable {record : Record}

theorem routes_of_readHost {name matching : String} {routes : Record}
    (hread : readHost record = .ok (name, matching, routes)) :
    Declared.routes (.table record.table) = routes.table := by
  obtain ⟨-, -, hentries, -⟩ := readHost_eq_ok hread
  simp [Declared.routes, Value.table?, hentries]

theorem builtRoutes_of_readHost {name matching : String} {routes : Record}
    (hread : readHost record = .ok (name, matching, routes)) :
    Declared.builtRoutes (.table record.table) =
      routes.table.takeWhile Declared.describesBackend := by
  obtain ⟨hname, hmatching, -⟩ := readHost_eq_ok hread
  have hfields : Declared.hasNameAndPattern (.table record.table) = true := by
    simp [Declared.hasNameAndPattern, hname, hmatching]
  rw [Declared.builtRoutes, if_pos hfields, routes_of_readHost hread]

/-- A host whose own fields are defective has no routes that are built. -/
theorem builtRoutes_of_readHost_error {failure : Failure}
    (hread : readHost record = .error failure) :
    Declared.builtRoutes (.table record.table) = [] := by
  have hdefects := failure?_readHost record
  rw [hread, failure?_error] at hdefects
  by_cases hfields : Declared.hasNameAndPattern (.table record.table) = true
  · cases hentries : Declared.entries? record.table "routes" with
    | none => simp [Declared.builtRoutes, Declared.routes, Value.table?, hentries]
    | some entries =>
        simp only [Declared.hasNameAndPattern, Bool.and_eq_true] at hfields
        have hclean : Declared.hostFieldDefects record.label record.table = [] := by
          simp [Declared.hostFieldDefects, hfields.1, hfields.2, hentries]
        simp [hclean] at hdefects
  · rw [Declared.builtRoutes, if_neg hfields]

theorem readHost_ne_duplicateHost {failure : Failure}
    (hread : readHost record = .error failure) (server host : String) :
    failure ≠ .duplicateHost server host := by
  have hdefects := failure?_readHost record
  rw [hread, failure?_error] at hdefects
  have hmem := List.mem_of_head? hdefects.symm
  simp only [Declared.hostFieldDefects, List.flatten_cons, List.flatten_nil, List.append_nil,
    List.mem_append] at hmem
  rcases hmem with hmem | hmem | hmem <;> simp [Declared.mem_defect hmem]

end Reading

/-- A host that fails leaves the hosts and the default host as they were, and registers the handlers
of the routes before its defect: of all its routes, if the defect is that its name is taken. -/
theorem loadHost_failed {record : Record} (hkeys : Table.hasDistinctKeys record.table = true)
    {before after : Server} {failure : Failure} {events : List Event}
    (hrun : (loadHost record).run before = ⟨.error failure, after, events⟩) :
    after = before.withRegistry (before.registry.extend
        (Declared.routeHandlers (Declared.builtRoutes (.table record.table)))) ∧
      ∀ server host, failure = .duplicateHost server host →
        Declared.builtRoutes (.table record.table) = Declared.routes (.table record.table) := by
  have houtcome := loadHost_outcome record before
  rw [hrun] at houtcome
  cases houtcome with
  | unread hread =>
      rw [builtRoutes_of_readHost_error hread]
      refine ⟨?_, fun server host hsame => absurd hsame (readHost_ne_duplicateHost hread _ _)⟩
      simp [Declared.routeHandlers, withRegistry]
  | @unrouted name matching routes _ built _ hread hroutes =>
      obtain ⟨-, -, hentries, -⟩ := readHost_eq_ok hread
      obtain ⟨hregistry, hother⟩ := Construction.countEach_loadRoute_failed
        (Declared.nodup_keys_of_entries? hkeys hentries) (by simp [opening, Host.paths]) hroutes
      rw [builtRoutes_of_readHost hread, hregistry]
      exact ⟨rfl, fun server host hsame => absurd hsame (hother server host)⟩
  | @taken name matching routes count built _ hread hroutes htaken =>
      obtain ⟨-, hbuilt⟩ := Construction.countEach_loadRoute_built hroutes
      rw [builtRoutes_of_readHost hread, hbuilt.takeWhile_eq, hbuilt.registry,
        routes_of_readHost hread]
      exact ⟨rfl, fun _ _ _ => rfl⟩

/-- An element of `hosts` that fails does what its record does, or nothing if it is no table. -/
theorem loadItem_failed {record : Record} {position : Nat} {element : Value}
    (hkeys : element.hasDistinctKeys = true) {before after : Server} {failure : Failure}
    {events : List Event}
    (hrun : (loadItem (record.item "hosts" position element)).run before =
      ⟨.error failure, after, events⟩) :
    after = before.withRegistry (before.registry.extend
        (Declared.routeHandlers (Declared.builtRoutes element))) ∧
      ∀ server host, failure = .duplicateHost server host →
        Declared.builtRoutes element = Declared.routes element := by
  cases element with
  | table entries =>
      let item : Record := ⟨record.label ++ " " ++ Record.itemName "hosts" position, entries⟩
      change (loadItem (.ok item)).run before = _ at hrun
      rw [loadItem_ok_run] at hrun
      rcases hhost : (loadHost item).run before with ⟨other | position, last, reported⟩
      · rw [hhost] at hrun
        cases hrun
        exact @loadHost_failed item hkeys _ _ _ _ hhost
      · rw [hhost] at hrun
        cases hrun
  | _ =>
      change Outcome.mk _ before [] = _ at hrun
      cases hrun
      simp [Declared.builtRoutes, Declared.hasNameAndPattern, Declared.routeHandlers,
        withRegistry, Record.missing]

/-! ## One host after another -/

theorem itemsFrom_eq_append {record : Record} {position : Nat} {elements : List Value}
    {left right : List (Except Failure Record)}
    (hitems : itemsFrom record position elements = left ++ right) :
    ∃ done rest, elements = done ++ rest ∧ left = itemsFrom record position done ∧
      right = itemsFrom record (position + done.length) rest := by
  induction left generalizing position elements with
  | nil => exact ⟨[], elements, rfl, rfl, hitems.symm⟩
  | cons item others ih =>
      cases elements with
      | nil => cases hitems
      | cons element rest =>
          obtain ⟨rfl, hothers⟩ := List.cons.inj hitems
          obtain ⟨done, remaining, rfl, rfl, rfl⟩ := ih hothers
          refine ⟨element :: done, remaining, rfl, rfl, ?_⟩
          rw [List.length_cons, Nat.add_assoc, Nat.add_comm 1]

/-- A run over the elements of `hosts` that fails has built the hosts of some of them and failed
with the next one. -/
theorem countEach_loadItem_eq_error {record : Record} {position : Nat} {elements : List Value}
    {before after : Server} {failure : Failure} {events : List Event}
    (hrun : (Audited.countEach loadItem (itemsFrom record position elements)).run before =
      ⟨.error failure, after, events⟩) :
    ∃ done element rest middle reported more,
      elements = done ++ element :: rest ∧
      (Audited.countEach loadItem (itemsFrom record position done)).run before =
        ⟨.ok done.length, middle, reported⟩ ∧
      (loadItem (record.item "hosts" (position + done.length) element)).run middle =
        ⟨.error failure, after, more⟩ := by
  obtain ⟨left, item, right, middle, reported, more, hitems, hdone, hitem⟩ :=
    Audited.run_countEach_eq_error hrun
  obtain ⟨done, remaining, rfl, rfl, hright⟩ := itemsFrom_eq_append hitems
  cases remaining with
  | nil => cases hright
  | cons element rest =>
      obtain ⟨rfl, -⟩ := List.cons.inj hright
      have hcount := (countEach_loadItem_built hdone).1
      rw [hcount] at hdone
      exact ⟨done, element, rest, middle, reported, more, rfl, hdone, hitem⟩

/-- A host that is built has a new name, and becomes the default host if it has the name for
that. -/
theorem loadItem_default {record : Record} {position : Nat} {element : Value}
    {before after : Server} {events : List Event}
    (hrun : (loadItem (record.item "hosts" position element)).run before =
      ⟨.ok (), after, events⟩) :
    (∀ name ∈ Declared.hostName? element, name ∉ before.names) ∧
      after.defaultPosition =
        if Declared.isNamed before.shell.defaultHostName element then some before.hosts.length
        else before.defaultPosition := by
  obtain ⟨item, index, hitem, hhost⟩ := loadItem_eq_ok hrun
  obtain ⟨name, matching, routes, count, built, reported, hread, hroutes, hfresh, -, rfl⟩ :=
    loadHost_eq_ok hhost
  obtain rfl := item_eq_ok hitem
  have hname : Declared.hostName? (.table item.table) = some name := (readHost_eq_ok hread).1
  have hbuilt : built.host.name = name := (loadRoutes_continues hroutes).name
  constructor
  · intro other hother
    rw [hname, Option.mem_def, Option.some.injEq] at hother
    rw [← hother]
    exact hfresh
  · simp [withHost, Declared.isNamed, hname, hbuilt]

/-- Hosts that are built have names that no earlier host has. -/
theorem countEach_loadItem_fresh {record : Record} {position : Nat} {elements : List Value}
    {before after : Server} {count : Nat} {events : List Event}
    (hrun : (Audited.countEach loadItem (itemsFrom record position elements)).run before =
      ⟨.ok count, after, events⟩) :
    ∀ element ∈ elements, ∀ name ∈ Declared.hostName? element, name ∉ before.names := by
  induction elements generalizing position before count events with
  | nil => simp
  | cons element rest ih =>
      obtain ⟨middle, reported, number, more, hfirst, hrest, -, -⟩ :=
        Audited.run_countEach_cons_eq_ok hrun
      have hnames := (loadItem_built hfirst).names
      rw [List.forall_mem_cons]
      refine ⟨(loadItem_default hfirst).1, ?_⟩
      intro other hmem name hname htaken
      apply ih hrest other hmem name hname
      rw [hnames]
      exact List.mem_append_left _ htaken

/-- The default host changes only to the one that has the name for it.  As names are distinct, no
later host of the run can have that name too. -/
theorem countEach_loadItem_default {record : Record} {position : Nat} {elements : List Value}
    {before after : Server} {count : Nat} {events : List Event}
    (hrun : (Audited.countEach loadItem (itemsFrom record position elements)).run before =
      ⟨.ok count, after, events⟩) :
    after.defaultPosition =
      ((elements.findIdx? (Declared.isNamed before.shell.defaultHostName)).map
        (before.hosts.length + ·)).or before.defaultPosition := by
  induction elements generalizing position before count events with
  | nil =>
      rw [itemsFrom, Audited.run_countEach_nil] at hrun
      cases hrun
      rfl
  | cons element rest ih =>
      obtain ⟨middle, reported, number, more, hfirst, hrest, -, -⟩ :=
        Audited.run_countEach_cons_eq_ok hrun
      have hbuilt := loadItem_built hfirst
      have hfirstDefault := (loadItem_default hfirst).2
      have hlength : middle.hosts.length = before.hosts.length + 1 := by
        obtain ⟨built, hhosts, hdeclared⟩ := hbuilt.hosts
        rw [hhosts, List.length_append, ← hdeclared.length_eq, List.length_singleton]
      rw [ih hrest, hbuilt.shell, hlength, hfirstDefault, List.findIdx?_cons]
      by_cases hnamed : Declared.isNamed before.shell.defaultHostName element = true
      · have hnone : rest.findIdx? (Declared.isNamed before.shell.defaultHostName) = none := by
          rw [List.findIdx?_eq_none_iff]
          intro other hmem
          rw [Bool.eq_false_iff]
          intro hother
          have htaken : before.shell.defaultHostName ∈ middle.names := by
            rw [hbuilt.names, List.filterMap_cons_some (eq_of_beq hnamed)]
            simp
          exact countEach_loadItem_fresh hrest other hmem _ (eq_of_beq hother) htaken
        rw [hnone, if_pos hnamed, if_pos hnamed]
        rfl
      · rw [if_neg hnamed, if_neg hnamed, Option.map_map]
        congr 2
        funext index
        simp only [Function.comp_apply]
        omega

/-! ## What a run does to a server -/

/-- What a server has gained from a row of elements of `hosts`: one host for each, in their order
and as they declare it, behind the others.  The one that has the name of the default host is the
default host from then on.  Some handlers were taken into the registry, and nothing else has
changed. -/
structure Grown (before : Server) (elements : List Value) (handlers : List Handler)
    (after : Server) : Prop where
  shell : after.shell = before.shell
  registry : after.registry = before.registry.extend handlers
  hosts : ∃ built, after.hosts = before.hosts ++ built ∧
    List.Forall₂ (Declared.HostIn after.registry) elements built
  default : after.defaultPosition =
    ((elements.findIdx? (Declared.isNamed before.shell.defaultHostName)).map
      (before.hosts.length + ·)).or before.defaultPosition

theorem countEach_loadItem_grown {record : Record} {position : Nat} {elements : List Value}
    {before after : Server} {count : Nat} {events : List Event}
    (hrun : (Audited.countEach loadItem (itemsFrom record position elements)).run before =
      ⟨.ok count, after, events⟩) :
    before.Grown elements (Declared.hostHandlers elements) after := by
  obtain ⟨-, hbuilt⟩ := countEach_loadItem_built hrun
  exact ⟨hbuilt.shell, hbuilt.registry, hbuilt.hosts, countEach_loadItem_default hrun⟩

/-- Further handlers come behind those that are there. -/
theorem Grown.withRegistry {before middle : Server} {elements : List Value}
    {handlers : List Handler} (hgrown : before.Grown elements handlers middle)
    (more : List Handler) :
    before.Grown elements (handlers ++ more)
      (middle.withRegistry (middle.registry.extend more)) where
  shell := hgrown.shell
  registry := by
    rw [Registry.extend_append, ← hgrown.registry]
    rfl
  hosts := by
    obtain ⟨built, hhosts, hdeclared⟩ := hgrown.hosts
    exact ⟨built, hhosts, hdeclared.imp fun _ _ hhost => hhost.extend more⟩
  default := hgrown.default

/-- A run over the `hosts` of a record has failed at an element: the elements before it have no
defect, and the failure is its first one.  The hosts before it are there, and of its own routes only
the handlers of those before the defect. -/
structure StoppedAt (before : Server) (record : Record) (done : List Value) (element : Value)
    (failure : Failure) (after : Server) : Prop where
  clean : Declared.hostsDefects record.label before.shell.uuid before.names 0 done = []
  defect : (Declared.hostDefects record.label before.shell.uuid
    (before.names ++ done.filterMap Declared.hostName?) done.length element).head? = some failure
  grown : before.Grown done
    (Declared.hostHandlers done ++ Declared.routeHandlers (Declared.builtRoutes element)) after
  complete : ∀ server host, failure = .duplicateHost server host →
    Declared.builtRoutes element = Declared.routes element

theorem countEach_loadItem_stopped {record : Record} {elements : List Value}
    (hkeys : Value.itemsHaveDistinctKeys elements = true) {before after : Server}
    {failure : Failure} {events : List Event}
    (hrun : (Audited.countEach loadItem (itemsFrom record 0 elements)).run before =
      ⟨.error failure, after, events⟩) :
    ∃ done element rest, elements = done ++ element :: rest ∧
      before.StoppedAt record done element failure after := by
  obtain ⟨done, element, rest, middle, reported, more, rfl, hdone, helement⟩ :=
    countEach_loadItem_eq_error hrun
  rw [Nat.zero_add] at helement
  have hdistinct := Value.itemsHaveDistinctKeys_iff.mp hkeys
  have hdoneKeys : Value.itemsHaveDistinctKeys done = true :=
    Value.itemsHaveDistinctKeys_iff.mpr fun other hmem =>
      hdistinct other (List.mem_append_left _ hmem)
  have helementKeys : element.hasDistinctKeys = true := hdistinct element (by simp)
  have hgrown := countEach_loadItem_grown hdone
  have hbuilt := (countEach_loadItem_built hdone).2
  obtain ⟨rfl, hcomplete⟩ := loadItem_failed helementKeys helement
  have hclean :
      failure? ((Audited.countEach loadItem (itemsFrom record 0 done)).run before).result =
        (Declared.Step.failures (Declared.hostsSteps record.label before.shell.uuid before.names
          before.registry 0 done)).head? :=
    (countEach_loadItem_follows hdoneKeys before).failure
  have hdefect :
      failure? ((loadItem (record.item "hosts" done.length element)).run middle).result =
        (Declared.Step.failures (Declared.elementSteps record.label middle.shell.uuid middle.names
          middle.registry done.length element)).head? :=
    (loadItem_follows helementKeys middle).failure
  rw [hdone, failure?_ok, Declared.failures_hostsSteps] at hclean
  rw [helement, failure?_error, Declared.failures_elementSteps, hbuilt.shell, hbuilt.names]
    at hdefect
  exact ⟨done, element, rest, rfl, List.head?_eq_none_iff.mp hclean.symm, hdefect.symm,
    hgrown.withRegistry _, hcomplete⟩

/-- What building hosts does to a server, whatever it holds before.  If it succeeds, the server has
gained the hosts of all elements.  If it fails, it has gained those of the elements before the
failure, and the handlers of the routes of the failed element that come before the defect.  A single
host that fails only leaves such handlers.  No operation whatsoever takes away or moves a host or a
handler. -/
theorem loadHosts_effect (before : Server) (record : Record)
    (hkeys : Table.hasDistinctKeys record.table = true) :
    (∀ count after events, (loadHosts record).run before = ⟨.ok count, after, events⟩ →
      ∃ elements, Declared.items? record.table "hosts" = some elements ∧
        count = elements.length ∧
        before.Grown elements (Declared.hostHandlers elements) after) ∧
    (∀ failure after events, (loadHosts record).run before = ⟨.error failure, after, events⟩ →
      (Declared.items? record.table "hosts" = none ∧ failure = record.missing "hosts" ∧
        after = before) ∨
      ∃ done element rest,
        Declared.items? record.table "hosts" = some (done ++ element :: rest) ∧
        before.StoppedAt record done element failure after) ∧
    (∀ failure after events, (loadHost record).run before = ⟨.error failure, after, events⟩ →
      after = { before with
        registry := before.registry.extend
          (Declared.routeHandlers (Declared.builtRoutes (.table record.table))) } ∧
      ∀ server host, failure = .duplicateHost server host →
        Declared.builtRoutes (.table record.table) = Declared.routes (.table record.table)) ∧
    (∀ operations : List Operation,
      let later := (operations.foldl History.perform { server := before }).server
      before.hosts <+: later.hosts ∧ before.registry.handlers <+: later.registry.handlers) := by
  refine ⟨?_, ?_, ?_, ?_⟩
  · intro count after events hrun
    obtain ⟨elements, reported, hitems, hcount⟩ := loadHosts_eq_ok hrun
    exact ⟨elements, hitems, (countEach_loadItem_built hcount).1,
      countEach_loadItem_grown hcount⟩
  · intro failure after events hrun
    rcases loadHosts_eq_error hrun with hnone | ⟨elements, hitems, hcount⟩
    · exact Or.inl hnone
    · have hdistinct := itemsHaveDistinctKeys_hosts hkeys
      rw [Declared.hosts, hitems, Option.getD_some] at hdistinct
      obtain ⟨done, element, rest, rfl, hstopped⟩ := countEach_loadItem_stopped hdistinct hcount
      exact Or.inr ⟨done, element, rest, hitems, hstopped⟩
  · intro failure after events hrun
    exact loadHost_failed hkeys hrun
  · intro operations
    exact ⟨(History.extends_foldl_perform { server := before } operations).hosts,
      History.foldl_perform_keeps_handlers { server := before } operations⟩

def withChat : Server where
  shell := {
    uuid := "f400bf85", defaultHostName := "localhost", bindAddress := "0.0.0.0", port := 6767,
    accessLog := "/logs/access.log", errorLog := "/logs/error.log", pidFile := "/run/main.pid",
    useSsl := false }
  hosts := [{ name := "chat", matching := "chat" }]

/-- A record of two hosts with a handler each, of which the second one has a name that is taken. -/
def chatRecord : Record :=
  ⟨"server 'main'", [("hosts", .array [
    Declared.hostRecord "localhost" [("/", Declared.handlerRecord "ipc://a" "first" "ipc://b")],
    Declared.hostRecord "chat" [("/", Declared.handlerRecord "ipc://c" "second" "ipc://d")]])]⟩

theorem loadHosts_effect_chat :
    Table.hasDistinctKeys chatRecord.table = true ∧
      ∃ done element rest,
        Declared.items? chatRecord.table "hosts" = some (done ++ element :: rest) ∧
        withChat.StoppedAt chatRecord done element (.duplicateHost "f400bf85" "chat")
          ((loadHosts chatRecord).run withChat).state := by
  have hrun : ((loadHosts chatRecord).run withChat).result =
      .error (.duplicateHost "f400bf85" "chat") := by rfl
  have hkeys : Table.hasDistinctKeys chatRecord.table = true := by decide
  refine ⟨hkeys, ?_⟩
  rcases hstate : (loadHosts chatRecord).run withChat with ⟨result, after, events⟩
  rw [hstate] at hrun
  obtain rfl : result = .error (.duplicateHost "f400bf85" "chat") := hrun
  rcases (loadHosts_effect withChat chatRecord hkeys).2.1 _ _ _ hstate with
    ⟨hnone, -⟩ | hstopped
  · cases hnone
  · exact hstopped

end Server

end HostRouting
