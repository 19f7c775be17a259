import HostRouting.Proofs.RouteLoading
import HostRouting.Server.Compile
import Mathlib.Data.List.Forall2

/-!
# Building the hosts of a server

`loadHost_outcome` lists everything that building one host can do: its record is defective, one of
its routes fails, its name is taken, or it is installed.  Only in the last case does the list of
hosts change; the registry keeps what the routes before a failure have registered.
-/

namespace HostRouting

open Toml (Value)

namespace Server

def names (server : Server) : List String :=
  server.hosts.map Host.name

theorem host?_isSome_iff {server : Server} {name : String} :
    (server.host? name).isSome = true ↔ name ∈ server.names := by
  simp [host?, names, List.find?_isSome]

/-- Where names are distinct, the name of a host leads to it. -/
theorem host?_of_mem {server : Server} (hnames : server.names.Nodup) {host : Host}
    (hmem : host ∈ server.hosts) : server.host? host.name = some host := by
  have hsome : (server.host? host.name).isSome = true :=
    host?_isSome_iff.mpr (List.mem_map.mpr ⟨host, hmem, rfl⟩)
  obtain ⟨other, hother⟩ := Option.isSome_iff_exists.mp hsome
  have hname : other.name = host.name := by
    simpa using List.find?_some hother
  have hsame : other = host :=
    List.inj_on_of_nodup_map hnames (List.mem_of_find?_eq_some hother) hmem hname
  rw [hother, hsame]

/-- The fields of the record of a host, or its first defect besides its routes. -/
def readHost (record : Record) : Except Failure (String × String × Record) := do
  let name ← record.string "name"
  let matching ← record.string "matching"
  let routes ← record.subtable "routes"
  return (name, matching, routes)

/-- A host without routes beside the registry of a server. -/
def opening (server : Server) (name matching : String) : Construction :=
  { host := { name, matching }, registry := server.registry }

/-- A server with one more host, which becomes the default host if it has the name for that. -/
def withHost (server : Server) (built : Construction) : Server where
  shell := server.shell
  hosts := server.hosts ++ [built.host]
  registry := built.registry
  defaultPosition :=
    if built.host.name = server.shell.defaultHostName then some server.hosts.length
    else server.defaultPosition

/-- What remains of a host that fails: what its routes have registered. -/
def withRegistry (server : Server) (registry : Registry) : Server :=
  { server with registry }

@[simp]
theorem withHost_hosts (server : Server) (built : Construction) :
    (server.withHost built).hosts = server.hosts ++ [built.host] := rfl

@[simp]
theorem withHost_registry (server : Server) (built : Construction) :
    (server.withHost built).registry = built.registry := rfl

@[simp]
theorem withHost_names (server : Server) (built : Construction) :
    (server.withHost built).names = server.names ++ [built.host.name] := by
  simp [names]

@[simp]
theorem withRegistry_hosts (server : Server) (registry : Registry) :
    (server.withRegistry registry).hosts = server.hosts := rfl

theorem opening_continues (server : Server) (name matching : String) :
    (server.opening name matching).Continues (server.opening name matching) where
  name := rfl
  matching := rfl
  registry := ⟨[], (Registry.extend_nil _).symm⟩
  linked := by
    intro route hmem
    simp [opening] at hmem
  paths := List.nodup_nil

theorem install_of_mem {server : Server} {host : Host} (htaken : host.name ∈ server.names) :
    (install host).run server =
      ⟨.error (.duplicateHost server.shell.uuid host.name), server, []⟩ := by
  have hadd : addHost host server = .error (.duplicateHost server.shell.uuid host.name) := by
    rw [addHost, if_pos (host?_isSome_iff.mpr htaken)]
  have hupdate : (Audited.update (addHost host)).run server =
      ⟨.error (.duplicateHost server.shell.uuid host.name), server, []⟩ := by
    rw [Audited.run_update, hadd]
  rw [install, Audited.run_bind_of_error hupdate]

theorem install_of_not_mem {server : Server} {built : Construction}
    (hfresh : built.host.name ∉ server.names) :
    (install built.host).run (server.withRegistry built.registry) =
      ⟨.ok server.hosts.length, server.withHost built, []⟩ := by
  have hadd : addHost built.host (server.withRegistry built.registry) =
      .ok { server with registry := built.registry, hosts := server.hosts ++ [built.host] } := by
    have hnone : ¬ ((server.withRegistry built.registry).host? built.host.name).isSome = true :=
      fun hsome => hfresh (host?_isSome_iff.mp hsome)
    rw [addHost, if_neg hnone]
    rfl
  have hupdate : (Audited.update (addHost built.host)).run (server.withRegistry built.registry) =
      ⟨.ok (), { server with registry := built.registry, hosts := server.hosts ++ [built.host] },
        []⟩ := by
    rw [Audited.run_update, hadd]
  rw [install, Audited.run_bind_of_ok hupdate, Audited.run_get_bind]
  by_cases hdefault : built.host.name = server.shell.defaultHostName
  · simp [withHost, hdefault, Except.map]
  · simp [withHost, hdefault]

/-- Everything that building one host can do. -/
inductive HostOutcome (record : Record) (before : Server) : Outcome Server Nat → Prop where
  | unread {failure : Failure} (hread : readHost record = .error failure) :
      HostOutcome record before ⟨.error failure, before, []⟩
  | unrouted {name matching : String} {routes : Record} {failure : Failure}
      {built : Construction} {events : List Event}
      (hread : readHost record = .ok (name, matching, routes))
      (hroutes : (Construction.loadRoutes routes).run (before.opening name matching) =
        ⟨.error failure, built, events⟩) :
      HostOutcome record before ⟨.error failure, before.withRegistry built.registry, events⟩
  | taken {name matching : String} {routes : Record} {count : Nat}
      {built : Construction} {events : List Event}
      (hread : readHost record = .ok (name, matching, routes))
      (hroutes : (Construction.loadRoutes routes).run (before.opening name matching) =
        ⟨.ok count, built, events⟩)
      (htaken : name ∈ before.names) :
      HostOutcome record before
        ⟨.error (.duplicateHost before.shell.uuid name), before.withRegistry built.registry,
          events⟩
  | installed {name matching : String} {routes : Record} {count : Nat}
      {built : Construction} {events : List Event}
      (hread : readHost record = .ok (name, matching, routes))
      (hroutes : (Construction.loadRoutes routes).run (before.opening name matching) =
        ⟨.ok count, built, events⟩)
      (hfresh : name ∉ before.names) :
      HostOutcome record before
        ⟨.ok before.hosts.length, before.withHost built,
          events ++ [.hostLoaded name matching count]⟩

def loadReadHost (name matching : String) (routes : Record) : Audited Server Nat := do
  let loaded ← Audited.within (opening · name matching)
    (fun built server => server.withRegistry built.registry) (Construction.loadRoutes routes)
  let position ← install loaded.2.host
  Audited.emit (.hostLoaded name matching loaded.1)
  return position

/-- Building a host is reading its fields, building its routes, and installing it. -/
theorem loadHost_eq (record : Record) :
    loadHost record = (do
      let fields ← .ofExcept (readHost record)
      loadReadHost fields.1 fields.2.1 fields.2.2) := by
  simp only [loadHost, readHost, Audited.ofExcept_bind, Audited.ofExcept_pure, bind_assoc,
    pure_bind]
  rfl

theorem loadRoutes_continues {server : Server} {name matching : String} {routes : Record}
    {result : Except Failure Nat} {built : Construction} {events : List Event}
    (hroutes : (Construction.loadRoutes routes).run (server.opening name matching) =
      ⟨result, built, events⟩) : (server.opening name matching).Continues built := by
  have hcontinues := (opening_continues server name matching).loadRoutes routes
  rw [hroutes] at hcontinues
  exact hcontinues

theorem loadHost_outcome (record : Record) (before : Server) :
    HostOutcome record before ((loadHost record).run before) := by
  rw [loadHost_eq]
  cases hread : readHost record with
  | error failure =>
      rw [Audited.run_ofExcept_bind_of_error rfl]
      exact .unread hread
  | ok fields =>
      obtain ⟨name, matching, routes⟩ := fields
      rw [Audited.run_ofExcept_bind_of_ok rfl, loadReadHost]
      rcases hroutes : (Construction.loadRoutes routes).run (before.opening name matching) with
        ⟨failure | count, built, events⟩
      · have hwithin : (Audited.within (opening · name matching)
            (fun built server => server.withRegistry built.registry)
            (Construction.loadRoutes routes)).run before =
              ⟨.error failure, before.withRegistry built.registry, events⟩ := by
          rw [Audited.run_within, hroutes]
          rfl
        rw [Audited.run_bind_of_error hwithin]
        exact .unrouted hread hroutes
      · have hwithin : (Audited.within (opening · name matching)
            (fun built server => server.withRegistry built.registry)
            (Construction.loadRoutes routes)).run before =
              ⟨.ok (count, built), before.withRegistry built.registry, events⟩ := by
          rw [Audited.run_within, hroutes]
          rfl
        have hname : built.host.name = name := (loadRoutes_continues hroutes).name
        rw [Audited.run_bind_of_ok hwithin]
        by_cases htaken : name ∈ before.names
        · have hinstall : (install built.host).run (before.withRegistry built.registry) =
              ⟨.error (.duplicateHost before.shell.uuid name),
                before.withRegistry built.registry, []⟩ := by
            rw [← hname]
            exact install_of_mem (by rw [hname]; exact htaken)
          simp only [Audited.run_bind_of_error hinstall, List.append_nil]
          exact .taken hread hroutes htaken
        · have hinstall : (install built.host).run (before.withRegistry built.registry) =
              ⟨.ok before.hosts.length, before.withHost built, []⟩ :=
            install_of_not_mem (by rw [hname]; exact htaken)
          simp only [Audited.run_bind_of_ok hinstall, List.nil_append]
          exact .installed hread hroutes htaken

theorem loadHost_eq_ok {record : Record} {before after : Server} {position : Nat}
    {events : List Event}
    (hrun : (loadHost record).run before = ⟨.ok position, after, events⟩) :
    ∃ name matching routes count built reported,
      readHost record = .ok (name, matching, routes) ∧
      (Construction.loadRoutes routes).run (before.opening name matching) =
        ⟨.ok count, built, reported⟩ ∧
      name ∉ before.names ∧ position = before.hosts.length ∧ after = before.withHost built := by
  have houtcome := loadHost_outcome record before
  rw [hrun] at houtcome
  cases houtcome with
  | @installed name matching routes count built events hread hroutes hfresh =>
      exact ⟨name, matching, routes, count, built, events, hread, hroutes, hfresh, rfl, rfl⟩

/-- Hosts are only ever added behind the others. -/
theorem loadHost_keeps (record : Record) (before : Server) :
    before.hosts <+: ((loadHost record).run before).state.hosts := by
  have houtcome := loadHost_outcome record before
  generalize (loadHost record).run before = outcome at houtcome ⊢
  cases houtcome with
  | unread hread => exact List.prefix_refl _
  | unrouted hread hroutes => exact List.prefix_refl _
  | taken hread hroutes htaken => exact List.prefix_refl _
  | installed hread hroutes hfresh => exact List.prefix_append _ _

/-- Building a host, successfully or not, only adds handlers to the registry. -/
theorem loadHost_keeps_handlers (record : Record) (before : Server) :
    before.registry.handlers <+: ((loadHost record).run before).state.registry.handlers := by
  have hgrows : ∀ {name matching : String} {routes : Record} {result : Except Failure Nat}
      {built : Construction} {events : List Event},
      (Construction.loadRoutes routes).run (before.opening name matching) =
        ⟨result, built, events⟩ → before.registry.handlers <+: built.registry.handlers := by
    intro name matching routes result built events hroutes
    obtain ⟨more, hmore⟩ := (loadRoutes_continues hroutes).registry
    rw [hmore]
    exact List.prefix_append _ _
  have houtcome := loadHost_outcome record before
  generalize (loadHost record).run before = outcome at houtcome ⊢
  cases houtcome with
  | unread hread => exact List.prefix_refl _
  | unrouted hread hroutes => exact hgrows hroutes
  | taken hread hroutes htaken => exact hgrows hroutes
  | installed hread hroutes hfresh => exact hgrows hroutes

/-! ## One after another -/

def loadItem (item : Except Failure Record) : Audited Server Unit := do
  let record ← .ofExcept item
  let _ ← loadHost record

theorem loadItem_error_run (failure : Failure) (before : Server) :
    (loadItem (.error failure)).run before = ⟨.error failure, before, []⟩ := rfl

theorem loadItem_ok_run (record : Record) (before : Server) :
    (loadItem (.ok record)).run before =
      ⟨((loadHost record).run before).result.map fun _ => (),
        ((loadHost record).run before).state, ((loadHost record).run before).events⟩ := by
  rw [loadItem, Audited.run_ofExcept_bind_of_ok rfl, bind_pure_comp, Audited.run_map]

theorem loadItem_eq_ok {item : Except Failure Record} {before after : Server}
    {events : List Event} (hrun : (loadItem item).run before = ⟨.ok (), after, events⟩) :
    ∃ record position, item = .ok record ∧
      (loadHost record).run before = ⟨.ok position, after, events⟩ := by
  cases item with
  | error failure =>
      rw [loadItem_error_run] at hrun
      cases hrun
  | ok record =>
      rw [loadItem_ok_run] at hrun
      rcases hhost : (loadHost record).run before with ⟨failure | position, last, reported⟩
      · simp [hhost, Except.map] at hrun
      · simp only [hhost, Outcome.mk.injEq] at hrun
        obtain ⟨-, rfl, rfl⟩ := hrun
        exact ⟨record, position, rfl, hhost⟩

theorem loadItem_keeps (item : Except Failure Record) (before : Server) :
    before.hosts <+: ((loadItem item).run before).state.hosts := by
  cases item with
  | error failure =>
      exact List.prefix_refl _
  | ok record =>
      rw [loadItem_ok_run]
      exact loadHost_keeps record before

theorem countEach_loadItem_keeps (items : List (Except Failure Record)) (before : Server) :
    before.hosts <+: ((Audited.countEach loadItem items).run before).state.hosts := by
  let kept (server : Server) : Prop := before.hosts <+: server.hosts
  have hstep : ∀ item ∈ items, ∀ server, kept server → kept ((loadItem item).run server).state :=
    fun item _ server hkept => hkept.trans (loadItem_keeps item server)
  exact Audited.countEach_preserves hstep (List.prefix_refl before.hosts)

/-- The items of an array as records, counted from a position on. -/
def itemsFrom (record : Record) : Nat → List Value → List (Except Failure Record)
  | _, [] => []
  | position, value :: rest =>
      record.item "hosts" position value :: itemsFrom record (position + 1) rest

theorem mapIdx_item (record : Record) (values : List Value) (start : Nat) :
    values.mapIdx (fun position => record.item "hosts" (start + position)) =
      itemsFrom record start values := by
  induction values generalizing start with
  | nil => rfl
  | cons value rest ih =>
      rw [List.mapIdx_cons, itemsFrom, ← ih (start + 1)]
      simp only [Nat.add_zero, Nat.add_assoc, Nat.add_comm 1]

/-- The items of `hosts`, each as a record or with its failure. -/
theorem records_hosts (record : Record) :
    record.records "hosts" = match Declared.items? record.table "hosts" with
      | some values => .ok (itemsFrom record 0 values)
      | none => .error (record.missing "hosts") := by
  rw [Record.records, Record.array, Record.read, Record.get?, Declared.items?]
  cases (record.table.lookup "hosts").bind Value.array? with
  | none => rfl
  | some values =>
      simp only [Except.map, ← mapIdx_item, Nat.zero_add]

theorem loadHosts_run_of_none {record : Record}
    (hitems : Declared.items? record.table "hosts" = none) (before : Server) :
    (loadHosts record).run before = ⟨.error (record.missing "hosts"), before, []⟩ := by
  have hrecords := records_hosts record
  rw [hitems] at hrecords
  rw [loadHosts, Audited.run_ofExcept_bind_of_error hrecords]

theorem loadHosts_run_of_some {record : Record} {values : List Value}
    (hitems : Declared.items? record.table "hosts" = some values) (before : Server) :
    (loadHosts record).run before =
      match (Audited.countEach loadItem (itemsFrom record 0 values)).run before with
      | ⟨.ok count, after, events⟩ =>
          ⟨.ok count, after, events ++ [.hostsLoaded after.shell.uuid count]⟩
      | ⟨.error failure, after, events⟩ => ⟨.error failure, after, events⟩ := by
  have hrecords := records_hosts record
  rw [hitems] at hrecords
  rw [loadHosts, Audited.run_ofExcept_bind_of_ok hrecords]
  rcases hrun : (Audited.countEach loadItem (itemsFrom record 0 values)).run before with
    ⟨failure | count, after, events⟩
  · exact Audited.run_bind_of_error hrun _
  · refine (Audited.run_bind_of_ok hrun _).trans ?_
    rw [Audited.run_get_bind]
    rfl

/-- A run over the hosts of a record that succeeds is one over its elements that does. -/
theorem loadHosts_eq_ok {record : Record} {before after : Server} {count : Nat}
    {events : List Event} (hrun : (loadHosts record).run before = ⟨.ok count, after, events⟩) :
    ∃ elements reported, Declared.items? record.table "hosts" = some elements ∧
      (Audited.countEach loadItem (itemsFrom record 0 elements)).run before =
        ⟨.ok count, after, reported⟩ := by
  cases hitems : Declared.items? record.table "hosts" with
  | none =>
      rw [loadHosts_run_of_none hitems] at hrun
      cases hrun
  | some elements =>
      rw [loadHosts_run_of_some hitems] at hrun
      rcases hcount : (Audited.countEach loadItem (itemsFrom record 0 elements)).run before with
        ⟨failure | number, last, reported⟩
      · rw [hcount] at hrun
        cases hrun
      · rw [hcount] at hrun
        cases hrun
        exact ⟨elements, reported, rfl, hcount⟩

/-- A run over the hosts of a record that fails has found no elements, or fails as the run over them
does. -/
theorem loadHosts_eq_error {record : Record} {before after : Server} {failure : Failure}
    {events : List Event}
    (hrun : (loadHosts record).run before = ⟨.error failure, after, events⟩) :
    (Declared.items? record.table "hosts" = none ∧ failure = record.missing "hosts" ∧
        after = before) ∨
      ∃ elements, Declared.items? record.table "hosts" = some elements ∧
        (Audited.countEach loadItem (itemsFrom record 0 elements)).run before =
          ⟨.error failure, after, events⟩ := by
  cases hitems : Declared.items? record.table "hosts" with
  | none =>
      rw [loadHosts_run_of_none hitems] at hrun
      cases hrun
      exact Or.inl ⟨rfl, rfl, rfl⟩
  | some elements =>
      rw [loadHosts_run_of_some hitems] at hrun
      rcases hcount : (Audited.countEach loadItem (itemsFrom record 0 elements)).run before with
        ⟨other | number, last, reported⟩
      · rw [hcount] at hrun
        cases hrun
        exact Or.inr ⟨elements, rfl, hcount⟩
      · rw [hcount] at hrun
        cases hrun

end Server

end HostRouting
