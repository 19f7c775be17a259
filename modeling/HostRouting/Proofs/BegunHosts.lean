import HostRouting.Proofs.DeclaredHosts
import HostRouting.Proofs.DeclaredSteps

/-!
# Routes that are installed and routes that are reported

Each route is reported when it has been added to its host.  So, however far a run gets, it has
reported exactly the routes of the hosts that it has begun: those that it has added to the server,
and the one at which it has failed, as far as that one was built.
-/

namespace HostRouting

open Toml (Value)

/-- The route that is reported by an event: its host, its path and the kind of its backend. -/
def Event.loadedRoute? : Event → Option (String × String × BackendKind)
  | .routeLoaded host path kind => some (host, path, kind)
  | _ => none

def Event.loadedRoutes (events : List Event) : List (String × String × BackendKind) :=
  events.filterMap loadedRoute?

/-- The routes of a host as they are reported. -/
def Host.listing (host : Host) : List (String × String × BackendKind) :=
  host.routes.map fun route => (host.name, route.1, route.2.kind)

namespace Event

@[simp]
theorem loadedRoutes_nil : loadedRoutes [] = [] := rfl

@[simp]
theorem loadedRoutes_append (first rest : List Event) :
    loadedRoutes (first ++ rest) = loadedRoutes first ++ loadedRoutes rest :=
  List.filterMap_append

/-- Only what is reported about routes themselves tells that they are loaded. -/
theorem loadedRoutes_of_area {events : List Event}
    (harea : ∀ event ∈ events, event.area ≠ ["compiler", "routes"]) :
    loadedRoutes events = [] := by
  rw [loadedRoutes, List.filterMap_eq_nil_iff]
  intro event hmem
  have hother := harea event hmem
  cases event with
  | routeLoaded host path kind => exact absurd rfl hother
  | _ => rfl

@[simp]
theorem loadedRoutes_loaded (label : String) (backend : Backend) :
    loadedRoutes (backend.loaded label) = [] := by
  apply loadedRoutes_of_area
  intro event hmem
  rw [Backend.area_of_mem_loaded hmem]
  decide

@[simp]
theorem loadedRoutes_warnings (registry : Registry) (backend : Backend) :
    loadedRoutes (registry.warnings backend) = [] := by
  apply loadedRoutes_of_area
  intro event hmem
  rw [Registry.warnings_eq] at hmem
  obtain ⟨candidate, -, hclash⟩ := List.mem_flatMap.mp hmem
  rw [Registry.area_of_mem_clashes hclash]
  decide

end Event

theorem Registry.Shares.kind_eq {registry : Registry} {candidate backend : Backend}
    (hshares : registry.Shares candidate backend) : backend.kind = candidate.kind := by
  cases hshares <;> rfl

theorem Host.listing_withRoute_perm (path : String) (backend : Backend) (host : Host) :
    (host.withRoute path backend).listing.Perm
      ((host.name, path, backend.kind) :: host.listing) :=
  (insertRoute_perm path backend host.routes).map _

/-! ## Routes -/

namespace Construction

/-- Between two states of a host that is built, the routes that some events report were added. -/
def Gains (before : Construction) (events : List Event) (after : Construction) : Prop :=
  (Event.loadedRoutes events ++ before.host.listing).Perm after.host.listing

theorem loadRoute_gains (routes : Record) (entry : String × Value) (before : Construction) :
    before.Gains ((loadRoute routes entry).run before).events
      ((loadRoute routes entry).run before).state := by
  have houtcome := loadRoute_outcome routes entry before
  rw [Gains]
  generalize (loadRoute routes entry).run before = outcome at houtcome ⊢
  cases houtcome with
  | unread hread => exact List.Perm.refl _
  | taken hread htaken => simp
  | @added candidate backend hread hfresh hshares =>
      have hperm := (Host.listing_withRoute_perm entry.1 backend before.host).symm
      rw [hshares.kind_eq] at hperm
      rw [Event.loadedRoutes_append, Event.loadedRoutes_append, Event.loadedRoutes_loaded,
        Event.loadedRoutes_warnings, List.nil_append]
      exact hperm

theorem Gains.trans {first second third : Construction} {events more : List Event}
    (hfirst : first.Gains events second) (hsecond : second.Gains more third) :
    first.Gains (events ++ more) third := by
  rw [Gains, Event.loadedRoutes_append]
  calc
    List.Perm (Event.loadedRoutes events ++ Event.loadedRoutes more ++ first.host.listing)
        (Event.loadedRoutes more ++ (Event.loadedRoutes events ++ first.host.listing)) := by
      rw [← List.append_assoc]
      exact List.perm_append_comm.append_right _
    List.Perm _ (Event.loadedRoutes more ++ second.host.listing) := hfirst.append_left _
    List.Perm _ third.host.listing := hsecond

theorem countEach_loadRoute_gains (routes : Record) (entries : List (String × Value))
    (before : Construction) :
    before.Gains ((Audited.countEach (loadRoute routes) entries).run before).events
      ((Audited.countEach (loadRoute routes) entries).run before).state := by
  induction entries generalizing before with
  | nil => exact List.Perm.refl _
  | cons entry rest ih =>
      have hentry := loadRoute_gains routes entry before
      rcases hrun : (loadRoute routes entry).run before with ⟨failure | _, after, events⟩
      · rw [Audited.run_countEach_of_error hrun]
        simpa [hrun] using hentry
      · rw [hrun] at hentry
        rw [Audited.run_countEach_of_ok hrun]
        exact hentry.trans (ih after)

end Construction

/-! ## Hosts -/

namespace Server

/-- The host that is begun for an item of `hosts`, if its fields can be read: as far as its routes
are built. -/
def begunHost? (before : Server) (item : Except Failure Record) : Option Host := do
  let (name, matching, routes) ← (item >>= readHost).toOption
  return ((Construction.loadRoutes routes).run (before.opening name matching)).state.host

/-- The hosts that are begun for a row of items: one after another, up to the first that fails. -/
def begun (before : Server) : List (Except Failure Record) → List Host
  | [] => []
  | item :: rest =>
      (before.begunHost? item).toList ++
        match (loadItem item).run before with
        | ⟨.ok _, after, _⟩ => begun after rest
        | ⟨.error _, _, _⟩ => []

theorem begun_cons_of_ok {before after : Server} {item : Except Failure Record}
    {events : List Event} (hrun : (loadItem item).run before = ⟨.ok (), after, events⟩)
    (rest : List (Except Failure Record)) :
    before.begun (item :: rest) = (before.begunHost? item).toList ++ after.begun rest := by
  rw [begun, hrun]

theorem begun_cons_of_error {before after : Server} {item : Except Failure Record}
    {failure : Failure} {events : List Event}
    (hrun : (loadItem item).run before = ⟨.error failure, after, events⟩)
    (rest : List (Except Failure Record)) :
    before.begun (item :: rest) = (before.begunHost? item).toList := by
  rw [begun, hrun, List.append_nil]

/-- Building a host reports the routes that it has been given, also if it fails. -/
theorem loadItem_reports (item : Except Failure Record) (before : Server) :
    (Event.loadedRoutes ((loadItem item).run before).events).Perm
      ((before.begunHost? item).toList.flatMap Host.listing) := by
  cases item with
  | error failure => exact List.Perm.refl _
  | ok record =>
      rw [loadItem_ok_run, begunHost?, ok_bind]
      -- A host starts without routes, so all that it has has been reported.
      have hroutes : ∀ name matching (routes : Record),
          (Event.loadedRoutes ((Construction.loadRoutes routes).run
            (before.opening name matching)).events).Perm
              ((Construction.loadRoutes routes).run
                (before.opening name matching)).state.host.listing := by
        intro name matching routes
        have hgains := Construction.countEach_loadRoute_gains routes routes.table
          (before.opening name matching)
        have hempty : (before.opening name matching).host.listing = [] := rfl
        rw [Construction.Gains, hempty, List.append_nil] at hgains
        exact hgains
      have houtcome := loadHost_outcome record before
      generalize (loadHost record).run before = outcome at houtcome ⊢
      cases houtcome with
      | unread hread => simp [hread]
      | @unrouted name matching routes failure built events hread hrun =>
          have hperm := hroutes name matching routes
          simpa [hread, hrun] using hperm
      | @taken name matching routes count built events hread hrun htaken =>
          have hperm := hroutes name matching routes
          simpa [hread, hrun] using hperm
      | @installed name matching routes count built events hread hrun hfresh =>
          have hperm := hroutes name matching routes
          have hadded : Event.loadedRoutes [.hostLoaded name matching count] = [] := rfl
          simpa [hread, hrun, hadded] using hperm

/-- Building hosts reports the routes of all hosts that are begun. -/
theorem countEach_loadItem_reports (items : List (Except Failure Record)) (before : Server) :
    (Event.loadedRoutes ((Audited.countEach loadItem items).run before).events).Perm
      ((before.begun items).flatMap Host.listing) := by
  induction items generalizing before with
  | nil => exact List.Perm.refl _
  | cons item rest ih =>
      have hitem := loadItem_reports item before
      rcases hrun : (loadItem item).run before with ⟨failure | _, after, events⟩
      · rw [hrun] at hitem
        rw [Audited.run_countEach_of_error hrun, begun_cons_of_error hrun]
        exact hitem
      · rw [hrun] at hitem
        rw [Audited.run_countEach_of_ok hrun, begun_cons_of_ok hrun, List.flatMap_append,
          Event.loadedRoutes_append]
        exact hitem.append (ih after)

/-- A host that does not fail is added to the server as it was begun. -/
theorem hosts_of_loadItem {item : Except Failure Record} {before after : Server}
    {events : List Event} (hrun : (loadItem item).run before = ⟨.ok (), after, events⟩) :
    after.hosts = before.hosts ++ (before.begunHost? item).toList := by
  obtain ⟨record, position, rfl, hhost⟩ := loadItem_eq_ok hrun
  obtain ⟨name, matching, routes, count, built, reported, hread, hroutes, -, -, rfl⟩ :=
    loadHost_eq_ok hhost
  simp [begunHost?, ok_bind, hread, hroutes]

theorem hosts_of_loadItem_error {item : Except Failure Record} {before after : Server}
    {failure : Failure} {events : List Event}
    (hrun : (loadItem item).run before = ⟨.error failure, after, events⟩) :
    after.hosts = before.hosts := by
  cases item with
  | error other =>
      rw [loadItem_error_run] at hrun
      cases hrun
      rfl
  | ok record =>
      rw [loadItem_ok_run] at hrun
      have houtcome := loadHost_outcome record before
      generalize (loadHost record).run before = outcome at houtcome hrun
      cases houtcome <;> cases hrun <;> rfl

/-- The hosts that are begun are those that are added to the server, and at a failure at most one
more. -/
theorem begun_eq (items : List (Except Failure Record)) (before : Server) :
    ∃ last : Option Host,
      before.hosts ++ before.begun items =
        ((Audited.countEach loadItem items).run before).state.hosts ++ last.toList ∧
      ∀ count, ((Audited.countEach loadItem items).run before).result = .ok count →
        last = none := by
  induction items generalizing before with
  | nil => exact ⟨none, by simp [begun], fun _ _ => rfl⟩
  | cons item rest ih =>
      rcases hrun : (loadItem item).run before with ⟨failure | _, after, events⟩
      · have hkept := hosts_of_loadItem_error hrun
        rw [Audited.run_countEach_of_error hrun, begun_cons_of_error hrun]
        refine ⟨before.begunHost? item, by rw [hkept], ?_⟩
        rintro count ⟨⟩
      · obtain ⟨last, hhosts, hlast⟩ := ih after
        rw [Audited.run_countEach_of_ok hrun, begun_cons_of_ok hrun, ← List.append_assoc,
          ← hosts_of_loadItem hrun]
        refine ⟨last, hhosts, fun count hcount => ?_⟩
        rcases hrest : ((Audited.countEach loadItem rest).run after).result with failure | number
        · simp [hrest, Except.map] at hcount
        · exact hlast number hrest

/-- Building the hosts of a record reports the routes of all hosts that are begun. -/
theorem loadHosts_reports (record : Record) (before : Server) :
    (Event.loadedRoutes ((loadHosts record).run before).events).Perm
      ((before.begun (itemsFrom record 0 (Declared.hosts record.table))).flatMap
        Host.listing) := by
  rw [Declared.hosts]
  cases hitems : Declared.items? record.table "hosts" with
  | none =>
      rw [loadHosts_run_of_none hitems]
      exact List.Perm.refl _
  | some elements =>
      have hreports := countEach_loadItem_reports (itemsFrom record 0 elements) before
      rw [loadHosts_run_of_some hitems, Option.getD_some]
      rcases hrun : (Audited.countEach loadItem (itemsFrom record 0 elements)).run before with
        ⟨failure | count, after, events⟩
      · rw [hrun] at hreports
        exact hreports
      · rw [hrun] at hreports
        simp only [Event.loadedRoutes_append]
        rw [show Event.loadedRoutes [.hostsLoaded after.shell.uuid count] = [] from rfl,
          List.append_nil]
        exact hreports

theorem begun_loadHosts (record : Record) (before : Server) :
    ∃ last : Option Host,
      before.hosts ++ before.begun (itemsFrom record 0 (Declared.hosts record.table)) =
        ((loadHosts record).run before).state.hosts ++ last.toList ∧
      ∀ count, ((loadHosts record).run before).result = .ok count → last = none := by
  rw [Declared.hosts]
  cases hitems : Declared.items? record.table "hosts" with
  | none =>
      rw [loadHosts_run_of_none hitems]
      exact ⟨none, by simp [itemsFrom, begun], fun _ _ => rfl⟩
  | some elements =>
      obtain ⟨last, hhosts, hlast⟩ := begun_eq (itemsFrom record 0 elements) before
      rw [loadHosts_run_of_some hitems, Option.getD_some]
      rcases hrun : (Audited.countEach loadItem (itemsFrom record 0 elements)).run before with
        ⟨failure | count, after, events⟩
      · rw [hrun] at hhosts
        exact ⟨last, hhosts, by rintro count ⟨⟩⟩
      · rw [hrun] at hhosts hlast
        exact ⟨last, hhosts, fun number _ => hlast count rfl⟩

end Server

end HostRouting
