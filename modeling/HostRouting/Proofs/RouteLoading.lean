import HostRouting.Proofs.RegistryGrowth
import HostRouting.Proofs.RouteReading
import HostRouting.Proofs.RouteTables

/-!
# Building the routes of a host

`loadRoute_outcome` lists everything that building one route can do: its value is defective, its
path is taken, or it is added.  All that is said about building many routes is derived from it.

A handler is registered before its route is added, so a path that is taken costs the route but not
the registration.
-/

namespace HostRouting

open Toml (Value)

namespace Registry

/-- What a route leads to once handlers are shared: a directory or a proxy is its own, a handler is
the registered one with the sockets of the candidate. -/
inductive Shares (registry : Registry) : Backend → Backend → Prop where
  | directory (served : Directory) : Shares registry (.directory served) (.directory served)
  | proxy (target : Proxy) : Shares registry (.proxy target) (.proxy target)
  | handler {candidate handler : Handler} {slot : Option Nat} {position : Nat}
      (hheld : registry.handlers[position]? = some handler)
      (hidentity : handler.identity = candidate.identity) :
      Shares registry (.handler candidate slot) (.handler handler (some position))

theorem Shares.extend {registry : Registry} {candidate backend : Backend}
    (hshares : registry.Shares candidate backend) (more : List Handler) :
    (registry.extend more).Shares candidate backend := by
  cases hshares with
  | directory served => exact .directory served
  | proxy target => exact .proxy target
  | handler hheld hidentity => exact .handler (getElem?_extend hheld more) hidentity

/-- Whether a backend that is a handler is the very one that a registry holds at its position. -/
def Holds (registry : Registry) : Backend → Prop
  | .handler handler slot =>
      ∃ position, slot = some position ∧ registry.handlers[position]? = some handler
  | _ => True

theorem Holds.extend {registry : Registry} {backend : Backend} (hholds : registry.Holds backend)
    (more : List Handler) : (registry.extend more).Holds backend := by
  cases backend with
  | handler handler slot =>
      obtain ⟨position, rfl, hheld⟩ := hholds
      exact ⟨position, rfl, getElem?_extend hheld more⟩
  | _ => trivial

theorem Shares.holds {registry : Registry} {candidate backend : Backend}
    (hshares : registry.Shares candidate backend) : registry.Holds backend := by
  cases hshares with
  | handler hheld hidentity => exact ⟨_, rfl, hheld⟩
  | _ => trivial

/-- What is reported when a backend goes through a registry. -/
def warnings (registry : Registry) (backend : Backend) : List Event :=
  backend.candidates.flatMap fun candidate => (scan candidate registry.handlers).1

end Registry

/-- Whether every handler route of a host leads to the very handler that a registry holds. -/
def Host.LinkedTo (registry : Registry) (host : Host) : Prop :=
  ∀ route ∈ host.routes, registry.Holds route.2

theorem Host.LinkedTo.extend {registry : Registry} {host : Host}
    (hlinked : host.LinkedTo registry) (more : List Handler) :
    host.LinkedTo (registry.extend more) :=
  fun route hmem => (hlinked route hmem).extend more

namespace Construction

theorem share_run (candidate : Backend) (construction : Construction) :
    ∃ backend,
      (share candidate).run construction =
        ⟨.ok backend,
          { construction with registry := construction.registry.extend candidate.candidates },
          construction.registry.warnings candidate⟩ ∧
      (construction.registry.extend candidate.candidates).Shares candidate backend := by
  cases candidate with
  | directory served =>
      exact ⟨.directory served, by simp [share, Backend.candidates, Registry.warnings],
        .directory served⟩
  | proxy target =>
      exact ⟨.proxy target, by simp [share, Backend.candidates, Registry.warnings],
        .proxy target⟩
  | handler candidate slot =>
      obtain ⟨handler, position, hrun, hheld, hidentity⟩ :=
        Registry.register_run candidate construction.registry
      refine ⟨.handler handler (some position), ?_, .handler hheld hidentity⟩
      simp [share, hrun, Except.map, Backend.candidates, Registry.warnings]

inductive RouteOutcome (routes : Record) (entry : String × Value) (before : Construction) :
    Outcome Construction Unit → Prop where
  | unread {failure : Failure}
      (hread : readRoute before.host.name routes entry = .error failure) :
      RouteOutcome routes entry before ⟨.error failure, before, []⟩
  | taken {candidate : Backend}
      (hread : readRoute before.host.name routes entry = .ok candidate)
      (htaken : entry.1 ∈ before.host.paths) :
      RouteOutcome routes entry before
        ⟨.error (.duplicateRoute before.host.name entry.1),
          { before with registry := before.registry.extend candidate.candidates },
          candidate.loaded (routeLabel before.host.name entry.1) ++
            before.registry.warnings candidate⟩
  | added {candidate backend : Backend}
      (hread : readRoute before.host.name routes entry = .ok candidate)
      (hfresh : entry.1 ∉ before.host.paths)
      (hshares : (before.registry.extend candidate.candidates).Shares candidate backend) :
      RouteOutcome routes entry before
        ⟨.ok (),
          { host := before.host.withRoute entry.1 backend,
            registry := before.registry.extend candidate.candidates },
          candidate.loaded (routeLabel before.host.name entry.1) ++
            before.registry.warnings candidate ++
            [.routeLoaded before.host.name entry.1 candidate.kind]⟩

def place (host path : String) (candidate : Backend) : Audited Construction Unit := do
  let backend ← share candidate
  addRoute path backend
  Audited.emit (.routeLoaded host path candidate.kind)

/-- Building a route is reading it, reporting what was read, and placing it. -/
theorem loadRoute_run (routes : Record) (entry : String × Value) (before : Construction) :
    (loadRoute routes entry).run before =
      match readRoute before.host.name routes entry with
      | .error failure => ⟨.error failure, before, []⟩
      | .ok candidate =>
          ⟨((place before.host.name entry.1 candidate).run before).result,
            ((place before.host.name entry.1 candidate).run before).state,
            candidate.loaded (routeLabel before.host.name entry.1) ++
              ((place before.host.name entry.1 candidate).run before).events⟩ := by
  obtain ⟨path, value⟩ := entry
  rw [loadRoute, Audited.run_get_bind]
  cases value with
  | table entries =>
      refine (Backend.ofRecord_bind_run _ _ before).trans ?_
      rw [readRoute_table]
      cases Backend.readAny ⟨routeLabel before.host.name path, entries⟩ <;> rfl
  | _ => rfl

/-- A backend whose path is taken is not placed, but a handler is registered all the same. -/
theorem place_run_of_mem (candidate : Backend) {path : String} {before : Construction}
    (htaken : path ∈ before.host.paths) :
    (place before.host.name path candidate).run before =
      ⟨.error (.duplicateRoute before.host.name path),
        { before with registry := before.registry.extend candidate.candidates },
        before.registry.warnings candidate⟩ := by
  obtain ⟨backend, hrun, -⟩ := share_run candidate before
  simp [place, Audited.run_bind, hrun, addRoute, Audited.run_update,
    Host.addRoute_of_mem htaken, Except.map]

/-- A backend is placed as what it is shared as. -/
theorem place_run_of_not_mem {candidate backend : Backend} {path : String}
    {before after : Construction} {events : List Event} (hfresh : path ∉ before.host.paths)
    (hshare : (share candidate).run before = ⟨.ok backend, after, events⟩) :
    (place before.host.name path candidate).run before =
      ⟨.ok (),
        { host := before.host.withRoute path backend,
          registry := before.registry.extend candidate.candidates },
        before.registry.warnings candidate ++
          [.routeLoaded before.host.name path candidate.kind]⟩ := by
  obtain ⟨other, hrun, -⟩ := share_run candidate before
  rw [hrun] at hshare
  cases hshare
  simp [place, Audited.run_bind, hrun, addRoute, Audited.run_update,
    Host.addRoute_of_not_mem hfresh, Except.map]

theorem loadRoute_outcome (routes : Record) (entry : String × Value) (before : Construction) :
    RouteOutcome routes entry before ((loadRoute routes entry).run before) := by
  rw [loadRoute_run]
  split
  · exact .unread ‹_›
  · rename_i candidate hread
    by_cases htaken : entry.1 ∈ before.host.paths
    · rw [place_run_of_mem candidate htaken]
      exact .taken hread htaken
    · obtain ⟨backend, hrun, hshares⟩ := share_run candidate before
      rw [place_run_of_not_mem htaken hrun, ← List.append_assoc]
      exact .added hread htaken hshares

/-! ## What every run keeps -/

/-- What holds of a construction however far the building of routes has got from its start. -/
structure Continues (start construction : Construction) : Prop where
  name : construction.host.name = start.host.name
  matching : construction.host.matching = start.host.matching
  registry : ∃ more, construction.registry = start.registry.extend more
  linked : construction.host.LinkedTo construction.registry
  paths : construction.host.paths.Nodup

theorem Continues.loadRoute {start before : Construction} (hbefore : start.Continues before)
    (routes : Record) (entry : String × Value) :
    start.Continues ((loadRoute routes entry).run before).state := by
  obtain ⟨more, hmore⟩ := hbefore.registry
  have hextend : ∀ candidate : Backend, ∃ more,
      before.registry.extend candidate.candidates = start.registry.extend more := by
    intro candidate
    rw [hmore, ← Registry.extend_append]
    exact ⟨_, rfl⟩
  have houtcome := loadRoute_outcome routes entry before
  generalize (Construction.loadRoute routes entry).run before = outcome at houtcome ⊢
  cases houtcome with
  | unread hread => exact hbefore
  | @taken candidate hread htaken =>
      exact ⟨hbefore.name, hbefore.matching, hextend candidate,
        hbefore.linked.extend candidate.candidates, hbefore.paths⟩
  | @added candidate backend hread hfresh hshares =>
      refine ⟨hbefore.name, hbefore.matching, hextend candidate, ?_, ?_⟩
      · intro route hmem
        rcases Host.mem_routes_withRoute_iff.mp hmem with rfl | hmem
        · exact hshares.holds
        · exact (hbefore.linked route hmem).extend candidate.candidates
      · exact (Host.paths_withRoute_perm entry.1 backend before.host).nodup_iff.mpr
          (List.nodup_cons.mpr ⟨hfresh, hbefore.paths⟩)

theorem Continues.loadRoutes {start before : Construction} (hbefore : start.Continues before)
    (routes : Record) : start.Continues ((loadRoutes routes).run before).state :=
  Audited.countEach_preserves (fun entry _ _ hstate => hstate.loadRoute routes entry) hbefore

/-! ## What a successful run has done -/

/-- What a construction has gained when a row of entries was built without failure. -/
structure Built (before : Construction) (entries : List (String × Value))
    (after : Construction) : Prop where
  registry : after.registry = before.registry.extend (Declared.routeHandlers entries)
  paths : after.host.paths.Perm (entries.map Prod.fst ++ before.host.paths)
  kept : ∀ route ∈ before.host.routes, route ∈ after.host.routes
  added : ∀ entry ∈ entries, ∃ candidate backend,
    Declared.backend? entry.2 = some candidate ∧
      (entry.1, backend) ∈ after.host.routes ∧ after.registry.Shares candidate backend

theorem loadRoute_built {routes : Record} {entry : String × Value} {before after : Construction}
    {events : List Event}
    (hrun : (loadRoute routes entry).run before = ⟨.ok (), after, events⟩) :
    Built before [entry] after := by
  have houtcome := loadRoute_outcome routes entry before
  rw [hrun] at houtcome
  cases houtcome with
  | @added candidate backend hread hfresh hshares =>
      have hdeclared := backend?_of_readRoute hread
      refine ⟨?_, Host.paths_withRoute_perm entry.1 backend before.host, ?_, ?_⟩
      · simp [Declared.routeHandlers, Declared.candidates, hdeclared]
      · intro route hmem
        exact Host.mem_routes_withRoute_iff.mpr (Or.inr hmem)
      · intro other hmem
        obtain rfl := List.mem_singleton.mp hmem
        exact ⟨candidate, backend, hdeclared, Host.mem_routes_withRoute_iff.mpr (Or.inl rfl),
          hshares⟩

theorem Built.append {before middle after : Construction} {left right : List (String × Value)}
    (hleft : Built before left middle) (hright : Built middle right after) :
    Built before (left ++ right) after := by
  have hregistry : after.registry = middle.registry.extend (Declared.routeHandlers right) :=
    hright.registry
  refine ⟨?_, ?_, fun route hmem => hright.kept route (hleft.kept route hmem), ?_⟩
  · rw [hregistry, hleft.registry, ← Registry.extend_append]
    simp [Declared.routeHandlers]
  · apply hright.paths.trans
    rw [List.map_append]
    apply (hleft.paths.append_left _).trans
    rw [← List.append_assoc]
    exact List.perm_append_comm.append_right _
  · intro entry hmem
    rcases List.mem_append.mp hmem with hmem | hmem
    · obtain ⟨candidate, backend, hdeclared, hroute, hshares⟩ := hleft.added entry hmem
      refine ⟨candidate, backend, hdeclared, hright.kept _ hroute, ?_⟩
      rw [hregistry]
      exact hshares.extend _
    · exact hright.added entry hmem

theorem countEach_loadRoute_built {routes : Record} {entries : List (String × Value)}
    {before after : Construction} {count : Nat} {events : List Event}
    (hrun : (Audited.countEach (loadRoute routes) entries).run before =
      ⟨.ok count, after, events⟩) :
    count = entries.length ∧ Built before entries after := by
  induction entries generalizing before count events with
  | nil =>
      rw [Audited.run_countEach_nil] at hrun
      cases hrun
      exact ⟨rfl, by simp [Declared.routeHandlers], by simp, fun _ => id, by simp⟩
  | cons entry rest ih =>
      obtain ⟨middle, reported, number, more, hfirst, hrest, rfl, -⟩ :=
        Audited.run_countEach_cons_eq_ok hrun
      obtain ⟨rfl, hbuilt⟩ := ih hrest
      exact ⟨rfl, (loadRoute_built hfirst).append hbuilt⟩

end Construction

end HostRouting
