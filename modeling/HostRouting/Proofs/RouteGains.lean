import HostRouting.Proofs.FailedHosts
import HostRouting.Proofs.RegistryRuns
import HostRouting.Proofs.RouteOrder

/-!
# What a host gains

Routes come to a host one at a time or a table at a time, and any call may fail on its way.  A
single route that is refused leaves everything as it was.  A table is taken in up to the first entry
that describes no backend or has a path that is taken, and what was taken in stays.

The registry grows along with the host, but not in step with it: a handler is registered before its
path is looked at.  So an entry with a path that is taken adds nothing to the host, but its handler
to the registry.
-/

namespace HostRouting

open Toml (Table Value)

/-! ## What a backend leads to in a registry -/

namespace Registry

/-- What a route to a backend leads to: a handler is the one that is found with its pair of sockets,
and anything else is its own. -/
def shared? (registry : Registry) : Backend → Option Backend
  | .handler candidate _ => do
      let position ← registry.find? candidate.identity
      let handler ← registry.handlers[position]?
      return .handler handler (some position)
  | backend => some backend

theorem find?_extend {registry : Registry} {identity : String × String} {position : Nat}
    (hfound : registry.find? identity = some position) (more : List Handler) :
    (registry.extend more).find? identity = some position := by
  rw [find?] at hfound
  rw [find?, extend, List.findIdx?_append, hfound, Option.some_or]

theorem shared?_extend {registry : Registry} {candidate backend : Backend}
    (hshared : registry.shared? candidate = some backend) (more : List Handler) :
    (registry.extend more).shared? candidate = some backend := by
  cases candidate with
  | handler candidate slot =>
      simp only [shared?, Option.bind_eq_bind, Option.bind_eq_some_iff] at hshared ⊢
      obtain ⟨position, hfound, handler, hheld, hbackend⟩ := hshared
      exact ⟨position, find?_extend hfound more, handler, getElem?_extend hheld more, hbackend⟩
  | _ => exact hshared

/-- What a registration answers is found from then on, even where a pair occurs twice. -/
theorem find?_of_register {candidate handler : Handler} {position : Nat}
    {before after : Registry} {events : List Event}
    (hrun : (register candidate).run before = ⟨.ok (handler, position), after, events⟩) :
    after.find? candidate.identity = some position ∧
      after.handlers[position]? = some handler := by
  rw [Audited.run, register] at hrun
  by_cases hknown : candidate.identity ∈ before.identities
  · obtain ⟨held, place, hscan, hheld, -⟩ := scan_of_mem hknown
    have hfound := scan_snd candidate before.handlers
    rw [← Prod.eta (scan candidate before.handlers), hscan] at hrun
    rw [hscan] at hfound
    cases hrun
    obtain ⟨other, hplace, hanswer⟩ := Option.bind_eq_some_iff.mp hfound.symm
    obtain ⟨_, -, hsame⟩ := Option.map_eq_some_iff.mp hanswer
    cases hsame
    exact ⟨hplace, hheld⟩
  · have hnone := find?_eq_none hknown
    rw [find?] at hnone
    rw [← Prod.eta (scan candidate before.handlers), scan_of_not_mem hknown] at hrun
    cases hrun
    constructor
    · simp [find?, List.findIdx?_append, hnone]
    · simp

/-- What the entries of a table lead to, as far as they describe backends. -/
def sharedRoutes (registry : Registry) (entries : Table) : List (String × Backend) :=
  entries.filterMap fun entry =>
    ((Declared.backend? entry.2).bind registry.shared?).map fun backend => (entry.1, backend)

theorem sharedRoutes_cons {registry : Registry} {entry : String × Value}
    {candidate backend : Backend} (hdeclared : Declared.backend? entry.2 = some candidate)
    (hshared : registry.shared? candidate = some backend) (rest : Table) :
    registry.sharedRoutes (entry :: rest) =
      (entry.1, backend) :: registry.sharedRoutes rest := by
  rw [sharedRoutes, List.filterMap_cons, hdeclared, Option.bind_some, hshared]
  rfl

end Registry

/-! ## What a host gains -/

namespace Host

/-- A host has gained some routes and is otherwise as it was: paths that led somewhere lead there
still, and routes that stood in order do so still. -/
structure Gained (before after : Host) (added : List (String × Backend)) : Prop where
  name : after.name = before.name
  matching : after.matching = before.matching
  routes : after.routes.Perm (added ++ before.routes)
  route : ∀ path, after.route? path = (before.route? path).or (added.lookup path)
  ordered : Ordered before.routes → Ordered after.routes

theorem Gained.refl (host : Host) : Gained host host [] where
  name := rfl
  matching := rfl
  routes := List.Perm.refl _
  route path := by simp
  ordered := id

theorem Gained.trans {before between after : Host} {first second : List (String × Backend)}
    (hfirst : Gained before between first) (hsecond : Gained between after second) :
    Gained before after (first ++ second) where
  name := hsecond.name.trans hfirst.name
  matching := hsecond.matching.trans hfirst.matching
  routes := by
    calc List.Perm after.routes (second ++ between.routes) := hsecond.routes
      List.Perm _ (second ++ (first ++ before.routes)) := hfirst.routes.append_left second
      List.Perm _ (first ++ second ++ before.routes) := by
          rw [← List.append_assoc]
          exact List.perm_append_comm.append_right before.routes
  route path := by rw [hsecond.route, hfirst.route, List.lookup_append, Option.or_assoc]
  ordered hbefore := hsecond.ordered (hfirst.ordered hbefore)

theorem gained_withRoute {host : Host} {path : String} (hfresh : path ∉ host.paths)
    (backend : Backend) : Gained host (host.withRoute path backend) [(path, backend)] where
  name := rfl
  matching := rfl
  routes := insertRoute_perm path backend host.routes
  route other := by
    by_cases hsame : other = path
    · subst other
      rw [route?_withRoute_self hfresh, route?_eq_none_iff.mpr hfresh]
      simp
    · rw [route?_withRoute_of_ne hsame]
      simp [List.lookup_cons, beq_eq_false_iff_ne.mpr hsame]
  ordered hordered := ordered_insertRoute hordered hfresh backend

/-- In an ordered table no path comes twice. -/
theorem Ordered.nodup_paths {routes : List (String × Backend)} (hordered : Ordered routes) :
    (routes.map Prod.fst).Nodup := by
  apply List.pairwise_map.mpr
  apply hordered.imp
  rintro left right hbefore hsame
  rw [hsame] at hbefore
  exact Utf8.not_precedes_self _ hbefore

end Host

/-! ## How far a table is taken in -/

namespace Declared

/-- The entries of a table before the first that describes no backend or has a path that is taken,
be it from the start or by an earlier entry. -/
def accepted (taken : List String) : Table → Table
  | [] => []
  | entry :: rest =>
      if describesBackend entry = true ∧ entry.1 ∉ taken then
        entry :: accepted (entry.1 :: taken) rest
      else []

/-- Which paths are taken matters, but not in what order they are listed. -/
theorem accepted_congr {left right : List String} (hsame : ∀ path, path ∈ left ↔ path ∈ right)
    (entries : Table) : accepted left entries = accepted right entries := by
  induction entries generalizing left right with
  | nil => rfl
  | cons entry rest ih =>
      have hcons : ∀ path, path ∈ entry.1 :: left ↔ path ∈ entry.1 :: right := by
        intro path
        simp only [List.mem_cons, hsame]
      simp only [accepted, hsame, ih hcons]

end Declared

/-! ## One route after another -/

namespace Construction

theorem addRoute_run_of_mem {path : String} {before : Construction}
    (htaken : path ∈ before.host.paths) (backend : Backend) :
    (addRoute path backend).run before =
      ⟨.error (.duplicateRoute before.host.name path), before, []⟩ := by
  rw [addRoute, Audited.run_update, Host.addRoute_of_mem htaken]
  rfl

theorem addRoute_run_of_not_mem {path : String} {before : Construction}
    (hfresh : path ∉ before.host.paths) (backend : Backend) :
    (addRoute path backend).run before =
      ⟨.ok (), { before with host := before.host.withRoute path backend }, []⟩ := by
  rw [addRoute, Audited.run_update, Host.addRoute_of_not_mem hfresh]
  rfl

theorem shared?_of_share {candidate backend : Backend} {before after : Construction}
    {events : List Event} (hrun : (share candidate).run before = ⟨.ok backend, after, events⟩) :
    after.registry.shared? candidate = some backend := by
  cases candidate with
  | handler candidate slot =>
      obtain ⟨⟨⟨handler, position⟩, registry⟩, between, _, _, hwithin, hreturn, -⟩ :=
        Audited.run_bind_eq_ok hrun
      obtain ⟨hregister, rfl⟩ := Audited.run_within_eq_ok hwithin
      cases hreturn
      obtain ⟨hfound, hheld⟩ := Registry.find?_of_register hregister
      simp [Registry.shared?, hfound, hheld]
  | _ =>
      cases hrun
      rfl

/-- What the route of an entry leads to once it is built. -/
theorem loadRoute_eq_ok {routes : Record} {entry : String × Value} {before after : Construction}
    {events : List Event}
    (hrun : (loadRoute routes entry).run before = ⟨.ok (), after, events⟩) :
    ∃ candidate backend, Declared.backend? entry.2 = some candidate ∧
      entry.1 ∉ before.host.paths ∧ after.registry.shared? candidate = some backend ∧
      after.host = before.host.withRoute entry.1 backend ∧
      after.registry = before.registry.extend (Declared.candidates entry.2) := by
  rw [loadRoute_run] at hrun
  split at hrun
  · cases hrun
  rename_i candidate hread
  have hdeclared := backend?_of_readRoute hread
  obtain ⟨backend, hshare, -⟩ := share_run candidate before
  by_cases htaken : entry.1 ∈ before.host.paths
  · rw [place_run_of_mem candidate htaken] at hrun
    cases hrun
  · have hshared := shared?_of_share hshare
    rw [place_run_of_not_mem htaken hshare] at hrun
    cases hrun
    refine ⟨candidate, backend, hdeclared, htaken, hshared, rfl, ?_⟩
    rw [Declared.candidates, hdeclared]
    rfl

theorem extend_routeHandlers_nil (registry : Registry) :
    registry.extend (Declared.routeHandlers []) = registry :=
  registry.extend_nil

/-- Everything that building the routes of some entries can do: how it ends, and the registry that
it leaves. -/
inductive RoutesOutcome (routes : Record) (before : Construction) (entries : Table) :
    Except Failure Nat → Registry → Prop
  | all (hall : Declared.accepted before.host.paths entries = entries) :
      RoutesOutcome routes before entries (.ok entries.length)
        (before.registry.extend (Declared.routeHandlers entries))
  | defective {done rest : Table} {entry : String × Value} {failure : Failure}
      (hdone : Declared.accepted before.host.paths entries = done)
      (hsplit : entries = done ++ entry :: rest)
      (hbackend : Declared.describesBackend entry = false)
      (hdefect :
        (Declared.routeDefects before.host.name routes.label entry).head? = some failure)
      (hother : ∀ host path, failure ≠ .duplicateRoute host path) :
      RoutesOutcome routes before entries (.error failure)
        (before.registry.extend (Declared.routeHandlers done))
  | taken {done rest : Table} {entry : String × Value}
      (hdone : Declared.accepted before.host.paths entries = done)
      (hsplit : entries = done ++ entry :: rest)
      (hbackend : Declared.describesBackend entry = true)
      (htaken : entry.1 ∈ done.map Prod.fst ++ before.host.paths) :
      RoutesOutcome routes before entries (.error (.duplicateRoute before.host.name entry.1))
        (before.registry.extend (Declared.routeHandlers done ++ Declared.candidates entry.2))

section Cons

variable {routes : Record} {entry : String × Value} {before after : Construction}

theorem accepted_cons_of_paths (hbackend : Declared.describesBackend entry = true)
    (hfresh : entry.1 ∉ before.host.paths)
    (hpaths : after.host.paths.Perm (entry.1 :: before.host.paths)) (rest : Table) :
    Declared.accepted before.host.paths (entry :: rest) =
      entry :: Declared.accepted after.host.paths rest := by
  rw [Declared.accepted, if_pos ⟨hbackend, hfresh⟩]
  rw [Declared.accepted_congr (fun path => hpaths.mem_iff) rest]

/-- An entry whose route is built comes in front of what the others do. -/
theorem RoutesOutcome.cons {rest : Table} {result : Except Failure Nat} {registry : Registry}
    (hbackend : Declared.describesBackend entry = true) (hfresh : entry.1 ∉ before.host.paths)
    (hname : after.host.name = before.host.name)
    (hpaths : after.host.paths.Perm (entry.1 :: before.host.paths))
    (hregistry : after.registry = before.registry.extend (Declared.candidates entry.2))
    (houtcome : RoutesOutcome routes after rest result registry) :
    RoutesOutcome routes before (entry :: rest) (result.map (· + 1)) registry := by
  have haccepted := accepted_cons_of_paths hbackend hfresh hpaths rest
  have hextend : ∀ handlers, after.registry.extend handlers =
      before.registry.extend (Declared.candidates entry.2 ++ handlers) := by
    intro handlers
    rw [hregistry, Registry.extend_append]
  cases houtcome with
  | all hall =>
      rw [hextend]
      apply RoutesOutcome.all
      rw [haccepted, hall]
  | @defective done others other failure hdone hsplit hdescribes hdefect hother =>
      rw [hextend]
      rw [hname] at hdefect
      rw [hdone] at haccepted
      exact .defective haccepted (congrArg (entry :: ·) hsplit) hdescribes hdefect hother
  | @taken done others other hdone hsplit hdescribes htaken =>
      rw [hextend, hname, ← List.append_assoc]
      rw [hdone] at haccepted
      refine .taken haccepted (congrArg (entry :: ·) hsplit) hdescribes ?_
      rw [List.mem_append, hpaths.mem_iff] at htaken
      rw [List.map_cons, List.cons_append, List.mem_cons, List.mem_append]
      rw [List.mem_cons] at htaken
      tauto

end Cons

/-- An entry whose route is not built ends the run. -/
theorem routesOutcome_of_error {routes : Record} {entry : String × Value}
    {before after : Construction} {failure : Failure} {events : List Event}
    (hrun : (loadRoute routes entry).run before = ⟨.error failure, after, events⟩)
    (rest : Table) :
    after.host = before.host ∧ Declared.accepted before.host.paths (entry :: rest) = [] ∧
      RoutesOutcome routes before (entry :: rest) (.error failure) after.registry := by
  have houtcome := loadRoute_outcome routes entry before
  rw [hrun] at houtcome
  cases houtcome with
  | unread hread =>
      have hbackend := describesBackend_of_readRoute hread
      have hdone : Declared.accepted before.host.paths (entry :: rest) = [] := by
        simp [Declared.accepted, hbackend]
      have hdefect := failure?_readRoute before.host.name routes entry
      rw [hread, failure?_error] at hdefect
      refine ⟨rfl, hdone, ?_⟩
      rw [← extend_routeHandlers_nil before.registry]
      refine .defective hdone rfl hbackend hdefect.symm ?_
      rintro host path rfl
      exact Declared.duplicateRoute_not_mem_routeDefects host path _ _ entry
        (List.mem_of_head? hdefect.symm)
  | @taken candidate hread htaken =>
      have hdeclared := backend?_of_readRoute hread
      have hbackend := Declared.describesBackend_of_some hdeclared
      have hdone : Declared.accepted before.host.paths (entry :: rest) = [] := by
        simp [Declared.accepted, htaken]
      have hcandidates : candidate.candidates =
          Declared.routeHandlers [] ++ Declared.candidates entry.2 := by
        rw [Declared.candidates, hdeclared]
        rfl
      refine ⟨rfl, hdone, ?_⟩
      rw [hcandidates]
      exact .taken hdone rfl hbackend htaken

theorem RoutesOutcome.extends {routes : Record} {before : Construction} {entries : Table}
    {result : Except Failure Nat} {registry : Registry}
    (houtcome : RoutesOutcome routes before entries result registry) :
    ∃ more, registry = before.registry.extend more := by
  cases houtcome <;> exact ⟨_, rfl⟩

/-- What building the routes of some entries does, to the host as well: it gains those entries that
are accepted, each of them leading to what the registry has for it in the end. -/
theorem countEach_loadRoute_gained (routes : Record) (entries : Table) (before : Construction) :
    let outcome := (Audited.countEach (loadRoute routes) entries).run before
    let done := Declared.accepted before.host.paths entries
    let gained := outcome.state.registry.sharedRoutes done
    RoutesOutcome routes before entries outcome.result outcome.state.registry ∧
      before.host.Gained outcome.state.host gained ∧ gained.map Prod.fst = done.map Prod.fst := by
  induction entries generalizing before with
  | nil =>
      have hnothing : RoutesOutcome routes before [] (.ok 0) _ := .all rfl
      rw [extend_routeHandlers_nil] at hnothing
      exact ⟨hnothing, Host.Gained.refl _, rfl⟩
  | cons entry rest ih =>
      rcases hfirst : (loadRoute routes entry).run before with ⟨failure | _, middle, reported⟩
      · obtain ⟨hhost, hdone, houtcome⟩ := routesOutcome_of_error hfirst rest
        rw [Audited.run_countEach_of_error hfirst, hdone]
        refine ⟨houtcome, ?_, rfl⟩
        rw [hhost]
        exact Host.Gained.refl _
      · obtain ⟨candidate, backend, hdeclared, hfresh, hshared, hhost, hregistry⟩ :=
          loadRoute_eq_ok hfirst
        obtain ⟨houtcome, hgained, hkeys⟩ := ih middle
        obtain ⟨more, hmore⟩ := houtcome.extends
        have hbackend := Declared.describesBackend_of_some hdeclared
        have hpaths := Host.paths_withRoute_perm entry.1 backend before.host
        have hadded := Host.gained_withRoute hfresh backend
        rw [← hhost] at hpaths hadded
        rw [Audited.run_countEach_of_ok hfirst, accepted_cons_of_paths hbackend hfresh hpaths]
        -- What the entry leads to when it is built, it leads to in the end.
        have hlast := Registry.shared?_extend hshared more
        rw [← hmore] at hlast
        have hroutes := Registry.sharedRoutes_cons hdeclared hlast
          (Declared.accepted middle.host.paths rest)
        simp only [hroutes, List.map_cons, hkeys, and_true]
        exact ⟨houtcome.cons hbackend hfresh hadded.name hpaths hregistry,
          hadded.trans hgained⟩

end Construction

/-! ## A host through many calls -/

/-- A way in which a host comes to routes, or others to handlers of the registry that it shares. -/
inductive RouteCall where
  | addRoute (path : String) (backend : Backend)
  | loadRoutes (routes : Record)
  | register (candidate : Handler)

/-- A host with its registry, and the routes that calls have added to it, first one first. -/
structure RouteHistory where
  construction : Construction
  added : List (String × Backend) := []

namespace RouteHistory

/-- A history after one more call.  A single route is added if the call succeeds; of a table those
entries are that are accepted, as what the registry then has for them. -/
def perform (history : RouteHistory) : RouteCall → RouteHistory
  | .addRoute path backend =>
      let outcome := (Construction.addRoute path backend).run history.construction
      { construction := outcome.state
        added := history.added ++
          match outcome.result with
          | .ok _ => [(path, backend)]
          | .error _ => [] }
  | .loadRoutes routes =>
      let outcome := (Construction.loadRoutes routes).run history.construction
      let done := Declared.accepted history.construction.host.paths routes.table
      { construction := outcome.state
        added := history.added ++ outcome.state.registry.sharedRoutes done }
  | .register candidate =>
      let outcome := (Registry.register candidate).run history.construction.registry
      { history with
        construction := { history.construction with registry := outcome.state } }

def ofCalls (name matching : String) (registry : Registry) (calls : List RouteCall) :
    RouteHistory :=
  calls.foldl perform { construction := { host := { name, matching }, registry } }

/-- Whatever a call does, the host gains what the history says. -/
theorem gained_perform {start : Host} {history : RouteHistory}
    (hgained : start.Gained history.construction.host history.added) (call : RouteCall) :
    start.Gained (history.perform call).construction.host (history.perform call).added := by
  cases call with
  | addRoute path backend =>
      by_cases htaken : path ∈ history.construction.host.paths
      · rw [perform, Construction.addRoute_run_of_mem htaken]
        simpa using hgained
      · rw [perform, Construction.addRoute_run_of_not_mem htaken]
        exact hgained.trans (Host.gained_withRoute htaken backend)
  | loadRoutes routes =>
      have hload :=
        Construction.countEach_loadRoute_gained routes routes.table history.construction
      exact hgained.trans hload.2.1
  | register candidate => exact hgained

theorem gained_ofCalls (name matching : String) (registry : Registry) (calls : List RouteCall) :
    let history := ofCalls name matching registry calls
    Host.Gained { name, matching } history.construction.host history.added := by
  have hrun : ∀ (calls : List RouteCall) (history : RouteHistory),
      Host.Gained { name, matching } history.construction.host history.added →
        Host.Gained { name, matching } (calls.foldl perform history).construction.host
          (calls.foldl perform history).added := by
    intro calls
    induction calls with
    | nil => exact fun _ hgained => hgained
    | cons call rest ih => exact fun history hgained => ih _ (gained_perform hgained call)
  exact hrun calls _ (Host.Gained.refl _)

/-- After any calls the routes of a host stand in the strict order of the bytes of their paths, and
are those that were added, each path once.  A table of routes of which every entry is accepted is
added as a whole.  Otherwise the host gains the entries before the one that fails, and the registry
the handlers of these, and also that of the entry that fails if it fails because its path is taken.
A single route that is refused changes nothing. -/
theorem ofCalls_lists_additions (name matching : String) (registry : Registry)
    (calls : List RouteCall) :
    let history := ofCalls name matching registry calls
    let host := history.construction.host
    Host.Ordered host.routes ∧ host.routes.Perm history.added ∧
    (history.added.map Prod.fst).Nodup ∧
    (∀ path, host.route? path = history.added.lookup path) ∧
    host.routes.length = history.added.length ∧
    (∀ (before : Construction) (routes : Record),
      let outcome := (Construction.loadRoutes routes).run before
      let done := Declared.accepted before.host.paths routes.table
      let gained := outcome.state.registry.sharedRoutes done
      Construction.RoutesOutcome routes before routes.table outcome.result
          outcome.state.registry ∧
        before.host.Gained outcome.state.host gained ∧
        gained.map Prod.fst = done.map Prod.fst) ∧
    (∀ (before : Construction) (path : String) (backend : Backend),
      let outcome := (Construction.addRoute path backend).run before
      match outcome.result with
      | .ok _ => path ∉ before.host.paths ∧ outcome.state.registry = before.registry ∧
          before.host.Gained outcome.state.host [(path, backend)]
      | .error failure => path ∈ before.host.paths ∧ outcome.state = before ∧
          failure = .duplicateRoute before.host.name path) := by
  intro history host
  have hgained : Host.Gained { name, matching } host history.added :=
    gained_ofCalls name matching registry calls
  have hordered : Host.Ordered host.routes := hgained.ordered List.Pairwise.nil
  have hperm : host.routes.Perm history.added := by
    simpa using hgained.routes
  refine ⟨hordered, hperm, ?_, ?_, hperm.length_eq, ?_, ?_⟩
  · exact (hperm.map Prod.fst).nodup_iff.mp hordered.nodup_paths
  · intro path
    rw [hgained.route]
    rfl
  · intro before routes
    exact Construction.countEach_loadRoute_gained routes routes.table before
  · intro before path backend outcome
    by_cases htaken : path ∈ before.host.paths
    · have hrun : outcome = _ := Construction.addRoute_run_of_mem htaken backend
      rw [hrun]
      exact ⟨htaken, rfl, rfl⟩
    · have hrun : outcome = _ := Construction.addRoute_run_of_not_mem htaken backend
      rw [hrun]
      exact ⟨htaken, rfl, Host.gained_withRoute htaken backend⟩

/-- A handler whose path is taken by a proxy: the host keeps the proxy, the registry has the
handler. -/
example :
    let handler : Table := [("type", .string "handler"), ("send_spec", .string "ipc://a"),
      ("send_ident", .string "in"), ("recv_spec", .string "ipc://b"), ("recv_ident", .string "")]
    let history := ofCalls "chat" "chat" {}
      [.addRoute "/" (.proxy ⟨"10.0.0.1", 80⟩), .loadRoutes ⟨"routes", [("/", .table handler)]⟩]
    history.added = [("/", .proxy ⟨"10.0.0.1", 80⟩)] ∧
      history.construction.registry.identities = [("ipc://a", "ipc://b")] := by
  cbv

end RouteHistory

end HostRouting
