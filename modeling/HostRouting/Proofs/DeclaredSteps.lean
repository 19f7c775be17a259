import HostRouting.Event
import HostRouting.Proofs.Defects
import HostRouting.Proofs.RouteLoading
import HostRouting.Server.Compile

/-!
# The steps through a document

Working through the record of a server is a row of steps, which can be listed from the record
alone: at each step something is reported, or a defect is found.  The listing goes on behind a
defect as if it were not there; what a run does are the steps before the first one.
-/

namespace HostRouting

open Toml (Table Value)

namespace Registry

/-- What is reported about a candidate: which socket it shares with each of the handlers that come
before the one with both of its sockets, in the order in which they were registered. -/
def clashes (registry : Registry) (candidate : Handler) : List Event :=
  (registry.handlers.takeWhile fun handler => handler.identity ≠ candidate.identity).flatMap
    (collision candidate)

theorem scan_events (candidate : Handler) (handlers : List Handler) :
    (scan candidate handlers).1 =
      (handlers.takeWhile fun handler => handler.identity ≠ candidate.identity).flatMap
        (collision candidate) := by
  induction handlers with
  | nil => rfl
  | cons handler rest ih =>
      by_cases hsame : handler.identity = candidate.identity
      · have hboth := (sameSockets_iff handler candidate).mpr hsame
        simp [scan, hboth, hsame]
      · have hdiffer : ¬ (handler.sameSend candidate && handler.sameRecv candidate) = true := by
          rwa [sameSockets_iff]
        rw [scan, if_neg hdiffer, List.takeWhile_cons_of_pos (by simpa using hsame),
          List.flatMap_cons, ← ih]

theorem warnings_eq (registry : Registry) (backend : Backend) :
    registry.warnings backend = backend.candidates.flatMap registry.clashes :=
  congrArg backend.candidates.flatMap <| funext fun candidate =>
    scan_events candidate registry.handlers

theorem area_of_mem_clashes {registry : Registry} {candidate : Handler} {event : Event}
    (hmem : event ∈ registry.clashes candidate) : event.area = ["routing", "registry"] := by
  obtain ⟨handler, -, hcollision⟩ := List.mem_flatMap.mp hmem
  rw [collision] at hcollision
  split at hcollision
  · rw [List.mem_singleton.mp hcollision]
    rfl
  · split at hcollision
    · rw [List.mem_singleton.mp hcollision]
      rfl
    · cases hcollision

end Registry

theorem Backend.area_of_mem_loaded {label : String} {backend : Backend} {event : Event}
    (hmem : event ∈ backend.loaded label) : event.area = ["compiler", "backend"] := by
  cases backend with
  | directory served =>
      rw [List.mem_singleton.mp hmem]
      rfl
  | handler candidate slot =>
      rw [List.mem_singleton.mp hmem]
      rfl
  | proxy target =>
      rcases List.mem_append.mp hmem with hmem | hmem
      · split at hmem
        · cases hmem
        · rw [List.mem_singleton.mp hmem]
          rfl
      · rw [List.mem_singleton.mp hmem]
        rfl

namespace Declared

/-- A step through a document: something is reported, or a defect is found. -/
inductive Step where
  | report (event : Event)
  | fail (failure : Failure)

namespace Step

/-- What is reported before the first defect. -/
def reported : List Step → List Event
  | [] => []
  | .report event :: rest => event :: reported rest
  | .fail _ :: _ => []

def failures : List Step → List Failure
  | [] => []
  | .report _ :: rest => failures rest
  | .fail failure :: rest => failure :: failures rest

@[simp]
theorem reported_map_report (events : List Event) : reported (events.map .report) = events := by
  induction events with
  | nil => rfl
  | cons event rest ih => rw [List.map_cons, reported, ih]

@[simp]
theorem reported_map_fail (failures : List Failure) : reported (failures.map .fail) = [] := by
  cases failures <;> rfl

@[simp]
theorem failures_map_report (events : List Event) : failures (events.map .report) = [] := by
  induction events with
  | nil => rfl
  | cons event rest ih => rw [List.map_cons, failures, ih]

@[simp]
theorem failures_map_fail (found : List Failure) : failures (found.map .fail) = found := by
  induction found with
  | nil => rfl
  | cons failure rest ih => rw [List.map_cons, failures, ih]

@[simp]
theorem failures_append (first rest : List Step) :
    failures (first ++ rest) = failures first ++ failures rest := by
  induction first with
  | nil => rfl
  | cons step steps ih => cases step <;> simp [failures, ih]

/-- Further steps only count when there is no defect before them. -/
theorem reported_append (first rest : List Step) :
    reported (first ++ rest) =
      reported first ++ if failures first = [] then reported rest else [] := by
  induction first with
  | nil => simp [reported, failures]
  | cons step steps ih =>
      cases step with
      | report event =>
          rw [List.cons_append, reported, ih, reported, List.cons_append]
          rfl
      | fail failure => simp [reported, failures]

theorem reported_append_of_clean {first : List Step} (hclean : failures first = [])
    (rest : List Step) : reported (first ++ rest) = reported first ++ reported rest := by
  rw [reported_append, if_pos hclean]

theorem reported_append_of_defect {first : List Step} (hdefect : failures first ≠ [])
    (rest : List Step) : reported (first ++ rest) = reported first := by
  rw [reported_append, if_neg hdefect, List.append_nil]

theorem mem_of_mem_reported {steps : List Step} {event : Event}
    (hmem : event ∈ reported steps) : .report event ∈ steps := by
  induction steps with
  | nil => cases hmem
  | cons step rest ih =>
      cases step with
      | report first =>
          rcases List.mem_cons.mp hmem with rfl | hmem
          · exact List.mem_cons_self
          · exact List.mem_cons_of_mem _ (ih hmem)
      | fail failure => cases hmem

end Step

/-! ## Routes -/

/-- What is reported about a route that is built, when some handlers are registered. -/
def routeTrail (host : String) (registry : Registry) (path : String) (backend : Backend) :
    List Event :=
  backend.loaded (Construction.routeLabel host path) ++
    backend.candidates.flatMap registry.clashes ++ [.routeLoaded host path backend.kind]

def entryTrail (host : String) (registry : Registry) (entry : String × Value) : List Event :=
  (backend? entry.2).elim [] (routeTrail host registry entry.1)

def entrySteps (host label : String) (registry : Registry) (entry : String × Value) : List Step :=
  (routeDefects host label entry).map .fail ++ (entryTrail host registry entry).map .report

/-- The steps through the routes of a host.  Each handler record is registered before the next
entry is looked at. -/
def routesSteps (host label : String) : Registry → Table → List Step
  | _, [] => []
  | registry, entry :: rest =>
      entrySteps host label registry entry ++
        routesSteps host label (registry.extend (candidates entry.2)) rest

def routesTrail (host : String) : Registry → Table → List Event
  | _, [] => []
  | registry, entry :: rest =>
      entryTrail host registry entry ++
        routesTrail host (registry.extend (candidates entry.2)) rest

@[simp]
theorem failures_entrySteps (host label : String) (registry : Registry)
    (entry : String × Value) :
    Step.failures (entrySteps host label registry entry) = routeDefects host label entry := by
  simp [entrySteps]

@[simp]
theorem failures_routesSteps (host label : String) (registry : Registry) (routes : Table) :
    Step.failures (routesSteps host label registry routes) =
      routes.flatMap (routeDefects host label) := by
  induction routes generalizing registry with
  | nil => rfl
  | cons entry rest ih => rw [routesSteps, Step.failures_append, failures_entrySteps, ih,
      List.flatMap_cons]

theorem reported_routesSteps {host label : String} {registry : Registry} {routes : Table}
    (hclean : routes.flatMap (routeDefects host label) = []) :
    Step.reported (routesSteps host label registry routes) =
      routesTrail host registry routes := by
  induction routes generalizing registry with
  | nil => rfl
  | cons entry rest ih =>
      rw [List.flatMap_cons, List.append_eq_nil_iff] at hclean
      have hentry : Step.failures (entrySteps host label registry entry) = [] := by
        rw [failures_entrySteps, hclean.1]
      rw [routesSteps, Step.reported_append_of_clean hentry, ih hclean.2, entrySteps, hclean.1,
        List.map_nil, List.nil_append, Step.reported_map_report, routesTrail]

/-- What is reported about a route is about its backend, the registry or itself. -/
theorem area_of_mem_routeTrail {host path : String} {registry : Registry} {backend : Backend}
    {event : Event} (hmem : event ∈ routeTrail host registry path backend) :
    event.area = ["compiler", "backend"] ∨ event.area = ["routing", "registry"] ∨
      event.area = ["compiler", "routes"] := by
  rcases List.mem_append.mp hmem with hmem | hmem
  · rcases List.mem_append.mp hmem with hmem | hmem
    · exact Or.inl (Backend.area_of_mem_loaded hmem)
    · obtain ⟨candidate, -, hclash⟩ := List.mem_flatMap.mp hmem
      exact Or.inr (Or.inl (Registry.area_of_mem_clashes hclash))
  · rw [List.mem_singleton.mp hmem]
    exact Or.inr (Or.inr rfl)

theorem area_of_mem_routesSteps {host label : String} {registry : Registry} {routes : Table}
    {event : Event} (hmem : .report event ∈ routesSteps host label registry routes) :
    event.area ≠ ["compiler", "server"] := by
  induction routes generalizing registry with
  | nil => cases hmem
  | cons entry rest ih =>
      rcases List.mem_append.mp hmem with hmem | hmem
      · have htrail : event ∈ entryTrail host registry entry := by simpa [entrySteps] using hmem
        rw [entryTrail] at htrail
        cases hbackend : backend? entry.2 with
        | none => simp [hbackend] at htrail
        | some backend =>
            rw [hbackend] at htrail
            rcases area_of_mem_routeTrail htrail with harea | harea | harea <;> simp [harea]
      · exact ih hmem

/-! ## Hosts -/

def hostFieldDefects (label : String) (table : Table) : List Failure :=
  [defect label "name" (text? table "name"),
    defect label "matching" (text? table "matching"),
    defect label "routes" (entries? table "routes")].flatten

/-- That the name of a host belongs to an earlier host. -/
def takenDefects (uuid : String) (earlier : List String) (name : String) : List Failure :=
  if name ∈ earlier then [.duplicateHost uuid name] else []

def namedSteps (label uuid : String) (earlier : List String) (registry : Registry)
    (name : String) (matching? : Option String) (routes : Table) : List Step :=
  routesSteps name (label ++ " routes") registry routes ++
    ((takenDefects uuid earlier name).map .fail ++
      matching?.toList.map fun pattern => .report (.hostLoaded name pattern routes.length))

/-- The steps through the record of a host.  Behind its fields there are only steps if it has a
name and routes. -/
def hostSteps (label uuid : String) (earlier : List String) (registry : Registry)
    (table : Table) : List Step :=
  (hostFieldDefects label table).map .fail ++
    match text? table "name", entries? table "routes" with
    | some name, some routes =>
        namedSteps label uuid earlier registry name (text? table "matching") routes
    | _, _ => []

def elementSteps (server uuid : String) (earlier : List String) (registry : Registry)
    (position : Nat) : Value → List Step
  | .table table =>
      hostSteps (server ++ " " ++ Record.itemName "hosts" position) uuid earlier registry table
  | _ => [.fail (.missingField server (Record.itemName "hosts" position))]

def hostsSteps (server uuid : String) :
    List String → Registry → Nat → List Value → List Step
  | _, _, _, [] => []
  | earlier, registry, position, element :: rest =>
      elementSteps server uuid earlier registry position element ++
        hostsSteps server uuid (earlier ++ (hostName? element).toList)
          (registry.extend (routeHandlers (routes element))) (position + 1) rest

/-- What is reported about a row of elements from which hosts were built. -/
def hostsTrail : Registry → List Value → List Host → List Event
  | registry, element :: elements, host :: hosts =>
      routesTrail host.name registry (routes element) ++
        .hostLoaded host.name host.matching host.routes.length ::
          hostsTrail (registry.extend (routeHandlers (routes element))) elements hosts
  | _, _, _ => []

@[simp]
theorem failures_namedSteps (label uuid : String) (earlier : List String) (registry : Registry)
    (name : String) (matching? : Option String) (routes : Table) :
    Step.failures (namedSteps label uuid earlier registry name matching? routes) =
      namedDefects label uuid earlier name routes := by
  cases matching? <;> simp [namedSteps, namedDefects, takenDefects, Step.failures]

theorem failures_elementSteps (server uuid : String) (earlier : List String)
    (registry : Registry) (position : Nat) (element : Value) :
    Step.failures (elementSteps server uuid earlier registry position element) =
      hostDefects server uuid earlier position element := by
  cases element with
  | table table =>
      rw [elementSteps, hostSteps, hostDefects, Step.failures_append, Step.failures_map_fail,
        hostFieldDefects]
      congr 1
      cases text? table "name" with
      | none => rfl
      | some name =>
          cases entries? table "routes" with
          | none => rfl
          | some routes => exact failures_namedSteps _ _ _ _ _ _ _
  | _ => rfl

theorem failures_hostsSteps (server uuid : String) (earlier : List String) (registry : Registry)
    (position : Nat) (elements : List Value) :
    Step.failures (hostsSteps server uuid earlier registry position elements) =
      hostsDefects server uuid earlier position elements := by
  induction elements generalizing earlier registry position with
  | nil => rfl
  | cons element rest ih =>
      rw [hostsSteps, Step.failures_append, failures_elementSteps, ih, hostsDefects]

theorem area_of_mem_hostSteps {label uuid : String} {earlier : List String}
    {registry : Registry} {table : Table} {event : Event}
    (hmem : .report event ∈ hostSteps label uuid earlier registry table) :
    event.area ≠ ["compiler", "server"] := by
  rcases List.mem_append.mp hmem with hmem | hmem
  · simp at hmem
  · split at hmem
    · rcases List.mem_append.mp hmem with hmem | hmem
      · exact area_of_mem_routesSteps hmem
      · simp only [List.mem_append, List.mem_map, reduceCtorEq, and_false, exists_false,
          false_or, Step.report.injEq] at hmem
        obtain ⟨pattern, -, rfl⟩ := hmem
        simp [Event.area]
    · cases hmem

/-- Nothing that is reported about hosts is about the server itself. -/
theorem area_of_mem_hostsSteps {server uuid : String} {earlier : List String}
    {registry : Registry} {position : Nat} {elements : List Value} {event : Event}
    (hmem : .report event ∈ hostsSteps server uuid earlier registry position elements) :
    event.area ≠ ["compiler", "server"] := by
  induction elements generalizing earlier registry position with
  | nil => cases hmem
  | cons element rest ih =>
      rcases List.mem_append.mp hmem with hmem | hmem
      · cases element with
        | table table => exact area_of_mem_hostSteps hmem
        | _ => simp [elementSteps] at hmem
      · exact ih hmem

def hostListSteps (label uuid : String) (earlier : List String) (registry : Registry)
    (table : Table) : List Step :=
  (defect label "hosts" (items? table "hosts")).map .fail ++
    (hostsSteps label uuid earlier registry 0 (hosts table) ++
      [.report (.hostsLoaded uuid (hosts table).length)])

@[simp]
theorem failures_hostListSteps (label uuid : String) (earlier : List String)
    (registry : Registry) (table : Table) :
    Step.failures (hostListSteps label uuid earlier registry table) =
      defect label "hosts" (items? table "hosts") ++
        hostsDefects label uuid earlier 0 (hosts table) := by
  simp [hostListSteps, failures_hostsSteps, Step.failures]

/-! ## Servers -/

/-- What is reported about the identifier of a server: that it is none. -/
def uuidTrail (name uuid : String) : List Event :=
  if Uuid.isValid uuid then [] else [.invalidUuid name uuid]

/-- What is reported about the default host among some hosts: that it is not there. -/
def defaultTrail (name defaultHostName : String) (hosts : List String) : List Event :=
  if defaultHostName ∈ hosts then [] else [.noDefaultHost name defaultHostName]

def shellSteps (name label : String) (table : Table) (shell : Shell) : List Step :=
  (uuidTrail name shell.uuid).map .report ++
    (hostListSteps label shell.uuid [] {} table ++
      ((defaultTrail name shell.defaultHostName ((hosts table).filterMap hostName?)).map .report ++
        [.report (.serverCompiled name shell.uuid shell.bindAddress shell.port
          (hosts table).length (registry (handlers table)).size)]))

def serverSteps (name label : String) (table : Table) : List Step :=
  (shellDefects label table).map .fail ++ (shell? table).elim [] (shellSteps name label table)

@[simp]
theorem failures_shellSteps (name label : String) (table : Table) (shell : Shell) :
    Step.failures (shellSteps name label table shell) =
      defect label "hosts" (items? table "hosts") ++
        hostsDefects label shell.uuid [] 0 (hosts table) := by
  simp [shellSteps, Step.failures]

/-- A table describes a shell when none of its fields is defective. -/
theorem shellDefects_eq_nil_iff (label : String) (table : Table) :
    shellDefects label table = [] ↔ (shell? table).isSome = true := by
  have hfailure := Shell.failure?_ofRecord ⟨label, table⟩
  rw [← List.head?_eq_none_iff, ← hfailure, ← Shell.toOption_ofRecord ⟨label, table⟩]
  cases Shell.ofRecord ⟨label, table⟩ <;> simp

/-- The first defect that the steps find is the first defect of the record. -/
theorem head?_failures_serverSteps (name label : String) (table : Table) :
    (Step.failures (serverSteps name label table)).head? = (serverDefects label table).head? := by
  rw [serverSteps, serverDefects, Step.failures_append, Step.failures_map_fail, List.append_assoc]
  have hsome := shellDefects_eq_nil_iff label table
  cases hshell : shell? table with
  | none =>
      rw [hshell] at hsome
      cases hdefects : shellDefects label table with
      | nil => simp [hdefects] at hsome
      | cons failure rest => rfl
  | some shell =>
      rw [Option.elim_some, failures_shellSteps, shell?_uuid hshell, Option.getD_some]

end Declared

end HostRouting
