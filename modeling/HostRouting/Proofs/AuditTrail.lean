import HostRouting.Proofs.BegunHosts
import HostRouting.Proofs.DocumentKeys
import HostRouting.Proofs.FirstDefect
import HostRouting.Proofs.WrittenEvents

/-!
# The audit trail

What compiling a server reports can be told from its record: the reports of the steps before the
first defect.  Where there is none, these are all reports of the document in its order, closed by
what the compiled server counts.
-/

namespace HostRouting

open Toml (Table Value)

namespace Declared

/-! ## Trails of documents without defects -/

theorem HostIn.length_routes {registry : Registry} {element : Value} {host : Host}
    (hhost : HostIn registry element host) :
    (Declared.routes element).length = host.routes.length := by
  have hlength := hhost.paths.length_eq
  rw [Host.paths, List.length_map, List.length_map] at hlength
  exact hlength.symm

/-- Where a host was built from an element, the steps through the element report its routes and then
the host. -/
theorem reported_elementSteps {server uuid : String} {earlier : List String}
    {kept registry : Registry} {position : Nat} {element : Value} {host : Host}
    (hhost : HostIn kept element host)
    (hclean : hostDefects server uuid earlier position element = []) :
    Step.reported (elementSteps server uuid earlier registry position element) =
      routesTrail host.name registry (routes element) ++
        [.hostLoaded host.name host.matching host.routes.length] := by
  have hlength := hhost.length_routes
  obtain ⟨table, rfl, hname, hmatching, hentries⟩ := hhost.fields
  have hfields : ∀ label, hostFieldDefects label table = [] := by
    intro label
    simp [hostFieldDefects, hname, hmatching, hentries]
  rw [hostDefects, List.append_eq_nil_iff, hname, hentries] at hclean
  obtain ⟨hroutes, htaken⟩ := List.append_eq_nil_iff.mp hclean.2
  let label := server ++ " " ++ Record.itemName "hosts" position
  have hfirst : Step.failures (routesSteps host.name (label ++ " routes") registry
      (routes (.table table))) = [] := by
    rw [failures_routesSteps, hroutes]
  rw [elementSteps, hostSteps, hfields, hname, hentries, hmatching, List.map_nil, List.nil_append]
  change Step.reported (namedSteps label uuid earlier registry host.name (some host.matching)
    (routes (.table table))) = _
  rw [namedSteps, Step.reported_append_of_clean hfirst, reported_routesSteps hroutes, takenDefects,
    htaken, hlength]
  rfl

theorem reported_hostsSteps {server uuid : String} {earlier : List String}
    {kept registry : Registry} {position : Nat} {elements : List Value} {built : List Host}
    (hhosts : List.Forall₂ (HostIn kept) elements built)
    (hclean : hostsDefects server uuid earlier position elements = []) :
    Step.reported (hostsSteps server uuid earlier registry position elements) =
      hostsTrail registry elements built := by
  induction hhosts generalizing earlier registry position with
  | nil => rfl
  | @cons element host elements built hhost _ ih =>
      obtain ⟨hfirst, hrest⟩ := List.append_eq_nil_iff.mp hclean
      have helement : Step.failures
          (elementSteps server uuid earlier registry position element) = [] := by
        rw [failures_elementSteps, hfirst]
      rw [hostsSteps, Step.reported_append_of_clean helement, reported_elementSteps hhost hfirst,
        ih hrest, hostsTrail, List.append_assoc]
      rfl

/-- Behind the shell, the steps before the first defect are those through the hosts, and only
where these find nothing the closing ones. -/
theorem reported_shellSteps (name label : String) (table : Table) (shell : Shell) :
    Step.reported (shellSteps name label table shell) =
      uuidTrail name shell.uuid ++
        (Step.reported (hostListSteps label shell.uuid [] {} table) ++
          if Step.failures (hostListSteps label shell.uuid [] {} table) = [] then
            defaultTrail name shell.defaultHostName ((hosts table).filterMap hostName?) ++
              [.serverCompiled name shell.uuid shell.bindAddress shell.port (hosts table).length
                (registry (handlers table)).size]
          else []) := by
  rw [shellSteps, Step.reported_append_of_clean (Step.failures_map_report _),
    Step.reported_map_report, Step.reported_append,
    Step.reported_append_of_clean (Step.failures_map_report _), Step.reported_map_report]
  rfl

theorem reported_hostListSteps {label uuid : String} {earlier : List String}
    {kept registry : Registry} {table : Table} {built : List Host}
    (hhosts : List.Forall₂ (HostIn kept) (hosts table) built)
    (hclean : Step.failures (hostListSteps label uuid earlier registry table) = []) :
    Step.reported (hostListSteps label uuid earlier registry table) =
      hostsTrail registry (hosts table) built ++ [.hostsLoaded uuid (hosts table).length] := by
  rw [failures_hostListSteps, List.append_eq_nil_iff] at hclean
  obtain ⟨hitems, helements⟩ := hclean
  have hsteps : Step.failures (hostsSteps label uuid earlier registry 0 (hosts table)) = [] := by
    rw [failures_hostsSteps, helements]
  rw [hostListSteps, hitems, List.map_nil, List.nil_append,
    Step.reported_append_of_clean hsteps, reported_hostsSteps hhosts helements]
  rfl

/-- Where there is no defect, the steps through a server report its identifier if it is none, its
hosts, their number, that there is no default host if so, and the server. -/
theorem reported_serverSteps {name label : String} {table : Table} {shell : Shell}
    {kept : Registry} {built : List Host} (hshell : shell? table = some shell)
    (hhosts : List.Forall₂ (HostIn kept) (hosts table) built)
    (hclean : Step.failures (serverSteps name label table) = []) :
    Step.reported (serverSteps name label table) =
      uuidTrail name shell.uuid ++
        ((hostsTrail {} (hosts table) built ++ [.hostsLoaded shell.uuid (hosts table).length]) ++
          (defaultTrail name shell.defaultHostName ((hosts table).filterMap hostName?) ++
            [.serverCompiled name shell.uuid shell.bindAddress shell.port (hosts table).length
              (registry (handlers table)).size])) := by
  rw [serverSteps, hshell, Option.elim_some] at hclean ⊢
  rw [Step.failures_append, Step.failures_map_fail, failures_shellSteps,
    List.append_eq_nil_iff] at hclean
  have hlist : Step.failures (hostListSteps label shell.uuid [] {} table) = [] := by
    rw [failures_hostListSteps, hclean.2]
  rw [hclean.1, List.map_nil, List.nil_append, reported_shellSteps, if_pos hlist,
    reported_hostListSteps hhosts hlist]

/-- A server is not reported as compiled when its record has a defect. -/
theorem serverCompiled_not_mem_reported {name label : String} {table : Table}
    (hdefect : Step.failures (serverSteps name label table) ≠ [])
    (server uuid bindAddress : String) (port : Int64) (hosts handlers : Nat) :
    .serverCompiled server uuid bindAddress port hosts handlers ∉
      Step.reported (serverSteps name label table) := by
  intro hmem
  rw [serverSteps] at hdefect hmem
  rw [Step.failures_append, Step.failures_map_fail] at hdefect
  rw [Step.reported_append, Step.reported_map_fail, Step.failures_map_fail, List.nil_append] at hmem
  split at hmem
  · rename_i hfields
    obtain ⟨shell, hshell⟩ := Option.isSome_iff_exists.mp
      ((shellDefects_eq_nil_iff label table).mp hfields)
    rw [hfields, hshell, List.nil_append, Option.elim_some, failures_shellSteps,
      ← failures_hostListSteps label shell.uuid [] {} table] at hdefect
    rw [hshell, Option.elim_some, reported_shellSteps, if_neg hdefect, List.append_nil] at hmem
    -- Of the steps behind the shell, only those before the closing ones are left.
    rcases List.mem_append.mp hmem with hmem | hmem
    · rw [uuidTrail] at hmem
      split at hmem <;> simp at hmem
    · have hreport := Step.mem_of_mem_reported hmem
      simp only [hostListSteps, List.mem_append, List.mem_map, reduceCtorEq, and_false,
        exists_false, false_or, List.mem_singleton, Step.report.injEq, or_false] at hreport
      exact area_of_mem_hostsSteps hreport rfl
  · cases hmem

/-- The routes that are reported are those of the hosts. -/
theorem loadedRoutes_serverSteps {name label : String} {table : Table} {shell : Shell}
    (hshell : shell? table = some shell) :
    Event.loadedRoutes (Step.reported (serverSteps name label table)) =
      Event.loadedRoutes (Step.reported (hostListSteps label shell.uuid [] {} table)) := by
  have hsome : (shell? table).isSome = true := by rw [hshell, Option.isSome_some]
  have huuid : Event.loadedRoutes (uuidTrail name shell.uuid) = [] := by
    rw [uuidTrail]
    split <;> rfl
  rw [serverSteps, (shellDefects_eq_nil_iff label table).mpr hsome, hshell, Option.elim_some,
    List.map_nil, List.nil_append, reported_shellSteps, Event.loadedRoutes_append, huuid,
    List.nil_append, Event.loadedRoutes_append]
  split
  · rw [Event.loadedRoutes_append, defaultTrail]
    split <;> exact List.append_nil _
  · exact List.append_nil _

/-! ## How much is reported -/

theorem infoCount_loaded (label : String) (backend : Backend) :
    Event.infoCount (backend.loaded label) = 1 := by
  cases backend with
  | proxy target =>
      rw [Backend.loaded]
      split <;> rfl
  | _ => rfl

/-- What is reported about a registry is never mere information. -/
theorem infoCount_clashes (registry : Registry) (backend : Backend) :
    Event.infoCount (backend.candidates.flatMap registry.clashes) = 0 := by
  rw [Event.infoCount, List.countP_eq_zero]
  intro event hmem
  obtain ⟨candidate, -, hclash⟩ := List.mem_flatMap.mp hmem
  have harea := Registry.area_of_mem_clashes hclash
  cases event <;> simp [Event.area, Event.level] at harea ⊢

/-- Of each route there are two pieces of information: its backend and itself. -/
theorem infoCount_routeTrail (host : String) (registry : Registry) (path : String)
    (backend : Backend) : Event.infoCount (routeTrail host registry path backend) = 2 := by
  rw [routeTrail, Event.infoCount_append, Event.infoCount_append, infoCount_loaded,
    infoCount_clashes]
  rfl

theorem infoCount_routesTrail {host : String} {registry : Registry} {routes : Table}
    (hsound : ∀ entry ∈ routes, (backend? entry.2).isSome = true) :
    Event.infoCount (routesTrail host registry routes) = 2 * routes.length := by
  induction routes generalizing registry with
  | nil => rfl
  | cons entry rest ih =>
      rw [List.forall_mem_cons] at hsound
      obtain ⟨backend, hbackend⟩ := Option.isSome_iff_exists.mp hsound.1
      have hentry : Event.infoCount (entryTrail host registry entry) = 2 := by
        rw [entryTrail, hbackend, Option.elim_some, infoCount_routeTrail]
      rw [routesTrail, Event.infoCount_append, hentry, ih hsound.2, List.length_cons]
      omega

/-- Of each host there is one piece of information besides those of its routes. -/
theorem infoCount_hostsTrail {kept registry : Registry} {elements : List Value}
    {built : List Host} (hhosts : List.Forall₂ (HostIn kept) elements built) :
    Event.infoCount (hostsTrail registry elements built) =
      built.length + 2 * (built.flatMap Host.routes).length := by
  induction hhosts generalizing registry with
  | nil => rfl
  | @cons element host elements built hhost _ ih =>
      have hsound : ∀ entry ∈ routes element, (backend? entry.2).isSome = true := by
        intro entry hmem
        obtain ⟨candidate, _, hbackend, -⟩ := hhost.routes entry hmem
        rw [hbackend, Option.isSome_some]
      have hone : ∀ events, Event.infoCount
          (.hostLoaded host.name host.matching host.routes.length :: events) =
            Event.infoCount events + 1 := fun events => List.countP_cons_of_pos rfl
      rw [hostsTrail, Event.infoCount_append, infoCount_routesTrail hsound, hone, ih,
        hhost.length_routes, List.flatMap_cons, List.length_append, List.length_cons]
      omega

end Declared

/-! ## Compiling -/

namespace Server

/-- The hosts that are begun when a record is compiled. -/
def begunHosts (record : Record) : List Host :=
  (Declared.shell? record.table).elim [] fun shell =>
    begun { shell } (itemsFrom record 0 (Declared.hosts record.table))

/-- What is reported when a server was compiled. -/
theorem events_of_compile {root record : Record} {name : String} {server : Server}
    (hkeys : Table.hasDistinctKeys root.table = true) (hfind : find root name = .ok record)
    (hcompile : ((compile root name).run ()).result = .ok server) :
    ((compile root name).run ()).events =
      Declared.uuidTrail name server.shell.uuid ++
        Declared.hostsTrail {} (Declared.hosts record.table) server.hosts ++
        [.hostsLoaded server.shell.uuid server.hosts.length] ++
        (if server.defaultHost?.isNone then [.noDefaultHost name server.shell.defaultHostName]
          else []) ++
        [.serverCompiled name server.shell.uuid server.shell.bindAddress server.shell.port
          server.hosts.length server.registry.size] := by
  have hfollows := compile_follows (hasDistinctKeys_of_find hkeys hfind) hfind
  obtain ⟨hshell, hhosts, hregistry, -, hdefault⟩ := compile_built_of_find hfind hcompile
  have hclean : Declared.Step.failures
      (Declared.serverSteps name record.label record.table) = [] := by
    rw [← List.head?_eq_none_iff, ← hfollows.failure, hcompile, failure?_ok]
  have hnames : server.names = (Declared.hosts record.table).filterMap Declared.hostName? :=
    Declared.names_of_hostIn hhosts
  have hclosing : Declared.defaultTrail name server.shell.defaultHostName server.names =
      if server.defaultHost?.isNone then [.noDefaultHost name server.shell.defaultHostName]
        else [] := by
    rw [Declared.defaultTrail, hdefault, ← Option.not_isSome]
    by_cases hmem : server.shell.defaultHostName ∈ server.names
    · rw [if_pos hmem, host?_isSome_iff.mpr hmem]
      rfl
    · rw [if_neg hmem, eq_false_of_ne_true (mt host?_isSome_iff.mp hmem)]
      rfl
  rw [hfollows.events, Declared.reported_serverSteps hshell hhosts hclean, ← hnames, hclosing,
    hhosts.length_eq, ← hregistry]
  simp only [List.append_assoc]

/-- However far compiling gets, it reports the routes of the hosts that it begins. -/
theorem loadedRoutes_of_compile {root record : Record} {name : String}
    (hkeys : Table.hasDistinctKeys root.table = true) (hfind : find root name = .ok record) :
    (Event.loadedRoutes ((compile root name).run ()).events).Perm
      ((begunHosts record).flatMap Host.listing) := by
  have hrecord := hasDistinctKeys_of_find hkeys hfind
  rw [(compile_follows hrecord hfind).events, begunHosts]
  cases hshell : Declared.shell? record.table with
  | none =>
      have hreported : Declared.Step.reported
          (Declared.serverSteps name record.label record.table) = [] := by
        rw [Declared.serverSteps, hshell, Option.elim_none, List.append_nil,
          Declared.Step.reported_map_fail]
      rw [hreported]
      exact List.Perm.refl _
  | some shell =>
      have hreports := loadHosts_reports record { shell }
      rw [(loadHosts_follows hrecord { shell }).events] at hreports
      rw [Declared.loadedRoutes_serverSteps hshell]
      exact hreports

/-- Of what is reported when a server was compiled, two pieces of information are about the server,
one about each host and two about each route. -/
theorem infoCount_of_compile {root record : Record} {name : String} {server : Server}
    (hkeys : Table.hasDistinctKeys root.table = true) (hfind : find root name = .ok record)
    (hcompile : ((compile root name).run ()).result = .ok server) :
    Event.infoCount ((compile root name).run ()).events =
      2 + server.hosts.length + 2 * (server.hosts.flatMap Host.routes).length := by
  obtain ⟨-, hhosts, -⟩ := compile_built_of_find hfind hcompile
  have huuid : Event.infoCount (Declared.uuidTrail name server.shell.uuid) = 0 := by
    rw [Declared.uuidTrail]
    split <;> rfl
  have hdefault : Event.infoCount (if server.defaultHost?.isNone then
      [.noDefaultHost name server.shell.defaultHostName] else []) = 0 := by
    split <;> rfl
  rw [events_of_compile hkeys hfind hcompile]
  simp only [Event.infoCount_append, huuid, hdefault, Declared.infoCount_hostsTrail hhosts]
  simp only [Event.infoCount, Event.level, List.countP_cons_of_pos, List.countP_nil, decide_true]
  omega

/-- The hosts that are begun are those that are built, and at a failure at most one more. -/
theorem begunHosts_eq {record : Record} {shell : Shell}
    (hshell : Declared.shell? record.table = some shell) :
    ∃ last : Option Host,
      begunHosts record = ((loadHosts record).run { shell }).state.hosts ++ last.toList ∧
      ∀ count, ((loadHosts record).run { shell }).result = .ok count → last = none := by
  rw [begunHosts, hshell, Option.elim_some]
  exact begun_loadHosts record { shell }

theorem begunHosts_of_compile {root record : Record} {name : String} {server : Server}
    (hfind : find root name = .ok record)
    (hcompile : ((compile root name).run ()).result = .ok server) :
    begunHosts record = server.hosts := by
  obtain ⟨other, shell, count, events, hother, hread, hrun⟩ := compile_eq_ok hcompile
  obtain rfl : record = other := Except.ok.inj (hfind.symm.trans hother)
  have hshell : Declared.shell? record.table = some shell := by
    rw [← Shell.toOption_ofRecord, hread, toOption_ok]
  obtain ⟨last, hhosts, hlast⟩ := begunHosts_eq hshell
  rw [hrun] at hhosts hlast
  rw [hhosts, hlast count rfl]
  exact List.append_nil _

/-- A run of the program that succeeds reports its own three pieces of information and those of the
compiled server.  Nothing has to be assumed of its document: it was read from a text, and so its
keys are distinct. -/
theorem infoCount_of_success {invocation : Invocation} {text : String}
    (hrun : (Report.ofRun invocation (.ok text)).failure = none) :
    ∃ document server settings mimeTypes, Toml.document? text = some document ∧
      ((compile (.root document) invocation.server).run ()).result = .ok server ∧
      (Report.ofRun invocation (.ok text)).events =
        [.compiling invocation.config invocation.server, .documentRead invocation.config,
          .mapLoaded .settings settings, .mapLoaded .mimeTypes mimeTypes] ++
        ((compile (.root document) invocation.server).run ()).events ∧
      Event.infoCount (Report.ofRun invocation (.ok text)).events =
        5 + server.hosts.length + 2 * (server.hosts.flatMap Host.routes).length := by
  obtain ⟨_, document, server, settings, mimeTypes, hcontent, hdocument, hcompile, hevents⟩ :=
    Report.ofRun_eq_success hrun
  cases hcontent
  obtain ⟨record, hfind, -⟩ := compile_built hcompile
  have hkeys : Table.hasDistinctKeys (Record.root document).table = true :=
    Toml.hasDistinctKeys_of_document hdocument
  have hown : Event.infoCount [.compiling invocation.config invocation.server,
      .documentRead invocation.config, .mapLoaded .settings settings,
      .mapLoaded .mimeTypes mimeTypes] = 3 := rfl
  refine ⟨document, server, settings, mimeTypes, hdocument, hcompile, hevents, ?_⟩
  rw [hevents, Event.infoCount_append, infoCount_of_compile hkeys hfind hcompile, hown]
  omega

/-- What compiling the record of a server reports.

When it succeeds, this is a warning if the identifier is none; for each host and each of its routes
what is reported about the backend, the registry and the route, and then the host with the number
of its routes; the number of hosts; a warning if there is no default host; and the server with the
numbers of its hosts and handlers.  When it fails, these are the reports of the steps before the
first defect, and the server is not among them.

In either case the routes that are reported are exactly those that hosts have been given.  So a
successful run of the program, on whatever text, writes at each level that admits information five
lines of it, one for each host and two for each route. -/
theorem compile_trail {root record : Record} {name : String} (hfind : find root name = .ok record) :
    let outcome := (compile root name).run ()
    let steps := Declared.serverSteps name ("server '" ++ name ++ "'") record.table
    (Table.hasDistinctKeys root.table = true →
      (∀ server, outcome.result = .ok server →
        server.hosts.length = (Declared.hosts record.table).length ∧
        begunHosts record = server.hosts ∧
        outcome.events =
          (if Uuid.isValid server.shell.uuid then [] else [.invalidUuid name server.shell.uuid]) ++
          Declared.hostsTrail {} (Declared.hosts record.table) server.hosts ++
          [.hostsLoaded server.shell.uuid server.hosts.length] ++
          (if server.defaultHost?.isNone then [.noDefaultHost name server.shell.defaultHostName]
            else []) ++
          [.serverCompiled name server.shell.uuid server.shell.bindAddress server.shell.port
            server.hosts.length server.registry.size]) ∧
      (∀ failure, outcome.result = .error failure →
        (Declared.Step.failures steps).head? = some failure ∧
        outcome.events = Declared.Step.reported steps ∧
        ∀ server uuid bindAddress port hosts handlers,
          .serverCompiled server uuid bindAddress port hosts handlers ∉ outcome.events) ∧
      ((Event.loadedRoutes outcome.events).Perm ((begunHosts record).flatMap Host.listing) ∧
        ∀ shell, Declared.shell? record.table = some shell → ∃ last : Option Host,
          begunHosts record = ((loadHosts record).run { shell }).state.hosts ++ last.toList)) ∧
    (∀ (invocation : Invocation) (text : String) (document : Table),
      Toml.document? text = some document → root = .root document → invocation.server = name →
      (Report.ofRun invocation (.ok text)).failure = none →
      ∃ server settings mimeTypes, outcome.result = .ok server ∧
        (Report.ofRun invocation (.ok text)).events =
          [.compiling invocation.config name, .documentRead invocation.config,
            .mapLoaded .settings settings, .mapLoaded .mimeTypes mimeTypes] ++ outcome.events ∧
        ∀ level ∈ ["info", "debug", "trace"], ∃ filter, LogFilter.ofLevel? level = some filter ∧
          filter.count .info (Report.ofRun invocation (.ok text)).events =
            5 + server.hosts.length + 2 * (server.hosts.flatMap Host.routes).length) := by
  refine ⟨fun hkeys => ?_, ?_⟩
  · have hfollows := compile_follows (hasDistinctKeys_of_find hkeys hfind) hfind
    rw [(find_eq_ok hfind).1] at hfollows
    refine ⟨?_, ?_, loadedRoutes_of_compile hkeys hfind, ?_⟩
    · intro server hcompile
      obtain ⟨-, hhosts, -⟩ := compile_built_of_find hfind hcompile
      exact ⟨hhosts.length_eq.symm, begunHosts_of_compile hfind hcompile,
        events_of_compile hkeys hfind hcompile⟩
    · intro failure hfailure
      have hfirst := hfollows.failure
      rw [hfailure, failure?_error] at hfirst
      refine ⟨hfirst.symm, hfollows.events, ?_⟩
      rw [hfollows.events]
      apply Declared.serverCompiled_not_mem_reported
      intro hclean
      rw [hclean] at hfirst
      cases hfirst
    · intro shell hshell
      obtain ⟨last, hlast, -⟩ := begunHosts_eq hshell
      exact ⟨last, hlast⟩
  · rintro invocation text document hdocument rfl rfl hrun
    obtain ⟨_, server, settings, mimeTypes, hother, hcompile, hevents, hinformation⟩ :=
      infoCount_of_success hrun
    obtain rfl := Option.some.inj (hdocument.symm.trans hother)
    refine ⟨server, settings, mimeTypes, hcompile, hevents, ?_⟩
    intro level hlevel
    obtain ⟨filter, hfilter, hcount⟩ := LogFilter.count_info hlevel
    exact ⟨filter, hfilter, (hcount _).trans hinformation⟩

def proxyRecord (port : Int64) : Value :=
  .table [("type", .string "proxy"), ("addr", .string "127.0.0.1"), ("port", .integer port)]

/-- A document with proxies at the last ports inside of the range and the first ones outside. -/
def borderingDocument : Table :=
  Declared.document [Declared.hostRecord "localhost" [("/zero", proxyRecord 0),
    ("/least", proxyRecord 1), ("/most", proxyRecord 65535), ("/beyond", proxyRecord 65536)]]

theorem compile_trail_sharing_clashing :
    (∃ server, ((compile (.root Declared.sharingDocument) "main").run ()).result = .ok server ∧
      ((compile (.root Declared.sharingDocument) "main").run ()).events =
        [.invalidUuid "main" "f400bf85",
          .handlerLoaded "host 'localhost' route '/chat'"
            ⟨"tcp://127.0.0.1:9999", "first", "tcp://127.0.0.1:9998", "", .tnet, true⟩,
          .routeLoaded "localhost" "/chat" .handler,
          .proxyLoaded "host 'localhost' route '/api'" ⟨"127.0.0.1", 8080⟩,
          .routeLoaded "localhost" "/api" .proxy,
          .hostLoaded "localhost" "localhost" 2,
          .handlerLoaded "host 'files' route '/chat'"
            ⟨"tcp://127.0.0.1:9999", "second", "tcp://127.0.0.1:9998", "", .tnet, true⟩,
          .routeLoaded "files" "/chat" .handler,
          .handlerLoaded "host 'files' route '/mail'"
            ⟨"tcp://127.0.0.1:9999", "third", "tcp://127.0.0.1:9996", "", .tnet, true⟩,
          .sharedSend "tcp://127.0.0.1:9999",
          .routeLoaded "files" "/mail" .handler,
          .hostLoaded "files" "files" 2,
          .hostsLoaded "f400bf85" 2,
          .serverCompiled "main" "f400bf85" "0.0.0.0" 6767 2 2]) ∧
    ((compile (.root clashingDocument) "main").run ()).events =
      [.invalidUuid "main" "f400bf85", .hostLoaded "localhost" "localhost" 0] ∧
    ∃ server, ((compile (.root borderingDocument) "main").run ()).result = .ok server ∧
      ((compile (.root borderingDocument) "main").run ()).events =
        [.invalidUuid "main" "f400bf85",
          .unusablePort "host 'localhost' route '/zero'" 0,
          .proxyLoaded "host 'localhost' route '/zero'" ⟨"127.0.0.1", 0⟩,
          .routeLoaded "localhost" "/zero" .proxy,
          .proxyLoaded "host 'localhost' route '/least'" ⟨"127.0.0.1", 1⟩,
          .routeLoaded "localhost" "/least" .proxy,
          .proxyLoaded "host 'localhost' route '/most'" ⟨"127.0.0.1", 65535⟩,
          .routeLoaded "localhost" "/most" .proxy,
          .unusablePort "host 'localhost' route '/beyond'" 65536,
          .proxyLoaded "host 'localhost' route '/beyond'" ⟨"127.0.0.1", 65536⟩,
          .routeLoaded "localhost" "/beyond" .proxy,
          .hostLoaded "localhost" "localhost" 4,
          .hostsLoaded "f400bf85" 1,
          .serverCompiled "main" "f400bf85" "0.0.0.0" 6767 1 0] := by
  refine ⟨?_, ?_, ?_⟩
  · have hcompile : ((compile (.root Declared.sharingDocument) "main").run ()).result =
        .ok _ := rfl
    refine ⟨_, hcompile, ?_⟩
    rw [(((compile_trail rfl).1 (by decide)).1 _ hcompile).2.2]
    decide +kernel
  · have hfailure : ((compile (.root clashingDocument) "main").run ()).result =
        .error (.duplicateHost "f400bf85" "localhost") := rfl
    rw [(((compile_trail rfl).1 (by decide)).2.1 _ hfailure).2.1]
    decide +kernel
  · have hcompile : ((compile (.root borderingDocument) "main").run ()).result = .ok _ := rfl
    refine ⟨_, hcompile, ?_⟩
    rw [(((compile_trail rfl).1 (by decide)).1 _ hcompile).2.2]
    decide +kernel

end Server

end HostRouting
