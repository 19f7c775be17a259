import HostRouting.Proofs.CompiledServer
import HostRouting.Proofs.JsonTexts
import HostRouting.Proofs.WrittenEvents

/-!
# The JSON form of a server loses nothing

The form of a server leaves out its default host and the positions of its handlers.  In a compiled
server host names and pairs of sockets are distinct, so the name of the default host and the
sockets of a handler are enough to find them again.  With them, the server is rebuilt from its form,
and from the printed text of its form.
-/

namespace HostRouting

/-! ## Parts of a form -/

namespace Json

variable {α : Type}

def string? : Json → Option String
  | .string content => some content
  | _ => none

def integer? : Json → Option Int64
  | .number content => some content
  | _ => none

def flag? : Json → Option Bool
  | .boolean flag => some flag
  | _ => none

/-- The items of an array, each taken back in the way that is given. -/
def items? (item : Json → Option α) : Json → Option (List α)
  | .array items => items.mapM item
  | _ => none

/-- The fields of an object, the value of each taken back in the way that is given. -/
def entries? (value : Json → Option α) : Json → Option (List (String × α))
  | .object fields => fields.mapM fun field => (value field.2).map (Prod.mk field.1)
  | _ => none

/-- One field of an object, taken back in the way that is given. -/
def field? (as? : Json → Option α) (form : Json) (name : String) : Option α :=
  match form with
  | .object fields => (fields.lookup name).bind as?
  | _ => none

end Json

open Json (field? string? integer? flag? items? entries?)

/-! ## Rebuilding a server from its form -/

def Protocol.ofName? (name : String) : Option Protocol :=
  [json, tnet].find? fun protocol => protocol.name == name

def Directory.ofJson? (form : Json) : Option Directory := do
  let base ← field? string? form "base"
  let indexFile ← field? string? form "index_file"
  let defaultContentType ← field? string? form "default_ctype"
  let cacheSeconds ← field? integer? form "cache_ttl"
  return { base, indexFile, defaultContentType, cacheSeconds }

def Proxy.ofJson? (form : Json) : Option Proxy := do
  let address ← field? string? form "addr"
  let port ← field? integer? form "port"
  return { address, port }

def Handler.ofJson? (form : Json) : Option Handler := do
  let sendSpec ← field? string? form "send_spec"
  let sendIdent ← field? string? form "send_ident"
  let recvSpec ← field? string? form "recv_spec"
  let recvIdent ← field? string? form "recv_ident"
  let protocol ← (field? string? form "protocol").bind Protocol.ofName?
  let raw ← field? flag? form "raw"
  return { sendSpec, sendIdent, recvSpec, recvIdent, protocol, raw }

/-- The backend of a form.  A handler is found in the registry by its sockets. -/
def Backend.ofJson? (registry : Registry) (form : Json) : Option Backend := do
  match ← (field? string? form "type").bind BackendKind.ofName? with
  | .directory => (Directory.ofJson? form).map .directory
  | .proxy => (Proxy.ofJson? form).map .proxy
  | .handler =>
      (Handler.ofJson? form).map fun handler =>
        .handler handler (registry.find? handler.identity)

def Host.ofJson? (registry : Registry) (form : Json) : Option Host := do
  let name ← field? string? form "name"
  let matching ← field? string? form "matching"
  let routes ← field? (entries? (Backend.ofJson? registry)) form "routes"
  return { name, matching, routes }

def Shell.ofJson? (form : Json) : Option Shell := do
  let uuid ← field? string? form "uuid"
  let defaultHostName ← field? string? form "default_hostname"
  let bindAddress ← field? string? form "bind_addr"
  let port ← field? integer? form "port"
  let accessLog ← field? string? form "access_log"
  let errorLog ← field? string? form "error_log"
  let pidFile ← field? string? form "pid_file"
  let useSsl ← field? flag? form "use_ssl"
  return { uuid, defaultHostName, bindAddress, port, accessLog, errorLog, pidFile, useSsl }

def Server.position? (hosts : List Host) (name : String) : Option Nat :=
  hosts.findIdx? fun host => host.name == name

/-- The server of a form.  The default host is found among the hosts by its name. -/
def Server.ofJson? (form : Json) : Option Server := do
  let shell ← Shell.ofJson? form
  let handlers ← field? (items? Handler.ofJson?) form "handlers"
  let registry : Registry := { handlers }
  let hosts ← field? (items? (Host.ofJson? registry)) form "hosts"
  let defaultPosition := position? hosts shell.defaultHostName
  return { shell, hosts, registry, defaultPosition }

/-! ## What is rebuilt is what was there -/

theorem mapM_map_of_forall {α β : Type} {write : α → β} {read : β → Option α} {list : List α}
    (hread : ∀ member ∈ list, read (write member) = some member) :
    (list.map write).mapM read = some list := by
  induction list with
  | nil => rfl
  | cons first rest ih =>
      obtain ⟨hfirst, hrest⟩ := List.forall_mem_cons.mp hread
      rw [List.map_cons, List.mapM_cons, hfirst, ih hrest]
      rfl

theorem Protocol.ofName?_name (protocol : Protocol) : ofName? protocol.name = some protocol := by
  cases protocol <;> decide

theorem BackendKind.ofName?_name (kind : BackendKind) : ofName? kind.name = some kind := by
  cases kind <;> decide

/-- A handler is rebuilt from its fields, whatever other fields stand before them. -/
theorem Handler.ofJson?_append (handler : Handler) (front : List (String × Json))
    (hfront : ∀ field ∈ handler.jsonFields, front.lookup field.1 = none) :
    ofJson? (.object (front ++ handler.jsonFields)) = some handler := by
  have hprotocol := Protocol.ofName?_name handler.protocol
  simp only [jsonFields, List.forall_mem_cons] at hfront
  simp [ofJson?, jsonFields, field?, string?, flag?, List.lookup_append, List.lookup_cons, hfront,
    hprotocol]

/-- A backend that is a handler is at the position that a registry finds for its sockets. -/
def Backend.FoundIn (registry : Registry) : Backend → Prop
  | .handler shared slot => slot = registry.find? shared.identity
  | _ => True

theorem Backend.ofJson?_toJson {registry : Registry} {backend : Backend}
    (hfound : backend.FoundIn registry) : ofJson? registry backend.toJson = some backend := by
  have hkind : field? string? backend.toJson "type" = some backend.kind.name := rfl
  rw [ofJson?, hkind, Option.bind_some, BackendKind.ofName?_name, Option.bind_eq_bind,
    Option.bind_some]
  cases backend with
  | directory served => rfl
  | proxy target => rfl
  | handler shared slot =>
      have hslot : slot = registry.find? shared.identity := hfound
      subst slot
      have hshared := shared.ofJson?_append [("type", .string "handler")]
        (by simp [Handler.jsonFields, List.lookup_cons])
      exact congrArg
        (Option.map fun shared => handler shared (registry.find? shared.identity)) hshared

theorem Host.ofJson?_toJson {registry : Registry} {host : Host}
    (hfound : ∀ route ∈ host.routes, route.2.FoundIn registry) :
    ofJson? registry host.toJson = some host := by
  have hroutes : field? (entries? (Backend.ofJson? registry)) host.toJson "routes" =
      some host.routes := by
    apply mapM_map_of_forall
    intro route hmem
    have hbackend := Backend.ofJson?_toJson (hfound route hmem)
    exact congrArg (Option.map (Prod.mk route.1)) hbackend
  have hname : field? string? host.toJson "name" = some host.name := rfl
  have hmatching : field? string? host.toJson "matching" = some host.matching := rfl
  rw [ofJson?, hname, hmatching, hroutes]
  rfl

theorem Shell.ofJson?_toJson (server : Server) : ofJson? server.toJson = some server.shell := rfl

namespace Server

/-- Everything that the form of a server leaves out can be found again in the server itself. -/
structure Recoverable (server : Server) : Prop where
  links : ∀ host ∈ server.hosts, ∀ route ∈ host.routes, route.2.FoundIn server.registry
  default : server.defaultPosition = position? server.hosts server.shell.defaultHostName

theorem Recoverable.ofJson?_toJson {server : Server} (hserver : server.Recoverable) :
    ofJson? server.toJson = some server := by
  have hhandlers : field? (items? Handler.ofJson?) server.toJson "handlers" =
      some server.registry.handlers :=
    mapM_map_of_forall fun handler _ => handler.ofJson?_append [] fun _ _ => rfl
  have hhosts : field? (items? (Host.ofJson? server.registry)) server.toJson "hosts" =
      some server.hosts :=
    mapM_map_of_forall fun host hmem => Host.ofJson?_toJson (hserver.links host hmem)
  rw [ofJson?, Shell.ofJson?_toJson, hhandlers]
  simp only [Option.bind_eq_bind, Option.bind_some]
  rw [hhosts, Option.bind_some, ← hserver.default]
  rfl

/-! ## Compiled servers -/

/-- In a consistent server all of whose hosts come from records, the default host is the one with
the default name. -/
theorem defaultPosition_eq {shell : Shell} {server : Server}
    (hconsistent :
      History.Consistent shell { server, built := List.range' 0 server.hosts.length }) :
    server.defaultPosition = position? server.hosts shell.defaultHostName := by
  rw [position?]
  cases hfind : server.hosts.findIdx? fun host => host.name == shell.defaultHostName with
  | none =>
      by_contra hset
      obtain ⟨position, hposition⟩ := Option.ne_none_iff_exists'.mp hset
      obtain ⟨-, host, hhost, hname⟩ := (hconsistent.default position).mp hposition
      have hother := List.findIdx?_eq_none_iff.mp hfind host (List.mem_of_getElem? hhost)
      simp [hname] at hother
  | some position =>
      obtain ⟨hlt, hname, -⟩ := List.findIdx?_eq_some_iff_getElem.mp hfind
      apply (hconsistent.default position).mpr
      exact ⟨by simpa using hlt, _, List.getElem?_eq_getElem hlt, by simpa using hname⟩

/-- In a consistent server all of whose hosts come from records, each handler route leads to the
position that the registry finds for its sockets. -/
theorem foundIn_of_mem_routes {shell : Shell} {server : Server}
    (hconsistent :
      History.Consistent shell { server, built := List.range' 0 server.hosts.length })
    {host : Host} (hhost : host ∈ server.hosts) {route : String × Backend}
    (hroute : route ∈ host.routes) : route.2.FoundIn server.registry := by
  obtain ⟨path, backend⟩ := route
  cases backend with
  | handler shared slot =>
      obtain ⟨position, hlt, hposition⟩ := List.mem_iff_getElem.mp hhost
      have hbuilt : position ∈ List.range' 0 server.hosts.length := by simpa using hlt
      have hget : server.hosts[position]? = some host := by
        rw [List.getElem?_eq_getElem hlt, hposition]
      obtain ⟨index, hslot, -, hindex⟩ := hconsistent.handler_route hbuilt hget hroute
      exact hslot.trans hindex.symm
  | _ => trivial

theorem recoverable_of_compile {root : Record} {name : String} {server : Server}
    (hcompile : ((compile root name).run ()).result = .ok server) : server.Recoverable := by
  obtain ⟨record, shell, count, events, -, -, hrun⟩ := compile_eq_ok hcompile
  have hconsistent := consistent_of_loadHosts (congrArg Outcome.state hrun)
  have hshell : server.shell = shell := hconsistent.shell_eq
  refine ⟨fun host hhost route hroute => foundIn_of_mem_routes hconsistent hhost hroute, ?_⟩
  rw [hshell]
  exact defaultPosition_eq hconsistent

theorem ofJson?_text {server : Server} (hserver : server.Recoverable) :
    (Json.ofText? server.toJson.text).bind ofJson? = some server := by
  rw [Json.ofText?_text, Option.bind_some, hserver.ofJson?_toJson]

/-- The JSON text of a compiled server loses nothing.  Reading it as JSON and rebuilding the server
gives the server that was compiled, its default host and the positions of its handlers included; so
compiled servers with the same text are the same server, whichever documents they come from.  This
text is what a run prints that is asked for it. -/
theorem json_text_loses_nothing :
    (∀ root name server, ((compile root name).run ()).result = .ok server →
      (Json.ofText? server.toJson.text).bind ofJson? = some server) ∧
    (∀ root name server other otherName twin, ((compile root name).run ()).result = .ok server →
      ((compile other otherName).run ()).result = .ok twin →
      server.toJson.text = twin.toJson.text → server = twin) ∧
    ∀ invocation content, invocation.json = true →
      (Report.ofRun invocation content).failure = none →
      ∃ text document server, content = .ok text ∧ Toml.document? text = some document ∧
        ((compile (.root document) invocation.server).run ()).result = .ok server ∧
        (Report.ofRun invocation content).output = server.toJson.text ++ "\n" ∧
        (Json.ofText? (Report.ofRun invocation content).output).bind ofJson? = some server := by
  refine ⟨?_, ?_, ?_⟩
  · intro root name server hcompile
    exact ofJson?_text (recoverable_of_compile hcompile)
  · intro root name server other otherName twin hcompile htwin htext
    have hserver := (recoverable_of_compile hcompile).ofJson?_toJson
    rw [Json.text_injective htext, (recoverable_of_compile htwin).ofJson?_toJson] at hserver
    exact (Option.some.inj hserver).symm
  · intro invocation content hjson hrun
    obtain ⟨after, houtput⟩ := Report.run_of_success hrun
    obtain ⟨text, document, server, globals, settings, mimeTypes, hcontent, hdocument, hcompile,
      hprinted, -⟩ := Invocation.output_eq_ok houtput
    rw [if_pos hjson] at hprinted
    refine ⟨text, document, server, hcontent, hdocument, hcompile, hprinted, ?_⟩
    have hread : Json.ofText? (server.toJson.text ++ "\n") = some server.toJson :=
      Json.ofText?_text_append server.toJson ['\n'] (List.forall_mem_singleton.mpr rfl)
    rw [hprinted, hread, Option.bind_some, (recoverable_of_compile hcompile).ofJson?_toJson]

/-- A document in whose texts there are quotation marks, backslashes, control characters and
characters beyond ASCII.  Two hosts share a handler. -/
def quotingDocument : Toml.Table :=
  Declared.document [
    Declared.hostRecord "localhost" [("/café\t\"menu\"",
      Declared.handlerRecord "ipc:///run\\send\x01" "first\r\nsecond" "ipc:///run/☃")],
    Declared.hostRecord "\"😀\"" [("/\x00",
      Declared.handlerRecord "ipc:///run\\send\x01" "" "ipc:///run/☃")]]

theorem json_text_loses_nothing_sharing :
    ∃ server, ((compile (.root quotingDocument) "main").run ()).result = .ok server ∧
      server.names = ["localhost", "\"😀\""] ∧
      server.hosts.map Host.paths = [["/café\t\"menu\""], ["/\x00"]] ∧
      server.registry.handlers = [⟨"ipc:///run\\send\x01", "first\r\nsecond",
        "ipc:///run/☃", "", .tnet, true⟩] ∧
      server.defaultPosition = some 0 ∧
      (Json.ofText? server.toJson.text).bind ofJson? = some server :=
  ⟨_, rfl, rfl, rfl, rfl, rfl, json_text_loses_nothing.1 (.root quotingDocument) "main" _ rfl⟩

end Server

end HostRouting
