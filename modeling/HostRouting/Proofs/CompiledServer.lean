import HostRouting.Proofs.Consistency
import HostRouting.Proofs.DeclaredHosts
import HostRouting.Server.Compile

/-!
# What a compiled server is

A server that was compiled without failure is the declarative reading of its record: nothing in it
depends on the order of work, except that of several handler records with the same pair of sockets
the first one of the document stands for all.
-/

namespace HostRouting

open Toml (Table Value)

/-! ## The declared server -/

namespace Declared

/-- A host is the one that an element of `hosts` describes, by value: its name and pattern are those
of the element, its paths are the keys of the table of routes, and each path leads to what its value
describes, a handler to the first one of the server with its pair of sockets. -/
structure HostOf (handlers : List Handler) (element : Value) (host : Host) : Prop where
  fields : ∃ table, element = .table table ∧ text? table "name" = some host.name ∧
    text? table "matching" = some host.matching ∧ entries? table "routes" = some (routes element)
  nodup : host.paths.Nodup
  paths : host.paths.Perm ((routes element).map Prod.fst)
  routes : ∀ path value, (path, value) ∈ routes element → ∃ backend,
    (backend? value).bind (shared? handlers) = some backend ∧ host.route? path = some backend

/-- A server is the one that a record describes, by value. -/
structure ServerOf (table : Table) (server : Server) : Prop where
  shell : shell? table = some server.shell
  items : items? table "hosts" = some (hosts table)
  hosts : List.Forall₂ (HostOf (handlers table)) (hosts table) server.hosts
  handlers : server.registry.handlers = newcomers [] (handlers table)
  wiring : ∀ handler ∈ server.registry.handlers, handler.protocol = .tnet ∧ handler.raw = true
  names : server.names.Nodup
  default : server.defaultHost? = server.host? server.shell.defaultHostName

/-- A handler that stands in a registry of declared handlers is the shared one of its pair. -/
theorem shared?_of_shares {handlers : List Handler} {candidate backend : Backend}
    (hshares : (registry handlers).Shares candidate backend) :
    shared? handlers candidate = some backend := by
  cases hshares with
  | directory served => rfl
  | proxy target => rfl
  | @handler candidate handler slot position hheld hidentity =>
      have hnodup : (registry handlers).identities.Nodup :=
        nodup_identities_newcomers [] handlers
      have hfirst := Registry.find?_handlers_identity hnodup hheld
      have hposition := Registry.find?_identity hnodup hheld
      rw [registry, find?_newcomers (List.not_mem_nil), hidentity] at hfirst
      rw [hidentity] at hposition
      simp [shared?, hfirst, hposition]

theorem HostIn.hostOf {handlers : List Handler} {element : Value} {host : Host}
    (hhost : HostIn (registry handlers) element host) : HostOf handlers element host where
  fields := hhost.fields
  nodup := hhost.nodup
  paths := hhost.paths
  routes := by
    intro path value hmem
    obtain ⟨candidate, backend, hdeclared, hroute, hshares⟩ := hhost.routes (path, value) hmem
    refine ⟨backend, ?_, Host.route?_of_mem_routes hhost.nodup hroute⟩
    rw [hdeclared]
    exact shared?_of_shares hshares

end Declared

/-! ## A document -/

namespace Declared

def handlerRecord (sendSpec sendIdent recvSpec : String) : Value :=
  .table [("type", .string "handler"), ("send_spec", .string sendSpec),
    ("send_ident", .string sendIdent), ("recv_spec", .string recvSpec),
    ("recv_ident", .string "")]

def hostRecord (name : String) (routes : Table) : Value :=
  .table [("name", .string name), ("matching", .string name), ("routes", .table routes)]

/-- A document with one server, which has some hosts. -/
def document (hosts : List Value) : Table :=
  [("servers", .array [.table [("name", .string "main"), ("uuid", .string "f400bf85"),
    ("default_host", .string "localhost"), ("bind_addr", .string "0.0.0.0"),
    ("port", .string "6767"), ("access_log", .string "/logs/access.log"),
    ("error_log", .string "/logs/error.log"), ("pid_file", .string "/run/main.pid"),
    ("use_ssl", .integer 0), ("hosts", .array hosts)]])]

def sharingDocument : Table :=
  document [
    hostRecord "localhost" [
      ("/chat", handlerRecord "tcp://127.0.0.1:9999" "first" "tcp://127.0.0.1:9998"),
      ("/api", .table [("type", .string "proxy"), ("addr", .string "127.0.0.1"),
        ("port", .integer 8080)])],
    hostRecord "files" [
      ("/chat", handlerRecord "tcp://127.0.0.1:9999" "second" "tcp://127.0.0.1:9998"),
      ("/mail", handlerRecord "tcp://127.0.0.1:9999" "third" "tcp://127.0.0.1:9996")]]

end Declared

/-! ## What a successful run has done -/

namespace Server

/-- Compiling finds the record, reads the shell, and builds the hosts into it; all else is only
reported. -/
theorem compile_result (root : Record) (name : String) :
    ((compile root name).run ()).result = (do
      let record ← find root name
      let shell ← Shell.ofRecord record
      let outcome := (loadHosts record).run { shell }
      outcome.result.map fun _ => outcome.state) := by
  rw [compile]
  cases find root name with
  | error failure => rw [Audited.run_ofExcept_bind_of_error rfl, error_bind]
  | ok record =>
      rw [Audited.run_ofExcept_bind_of_ok rfl, ok_bind]
      cases Shell.ofRecord record with
      | error failure => rw [Audited.run_ofExcept_bind_of_error rfl, error_bind]
      | ok shell =>
          rw [Audited.run_ofExcept_bind_of_ok rfl, ok_bind]
          rcases hrun : (loadHosts record).run { shell } with ⟨failure | count, server, events⟩
          · cases Uuid.isValid shell.uuid <;> simp [Audited.run_bind, hrun, Except.map]
          · cases Uuid.isValid shell.uuid <;> cases hdefault : server.defaultHost? <;>
              simp [hdefault, Audited.run_bind, hrun, Except.map]

theorem compile_eq_ok {root : Record} {name : String} {server : Server}
    (hcompile : ((compile root name).run ()).result = .ok server) :
    ∃ record shell count events, find root name = .ok record ∧
      Shell.ofRecord record = .ok shell ∧
      (loadHosts record).run { shell } = ⟨.ok count, server, events⟩ := by
  rw [compile_result, bind_eq_ok_iff] at hcompile
  obtain ⟨record, hfind, hcompile⟩ := hcompile
  obtain ⟨shell, hshell, hcompile⟩ := bind_eq_ok_iff.mp hcompile
  rcases hrun : (loadHosts record).run { shell } with ⟨failure | count, after, events⟩
  · simp [hrun, Except.map] at hcompile
  · simp only [hrun, Except.map, Except.ok.injEq] at hcompile
    subst hcompile
    exact ⟨record, shell, count, events, hfind, hshell, hrun⟩

/-- A shell into which hosts were built is consistent, and all its hosts come from records. -/
theorem consistent_of_loadHosts {record : Record} {shell : Shell} {server : Server}
    (hserver : ((loadHosts record).run { shell }).state = server) :
    History.Consistent shell { server, built := List.range' 0 server.hosts.length } := by
  have hconsistent := History.consistent_ofShell shell [.loadHosts record]
  have hhistory : History.ofShell shell [.loadHosts record] =
      { server, built := List.range' 0 server.hosts.length } := by
    simp [History.ofShell, History.perform, History.build, hserver]
  rwa [hhistory] at hconsistent

/-- When only hosts are built into a shell, the default host is the host with the default name. -/
theorem defaultHost?_of_loadHosts {record : Record} {shell : Shell} {server : Server}
    (hserver : ((loadHosts record).run { shell }).state = server) :
    server.names.Nodup ∧ server.defaultHost? = server.host? shell.defaultHostName := by
  have hconsistent := consistent_of_loadHosts hserver
  refine ⟨hconsistent.names, ?_⟩
  cases hdefault : server.defaultPosition with
  | some position =>
      obtain ⟨-, host, hhost, hname⟩ := (hconsistent.default position).mp hdefault
      rw [defaultHost?, hdefault, ← hname,
        host?_of_mem hconsistent.names (List.mem_of_getElem? hhost)]
      exact hhost
  | none =>
      rw [defaultHost?, hdefault, Option.bind_none]
      symm
      rw [host?, List.find?_eq_none]
      intro host hmem hname
      obtain ⟨position, hlt, hhost⟩ := List.mem_iff_getElem.mp hmem
      have hset : server.defaultPosition = some position := by
        apply (hconsistent.default position).mpr
        refine ⟨by simpa using hlt, host, ?_, by simpa using hname⟩
        rw [List.getElem?_eq_getElem hlt, hhost]
      simp [hdefault] at hset

/-- What a successful run has found, read and built. -/
theorem compile_built {root : Record} {name : String} {server : Server}
    (hcompile : ((compile root name).run ()).result = .ok server) :
    ∃ record, find root name = .ok record ∧
      Declared.shell? record.table = some server.shell ∧
      Declared.items? record.table "hosts" = some (Declared.hosts record.table) ∧
      List.Forall₂ (Declared.HostIn server.registry) (Declared.hosts record.table) server.hosts ∧
      server.registry = Declared.registry (Declared.handlers record.table) ∧
      server.names.Nodup ∧
      server.defaultHost? = server.host? server.shell.defaultHostName := by
  obtain ⟨record, shell, count, events, hfind, hshell, hrun⟩ := compile_eq_ok hcompile
  obtain ⟨elements, hitems, -, hbuilt⟩ := loadHosts_built hrun
  have helements : Declared.hosts record.table = elements := by
    rw [Declared.hosts, hitems, Option.getD_some]
  have hdefault := defaultHost?_of_loadHosts (congrArg Outcome.state hrun)
  obtain ⟨built, hhosts, hdeclared⟩ := hbuilt.hosts
  refine ⟨record, hfind, ?_, ?_, ?_, ?_, hdefault.1, ?_⟩
  · rw [← Shell.toOption_ofRecord, hshell, toOption_ok, hbuilt.shell]
  · rw [hitems, helements]
  · rw [helements, hhosts]
    exact hdeclared
  · rw [hbuilt.registry, Declared.handlers, helements]
    rfl
  · rw [hbuilt.shell]
    exact hdefault.2

/-- The same of a record that is known to be found. -/
theorem compile_built_of_find {root record : Record} {name : String} {server : Server}
    (hfind : find root name = .ok record)
    (hcompile : ((compile root name).run ()).result = .ok server) :
    Declared.shell? record.table = some server.shell ∧
      List.Forall₂ (Declared.HostIn server.registry) (Declared.hosts record.table) server.hosts ∧
      server.registry = Declared.registry (Declared.handlers record.table) ∧
      server.names.Nodup ∧
      server.defaultHost? = server.host? server.shell.defaultHostName := by
  obtain ⟨found, hfound, hshell, -, hbuilt⟩ := compile_built hcompile
  obtain rfl := Except.ok.inj (hfind.symm.trans hfound)
  exact ⟨hshell, hbuilt⟩

/-- A compiled server is the one that its record describes. -/
theorem compile_reads_record {root : Record} {name : String} {server : Server}
    (hcompile : ((compile root name).run ()).result = .ok server) :
    ∃ record, find root name = .ok record ∧ Declared.ServerOf record.table server := by
  obtain ⟨record, hfind, hshell, hitems, hhosts, hregistry, hnames, hdefault⟩ :=
    compile_built hcompile
  have hhandlers : server.registry.handlers = newcomers [] (Declared.handlers record.table) :=
    congrArg Registry.handlers hregistry
  refine ⟨record, hfind, hshell, hitems, ?_, hhandlers, ?_, hnames, hdefault⟩
  · rw [hregistry] at hhosts
    exact hhosts.imp fun _ _ hhost => hhost.hostOf
  · intro handler hmem
    rw [hhandlers] at hmem
    obtain ⟨_, _, _, _, _, _, hbackend⟩ :=
      Declared.mem_handlers_iff.mp ((newcomers_sublist _ _).subset hmem)
    obtain ⟨table, -, -, hhandler⟩ := Declared.backend?_eq_handler hbackend
    exact (Declared.handler?_eq_some hhandler).2.2

theorem compile_reads_record_sharing :
    ∃ server, ((compile (.root Declared.sharingDocument) "main").run ()).result = .ok server ∧
      ∃ record, find (.root Declared.sharingDocument) "main" = .ok record ∧
        Declared.ServerOf record.table server :=
  ⟨_, rfl, compile_reads_record rfl⟩

end Server

end HostRouting