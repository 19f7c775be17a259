import HostRouting.Proofs.DistinctKeys
import HostRouting.Proofs.RegistryGrowth
import HostRouting.Server

/-!
# What a document declares

The declarative reading of a document: which shell, hosts, routes and handlers the record of a
server stands for.  Nothing here depends on an order of work or on what was read before.
-/

namespace HostRouting

/-- The handlers that a backend brings to a registry: at most itself. -/
def Backend.candidates : Backend → List Handler
  | .handler candidate _ => [candidate]
  | _ => []

namespace Declared

open Toml (Table Value)

def text? (table : Table) (field : String) : Option String :=
  (table.lookup field).bind Value.string?

def number? (table : Table) (field : String) : Option Int64 :=
  (table.lookup field).bind Value.integer?

def flag? (table : Table) (field : String) : Option Bool :=
  (table.lookup field).bind Record.flag?

def items? (table : Table) (field : String) : Option (List Value) :=
  (table.lookup field).bind Value.array?

def entries? (table : Table) (field : String) : Option Table :=
  (table.lookup field).bind Value.table?

def shell? (table : Table) : Option Shell := do
  let uuid ← text? table "uuid"
  let defaultHostName ← text? table "default_host"
  let bindAddress ← text? table "bind_addr"
  let port ← number? table "port"
  let accessLog ← text? table "access_log"
  let errorLog ← text? table "error_log"
  let pidFile ← text? table "pid_file"
  let useSsl ← flag? table "use_ssl"
  return { uuid, defaultHostName, bindAddress, port, accessLog, errorLog, pidFile, useSsl }

def directory? (table : Table) : Option Directory := do
  let base ← text? table "base"
  let indexFile ← text? table "index_file"
  let defaultContentType ← text? table "default_ctype"
  let cacheSeconds ← number? table "cache_ttl"
  return { base, indexFile, defaultContentType, cacheSeconds }

def proxy? (table : Table) : Option Proxy := do
  let address ← text? table "addr"
  let port ← number? table "port"
  return { address, port }

/-- The handler that a table describes.  It speaks tnet and gets payloads as they are. -/
def handler? (table : Table) : Option Handler := do
  let sendSpec ← text? table "send_spec"
  let sendIdent ← text? table "send_ident"
  let recvSpec ← text? table "recv_spec"
  let recvIdent ← text? table "recv_ident"
  return { sendSpec, sendIdent, recvSpec, recvIdent, protocol := .tnet, raw := true }

/-- The backend that the value of a route describes, before handlers are shared. -/
def backend? (value : Value) : Option Backend := do
  let table ← value.table?
  match ← text? table "type" with
  | "dir" => (directory? table).map .directory
  | "proxy" => (proxy? table).map .proxy
  | "handler" => (handler? table).map fun handler => .handler handler none
  | _ => none

def candidates (value : Value) : List Handler :=
  (backend? value).elim [] Backend.candidates

/-- The routes of an element of `hosts`, in document order. -/
def routes (host : Value) : Table :=
  (host.table?.bind fun table => entries? table "routes").getD []

def hosts (server : Table) : List Value :=
  (items? server "hosts").getD []

def routeHandlers (entries : Table) : List Handler :=
  entries.flatMap fun entry => candidates entry.2

def hostHandlers (elements : List Value) : List Handler :=
  elements.flatMap fun host => routeHandlers (routes host)

/-- The handler records of a server, host after host and in each host in document order. -/
def handlers (server : Table) : List Handler :=
  hostHandlers (hosts server)

/-- The handlers that a registry is left with when it takes in a row of handler records: the first
one of each pair of sockets. -/
def registry (handlers : List Handler) : Registry :=
  ⟨newcomers [] handlers⟩

/-- What a route leads to among all handler records of its server: a directory or a proxy is its
own, a handler is the first one with its pair of sockets. -/
def shared? (handlers : List Handler) : Backend → Option Backend
  | .handler candidate _ => do
      let first ← handlers.find? fun handler => handler.identity == candidate.identity
      let position ← (registry handlers).find? candidate.identity
      return .handler first (some position)
  | backend => some backend

/-- The entries of a field have distinct keys where all tables do. -/
theorem nodup_keys_of_entries? {table entries : Table} {field : String}
    (hkeys : Table.hasDistinctKeys table = true) (hentries : entries? table field = some entries) :
    (entries.map Prod.fst).Nodup := by
  obtain ⟨value, hlookup, htable⟩ := Option.bind_eq_some_iff.mp hentries
  obtain rfl := Value.table?_eq_some_iff.mp htable
  exact Table.nodup_keys (Table.hasDistinctKeys_of_lookup hkeys hlookup)

theorem shell?_uuid {table : Table} {shell : Shell} (hshell : shell? table = some shell) :
    text? table "uuid" = some shell.uuid := by
  obtain ⟨uuid, huuid, hrest⟩ := Option.bind_eq_some_iff.mp hshell
  simp only [Option.bind_eq_bind, Option.bind_eq_some_iff] at hrest
  obtain ⟨_, -, _, -, _, -, _, -, _, -, _, -, _, -, hresult⟩ := hrest
  cases hresult
  exact huuid

/-! ## Handler records -/

theorem handler?_eq_some {table : Table} {handler : Handler}
    (hhandler : handler? table = some handler) :
    text? table "send_spec" = some handler.sendSpec ∧
      text? table "recv_spec" = some handler.recvSpec ∧
      handler.protocol = .tnet ∧ handler.raw = true := by
  simp only [handler?, Option.bind_eq_bind, Option.bind_eq_some_iff] at hhandler
  obtain ⟨sendSpec, hsend, sendIdent, -, recvSpec, hrecv, recvIdent, -, hresult⟩ := hhandler
  cases hresult
  exact ⟨hsend, hrecv, rfl, rfl⟩

/-- Only a table of the handler type describes a handler. -/
theorem backend?_eq_handler {value : Value} {handler : Handler} {slot : Option Nat}
    (hbackend : backend? value = some (.handler handler slot)) :
    ∃ table, value = .table table ∧ text? table "type" = some "handler" ∧
      handler? table = some handler := by
  simp only [backend?, Option.bind_eq_bind, Option.bind_eq_some_iff] at hbackend
  obtain ⟨table, htable, name, hname, hkind⟩ := hbackend
  have hvalue := Value.table?_eq_some_iff.mp htable
  split at hkind
  · simp at hkind
  · simp at hkind
  · refine ⟨table, hvalue, hname, ?_⟩
    obtain ⟨candidate, hcandidate, hsame⟩ := Option.map_eq_some_iff.mp hkind
    cases hsame
    exact hcandidate
  · simp at hkind

theorem mem_candidates_iff {value : Value} {handler : Handler} :
    handler ∈ candidates value ↔ ∃ slot, backend? value = some (.handler handler slot) := by
  rw [candidates]
  cases backend? value with
  | none => simp
  | some backend =>
      cases backend with
      | handler candidate slot => simp [Backend.candidates, eq_comm]
      | _ => simp [Backend.candidates]

/-- The handler records of a server are those in the routes of its hosts. -/
theorem mem_handlers_iff {server : Table} {handler : Handler} :
    handler ∈ handlers server ↔ ∃ element ∈ hosts server, ∃ path value slot,
      (path, value) ∈ routes element ∧ backend? value = some (.handler handler slot) := by
  simp only [handlers, hostHandlers, routeHandlers, List.mem_flatMap, mem_candidates_iff,
    Prod.exists]
  constructor
  · rintro ⟨element, helement, path, value, hroute, slot, hbackend⟩
    exact ⟨element, helement, path, value, slot, hroute, hbackend⟩
  · rintro ⟨element, helement, path, value, slot, hroute, hbackend⟩
    exact ⟨element, helement, path, value, hroute, slot, hbackend⟩

end Declared

end HostRouting
