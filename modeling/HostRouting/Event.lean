import HostRouting.Backend
import HostRouting.Failure

/-!
# Events

What is reported while a configuration is read and compiled, in the order in which it happens.

A log is filtered by topic.  Topics lie below one another, from the program as a whole down to the
parts of its work, and their names are separated by two colons.
-/

namespace HostRouting

/-- How much an event matters, most important first. -/
inductive Level where
  | error
  | warning
  | info
  | debug
  deriving DecidableEq

/-- A number for how much an event matters, smaller for more. -/
def Level.rank : Level → Nat
  | .error => 1
  | .warning => 2
  | .info => 3
  | .debug => 4

inductive EventField where
  | text (content : String)
  | number (content : Int)
  deriving DecidableEq

inductive Event where
  | compiling (config server : String)
  | compilationFailed (reason : String)
  | documentRead (path : String)
  | mapLoaded (map : GlobalMap) (count : Nat)
  | settingNotInteger (key value : String) (default : Int64)
  | directoryLoaded (route : String) (directory : Directory)
  | unusablePort (route : String) (port : Int64)
  | proxyLoaded (route : String) (proxy : Proxy)
  | handlerLoaded (route : String) (handler : Handler)
  | sharedSend (sendSpec : String)
  | sharedRecv (recvSpec : String)
  | routeLoaded (host path : String) (kind : BackendKind)
  | hostLoaded (host matching : String) (routes : Nat)
  | hostsLoaded (server : String) (hosts : Nat)
  | invalidUuid (server uuid : String)
  | noDefaultHost (server defaultHost : String)
  | serverCompiled (server uuid bindAddress : String) (port : Int64) (hosts handlers : Nat)
  deriving DecidableEq

namespace Event

def level : Event → Level
  | .compilationFailed _ => .error
  | .settingNotInteger _ _ _ | .unusablePort _ _ | .sharedSend _ | .sharedRecv _
  | .invalidUuid _ _ | .noDefaultHost _ _ => .warning
  | .documentRead _ => .debug
  | .compiling _ _ | .mapLoaded _ _ | .directoryLoaded _ _
  | .proxyLoaded _ _ | .handlerLoaded _ _ | .routeLoaded _ _ _ | .hostLoaded _ _ _
  | .hostsLoaded _ _ | .serverCompiled _ _ _ _ _ _ => .info

def message : Event → String
  | .compiling _ _ => "Compiling configuration"
  | .compilationFailed _ => "Configuration failed to compile"
  | .documentRead _ => "Configuration file parsed"
  | .mapLoaded map _ => "Loaded " ++ map.name
  | .settingNotInteger _ _ _ => "Setting is not an integer, using default"
  | .directoryLoaded _ _ => "Loaded directory"
  | .unusablePort _ _ => "Proxy port is outside 1-65535, leaving it for the runtime to reject"
  | .proxyLoaded _ _ => "Loaded proxy"
  | .handlerLoaded _ _ => "Loaded handler"
  | .sharedSend _ => "You have two handlers with the same send_spec"
  | .sharedRecv _ => "You have two handlers with the same recv_spec"
  | .routeLoaded _ _ _ => "Loaded route"
  | .hostLoaded _ _ _ => "Loaded host"
  | .hostsLoaded _ _ => "Loaded hosts for server"
  | .invalidUuid _ _ => "Server uuid is not a valid UUID"
  | .noDefaultHost _ _ => "No host matches the default host name"
  | .serverCompiled _ _ _ _ _ _ => "Server compiled"

def fields : Event → List (String × EventField)
  | .compiling config server => [("config", .text config), ("server", .text server)]
  | .compilationFailed reason => [("error", .text reason)]
  | .documentRead path => [("path", .text path)]
  | .mapLoaded _ count => [("count", .number count)]
  | .settingNotInteger key value default =>
      [("key", .text key), ("value", .text value), ("default", .number default.toInt)]
  | .directoryLoaded route directory =>
      [("route", .text route), ("base", .text directory.base),
        ("index_file", .text directory.indexFile),
        ("cache_ttl", .number directory.cacheSeconds.toInt)]
  | .unusablePort route port => [("route", .text route), ("port", .number port.toInt)]
  | .proxyLoaded route proxy =>
      [("route", .text route), ("addr", .text proxy.address),
        ("port", .number proxy.port.toInt)]
  | .handlerLoaded route handler =>
      [("route", .text route), ("send_spec", .text handler.sendSpec),
        ("send_ident", .text handler.sendIdent), ("recv_spec", .text handler.recvSpec),
        ("recv_ident", .text handler.recvIdent)]
  | .sharedSend sendSpec => [("send_spec", .text sendSpec)]
  | .sharedRecv recvSpec => [("recv_spec", .text recvSpec)]
  | .routeLoaded host path kind =>
      [("host", .text host), ("path", .text path), ("kind", .text kind.name)]
  | .hostLoaded host matching routes =>
      [("host", .text host), ("matching", .text matching), ("routes", .number routes)]
  | .hostsLoaded server hosts => [("server", .text server), ("hosts", .number hosts)]
  | .invalidUuid server uuid => [("server", .text server), ("uuid", .text uuid)]
  | .noDefaultHost server defaultHost =>
      [("server", .text server), ("default_host", .text defaultHost)]
  | .serverCompiled server uuid bindAddress port hosts handlers =>
      [("server", .text server), ("uuid", .text uuid), ("bind_addr", .text bindAddress),
        ("port", .number port.toInt), ("hosts", .number hosts), ("handlers", .number handlers)]

/-! ## Topics -/

/-- The topic of the program, above those of all its parts. -/
def programTopic : String := "route_compiler"

/-- The part of the work in which an event happens, from the general to the particular. -/
def area : Event → List String
  | .compiling _ _ | .compilationFailed _ => []
  | .documentRead _ => ["config", "loader"]
  | .mapLoaded _ _ => ["compiler", "globals"]
  | .settingNotInteger _ _ _ => ["globals"]
  | .directoryLoaded _ _ | .unusablePort _ _ | .proxyLoaded _ _ | .handlerLoaded _ _ =>
      ["compiler", "backend"]
  | .sharedSend _ | .sharedRecv _ => ["routing", "registry"]
  | .routeLoaded _ _ _ => ["compiler", "routes"]
  | .hostLoaded _ _ _ | .hostsLoaded _ _ => ["compiler", "hosts"]
  | .invalidUuid _ _ | .noDefaultHost _ _ | .serverCompiled _ _ _ _ _ _ =>
      ["compiler", "server"]

def topic (event : Event) : String :=
  "::".intercalate (programTopic :: event.area)

/-- The names of the details of an event, its wording among them. -/
def fieldNames (event : Event) : List String :=
  "message" :: event.fields.map Prod.fst

end Event

end HostRouting
