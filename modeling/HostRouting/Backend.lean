/-!
# Backends

What a route leads to: a directory on disk, another HTTP server, or a handler, which is a process
that is reached over a pair of sockets.  The first two belong to their route alone.  A handler may
serve many routes of one server: its sockets identify it, and the registry of the server keeps one
handler for each pair.
-/

namespace HostRouting

inductive BackendKind where
  | directory
  | proxy
  | handler
  deriving DecidableEq

namespace BackendKind

def name : BackendKind → String
  | .directory => "dir"
  | .proxy => "proxy"
  | .handler => "handler"

def ofName? (name : String) : Option BackendKind :=
  [directory, proxy, handler].find? fun kind => kind.name == name

end BackendKind

structure Directory where
  /-- The path below which files are found. -/
  base : String
  /-- The file that answers a request for the directory itself. -/
  indexFile : String
  /-- The content type of files whose extension is unknown. -/
  defaultContentType : String
  /-- For how many seconds an answer may be kept; not at all unless positive. -/
  cacheSeconds : Int64
  deriving DecidableEq

/-- For how many seconds an answer may be kept, if it may be kept at all. -/
def Directory.cacheLifetime (directory : Directory) : Option Nat :=
  if 0 < directory.cacheSeconds.toInt then some directory.cacheSeconds.toInt.toNat else none

/-- Another HTTP server.  Its port is kept as configured. -/
structure Proxy where
  address : String
  port : Int64
  deriving DecidableEq

def Proxy.hasUsablePort (proxy : Proxy) : Bool :=
  1 ≤ proxy.port.toInt && proxy.port.toInt ≤ 65535

theorem Proxy.hasUsablePort_iff (proxy : Proxy) :
    proxy.hasUsablePort = true ↔ 1 ≤ proxy.port.toInt ∧ proxy.port.toInt ≤ 65535 := by
  rw [hasUsablePort, Bool.and_eq_true, decide_eq_true_eq, decide_eq_true_eq]

/-- How messages to and from a handler are framed. -/
inductive Protocol where
  | json
  | tnet
  deriving DecidableEq

def Protocol.name : Protocol → String
  | .json => "json"
  | .tnet => "tnet"

structure Handler where
  sendSpec : String
  sendIdent : String
  recvSpec : String
  recvIdent : String
  protocol : Protocol := .json
  /-- Whether payloads are passed through without framing. -/
  raw : Bool := false
  deriving DecidableEq

namespace Handler

def identity (handler : Handler) : String × String :=
  (handler.sendSpec, handler.recvSpec)

def sameSend (left right : Handler) : Bool :=
  left.sendSpec == right.sendSpec

def sameRecv (left right : Handler) : Bool :=
  left.recvSpec == right.recvSpec

end Handler

/-- What a route leads to.  A handler comes with its position in the registry of the server, if it
is the very handler that the registry keeps; one that only equals it has none. -/
inductive Backend where
  | directory (directory : Directory)
  | proxy (proxy : Proxy)
  | handler (handler : Handler) (slot : Option Nat)
  deriving DecidableEq

namespace Backend

def kind : Backend → BackendKind
  | .directory _ => .directory
  | .proxy _ => .proxy
  | .handler _ _ => .handler

end Backend

end HostRouting
