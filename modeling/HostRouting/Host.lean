import HostRouting.Backend.OfRecord
import HostRouting.Registry
import HostRouting.Text

/-!
# Hosts

A virtual host has a name, a pattern that selects it, and a table of routes.  Paths are unique in
the table, and the table is kept in the order of the UTF-8 bytes of the paths, whatever the order
in which routes are added.

The routes of a host are built one after another, in the order of the document.  Handlers go
through the registry of the server before their route is added, so that all routes with the same
pair of sockets lead to one handler.
-/

namespace HostRouting

structure Host where
  name : String
  /-- The pattern that the host of a request is matched against. -/
  matching : String
  routes : List (String × Backend) := []

namespace Host

def route? (host : Host) (path : String) : Option Backend :=
  host.routes.lookup path

def insertRoute (path : String) (backend : Backend) :
    List (String × Backend) → List (String × Backend)
  | [] => [(path, backend)]
  | route :: rest =>
      if Utf8.Precedes path route.1 then (path, backend) :: route :: rest
      else route :: insertRoute path backend rest

/-- Adds a route; a path that has one is refused. -/
def addRoute (path : String) (backend : Backend) (host : Host) : Except Failure Host :=
  if (host.route? path).isSome then .error (.duplicateRoute host.name path)
  else .ok { host with routes := insertRoute path backend host.routes }

/-- The routes that lead to handlers, each with the position of its handler in the registry. -/
def links (host : Host) : List (String × Option Nat) :=
  host.routes.filterMap fun (path, backend) =>
    match backend with
    | .handler _ slot => some (path, slot)
    | _ => none

end Host

/-! ## Building hosts from records -/

open Toml (Value)

/-- A host that is being built, and the registry to which its handlers go. -/
structure Construction where
  host : Host
  registry : Registry := {}

namespace Construction

def routeLabel (host path : String) : String :=
  "host '" ++ host ++ "' route '" ++ path ++ "'"

/-- Replaces a candidate by the registered handler with its sockets. -/
def share : Backend → Audited Construction Backend
  | .handler candidate _ => do
      let ((handler, slot), _) ← Audited.within registry
        (fun registry construction => { construction with registry })
        (Registry.register candidate)
      return .handler handler (some slot)
  | backend => return backend

def addRoute (path : String) (backend : Backend) : Audited Construction Unit :=
  .update fun construction =>
    (construction.host.addRoute path backend).map fun host => { construction with host }

def loadRoute (routes : Record) (entry : String × Value) : Audited Construction Unit := do
  let (path, value) := entry
  let construction ← Audited.get
  match value.table? with
  | none => .ofExcept (.error (routes.missing path))
  | some table =>
      let name := construction.host.name
      let record : Record := ⟨routeLabel name path, table⟩
      let kind ← .ofExcept (BackendKind.ofRecord record)
      let candidate ← Backend.ofRecord kind record
      let backend ← share candidate
      addRoute path backend
      Audited.emit (.routeLoaded name path kind)

/-- Builds the routes of a table and returns how many there are.  What was added before an entry
that fails stays. -/
def loadRoutes (routes : Record) : Audited Construction Nat :=
  Audited.countEach (loadRoute routes) routes.table

end Construction

end HostRouting
