import HostRouting.Server

/-!
# Compiling a server

A document may describe several servers.  The first one with the requested name is compiled, all
of it or nothing.

A host is added to its server once all its routes are built.  A host that fails leaves no trace but
the handlers that it has registered and the events that it has reported.
-/

namespace HostRouting

/-! ## UUIDs

The texts that name a UUID: 32 hexadecimal digits, or the same with hyphens after the 8th, 12th,
16th and 20th digit; the form with hyphens may stand in braces or behind the name of its URN
namespace. -/

namespace Uuid

/-- Whether a text is a row of hexadecimal digits, exactly as many as given. -/
def isGroup (count : Nat) (text : List Char) : Bool :=
  text.length == count && text.all fun character => (Digit.value? character).isSome

def isHyphenated (text : List Char) : Bool :=
  match text.splitOn '-' with
  | [first, second, third, fourth, fifth] =>
      isGroup 8 first && isGroup 4 second && isGroup 4 third && isGroup 4 fourth &&
        isGroup 12 fifth
  | _ => false

def inBraces? : List Char → Option (List Char)
  | '\x7B' :: rest => if rest.getLast? = some '\x7D' then some rest.dropLast else none
  | _ => none

/-- What follows the name of the URN namespace, whose letters may be of either case. -/
def afterUrn? (text : List Char) : Option (List Char) :=
  if (text.take 9).map Char.toLower = "urn:uuid:".toList then some (text.drop 9) else none

def isValid (text : String) : Bool :=
  let characters := text.toList
  isGroup 32 characters || isHyphenated characters ||
    (inBraces? characters).any isHyphenated || (afterUrn? characters).any isHyphenated

end Uuid

namespace Server

/-! ## Hosts from records -/

/-- Adds a finished host and returns its position.  It becomes the default host if it has the name
for that. -/
def install (host : Host) : Audited Server Nat := do
  Audited.update (addHost host)
  let server ← Audited.get
  let position := server.hosts.length - 1
  if host.name = server.shell.defaultHostName then
    Audited.set { server with defaultPosition := some position }
  return position

def loadHost (record : Record) : Audited Server Nat := do
  let name ← .ofExcept (record.string "name")
  let matching ← .ofExcept (record.string "matching")
  let routes ← .ofExcept (record.subtable "routes")
  let (count, built) ← Audited.within
    (fun server => { host := { name, matching }, registry := server.registry })
    (fun built server => { server with registry := built.registry })
    (Construction.loadRoutes routes)
  let position ← install built.host
  Audited.emit (.hostLoaded name matching count)
  return position

/-- Builds all hosts of the record of a server and returns how many there are.  Hosts before one
that fails stay. -/
def loadHosts (record : Record) : Audited Server Nat := do
  let records ← .ofExcept (record.records "hosts")
  let count ← Audited.countEach
    (fun entry => do
      let host ← .ofExcept entry
      let _ ← loadHost host) records
  let server ← Audited.get
  Audited.emit (.hostsLoaded server.shell.uuid count)
  return count

/-! ## Servers from documents -/

/-- The first of some records that has a name.  Every record before it must have a name, too. -/
def firstNamed (name : String) : List (Except Failure Record) → Except Failure Record
  | [] => .error (.unknownServer name)
  | entry :: rest => do
      let record ← entry
      let found ← record.string "name"
      if found = name then
        return { record with label := "server '" ++ name ++ "'" }
      else firstNamed name rest

def find (root : Record) (name : String) : Except Failure Record := do
  firstNamed name (← root.records "servers")

def compile (root : Record) (name : String) : Audited Unit Server := do
  let record ← .ofExcept (find root name)
  let shell ← .ofExcept (Shell.ofRecord record)
  unless Uuid.isValid shell.uuid do
    Audited.emit (.invalidUuid name shell.uuid)
  let (_, server) ← Audited.within (fun _ => { shell }) (fun _ state => state)
    (loadHosts record)
  if server.defaultHost?.isNone then
    Audited.emit (.noDefaultHost name shell.defaultHostName)
  Audited.emit (.serverCompiled name shell.uuid shell.bindAddress shell.port
    server.hosts.length server.registry.size)
  return server

end Server

end HostRouting
