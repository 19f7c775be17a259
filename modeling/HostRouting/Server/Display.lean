import HostRouting.GlobalStore
import HostRouting.Json
import HostRouting.Server

/-!
# Servers for their readers

The JSON form has everything that a server holds but its default host, which follows from the name
of that host, and the positions of its handlers, which follow from their sockets.  The summary has
a few lines about a server and the two global maps, then one for each host and each route.
-/

namespace HostRouting

/-! ## JSON -/

def Handler.jsonFields (handler : Handler) : List (String × Json) :=
  [("send_spec", .string handler.sendSpec), ("send_ident", .string handler.sendIdent),
    ("recv_spec", .string handler.recvSpec), ("recv_ident", .string handler.recvIdent),
    ("protocol", .string handler.protocol.name), ("raw", .boolean handler.raw)]

def Handler.toJson (handler : Handler) : Json :=
  .object handler.jsonFields

def Backend.jsonFields : Backend → List (String × Json)
  | .directory served =>
      [("base", .string served.base), ("index_file", .string served.indexFile),
        ("default_ctype", .string served.defaultContentType),
        ("cache_ttl", .number served.cacheSeconds)]
  | .proxy target => [("addr", .string target.address), ("port", .number target.port)]
  | .handler shared _ => shared.jsonFields

def Backend.toJson (backend : Backend) : Json :=
  .object (("type", .string backend.kind.name) :: backend.jsonFields)

def Host.toJson (host : Host) : Json :=
  .object [("name", .string host.name), ("matching", .string host.matching),
    ("routes", .object (host.routes.map fun (path, backend) => (path, backend.toJson)))]

def Server.toJson (server : Server) : Json :=
  .object [("uuid", .string server.shell.uuid),
    ("default_hostname", .string server.shell.defaultHostName),
    ("bind_addr", .string server.shell.bindAddress), ("port", .number server.shell.port),
    ("access_log", .string server.shell.accessLog), ("error_log", .string server.shell.errorLog),
    ("pid_file", .string server.shell.pidFile), ("use_ssl", .boolean server.shell.useSsl),
    ("hosts", .array (server.hosts.map Host.toJson)),
    ("handlers", .array (server.registry.handlers.map Handler.toJson))]

/-! ## Summaries -/

namespace Summary

def count (number : Nat) : String :=
  String.ofList (Decimal.digits number)

/-- A text filled up with blanks to a number of characters. -/
def column (width : Nat) (text : String) : String :=
  String.ofList (text.toList ++ List.replicate (width - text.toList.length) ' ')

def hostLines (host : Host) : List String :=
  ("  host " ++ host.name ++ " [" ++ host.matching ++ "]") ::
    host.routes.map fun (path, backend) =>
      "    " ++ column 24 path ++ " " ++ backend.kind.name

def lines (server : Server) (globals : Globals) : List String :=
  let shell := server.shell
  let transport := if shell.useSsl then "ssl" else "plain"
  let defaultHost := match server.defaultHost? with
    | some host => host.name
    | none => "-"
  ["server " ++ shell.uuid ++ " (" ++ transport ++ ")",
    "  listen       " ++ shell.bindAddress ++ ":" ++ Signed64.text shell.port,
    "  default host " ++ defaultHost,
    "  handlers     " ++ count server.registry.size,
    "  settings     " ++ count globals.settings.size,
    "  mimetypes    " ++ count globals.mimeTypes.size] ++
    server.hosts.flatMap hostLines

end Summary

/-- The summary of a server, each line with its end. -/
def Server.summary (server : Server) (globals : Globals) : String :=
  String.join ((Summary.lines server globals).map (· ++ "\n"))

end HostRouting
