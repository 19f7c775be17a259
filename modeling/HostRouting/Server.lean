import HostRouting.Host
import HostRouting.Record
import HostRouting.Registry

/-!
# Servers

A server has a shell, which says where it listens and writes, a list of hosts with distinct names,
and the registry of the handlers of all hosts.  One of the hosts may be marked as the default.
-/

namespace HostRouting

structure Shell where
  uuid : String
  /-- The name of the host for requests that no other host matches. -/
  defaultHostName : String
  bindAddress : String
  port : Int64
  accessLog : String
  errorLog : String
  pidFile : String
  useSsl : Bool
  deriving DecidableEq

/-- Reads the fields of a shell, in this order. -/
def Shell.ofRecord (record : Record) : Except Failure Shell := do
  let uuid ← record.string "uuid"
  let defaultHostName ← record.string "default_host"
  let bindAddress ← record.string "bind_addr"
  let port ← record.integer "port"
  let accessLog ← record.string "access_log"
  let errorLog ← record.string "error_log"
  let pidFile ← record.string "pid_file"
  let useSsl ← record.flag "use_ssl"
  return { uuid, defaultHostName, bindAddress, port, accessLog, errorLog, pidFile, useSsl }

structure Server where
  shell : Shell
  hosts : List Host := []
  registry : Registry := {}
  /-- The position of the default host. -/
  defaultPosition : Option Nat := none

namespace Server

def host? (server : Server) (name : String) : Option Host :=
  server.hosts.find? fun host => host.name == name

/-- Adds a host behind the others; a name that is taken is refused. -/
def addHost (host : Host) (server : Server) : Except Failure Server :=
  if (server.host? host.name).isSome then
    .error (.duplicateHost server.shell.uuid host.name)
  else .ok { server with hosts := server.hosts ++ [host] }

/-- The host for requests that no other host matches. -/
def defaultHost? (server : Server) : Option Host :=
  server.defaultPosition.bind (server.hosts[·]?)

end Server

end HostRouting
