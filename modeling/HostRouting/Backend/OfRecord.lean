import HostRouting.Audited
import HostRouting.Record

/-!
# Backends from records

A backend is built from the fields of a record, in a fixed order for each kind, so that the first
field that is absent or of the wrong type decides the failure.  What has been built is reported
under the label of the record.

A handler that is built here is a candidate: it has no position in a registry yet.
-/

namespace HostRouting

variable {σ : Type}

def Directory.ofRecord (record : Record) : Audited σ Directory := do
  let base ← .ofExcept (record.string "base")
  let indexFile ← .ofExcept (record.string "index_file")
  let defaultContentType ← .ofExcept (record.string "default_ctype")
  let cacheSeconds ← .ofExcept (record.integer "cache_ttl")
  let directory : Directory := { base, indexFile, defaultContentType, cacheSeconds }
  Audited.emit (.directoryLoaded record.label directory)
  return directory

/-- Builds a proxy.  A port that is no TCP port is kept and reported. -/
def Proxy.ofRecord (record : Record) : Audited σ Proxy := do
  let address ← .ofExcept (record.string "addr")
  let port ← .ofExcept (record.integer "port")
  let proxy : Proxy := { address, port }
  unless proxy.hasUsablePort do
    Audited.emit (.unusablePort record.label port)
  Audited.emit (.proxyLoaded record.label proxy)
  return proxy

/-- Builds a handler.  Handlers of a configuration speak tnet and get payloads as they are. -/
def Handler.ofRecord (record : Record) : Audited σ Handler := do
  let sendSpec ← .ofExcept (record.string "send_spec")
  let sendIdent ← .ofExcept (record.string "send_ident")
  let recvSpec ← .ofExcept (record.string "recv_spec")
  let recvIdent ← .ofExcept (record.string "recv_ident")
  let handler : Handler :=
    { sendSpec, sendIdent, recvSpec, recvIdent, protocol := .tnet, raw := true }
  Audited.emit (.handlerLoaded record.label handler)
  return handler

def Backend.ofRecord (kind : BackendKind) (record : Record) : Audited σ Backend :=
  match kind with
  | .directory => do return .directory (← Directory.ofRecord record)
  | .proxy => do return .proxy (← Proxy.ofRecord record)
  | .handler => do return .handler (← Handler.ofRecord record) none

def BackendKind.ofRecord (record : Record) : Except Failure BackendKind := do
  let name ← record.string "type"
  match ofName? name with
  | some kind => .ok kind
  | none => .error (.unknownKind record.label name)

end HostRouting
