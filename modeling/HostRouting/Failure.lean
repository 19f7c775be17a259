/-!
# Failures

Why a configuration cannot be read or compiled.  Each cause carries what its message names, and
`Failure.message` is the only place that words it.
-/

namespace HostRouting

inductive FileFault where
  | notFound
  | permissionDenied
  | notADirectory
  | isADirectory
  | nameTooLong
  | notText
  | nulInName
  | other (description : String)
  deriving DecidableEq

def FileFault.description : FileFault → String
  | .notFound => "No such file or directory (os error 2)"
  | .permissionDenied => "Permission denied (os error 13)"
  | .notADirectory => "Not a directory (os error 20)"
  | .isADirectory => "Is a directory (os error 21)"
  | .nameTooLong => "File name too long (os error 36)"
  | .notText => "stream did not contain valid UTF-8"
  | .nulInName => "file name contained an unexpected NUL byte"
  | .other description => description

inductive GlobalMap where
  | settings
  | mimeTypes
  deriving DecidableEq

/-- The name of a global map, which is also the field that fills it. -/
def GlobalMap.name : GlobalMap → String
  | .settings => "settings"
  | .mimeTypes => "mimetypes"

inductive Failure where
  | unreadable (fault : FileFault)
  | malformed
  | missingField (label field : String)
  | unknownKind (label kind : String)
  | duplicateRoute (host path : String)
  | duplicateHost (server host : String)
  | duplicateKey (map : GlobalMap) (key : String)
  | unknownServer (name : String)
  deriving DecidableEq

/-- The wording of a failure.  Names stand in it as they are. -/
def Failure.message : Failure → String
  | .unreadable fault => "IO error: " ++ fault.description
  | .malformed => "Parse error"
  | .missingField label field => label ++ ": missing or invalid field '" ++ field ++ "'"
  | .unknownKind label kind => label ++ ": invalid backend type '" ++ kind ++ "'"
  | .duplicateRoute host path => "host '" ++ host ++ "': duplicate route '" ++ path ++ "'"
  | .duplicateHost server host => "server '" ++ server ++ "': duplicate host '" ++ host ++ "'"
  | .duplicateKey map key => map.name ++ " key '" ++ key ++ "' already exists"
  | .unknownServer name => "no server named '" ++ name ++ "'"

end HostRouting
