import HostRouting.Failure
import HostRouting.Text

/-!
# File trees

Files and folders held in memory, and reading a file by its path as a file system does: a path is
followed name by name, and each step has its own way to fail.
-/

namespace HostRouting

inductive FileTree where
  | file (content : List UInt8)
  | folder (entries : List (String × FileTree))

namespace FileTree

def maxNameLength : Nat := 255

def maxPathLength : Nat := 4096

/-- The names in a path; it has an empty one where slashes meet or stand at an end. -/
def names (path : String) : List String :=
  (path.toList.splitOn '/').map String.ofList

/-- Puts a tree at the place that some names lead to, making folders on the way. -/
def insert (added : FileTree) : List String → List (String × FileTree) → List (String × FileTree)
  | [], entries => entries
  | name :: names, entries =>
      let inner := match entries.lookup name with
        | some (.folder inner) => inner
        | _ => []
      let placed := match names with
        | [] => added
        | _ :: _ => .folder (insert added names inner)
      (name, placed) :: entries.filter (·.1 != name)

def ofList (trees : List (String × FileTree)) : FileTree :=
  .folder (trees.foldl (fun entries (path, tree) => insert tree (names path) entries) [])

/-- Follows names from a tree.  The folders above it are given, nearest first; nothing is known of
what lies beyond them. -/
def follow (above : List FileTree) : FileTree → List String → Except FileFault FileTree
  | here, [] => .ok here
  | .file _, _ :: _ => .error .notADirectory
  | .folder entries, name :: names =>
      if name = "" ∨ name = "." then follow above (.folder entries) names
      else if name = ".." then
        match above with
        | [] => follow [] (.folder []) names
        | parent :: rest => follow rest parent names
      else if maxNameLength < (Utf8.bytes name).length then .error .nameTooLong
      else
        match entries.lookup name with
        | none => .error .notFound
        | some tree => follow (.folder entries :: above) tree names

/-- The text of the file at a path, seen from a folder.  A path that starts with a slash leads
outside, where there is nothing. -/
def read (folder : FileTree) (path : String) : Except FileFault String := do
  if path.toList.contains '\x00' then .error .nulInName
  else if path = "" then .error .notFound
  else if maxPathLength ≤ (Utf8.bytes path).length then .error .nameTooLong
  else
    let start := if path.toList.head? = some '/' then .folder [] else folder
    match ← follow [] start (names path) with
    | .folder _ => .error .isADirectory
    | .file content =>
        match Utf8.text? content with
        | some text => .ok text
        | none => .error .notText

end FileTree

end HostRouting
