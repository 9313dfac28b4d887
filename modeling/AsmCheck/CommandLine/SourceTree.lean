import AsmCheck.Text.Basic

/-!
# Source trees

A tree of files and directories in which a path names a source. A path is followed component by
component from the working directory; nothing is known of the world outside it.
-/

namespace AsmCheck.CommandLine

set_option autoImplicit false

inductive ReadError where
  | missing
  | notDirectory
  | isDirectory
  deriving DecidableEq

def ReadError.message : ReadError → String
  | .missing => "[Errno 2] No such file or directory"
  | .notDirectory => "[Errno 20] Not a directory"
  | .isDirectory => "[Errno 21] Is a directory"

/-- Files and directories, by the components of their paths from the working directory. -/
structure SourceTree where
  files : List (List Text × ByteArray)
  directories : List (List Text)

/-- Where a path has led so far. -/
inductive Place where
  | directory (path : List Text)
  | outside
  | file (content : ByteArray)

namespace SourceTree

/-- A directory is one that is listed or that something is in. -/
def isDirectory (tree : SourceTree) (path : List Text) : Bool :=
  tree.directories.any path.isPrefixOf ||
    tree.files.any fun file => path.isPrefixOf file.1 && path.length < file.1.length

def enter (tree : SourceTree) (path : List Text) : Except ReadError Place :=
  match tree.files.find? (·.1 == path) with
  | some file => .ok (.file file.2)
  | none => if tree.isDirectory path then .ok (.directory path) else .error .missing

/-- Follows one component of a path. An empty component stays where it is. -/
def step (tree : SourceTree) (place : Place) (component : Text) : Except ReadError Place :=
  match place with
  | .file _ => .error .notDirectory
  | .outside =>
    if component = [] || component = ['.'] || component = ['.', '.'] then .ok .outside
    else .error .missing
  | .directory path =>
    if component = [] || component = ['.'] then .ok (.directory path)
    else if component = ['.', '.'] then
      .ok (if path.isEmpty then .outside else .directory path.dropLast)
    else tree.enter (path ++ [component])

/-- The content of the file that a path names. -/
def read (tree : SourceTree) (path : Text) : Except ReadError ByteArray := do
  let start := if path.head? = some '/' then Place.outside else .directory []
  if path.isEmpty then throw .missing
  match ← (Text.pieces '/' path).foldlM tree.step start with
  | .file content => return content
  | _ => throw .isDirectory

end SourceTree

end AsmCheck.CommandLine
