import ScriptLexer.Command.Path
import ScriptLexer.Text.Utf8

/-! Reading the file at a path: why it can fail, and a small tree of directories and
files in which paths can be looked up. -/
namespace ScriptLexer.Command

open Text

/-- Why a file cannot be read. -/
inductive ReadFault
  /-- An error of the system, with its number and description. -/
  | system (code : Int) (description : List Char)
  /-- A path cannot hold a NUL. This is no error of the system, and it leaves a trace. -/
  | nulInPath (trace : List Char)
deriving DecidableEq

namespace ReadFault

def missing : ReadFault := system 2 "No such file or directory".toList
def denied : ReadFault := system 13 "Permission denied".toList
def notDirectory : ReadFault := system 20 "Not a directory".toList
def isDirectory : ReadFault := system 21 "Is a directory".toList
def nameTooLong : ReadFault := system 36 "File name too long".toList

end ReadFault

/-- Directories and files below a current directory, under the components that
lead to them. A directory on the way to an entry need not be listed. -/
structure Tree where
  directories : List (List (List Char))
  files : List (List (List Char) × List UInt8)

namespace Tree

/-- What stands at a place. -/
inductive Node
  | file (content : List UInt8)
  | directory (components : List (List Char))
  /-- A directory outside the tree, of which nothing is known but its parent. -/
  | outside
deriving DecidableEq

/-- Whether the components lead to a directory. -/
def holdsDirectory (tree : Tree) (components : List (List Char)) : Bool :=
  tree.directories.any (components.isPrefixOf ·) ||
    tree.files.any fun file => components.isPrefixOf file.1 && components != file.1

/-- The entry at the components. -/
def entry (tree : Tree) (components : List (List Char)) : Except ReadFault Node :=
  match tree.files.lookup components with
  | some content => .ok (.file content)
  | none => if tree.holdsDirectory components then .ok (.directory components) else .error .missing

/-- The longest name of an entry, in bytes. -/
def longestName : Nat := 255

/-- The first length of a path, in bytes, that is too long. -/
def pathBound : Nat := 4096

/-- Goes from one node along one component. -/
def follow (tree : Tree) (node : Node) (component : List Char) : Except ReadFault Node :=
  match node with
  | .file _ => .error .notDirectory
  | .directory components =>
    if component = "..".toList then
      .ok (if components.isEmpty then .outside else .directory components.dropLast)
    else if longestName < (Utf8.encode component).length then .error .nameTooLong
    else tree.entry (components ++ [component])
  | .outside =>
    if component = "..".toList then .ok .outside
    else if longestName < (Utf8.encode component).length then .error .nameTooLong
    else .error .missing

/-- The content of the file at a path, where `trace` is what an attempt with a NUL leaves. -/
def read (tree : Tree) (trace : List Char) (path : Path) : Except ReadFault (List UInt8) :=
  if path.print.contains '\x00' then .error (.nulInPath trace)
  else if pathBound ≤ (Utf8.encode path.print).length then .error .nameTooLong
  else do
    let begin := if path.slashes = 0 then Node.directory [] else Node.outside
    match ← path.components.foldlM tree.follow begin with
    | .file content => .ok content
    | .directory _ | .outside => .error .isDirectory

end Tree

end ScriptLexer.Command
