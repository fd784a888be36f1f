/-! Paths of scripts. A path is shown in its shortest form, which leaves out what
says nothing about the place it leads to. -/
namespace ScriptLexer.Command

/-- A path: how many slashes begin it, and its components. A component that stands
for the directory it is in, and a slash more than one between components, say
nothing and are left out; the step to the parent directory is kept. -/
structure Path where
  /-- None for a path that starts from the current directory. Two slashes differ
  from one, three or more do not. -/
  slashes : Nat
  components : List (List Char)
deriving DecidableEq

namespace Path

/-- The parts of a text between slashes. -/
def split : List Char → List (List Char)
  | [] => [[]]
  | c :: rest =>
    if c = '/' then [] :: split rest
    else match split rest with
      | [] => [[c]]
      | part :: parts => (c :: part) :: parts

/-- The path that a text gives. -/
def ofText (text : List Char) : Path :=
  let leading := (text.takeWhile (· == '/')).length
  { slashes := if leading = 0 then 0 else if leading = 2 then 2 else 1
    components := (split text).filter fun part => !part.isEmpty && part != ['.'] }

/-- The text of a path, in which nothing is left that says nothing. -/
def print (path : Path) : List Char :=
  if path.slashes = 0 ∧ path.components.isEmpty then ['.']
  else List.replicate path.slashes '/' ++ ['/'].intercalate path.components

end Path

end ScriptLexer.Command
