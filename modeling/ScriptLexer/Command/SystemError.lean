import ScriptLexer.Text.Quoted

/-! Errors of the system, and the details that come with a failure from outside the
library. -/
namespace ScriptLexer.Command

open Text

/-- One of the things a failure tells about itself. -/
inductive Detail
  | text (value : List Char)
  | number (value : Int)
  | bytes (value : List UInt8)
deriving DecidableEq

namespace Detail

/-- A detail on its own: a text as it is. -/
def plain : Detail → List Char
  | text value => value
  | number value => signedDecimal value
  | bytes value => quotedBytes value

/-- A detail among others: a text in quotes. -/
def shown : Detail → List Char
  | text value => quoted value
  | number value => signedDecimal value
  | bytes value => quotedBytes value

/-- Details in a row: nothing for none, a single one on its own, and several in
parentheses. -/
def words : List Detail → List Char
  | [] => []
  | [detail] => detail.plain
  | details => '(' :: ", ".toList.intercalate (details.map shown) ++ [')']

/-- Details of a search that found nothing. What was searched for is quoted even
on its own. -/
def keyWords : List Detail → List Char
  | [detail] => detail.shown
  | details => words details

/-- Details that the system gives: the number and the description of an error,
then the path it is about, or the two paths. -/
def systemWords : List Detail → List Char
  | [code, description] => coded code description
  | [code, description, path] | [code, description, path, _] =>
    coded code description ++ ": ".toList ++ path.shown
  | [code, description, path, _, target] =>
    coded code description ++ ": ".toList ++ path.shown ++ " -> ".toList ++ target.shown
  | details => words details
where
  coded (code description : Detail) : List Char :=
    "[Errno ".toList ++ code.plain ++ "] ".toList ++ description.plain

end Detail

/-- The errors of the system that the command tells apart. -/
inductive SystemError
  | missing
  | denied
  | isDirectory
  | other
deriving DecidableEq

namespace SystemError

/-- The error of a system error number. -/
def ofCode (code : Int) : SystemError :=
  if code = 2 then missing
  else if code = 1 ∨ code = 13 then denied
  else if code = 21 then isDirectory
  else other

/-- The error of the details that the system gives, which begin with its number. -/
def ofDetails : List Detail → SystemError
  | [.number code, _] | [.number code, _, _] | [.number code, _, _, _]
  | [.number code, _, _, _, _] => ofCode code
  | _ => other

end SystemError

end ScriptLexer.Command
