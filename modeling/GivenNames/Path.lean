import GivenNames.Text.Pieces

/-!
Paths of files. Two paths are the same when their parts are; separators at the end, repeated
separators and the part "." behind the front count for nothing.
-/

namespace GivenNames.Path

/-- A part of a path. -/
inductive Part where
  | root
  | here
  | up
  | name (s : List Char)
  deriving DecidableEq, Repr

/-- The part that a piece behind the front stands for, if any. -/
def partOf? : List Char → Option Part
  | [] => none
  | ['.'] => none
  | ['.', '.'] => some .up
  | piece => some (.name piece)

/-- The parts of a path. -/
def parts (path : String) : List Part :=
  match path.toList with
  | [] => []
  | '/' :: cs => .root :: (Text.pieces '/' cs).filterMap partOf?
  | cs =>
    match Text.pieces '/' cs with
    | ['.'] :: rest => .here :: rest.filterMap partOf?
    | pieces => pieces.filterMap partOf?

/-- The name of the file that a path ends with. -/
def fileName? (path : String) : Option (List Char) :=
  match (parts path).getLast? with
  | some (.name s) => some s
  | _ => none

/-- What follows the last point of a file name; a point in front begins no extension. -/
def extensionOf (name : List Char) : List Char :=
  let after := (name.reverse.takeWhile (· != '.')).reverse
  if after.length + 1 < name.length then after else []

/-- The extension of a path in small letters, empty if it has none. -/
def extension (path : String) : String :=
  match fileName? path with
  | none => ""
  | some name => String.ofList ((extensionOf name).map Char.toLower)

/-- Whether two paths have the same parts. -/
def same (a b : String) : Bool :=
  parts a == parts b

end GivenNames.Path
