import GivenNames.Source.Load

/-!
What stands at a path, seen from a directory.

A path is walked piece by piece: a name leads to what goes by it, a point stays, two points leave,
and nothing lies behind a file. The directories around the one that the walk begins in are not known
and taken to hold nothing else.
-/

namespace GivenNames

/-- A directory without further ones that hold files: what it holds, by name. -/
abbrev Directory := List (String × Content)

namespace Directory

/-- The number of bytes that a name may have. -/
def longestName : Nat := 255

/-- The number of bytes that a path may have. -/
def longestPath : Nat := 4095

/-- Where a walk along a path stands: in the directory, in an empty directory in it, in one that is
not known, or at a file or nothing. -/
inductive Spot where
  | here
  | below
  | outside
  | reached (content : Content)

/-- Where a name leads in a directory without it. -/
def enterEmpty (name : List Char) : Spot :=
  .reached (.nothing (if longestName < (String.ofList name).utf8ByteSize then .nameTooLong
    else .notFound))

/-- Where a name in the directory leads. -/
def enter (d : Directory) (name : List Char) : Spot :=
  match d.find? fun (file, _) => file.toList == name with
  | some (_, .directory) => .below
  | some (_, .nothing .notFound) => enterEmpty name
  | some (_, content) => .reached content
  | none => enterEmpty name

/-- Where the next piece of a path leads. -/
def step (d : Directory) (spot : Spot) (piece : List Char) : Spot :=
  let stays := piece.isEmpty || piece == ['.']
  let leaves := piece == ['.', '.']
  match spot with
  | .here => if stays then .here else if leaves then .outside else d.enter piece
  | .below => if stays then .below else if leaves then .here else enterEmpty piece
  | .outside => if stays || leaves then .outside else enterEmpty piece
  | .reached (.nothing why) => .reached (.nothing why)
  | .reached _ => .reached (.nothing .notDirectory)

/-- Where a walk along the pieces of a path leads; a path that begins with a separator begins
elsewhere. -/
def walk (d : Directory) (path : String) (pieces : List (List Char)) : Spot :=
  pieces.foldl d.step (if path.toList.head? = some '/' then .outside else .here)

/-- What stands at a path that is looked up from a directory. -/
def lookup (d : Directory) (path : String) : Content :=
  if longestPath < path.utf8ByteSize then .nothing .nameTooLong
  else if path.isEmpty then .nothing .notFound
  else
    match d.walk path (Text.pieces '/' path.toList) with
    | .reached content => content
    | _ => .directory

/-- The name in the directory of a file that is written to a path, if one can be. -/
def target? (d : Directory) (path : String) : Option String :=
  let pieces := Text.pieces '/' path.toList
  match d.lookup path, d.walk path pieces.dropLast, pieces.getLast? with
  | .directory, _, _ => none
  | .nothing .nameTooLong, _, _ => none
  | _, .here, some (c :: cs) => some (String.ofList (c :: cs))
  | _, _, _ => none

end Directory

end GivenNames
