import CaptureRig.Text.Split

namespace CaptureRig.Path

/-- The path of `name` below `directory`. An absolute name stands alone, and nothing is put before a relative one
if there is no directory. -/
def join (directory name : String) : String :=
  if name.startsWith "/" || directory.isEmpty then name
  else if directory.endsWith "/" then directory ++ name
  else directory ++ "/" ++ name

/-- Whether a piece between slashes leads anywhere; an empty one and the name for "here" do not. -/
def leads (piece : String) : Bool := !piece.isEmpty && piece != "."

/-- The names a path goes through. -/
def names (path : String) : List String := (Text.splitAt '/' path).filter leads

/-- The path of what the last name lies in. -/
def parent (path : String) : String :=
  let above := ((Text.splitAt '/' path).reverse.dropWhile (!leads ·)).tail
  "/".intercalate (above.dropWhile (!leads ·)).reverse

/-- How a path ends: in a name, in a slash after one, or in the name for "here". -/
inductive Ending where
  | name
  | slash
  | here
  deriving Repr, DecidableEq

def ending (path : String) : Ending :=
  match (Text.splitAt '/' path).reverse.find? (!·.isEmpty) with
  | some "." => .here
  | _ => if path.endsWith "/" then .slash else .name

/-- The last name of the path, unless that leads upwards. -/
def fileName? (path : String) : Option String :=
  match (names path).getLast? with
  | some ".." => none
  | name => name

/-- What follows the last point of a name that does not begin with its only point. -/
def extension? (path : String) : Option String :=
  match fileName? path with
  | none => none
  | some name =>
    match (Text.split (· == '.') name.toList).reverse with
    | last :: before :: more => if more.isEmpty && before.isEmpty then none else some (String.ofList last)
    | _ => none

end CaptureRig.Path
