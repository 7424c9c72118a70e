/-!
# Routes to files

A place is given by the names that lead to it from a folder. A route is how a place is written:
along the names of folders, with `..` for the way up. Two routes may lead to one place, and a route
leads nowhere if it passes something that is not there, or if it is too long to be followed.
-/

namespace VisitorLink

/-- The place of something, as the names on the way to it, the last one first. A place above the
folder that it is seen from begins with `..`. The depth tells most places apart at once. -/
structure Path where
  depth : Nat
  names : List String
  depth_eq : depth = names.length
deriving DecidableEq, Repr

namespace Path

/-- The place of the folder itself. -/
def top : Path where
  depth := 0
  names := []
  depth_eq := rfl

/-- The place of a name in the folder at a place. -/
def inside (path : Path) (name : String) : Path where
  depth := path.depth + 1
  names := name :: path.names
  depth_eq := congrArg (· + 1) path.depth_eq

/-- The place of the folder that holds what stands at a place. -/
def outside (path : Path) : Path where
  depth := path.depth - 1
  names := path.names.tail
  depth_eq := by rw [path.depth_eq, List.length_tail]

/-- The name that leads up. -/
def upName : String := ".."

/-- Whether a name is short enough to be that of a file. -/
def isName (name : String) : Bool :=
  name.utf8ByteSize ≤ 255

/-- Whether a place is that of the folder itself, or above it. -/
def isAbove (path : Path) : Bool :=
  path.names.all (· == upName)

/-- Whether a place is in the folder, at whatever depth. -/
def isBelow (path : Path) : Bool :=
  path.names.getLast?.any (· != upName)

/-- The place that a name leads to. -/
def go (path : Path) (name : String) : Option Path :=
  if name = upName then some (if path.isAbove then path.inside upName else path.outside)
  else if isName name then some (path.inside name)
  else none

/-- The text of a place. -/
def toText (path : Path) : String :=
  "/".intercalate path.names.reverse

end Path

/-- The way to a place as it is written, step by step. -/
structure Route where
  steps : List String
deriving DecidableEq, Repr

namespace Route

/-- The route that a text denotes, which has slashes between the steps. -/
def ofText (text : String) : Route where
  steps := (text.split '/').toList.map fun step => step.toString

/-- Whether a step leads nowhere else, as an empty one and a single point do. -/
def stays (step : String) : Bool :=
  step == "" || step == "."

/-- The names that lead on. -/
def names (route : Route) : List String :=
  route.steps.filter fun step => !stays step

/-- Whether nothing but a folder can stand at the end, as the last step leads nowhere else. -/
def toFolder (route : Route) : Bool :=
  route.steps.getLast?.any stays

/-- The route to the folder that holds what stands at the end. -/
def parent (route : Route) : Route where
  steps := (((route.steps.reverse.dropWhile stays).drop 1).dropWhile stays).reverse

/-- The bytes of a route as it is written, with a slash behind each step but the last. -/
def size (route : Route) : Nat :=
  route.steps.foldl (fun size step => size + step.utf8ByteSize + 1) 0 - 1

/-- The bytes that a route may have at most: of 4095 in all, the way to the folder from which the
route starts takes 16. -/
def longest : Nat := 4095 - 16

/-- Whether a route can be followed: it is not too long, and no NUL cuts it off. -/
def isSound (route : Route) : Bool :=
  route.size ≤ longest && route.steps.all fun step => !step.toList.contains '\x00'

end Route

end VisitorLink
