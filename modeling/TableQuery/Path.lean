import TableQuery.Text.Parts

/-!
# Paths

A path is kept as it is written, as its parts between slashes. Some parts lead nowhere: an empty
part and a single point stay where they are, and two points lead one directory up. The place of a
path is what it leads to, and the directories above a path are found by leaving out its last parts.
-/

namespace TableQuery

abbrev Path := List String

namespace Path

def isIdle (part : String) : Bool :=
  part = "" || part = "."

/-- The parts of a path below the root. What is idle in front of the path is not a part of it, and
neither is a slash at its end. -/
def ofText (text : String) : Path :=
  let parts := ((Text.splitAll '/' text.toList).map String.ofList).dropWhile isIdle
  if parts.getLast? = some "" then parts.dropLast else parts

def text (path : Path) : String :=
  Text.join "/" path

/-!
## Places

A path is followed part by part from the root. Nothing is above the root.
-/

/-- Follows a part from a place whose path is given from the end. Nothing is above the root. -/
def follow? (place : Path) (part : String) : Option Path :=
  if isIdle part then some place
  else if part = ".." then place.tail?
  else some (part :: place)

def resolve? (path : Path) : Option Path :=
  (path.foldlM follow? []).map List.reverse

def way (path : Path) : List Path :=
  (List.range (path.length + 1)).filterMap fun parts => resolve? (path.take parts)

/-!
## Directories above a path
-/

/-- The paths above a path, nearest first, all given from the end. Leaving out a part leaves out the
idle parts in front of it too. -/
def aboveReversed : Path → List Path
  | [] => []
  | part :: rest =>
    if isIdle part then aboveReversed rest
    else rest.dropWhile isIdle :: aboveReversed rest

def upwards (path : Path) : List Path :=
  path :: (aboveReversed path.reverse).map List.reverse

end Path

end TableQuery
