import LayeredUnits.Text.Segments

/-!
# Paths as text

A path is text, and stays the text that it was given as until it is resolved:
`a/../b` is not `b`. `join` puts a name below a path, and `parent?` takes the
last component off. Empty segments and segments `.` are no components, except
for a `.` that a relative path starts with.
-/

namespace LayeredUnits.Path

/-- Whether a path starts at the root. All others start at the home of a volume. -/
def isAbsolute (path : String) : Bool := path.toList.head? == some '/'

/-- A path below another. An absolute path stands for itself, and nothing is taken out of either
text. -/
def join (base rel : String) : String :=
  if isAbsolute rel || base.isEmpty then rel
  else if Text.endsWith "/" base then base ++ rel
  else base ++ "/" ++ rel

/-- The text of the canonical path with these components: absolute, with single slashes and without
a slash at its end. -/
def ofComponents (components : List String) : String :=
  match components with
  | [] => "/"
  | _ => components.foldl (fun text component => text ++ "/" ++ component) ""

/-- A segment that is no component: an empty one, as between two slashes, or a dot. -/
def isBlank (segment : List Char) : Bool := segment == [] || segment == ['.']

/-- Segments, the last one first, without those at the end that are no components. The first segment
of a relative path is one even if it is a dot. -/
def dropBlanks (absolute : Bool) : List (List Char) → List (List Char)
  | [] => []
  | [first] => if absolute then [first] else if first == [] then [] else [first]
  | last :: front => if isBlank last then dropBlanks absolute front else last :: front

/-- A path without its last component, if it has one. Only the text is looked at, so `..` is a
component like any other. -/
def parent? (path : String) : Option String :=
  let absolute := isAbsolute path
  match dropBlanks absolute (Text.segments '/' path.toList).reverse with
  | [] => none
  | [_] => if absolute then none else some ""
  | _ :: front =>
    match dropBlanks absolute front with
    | [_] =>
      if absolute then some "/"
      else some (String.ofList (Text.joined '/' (dropBlanks absolute front).reverse))
    | kept => some (String.ofList (Text.joined '/' kept.reverse))

end LayeredUnits.Path
