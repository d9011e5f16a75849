import LayeredUnits.Fault
import LayeredUnits.Volume.Path

/-!
# Volumes

A volume is a tree of directories, files and symbolic links, with the contents
of the files kept beside the tree: a file that has been opened can still be
read after its name is gone. `resolve` walks a path through the tree the way
an operating system does, one segment at a time, following links. A walk ends
because every link that it follows is counted and every other segment makes
the path shorter.

There are two ways to a file. A path that names it goes through a directory
without asking what else is in it; a walk through a tree has to ask. Some
directories answer the first only (mode 0711, say), and which ones do is part
of a volume.

Of what an operating system has, this is left out: all other permissions (every
file can be opened, and every directory gone through and written to), the
limits on the length of names and paths, special files, and names that are not
UTF-8.
-/

namespace LayeredUnits

/-- What a name in a directory stands for. A file is a number, so that two names can stand for one
file and a file can outlive its names. -/
inductive Node where
  /-- The regular file with this number. -/
  | file (number : Nat)
  | link (target : String)
  | directory (children : List (String × Node))
deriving Inhabited

namespace Node

/-- The node at the end of a way down. Links are not followed here: a way down is a list of names,
and not a path. -/
def at? (node : Node) : List String → Option Node
  | [] => some node
  | name :: rest =>
    match node with
    | .directory children => (children.lookup name).bind fun child => child.at? rest
    | _ => none

/-- The children of a directory with one of them changed, added or taken out. The others keep their
places. -/
def putChild (children : List (String × Node)) (name : String) :
    Option Node → List (String × Node)
  | none => children.filter fun child => child.1 != name
  | some node =>
    if children.any fun child => child.1 == name then
      children.map fun child => if child.1 == name then (name, node) else child
    else children ++ [(name, node)]

/-- The tree with another node, or none, at the end of a way down. If the way leads through anything
but directories that are there, the tree stays as it is. -/
def put (new : Option Node) : List String → Node → Node
  | [], node => new.getD node
  | [name], .directory children => .directory (putChild children name new)
  | name :: rest, .directory children =>
    match children.lookup name with
    | some child => .directory (putChild children name (some (child.put new rest)))
    | none => .directory children
  | _, node => node

/-- What a walk through a tree comes upon. Links are not among it, since a walk neither follows nor
tells of them. -/
inductive Stop where
  /-- The regular file with this number. -/
  | file (number : Nat)
  /-- A directory that cannot be listed. Nothing below it is come upon. -/
  | barred

/-- The number of a file, if what the walk has come upon is one. -/
def Stop.file? : Stop → Option Nat
  | .file number => some number
  | .barred => none

mutual

/-- A walk through a tree: what it comes upon, each with its way down, directory by directory and
the names of each in ascending order. Links are not followed. `listed` says of a way down whether
the directory at its end can be listed. -/
def stops (listed : List String → Bool) : Node → List (List String × Stop)
  | .file number => [([], .file number)]
  | .link _ => []
  | .directory children =>
    if listed [] then
      ((branches listed children).mergeSort fun a b => decide (a.1 ≤ b.1)).flatMap fun branch =>
        branch.2.map fun found => (branch.1 :: found.1, found.2)
    else [([], .barred)]

/-- The walk through each child of a directory, with the name of the child, in the order in which
the directory has them. -/
def branches (listed : List String → Bool) :
    List (String × Node) → List (String × List (List String × Stop))
  | [] => []
  | child :: rest =>
    (child.1, child.2.stops fun way => listed (child.1 :: way)) :: branches listed rest

end

/-- The regular files that a walk finds, in the order of the walk, with their ways down from where
it started. -/
def files (listed : List String → Bool) (node : Node) : List (List String × Nat) :=
  (node.stops listed).filterMap fun stop => stop.2.file?.map fun number => (stop.1, number)

/-- The directories that a walk has to pass over, in the order of the walk. The one where it starts
may be among them. -/
def barred (listed : List String → Bool) (node : Node) : List (List String) :=
  (node.stops listed).filterMap fun stop => if stop.2.file?.isNone then some stop.1 else none

end Node

/-- A file system: a tree, the contents of its files, the directory in which relative paths start,
and the directories that are closed to walks. -/
structure Volume where
  root : Node := .directory []
  /-- The contents of the files by number. -/
  contents : Array ByteArray := #[]
  /-- Where relative paths start. -/
  home : List String := []
  /-- The directories, by their ways down, that can be gone through but not listed. -/
  unlisted : List (List String) := []
deriving Inhabited

namespace Volume

/-- Where the walk along a path ends, if it gets to the last name. What is to be made at a path is
made at a vacant spot. -/
inductive Spot where
  /-- At a node, which has this canonical way down. -/
  | found (way : List String) (node : Node)
  /-- In a directory that does not have the last name. `slashed` says whether slashes
  follow the name. -/
  | vacant (directory : List String) (name : String) (slashed : Bool)

/-- The number of links that one walk may follow. It is that of an operating system, and it is why
links in a circle are a fault and no endless walk. -/
def maxLinks : Nat := 40

/-- Walks the segments of a path from a directory on. A link at the very end is
followed only if `follow` says so. -/
def resolve (root : Node) (follow : Bool) (links : Nat) (here : List String) :
    List String → Except IoKind Spot
  | [] =>
    match root.at? here with
    | some node => .ok (.found here node)
    | none => .error .notFound
  | segment :: rest =>
    if segment = "" ∨ segment = "." then resolve root follow links here rest
    else if segment = ".." then resolve root follow links here.dropLast rest
    else
      match root.at? (here ++ [segment]) with
      | none =>
        -- Slashes may follow a name that is vacant, as if it were to be a directory.
        if rest.all (· == "") then .ok (.vacant here segment (rest != []))
        else .error .notFound
      | some (.directory _) => resolve root follow links (here ++ [segment]) rest
      | some (.file number) =>
        if rest = [] then .ok (.found (here ++ [segment]) (.file number))
        else .error .notADirectory
      | some (.link target) =>
        if rest = [] ∧ follow = false then .ok (.found (here ++ [segment]) (.link target))
        else
          match links with
          | 0 => .error .filesystemLoop
          | links + 1 =>
            -- The target takes the place of the link, and what came after the link comes after it.
            resolve root follow links (if Path.isAbsolute target then [] else here)
              (Text.pieces '/' target ++ rest)
termination_by rest => (links, rest.length)

/-- Where a path leads, from the root or from the home of the volume. The empty path leads nowhere,
and a NUL is in no name. -/
def walk (volume : Volume) (follow : Bool) (path : String) : Except IoKind Spot :=
  if path = "" then .error .notFound
  else if '\x00' ∈ path.toList then .error .invalidInput
  else
    resolve volume.root follow maxLinks (if Path.isAbsolute path then [] else volume.home)
      (Text.pieces '/' path)

/-- The node that a path leads to, with its canonical way down. Links are followed, the last one
too. -/
def locate (volume : Volume) (path : String) : Except IoKind (List String × Node) :=
  match volume.walk true path with
  | .ok (.found way node) => .ok (way, node)
  | .ok (.vacant ..) => .error .notFound
  | .error kind => .error kind

/-- Whether a path leads to anything. A link that leads nowhere does not. -/
def exists? (volume : Volume) (path : String) : Bool :=
  match volume.locate path with
  | .ok _ => true
  | .error _ => false

/-- Whether a path leads to a directory, be it through links. -/
def isDirectory (volume : Volume) (path : String) : Bool :=
  match volume.locate path with
  | .ok (_, .directory _) => true
  | _ => false

/-- Whether a path leads to a regular file, be it through links. -/
def isFile (volume : Volume) (path : String) : Bool :=
  match volume.locate path with
  | .ok (_, .file _) => true
  | _ => false

/-- Whether a directory can be listed. What is below one that cannot is still there for whoever
knows its name. -/
def lists (volume : Volume) (way : List String) : Bool := !volume.unlisted.contains way

/-- The contents of the file with this number. A file that is in a tree has contents; of any other
number nothing is known, and so it has none. -/
def content (volume : Volume) (number : Nat) : ByteArray := volume.contents.getD number .empty

end Volume

end LayeredUnits
