import SourceWriter.Error

/-! # File trees

Files and directories in a tree. A path is followed component by component, from the top of the
tree or from the working directory; whatever it goes through has to be a directory. A directory
need not be listed if something is in it.
-/

namespace SourceWriter

/-- What a file holds. -/
inductive Content where
  | text (written : Text)
  | binary (bytes : List UInt8)
  deriving DecidableEq

/-- The text of a file, which fails if its bytes encode none. -/
def Content.read : Content → Except Failure Text
  | .text written => .ok written
  | .binary _ => .error .invalidEncoding

/-- What stands at a place in the tree. -/
inductive Node where
  | file (content : Content)
  | directory
  /-- A device that is always empty, whatever is written to it. -/
  | null
  | input
  deriving DecidableEq

/-- The components that lead to a place from the top of the tree. -/
abbrev Place := List Text

/-- The pieces of a path between its slashes. -/
def Place.pieces : Text → List Text
  | [] => [[]]
  | '/' :: rest => [] :: pieces rest
  | character :: rest =>
    match pieces rest with
    | [] => [[character]]
    | piece :: more => (character :: piece) :: more

/-- A tree of files with a working directory. -/
structure FileTree where
  nodes : List (Place × Node) := []
  /-- The directory that paths start from unless they start with a slash. -/
  directory : Place := []
  deriving DecidableEq

namespace FileTree

/-- Whether a place has to be a directory because of what is known to lie below it. -/
def isImplied (tree : FileTree) (place : Place) : Bool :=
  place.isPrefixOf tree.directory ||
    tree.nodes.any fun entry => place.isPrefixOf entry.1

/-- What stands at a place. -/
def node? (tree : FileTree) (place : Place) : Option Node :=
  match tree.nodes.lookup place with
  | some node => some node
  | none => if tree.isImplied place then some .directory else none

/-- Follows the pieces of a path. Empty pieces and single dots stay where they are, double dots
go up, but not beyond the top, and all of them need a directory to start from. -/
def follow (tree : FileTree) (place : Place) : List Text → Option Place
  | [] => some place
  | piece :: rest =>
    if tree.node? place = some .directory then
      if piece = [] ∨ piece = ['.'] then tree.follow place rest
      else if piece = ['.', '.'] then tree.follow place.dropLast rest
      else tree.follow (place ++ [piece]) rest
    else none

/-- How many bytes a path can have at most. -/
def longestPath : Nat := 4095

/-- The place that a path leads to. The empty path leads nowhere, and neither does one that is
too long. -/
def resolve (tree : FileTree) (path : Text) : Option Place :=
  if path = [] ∨ longestPath < path.byteLength then none
  else tree.follow (if path.head? = some '/' then [] else tree.directory) (Place.pieces path)

/-- What a path leads to. -/
def find? (tree : FileTree) (path : Text) : Option Node :=
  (tree.resolve path).bind tree.node?

/-- Puts another node in the place of one that is listed. -/
def replace (tree : FileTree) (place : Place) (node : Node) : FileTree :=
  { tree with
    nodes := tree.nodes.map fun entry => if entry.1 = place then (place, node) else entry }

/-- Overwrites the file that a path leads to. Devices take anything and stay what they are. -/
def writeFile (tree : FileTree) (path text : Text) : Except Failure FileTree :=
  match tree.resolve path with
  | none => .error .notFound
  | some place =>
    match tree.node? place with
    | none => .error .notFound
    | some .directory => .error .isDirectory
    | some .null | some .input => .ok tree
    | some (.file _) => .ok (tree.replace place (.file (.text text)))

/-- The devices and directories that every system has. -/
def systemNodes : List (Place × Node) :=
  [("/dev/null", Node.null), ("/dev/stdin", .input), ("/dev/fd/0", .input),
    ("/proc/self/fd/0", .input), ("/bin", .directory), ("/boot", .directory),
    ("/etc", .directory), ("/home", .directory), ("/lib", .directory), ("/media", .directory),
    ("/mnt", .directory), ("/opt", .directory), ("/root", .directory), ("/run", .directory),
    ("/sbin", .directory), ("/srv", .directory), ("/sys", .directory), ("/tmp", .directory),
    ("/usr/bin", .directory), ("/usr/lib", .directory), ("/usr/local", .directory),
    ("/usr/share", .directory), ("/var/lib", .directory), ("/var/log", .directory),
    ("/var/tmp", .directory)].map
      fun (path, node) => ((Place.pieces path.toList).tail, node)

/-- The tree of a system with some nodes, named by their paths, in its working directory. -/
def ofNodes (nodes : List (Text × Node)) (directory : Place) : FileTree :=
  { nodes := nodes.map (fun (path, node) => (directory ++ Place.pieces path, node)) ++ systemNodes
    directory }

end FileTree

end SourceWriter
