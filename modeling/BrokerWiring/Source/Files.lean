import BrokerWiring.Text.Utf8

/-!
# Files

The files that a configuration can see, as a value: a tree of named nodes below the root and the
folder from which relative paths start. Reading walks a path step by step, so a path through a
plain file fails in another way than one through a missing folder, and a name that is too long
fails where the walk comes to it.
-/

namespace BrokerWiring

/-- What stands at a place in the tree. -/
inductive FileNode where
  | file (bytes : List UInt8)
  | folder
  /-- A file that there is no reading, and why. -/
  | unreadable (reason : String)
  deriving Repr, DecidableEq

/-- Why a path cannot be read. -/
inductive ReadFailure where
  | notFound
  | notAFolder
  | isAFolder
  /-- A name on the way, or the whole path, is longer than a file system takes. -/
  | nameTooLong
  /-- The path has a zero character in it. -/
  | zeroInPath
  | other (reason : String)
  deriving Repr, DecidableEq

/-- The wording of a failure. -/
def ReadFailure.message : ReadFailure → String
  | .notFound => "No such file or directory (os error 2)"
  | .notAFolder => "Not a directory (os error 20)"
  | .isAFolder => "Is a directory (os error 21)"
  | .nameTooLong => "File name too long (os error 36)"
  | .zeroInPath => "file name contained an unexpected NUL byte"
  | .other reason => reason

/-- Nodes by the names on their way from the root, and the folder where relative paths start. The
folders on the way to a node need no entry of their own. -/
structure Files where
  nodes : List (List String × FileNode)
  current : List String
  deriving Repr, DecidableEq

namespace Files

/-- The names of a path between its slashes. -/
def steps (path : String) : List String := (path.toList.splitOn '/').map String.ofList

/-- The path of a name below a folder. An empty folder is the current one. -/
def below (folder name : String) : String :=
  if folder.isEmpty ∨ folder.endsWith "/" then folder ++ name else folder ++ "/" ++ name

/-- The node at a place; a place above a node is a folder. -/
def node? (files : Files) (place : List String) : Option FileNode :=
  match files.nodes.find? (·.1 == place) with
  | some (_, node) => some node
  | none =>
    if place.isEmpty ∨ files.nodes.any (fun entry => place.isPrefixOf entry.1) then some .folder
    else none

/-- The number of bytes that a name may have. -/
def longestName : Nat := 255

/-- The number of bytes that a path may have. -/
def longestPath : Nat := 4095

/-- Goes from a place along the names of a path. Empty names and single dots stay, but only a
folder has them; double dots go up. -/
def walk (files : Files) (place : List String) : List String → Except ReadFailure (List String)
  | [] => .ok place
  | name :: rest =>
    match files.node? place with
    | none => .error .notFound
    | some (.file _) | some (.unreadable _) => .error .notAFolder
    | some .folder =>
      if name = "" ∨ name = "." then walk files place rest
      else if name = ".." then walk files place.dropLast rest
      else if longestName < name.utf8ByteSize then .error .nameTooLong
      else walk files (place ++ [name]) rest

/-- Where a path starts: at the root or in the current folder. -/
def start (current : List String) (path : String) : List String :=
  if path.startsWith "/" then [] else current

/-- The places that a walk along names may come by. -/
def visited (place : List String) : List String → List (List String)
  | [] => [place]
  | name :: rest =>
    place ::
      (if name = "" ∨ name = "." then visited place rest
        else if name = ".." then visited place.dropLast rest
        else visited (place ++ [name]) rest)

/-- The places whose nodes decide where a path leads. -/
def placesOf (current : List String) (path : String) : List (List String) :=
  visited (start current path) (steps path)

/-- The node that a path leads to. The empty path leads nowhere. -/
def resolve (files : Files) (path : String) : Except ReadFailure FileNode :=
  if path.toList.contains '\x00' then .error .zeroInPath
  else if path.isEmpty then .error .notFound
  else if longestPath < path.utf8ByteSize then .error .nameTooLong
  else
    match files.walk (start files.current path) (steps path) with
    | .error failure => .error failure
    | .ok place =>
      match files.node? place with
      | some node => .ok node
      | none => .error .notFound

/-- Whether something stands at a path. -/
def exists? (files : Files) (path : String) : Bool := (files.resolve path).isOk

/-- The bytes of a file. -/
def readBytes (files : Files) (path : String) : Except ReadFailure (List UInt8) :=
  match files.resolve path with
  | .error failure => .error failure
  | .ok .folder => .error .isAFolder
  | .ok (.unreadable reason) => .error (.other reason)
  | .ok (.file bytes) => .ok bytes

/-- The text of a file. -/
def readText (files : Files) (path : String) : Except ReadFailure String :=
  match files.readBytes path with
  | .error failure => .error failure
  | .ok bytes =>
    match Utf8.decodeText bytes with
    | .ok text => .ok text
    | .error _ => .error (.other "stream did not contain valid UTF-8")

end Files

end BrokerWiring
