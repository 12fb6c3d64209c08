/-
# ListExpansion.Host.FileSystem -- files, directories, links, sockets and devices

A file system says what is at each place; a place is the list of names that lead
to it from the root.  Links are kept as they are and followed when a path is
looked up, a limited number of times.

Looking up (`FileSystem.locate`) finds what a path names, or the directory that
has room for it.  Every operation changes at most the one place it is about.
-/
import ListExpansion.Host.Error
import ListExpansion.Host.Path

namespace ListExpansion

set_option autoImplicit false

/-- The names that lead to a place from the root. -/
abbrev Place := List Bytes

/-- What a directory lets us do. -/
structure Access where
  search : Bool
  change : Bool
  deriving DecidableEq, Repr

inductive Node where
  /-- The mode's permission bits, and whether the directory is our own. -/
  | directory (mode : Nat) (own : Bool)
  | file (content : Bytes)
  | link (target : Bytes)
  /-- Whoever is bound to a socket is told by its number. -/
  | socket (endpoint : Nat)
  /-- A device or a named pipe: what it has for readers, if anything, and whether it takes what
  is written. -/
  | special (content : Option Bytes) (takes : Bool)
  deriving DecidableEq, Repr

namespace Node

def isDirectory : Node → Bool
  | .directory _ _ => true
  | _ => false

/-- Owners are subject to the first triad of bits, all others to the last. -/
def access : Node → Access
  | .directory mode own =>
      let bits := if own then mode / 64 else mode
      ⟨bits % 2 = 1, bits / 2 % 2 = 1⟩
  | _ => ⟨false, false⟩

end Node

/-- What a path leads to: something, or room for one more name in a directory. -/
inductive Spot where
  | taken (place : Place) (node : Node)
  | vacant (directory : Place) (name : Bytes)
  deriving DecidableEq, Repr

structure FileSystem where
  nodes : List (Place × Node)
  /-- Where relative paths begin. -/
  current : Place

namespace FileSystem

def lookup (files : FileSystem) (place : Place) : Option Node := files.nodes.lookup place

/-- The file system with `node` at `place`. -/
def put (files : FileSystem) (place : Place) (node : Node) : FileSystem :=
  { files with nodes := (place, node) :: files.nodes.filter fun (other, _) => other ≠ place }

/-- The file system with nothing at `place`. -/
def erase (files : FileSystem) (place : Place) : FileSystem :=
  { files with nodes := files.nodes.filter fun (other, _) => other ≠ place }

/-! ## Looking up -/

/-- How many links a lookup follows. -/
def linkLimit : Nat := 40

/-- The longest name, in octets. -/
def nameLimit : Nat := 255

/-- The first path, in octets, that is too long. -/
def pathLimit : Nat := 4096

/-- Where a path starts. -/
def origin (files : FileSystem) (path : Bytes) : Place :=
  if Path.isAbsolute path then [] else files.current

/-- The segments that a lookup goes through; `.` and `..` are among them. -/
def segments (path : Bytes) : List Bytes :=
  (Bytes.split Path.slash path).filter fun segment => !segment.isEmpty

def endsWithSlash (path : Bytes) : Bool := path.getLast? == some Path.slash

/-- May one go on from `place`?  Only through a directory that may be searched. -/
def enterable (files : FileSystem) (place : Place) : Except IoError Unit :=
  match files.lookup place with
  | some node =>
      if node.isDirectory then
        if node.access.search then .ok () else .error .accessDenied
      else .error .notADirectory
  | none => .error .notFound

/-- What a lookup is for. -/
inductive Purpose where
  | finding
  /-- A file is to be written and made if it is missing. -/
  | writing
  deriving DecidableEq, Repr

/-- Goes through `segments` from a place; `follow` goes on behind a link.  Where
`closed`, a slash stands behind the last segment, and only a directory may be
there; whoever is about to write need not even look. -/
def walkWith (files : FileSystem) (purpose : Purpose)
    (follow : Place → (closed : Bool) → List Bytes → Except IoError Spot) :
    Place → (closed : Bool) → List Bytes → Except IoError Spot
  | here, closed, [] =>
      match files.lookup here with
      | none => .error .notFound
      | some node =>
          if closed ∧ ¬ node.isDirectory then .error .notADirectory else .ok (.taken here node)
  | here, closed, segment :: rest =>
      match files.enterable here with
      | .error error => .error error
      | .ok () =>
          if segment = Path.dot then walkWith files purpose follow here closed rest
          else if segment = Path.dotDot then walkWith files purpose follow here.dropLast closed rest
          else if purpose = .writing ∧ closed ∧ rest.isEmpty then .error .isADirectory
          else if segment.length > nameLimit then .error .nameTooLong
          else
            match files.lookup (here ++ [segment]) with
            | none => if rest.isEmpty then .ok (.vacant here segment) else .error .notFound
            | some (.link target) =>
                follow (if Path.isAbsolute target then [] else here)
                  (closed || (rest.isEmpty && endsWithSlash target)) (segments target ++ rest)
            | some _ => walkWith files purpose follow (here ++ [segment]) closed rest

/-- Goes through `segments`, following at most so many links. -/
def walk (files : FileSystem) (purpose : Purpose) :
    (links : Nat) → Place → (closed : Bool) → List Bytes → Except IoError Spot
  | 0 => fun _ _ _ => .error .tooManyLinks
  | links + 1 => files.walkWith purpose (files.walk purpose links)

/-- A path that can be looked up at all: not empty, not too long, without NUL. -/
def checkPath (path : Bytes) : Except IoError Unit :=
  if path.contains 0 then .error .nulInFileName
  else if path.isEmpty then .error .notFound
  else if path.length ≥ pathLimit then .error .nameTooLong
  else .ok ()

/-- What `path` leads to, a link at its end followed. -/
def locate (files : FileSystem) (purpose : Purpose) (path : Bytes) : Except IoError Spot :=
  match checkPath path with
  | .error error => .error error
  | .ok () =>
      files.walk purpose (linkLimit + 1) (files.origin path) (endsWithSlash path) (segments path)

/-- What is there at the end of `path`, links followed. -/
def find (files : FileSystem) (path : Bytes) : Except IoError (Place × Node) :=
  match files.locate .finding path with
  | .error error => .error error
  | .ok (.vacant _ _) => .error .notFound
  | .ok (.taken place node) => .ok (place, node)

/-- The last segment of a path as its directory sees it. -/
inductive Entry where
  /-- The root, `.` or `..`: an existing directory, under no name of its own. -/
  | unnamed (place : Place)
  | named (directory : Place) (name : Bytes) (node : Option Node)
  deriving DecidableEq, Repr

/-- The directory that holds the last segment of `path`, and what it holds there;
a link at the end is not followed. -/
def entry (files : FileSystem) (path : Bytes) : Except IoError Entry :=
  match checkPath path with
  | .error error => .error error
  | .ok () =>
      match (segments path).reverse with
      | [] => .ok (.unnamed (files.origin path))
      | last :: before =>
          match files.walk .finding (linkLimit + 1) (files.origin path) false before.reverse with
          | .error error => .error error
          | .ok (.vacant _ _) => .error .notFound
          | .ok (.taken place _) =>
              match files.enterable place with
              | .error error => .error error
              | .ok () =>
                  if last = Path.dot then .ok (.unnamed place)
                  else if last = Path.dotDot then .ok (.unnamed place.dropLast)
                  else if last.length > nameLimit then .error .nameTooLong
                  else .ok (.named place last (files.lookup (place ++ [last])))

/-- May entries of the directory at `place` be made and removed? -/
def changeable (files : FileSystem) (place : Place) : Bool :=
  match files.lookup place with
  | some node => node.access.change
  | none => false

/-! ## Questions -/

/-- Whether something is there; a lookup that fails otherwise than by finding
nothing is no answer. -/
def exists? (files : FileSystem) (path : Bytes) : Except IoError Bool :=
  match files.find path with
  | .ok _ => .ok true
  | .error .notFound => .ok false
  | .error error => .error error

def isDirectory (files : FileSystem) (path : Bytes) : Bool :=
  match files.find path with
  | .ok (_, node) => node.isDirectory
  | .error _ => false

/-- What is at `path` itself; a link at its end counts as a link unless a slash
stands behind it. -/
def inspect (files : FileSystem) (path : Bytes) : Except IoError Node :=
  if endsWithSlash path then (files.find path).map Prod.snd
  else
    match files.entry path with
    | .error error => .error error
    | .ok (.unnamed place) =>
        match files.lookup place with
        | some node => .ok node
        | none => .error .notFound
    | .ok (.named _ _ none) => .error .notFound
    | .ok (.named _ _ (some node)) => .ok node

/-- The content of the file at `path`. -/
def read (files : FileSystem) (path : Bytes) : Except IoError Bytes :=
  match files.find path with
  | .error error => .error error
  | .ok (_, .file content) => .ok content
  | .ok (_, .directory _ _) => .error .isADirectory
  | .ok (_, .link _) => .error .tooManyLinks
  | .ok (_, .socket _) => .error .noSuchDevice
  | .ok (_, .special (some content) _) => .ok content
  | .ok (_, .special none _) => .error .noSuchDevice

/-! ## Changes -/

/-- The bit of a directory's mode that its subdirectories get too. -/
def groupBit : Nat := 0o2000

/-- A mode without the bits of a mask. -/
def masked (umask mode : Nat) : Nat := mode ^^^ (mode &&& umask)

/-- The mode of a directory that we make in another. -/
def directoryMode (umask : Nat) (parent : Option Node) : Nat :=
  match parent with
  | some (.directory mode _) =>
      masked umask 0o755 + (if mode / groupBit % 2 = 1 then groupBit else 0)
  | _ => masked umask 0o755

/-- Makes one directory. -/
def makeDirectory (files : FileSystem) (umask : Nat) (path : Bytes) : Except IoError FileSystem :=
  match files.entry path with
  | .error error => .error error
  | .ok (.unnamed _) => .error .alreadyExists
  | .ok (.named _ _ (some _)) => .error .alreadyExists
  | .ok (.named place name none) =>
      if files.changeable place then
        .ok (files.put (place ++ [name])
          (.directory (directoryMode umask (files.lookup place)) true))
      else .error .accessDenied

/-- A directory could not be made, which is fine where one is. -/
def settled (files : FileSystem) (path : Bytes) (error : IoError) : Except IoError Unit :=
  if files.isDirectory path then .ok () else .error error

/-- Makes a directory and those above it that are missing.  What was made stays, also when
the rest cannot be.  The fuel is more than the number of octets in the path. -/
def makeDirectories (umask : Nat) :
    (fuel : Nat) → FileSystem → Bytes → Except IoError Unit × FileSystem
  | 0, files, _ => (.error .noParent, files)
  | fuel + 1, files, path =>
      if path.isEmpty then (.ok (), files)
      else
        match files.makeDirectory umask path with
        | .ok files => (.ok (), files)
        | .error .notFound =>
            match Path.parent? path with
            | none => (.error .noParent, files)
            | some parent =>
                match makeDirectories umask fuel files parent with
                | (.error error, files) => (.error error, files)
                | (.ok (), files) =>
                    match files.makeDirectory umask path with
                    | .ok files => (.ok (), files)
                    | .error error => (files.settled path error, files)
        | .error error => (files.settled path error, files)

/-- Makes the directory at `path` with all its ancestors. -/
def makeTree (files : FileSystem) (umask : Nat) (path : Bytes) :
    Except IoError Unit × FileSystem :=
  makeDirectories umask (path.length + 1) files path

/-- Replaces the content of the file at `path`, or makes the file. -/
def write (files : FileSystem) (path content : Bytes) : Except IoError FileSystem :=
  match files.locate .writing path with
  | .error error => .error error
  | .ok (.taken place (.file _)) => .ok (files.put place (.file content))
  | .ok (.taken _ (.directory _ _)) => .error .isADirectory
  | .ok (.taken _ (.socket _)) => .error .noSuchDevice
  | .ok (.taken _ (.special _ takes)) => if takes then .ok files else .error .noSuchDevice
  | .ok (.taken _ (.link _)) => .error .tooManyLinks
  | .ok (.vacant place name) =>
      if files.changeable place then .ok (files.put (place ++ [name]) (.file content))
      else .error .accessDenied

/-- Removes a file, a link or a socket. -/
def remove (files : FileSystem) (path : Bytes) : Except IoError FileSystem :=
  match files.entry path with
  | .error error => .error error
  | .ok (.unnamed _) => .error .isADirectory
  | .ok (.named _ _ none) => .error .notFound
  | .ok (.named place name (some node)) =>
      if endsWithSlash path ∧ ¬ node.isDirectory then .error .notADirectory
      else if files.changeable place then
        if node.isDirectory then .error .isADirectory else .ok (files.erase (place ++ [name]))
      else .error .accessDenied

/-- Makes a socket for `endpoint`.  Anything that is there already is in the way. -/
def makeSocket (files : FileSystem) (path : Bytes) (endpoint : Nat) : Except IoError FileSystem :=
  match files.entry path with
  | .error error => .error error
  | .ok (.unnamed _) => .error .addressInUse
  | .ok (.named _ _ (some _)) => .error .addressInUse
  | .ok (.named place name none) =>
      if endsWithSlash path then .error .notFound
      else if files.changeable place then .ok (files.put (place ++ [name]) (.socket endpoint))
      else .error .accessDenied

/-! ## What others do to files -/

/-- Removes what is at `path` and all below it. -/
def removeTree (files : FileSystem) (path : Bytes) : FileSystem :=
  match files.entry path with
  | .ok (.named place name (some _)) =>
      let top := place ++ [name]
      { files with nodes := files.nodes.filter fun (other, _) => !top.isPrefixOf other }
  | _ => files

/-- Makes a link at `path`, if nothing is there. -/
def makeLink (files : FileSystem) (path target : Bytes) : FileSystem :=
  match files.entry path with
  | .ok (.named place name none) => files.put (place ++ [name]) (.link target)
  | _ => files

/-- Gives the directory at `path` another mode. -/
def changeMode (files : FileSystem) (path : Bytes) (mode : Nat) : FileSystem :=
  match files.find path with
  | .ok (place, .directory _ own) => files.put place (.directory mode own)
  | _ => files

/-- All that is below `place`, by the path from there. -/
def below (files : FileSystem) (place : Place) : List (Bytes × Node) :=
  files.nodes.filterMap fun (other, node) =>
    if place.isPrefixOf other && other.length > place.length then
      some (Path.joined (other.drop place.length), node)
    else none

end FileSystem

end ListExpansion
