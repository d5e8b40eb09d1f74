import ClassUsage.Source.Path
import ClassUsage.Source.Tree
import ClassUsage.Text.Quoted

set_option autoImplicit false

/-!
Where paths lead in a tree of directories with links. A path is followed name by name; a link is
replaced by its target, up to a limit on links that keeps the search from running in circles.
-/
namespace ClassUsage

structure SystemError where
  number : Nat
  words : Text
deriving DecidableEq, Repr

def SystemError.report (error : SystemError) (path : Text) : Text :=
  "[Errno ".toList ++ (toString error.number).toList ++ "] ".toList ++ error.words ++
    ": ".toList ++ path.quoted

inductive PathError where
  | missing
  | notDirectory
  | isDirectory
  | tooManyLinks
deriving DecidableEq, Repr

def PathError.system : PathError → SystemError
  | missing => ⟨2, "No such file or directory".toList⟩
  | notDirectory => ⟨20, "Not a directory".toList⟩
  | isDirectory => ⟨21, "Is a directory".toList⟩
  | tooManyLinks => ⟨40, "Too many levels of symbolic links".toList⟩

/-- The links that are followed on the way along one path. -/
def maxLinks : Nat := 40

/-- The links that are replaced where only the place is asked for; that many are a circle. -/
def maxReplacedLinks : Nat := 4096

/-- The place that parts of a path lead to from a place without links. If entries are required,
each part has to lead to one; otherwise names that lead nowhere are taken as they are. -/
def Node.follow (root : Node) (required : Bool) (links : Nat) (place : Place) (parts : List Text) :
    Except PathError Place :=
  match parts with
  | [] => .ok place
  | part :: rest =>
    if required && !root.holdsDirectory place then .error .notDirectory
    else if Path.isVoid part then root.follow required links place rest
    else if part = "..".toList then root.follow required links place.dropLast rest
    else
      match root.at? (place ++ [part]) with
      | some (.link target) =>
        match links with
        | 0 => .error .tooManyLinks
        | links + 1 =>
          let start := if target.head? = some '/' then [] else place
          root.follow required links start (Path.parts target ++ rest)
      | some _ => root.follow required links (place ++ [part]) rest
      | none =>
        if required then .error .missing else root.follow required links (place ++ [part]) rest
termination_by (links, parts.length)

/-- A tree of directories and the directory that paths start from. -/
structure FileSystem where
  root : Node
  workingDirectory : Place
deriving Repr

namespace FileSystem

def start (files : FileSystem) (path : Path) : Place :=
  if path.isAbsolute then [] else files.workingDirectory

def locate (files : FileSystem) (path : Path) : Except PathError Place :=
  files.root.follow true maxLinks (files.start path) path.components

def find (files : FileSystem) (path : Path) : Except PathError Node :=
  match files.locate path with
  | .error error => .error error
  | .ok place =>
    match files.root.at? place with
    | some node => .ok node
    | none => .error .missing

/-- The place that a path stands for, whether or not there is anything. -/
def resolve (files : FileSystem) (path : Path) : Except PathError Place :=
  files.root.follow false maxReplacedLinks (files.start path) path.components

end FileSystem

def Place.path (place : Place) : Path := ⟨['/'], place⟩

end ClassUsage
