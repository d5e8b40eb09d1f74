import ClassUsage.Source.Dialect
import ClassUsage.Source.Resolve

set_option autoImplicit false

/-!
The source files below a directory. Hidden entries and the directories of installed packages are
passed over, and links to directories are not entered.
-/
namespace ClassUsage

/-- The directories of installed packages. -/
def packagesName : Text := "node_modules".toList

def isSkipped (name : Text) (node : Node) : Bool :=
  isHiddenName name || (node.isDirectory && name == packagesName)

mutual

/-- The places of all files at or below a place; links are files unless they are to be left out. -/
def Node.filesAt (leavesOut : Place → Bool) (place : Place) : Node → List Place
  | .file _ => [place]
  | .link _ => if leavesOut place then [] else [place]
  | .directory entries => filesOfEntries leavesOut place entries

/-- The places of all files at or below the entries of a directory that are not passed over. -/
def filesOfEntries (leavesOut : Place → Bool) (place : Place) : List (Text × Node) → List Place
  | [] => []
  | (name, node) :: entries =>
    (if isSkipped name node then [] else node.filesAt leavesOut (place ++ [name])) ++
      filesOfEntries leavesOut place entries

end

/-- Whether a place comes before another or is equal to it, name by name. -/
def Place.precedes (first second : Place) : Bool := !decide (second < first)

/-- The suffixes that are looked for; an empty list stands for those of all source files. -/
def wantedSuffixes (extensions : List Text) : List Text :=
  (if extensions.isEmpty then sourceExtensions else extensions).map Text.lower

def Place.hasSuffix (suffixes : List Text) (place : Place) : Bool :=
  suffixes.contains (suffixOf (place.getLast?.getD [])).lower

namespace FileSystem

def leadsToDirectory (files : FileSystem) (place : Place) : Bool :=
  match files.find place.path with
  | .ok node => node.isDirectory
  | .error _ => false

/-- The places of the files with the wanted suffixes below the directory at a place. -/
def filesBelow (files : FileSystem) (suffixes : List Text) (place : Place) : List Place :=
  match files.root.at? place with
  | some (.directory entries) =>
    ((filesOfEntries files.leadsToDirectory place entries).filter
      (·.hasSuffix suffixes)).mergeSort Place.precedes
  | _ => []

/-- The files with the given extensions below a directory, in alphabetical order. -/
def listFiles (files : FileSystem) (path : Path) (extensions : List Text) : List Place :=
  match files.resolve path with
  | .ok place => files.filesBelow (wantedSuffixes extensions) place
  | .error _ => []

end FileSystem
end ClassUsage
