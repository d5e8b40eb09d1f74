import ClassUsage.Text.Basic

set_option autoImplicit false

/-!
Trees of directories. An entry is known by its place: the names that lead to it from the root.
-/
namespace ClassUsage

/-- A file with its bytes, a link to another path, or a directory of named entries. -/
inductive Node where
  | file (bytes : List UInt8)
  | link (target : Text)
  | directory (entries : List (Text × Node))
deriving Repr

/-- The names that lead to an entry from the root. -/
abbrev Place := List Text

namespace Node

/-- The entries of a directory; anything else has none. -/
def entries : Node → List (Text × Node)
  | directory entries => entries
  | _ => []

def isDirectory : Node → Bool
  | directory _ => true
  | _ => false

/-- The entry at a place; links are not followed. -/
def at? : Node → Place → Option Node
  | node, [] => some node
  | directory entries, name :: rest =>
    match entries.lookup name with
    | some child => child.at? rest
    | none => none
  | _, _ :: _ => none

def holdsDirectory (root : Node) (place : Place) : Bool := (root.at? place).any isDirectory

/-- The entries with one put in the place of the first of its name, or at the end. -/
def putEntry (name : Text) (node : Node) : List (Text × Node) → List (Text × Node)
  | [] => [(name, node)]
  | entry :: entries =>
    if entry.1 = name then (name, node) :: entries else entry :: putEntry name node entries

/-- The tree with an entry put at a place. Directories on the way are made where they are missing. -/
def put : Node → Place → Node → Node
  | _, [], node => node
  | root, name :: rest, node =>
    let child := (root.entries.lookup name).getD (directory [])
    directory (putEntry name (put child rest node) root.entries)

end Node
end ClassUsage
