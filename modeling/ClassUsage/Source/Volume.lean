import ClassUsage.Source.Listing

set_option autoImplicit false

/-!
Trees of directories as a system grants access to them. A tree says what there is; permissions, limits on
names and failing devices are beyond it, so what they forbid is said path by path.
-/
namespace ClassUsage

/-- A tree with what cannot be done in it. A link that cannot be followed leads nowhere in the tree. -/
structure Volume extends FileSystem where
  /-- The error on which looking a path up ends, unless it is for the tree to say. -/
  lookupFault : Path → Option SystemError := fun _ => none
  /-- The error on which opening what a path leads to ends. -/
  openFault : Path → Option SystemError := fun _ => none
  /-- Whether the entries of the directory at a place can be listed. -/
  isListed : Place → Bool := fun _ => true

/-- Whether an error only says that nothing is found: nothing is there, or no directory, or a circle of
links, or a stale handle. -/
def SystemError.isAbsence (error : SystemError) : Bool := [2, 20, 9, 40].contains error.number

namespace Volume

def lookUp (volume : Volume) (path : Path) : Except SystemError Node :=
  match volume.lookupFault path with
  | some error => .error error
  | none => (volume.find path).mapError PathError.system

/-- Whether all directories from a start down to a place can be listed. -/
def reaches (volume : Volume) (start place : Place) : Bool :=
  (List.range place.length).all fun depth =>
    decide (depth < start.length) || volume.isListed (place.take depth)

/-- The source files below a directory. A directory that cannot be listed is passed over. -/
def sourcesBelow (volume : Volume) (path : Path) : List Place :=
  match volume.resolve path with
  | .ok start => (volume.listFiles path []).filter (volume.reaches start)
  | .error _ => []

end Volume
end ClassUsage
