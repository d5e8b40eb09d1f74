import ClassUsage.Command.Run

set_option autoImplicit false

/-!
The command on a disk. What the arguments name is read into a tree of directories first, with what the
system refuses on the way; the run itself works on that, and its outcome is written at the end.
-/
namespace ClassUsage.Disk

def pathOf (place : Place) : String := String.ofList place.path.text

def placeOf (path : String) : Place := (Path.ofText path.toList).components

def entryOf (place : Place) (name : Text) : IO.FS.DirEntry := ⟨pathOf place, String.ofList name⟩

structure Survey where
  root : Node := .directory []
  /-- The paths that the system refuses to look up. -/
  refused : List (Path × SystemError) := []
  /-- The files that cannot be opened. -/
  unopened : List (Place × SystemError) := []
  /-- The directories that cannot be listed. -/
  unlisted : List Place := []

namespace Survey

def put (survey : Survey) (place : Place) (node : Node) : Survey :=
  { survey with root := survey.root.put place node }

def volume (survey : Survey) (workingDirectory : Place) : Volume where
  root := survey.root
  workingDirectory
  lookupFault path := survey.refused.lookup path
  openFault path :=
    match (⟨survey.root, workingDirectory⟩ : FileSystem).locate path with
    | .ok place => survey.unopened.lookup place
    | .error _ => none
  isListed place := !survey.unlisted.contains place

def addDirectory (survey : Survey) (place : Place) : Survey :=
  if survey.root.holdsDirectory place then survey else survey.put place (.directory [])

end Survey

def errorWords : List (Nat × Text) :=
  [(5, "Input/output error".toList), (13, "Permission denied".toList),
    (36, "File name too long".toList)]

/-- The error with a number, which some operations negate and name in words of their own. -/
def numbered (number : UInt32) (words : String) : SystemError :=
  let number := if number < 0x80000000 then number.toNat else 0x100000000 - number.toNat
  ⟨number, (errorWords.lookup number).getD words.toList⟩

def errorOf : IO.Error → SystemError
  | .alreadyExists _ number words | .otherError number words | .resourceBusy number words
  | .resourceVanished number words | .unsupportedOperation number words
  | .hardwareFault number words | .unsatisfiedConstraints number words
  | .illegalOperation number words | .protocolError number words | .timeExpired number words
  | .interrupted _ number words | .noFileOrDirectory _ number words
  | .invalidArgument _ number words | .permissionDenied _ number words
  | .resourceExhausted _ number words | .inappropriateType _ number words
  | .noSuchThing _ number words => numbered number words
  | .unexpectedEof => ⟨0, "Unexpected end".toList⟩
  | .userError words => ⟨0, words.toList⟩

def addFile (survey : Survey) (place : Place) : IO Survey := do
  match ← (IO.FS.readBinFile (pathOf place)).toBaseIO with
  | .ok bytes => return survey.put place (.file bytes.toList)
  | .error error =>
    return { survey.put place (.file []) with
      unopened := (place, errorOf error) :: survey.unopened }

/-- Adds the link at a place and what it leads to, with the place it leads to. A link that cannot be
followed gets a target that no file can have, unless it runs in a circle. -/
def addLink (survey : Survey) (place : Place) (entry : IO.FS.DirEntry) :
    IO (Survey × Option Place) := do
  match ← entry.path.metadata.toBaseIO with
  | .error error =>
    let circular := (errorOf error).number == PathError.tooManyLinks.system.number
    let target : Text := if circular then place.path.text else ['/', '\x00']
    return (survey.put place (.link target), none)
  | .ok found =>
    let target := placeOf (← IO.FS.realPath (pathOf place)).toString
    let survey := survey.put place (.link target.path.text)
    match found.type with
    | .dir => return (survey.addDirectory target, some target)
    | _ => return (← addFile survey target, some target)

/-- Adds the directory at a place with all in it that a run may look at. -/
partial def addTree (survey : Survey) (place : Place) : IO Survey := do
  let mut survey := survey.addDirectory place
  let path ← IO.FS.realPath (pathOf place)
  match ← path.readDir.toBaseIO with
  | .error _ => return { survey with unlisted := place :: survey.unlisted }
  | .ok entries =>
    for entry in entries do
      let name := entry.fileName.toList
      let below := place ++ [name]
      match ← entry.path.symlinkMetadata.toBaseIO with
      | .error _ => pure ()
      | .ok found =>
        match found.type with
        | .dir => if !isSkipped name (.directory []) then survey ← addTree survey below
        | .symlink => if !isHiddenName name then survey := (← addLink survey below entry).1
        | .file =>
          if !isHiddenName name && below.hasSuffix (wantedSuffixes []) then
            survey ← addFile survey below
        | .other => pure ()
    return survey

/-- Adds what the parts of a path lead to from a place, with the directories and links on the way. -/
def addParts (survey : Survey) (place : Place) : List Text → IO Survey
  | [] => if survey.root.holdsDirectory place then addTree survey place else return survey
  | part :: parts => do
    if part == "..".toList then addParts survey place.dropLast parts
    else
      let below := place ++ [part]
      let entry := entryOf place part
      match ← entry.path.symlinkMetadata.toBaseIO with
      | .error _ => return survey
      | .ok found =>
        match found.type with
        | .dir => addParts (survey.addDirectory below) below parts
        | .file => addParts (← addFile survey below) below parts
        | .symlink =>
          match ← addLink survey below entry with
          | (added, none) => return added
          | (added, some target) => addParts added target parts
        | .other => return survey

/-- Adds what a path leads to from a place, or that the system refuses to look it up. -/
def addPath (survey : Survey) (start : Place) (path : Path) : IO Survey := do
  let named : IO.FS.DirEntry := ⟨String.ofList path.text, ""⟩
  match ← named.root.metadata.toBaseIO with
  | .error error =>
    let error := errorOf error
    if !error.isAbsence then
      return { survey with refused := (path, error) :: survey.refused }
  | .ok _ => pure ()
  addParts survey (if path.isAbsolute then [] else start) path.components

def volumeFor (arguments : List Text) : IO Volume := do
  let here := placeOf (← IO.currentDir).toString
  let survey := Survey.addDirectory {} here
  let named : List Text :=
    match readCommandLine arguments with
    | .ok (.run settings) => if settings.expression.isSome then [] else settings.paths
    | _ => []
  let survey ← named.foldlM (fun survey path => addPath survey here (Path.ofText path)) survey
  return survey.volume here

def write (outcome : Outcome) : IO UInt32 := do
  IO.print (String.ofList outcome.output)
  IO.eprint (String.ofList (outcome.usage.getD []))
  for record in outcome.records do
    IO.eprintln (String.ofList (record.level.name ++ [' '] ++ record.message))
  return UInt32.ofNat outcome.exitCode

end ClassUsage.Disk

open ClassUsage in
def main (arguments : List String) : IO UInt32 := do
  let arguments := arguments.map String.toList
  let volume ← Disk.volumeFor arguments
  let level := (← IO.getEnv "CLASS_EXTRACTOR_LOG_LEVEL").map String.toList
  match runCommand volume level arguments with
  | .ok outcome => Disk.write outcome
  | .error interrupted => do
    IO.eprintln (String.ofList interrupted.message)
    return 1
