import ClassUsage.Command.Run

set_option autoImplicit false

/-!
Runs on source files. A file that cannot be opened is left out and the others are reported, in the
order in which the paths name them. A file that is no text ends the run, and so does a path that the
system refuses to look up, or a word for the log level that names something else.
-/
namespace ClassUsage

namespace Place

theorem precedes_iff {first second : Place} : first.precedes second = true ↔ ¬ second < first := by
  rw [precedes, Bool.not_eq_true', decide_eq_false_iff_not]

theorem precedes_trans {first second third : Place} (before : first.precedes second = true)
    (after : second.precedes third = true) : first.precedes third = true := by
  rw [precedes_iff] at before after ⊢
  exact List.not_lt.mpr (List.le_trans (List.not_lt.mp before) (List.not_lt.mp after))

theorem precedes_total (first second : Place) :
    (first.precedes second || second.precedes first) = true := by
  rw [Bool.or_eq_true, precedes_iff, precedes_iff, List.not_lt, List.not_lt]
  exact List.le_total first second

end Place

namespace Node

variable {root : Node} {required : Bool} {links : Nat} {place : Place} {name : Text}
  {rest : List Text}

theorem required_and_not_holdsDirectory (inside : required = true → root.holdsDirectory place = true) :
    (required && !root.holdsDirectory place) = false := by
  cases required with
  | false => rfl
  | true =>
    rw [inside rfl]
    rfl

/-- A name that is no link is kept. -/
theorem follow_name {node : Node} (inside : required = true → root.holdsDirectory place = true)
    (solid : Path.isVoid name = false) (down : name ≠ "..".toList)
    (entry : root.at? (place ++ [name]) = some node) (noLink : ∀ target, node ≠ .link target) :
    root.follow required links place (name :: rest) =
      root.follow required links (place ++ [name]) rest := by
  rw [Node.follow, required_and_not_holdsDirectory inside, if_neg Bool.false_ne_true, solid,
    if_neg Bool.false_ne_true, if_neg down, entry]
  cases node with
  | link target => exact absurd rfl (noLink target)
  | file bytes => rfl
  | directory entries => rfl

/-- A link is replaced by what it points to. -/
theorem follow_link {target : Text} (inside : required = true → root.holdsDirectory place = true)
    (solid : Path.isVoid name = false) (down : name ≠ "..".toList)
    (entry : root.at? (place ++ [name]) = some (.link target)) :
    root.follow required (links + 1) place (name :: rest) =
      root.follow required links (if target.head? = some '/' then [] else place)
        (Path.parts target ++ rest) := by
  rw [Node.follow, required_and_not_holdsDirectory inside, if_neg Bool.false_ne_true, solid,
    if_neg Bool.false_ne_true, if_neg down, entry]

/-- A name that leads nowhere ends the search if entries are required. -/
theorem follow_missing (inside : root.holdsDirectory place = true) (solid : Path.isVoid name = false)
    (down : name ≠ "..".toList) (none : root.at? (place ++ [name]) = none) :
    root.follow true links place (name :: rest) = .error .missing := by
  rw [Node.follow, inside, solid, none]
  simp only [Bool.not_true, Bool.and_false, Bool.false_eq_true, down, if_false, if_true]

end Node

namespace FileSystem

variable {files : FileSystem}

theorem listFiles_sorted (files : FileSystem) (path : Path) (extensions : List Text) :
    (files.listFiles path extensions).Pairwise fun first second => ¬ second < first := by
  unfold listFiles filesBelow
  split
  · split
    · have sorted := List.pairwise_mergeSort (@Place.precedes_trans) Place.precedes_total
      exact (sorted _).imp Place.precedes_iff.mp
    · exact List.Pairwise.nil
  · exact List.Pairwise.nil

/-- A name leads to the file or directory that has it in the working directory. -/
theorem find_name {name : Text} {node : Node}
    (inside : files.root.holdsDirectory files.workingDirectory = true)
    (solid : Path.isVoid name = false) (down : name ≠ "..".toList)
    (entry : files.root.at? (files.workingDirectory ++ [name]) = some node)
    (noLink : ∀ target, node ≠ .link target) : files.find ⟨[], [name]⟩ = .ok node := by
  have located : files.locate ⟨[], [name]⟩ = .ok (files.workingDirectory ++ [name]) := by
    have start : files.start ⟨[], [name]⟩ = files.workingDirectory := rfl
    rw [locate, start, Node.follow_name (fun _ => inside) solid down entry noLink, Node.follow]
  rw [find, located]
  simp only [entry]

end FileSystem

namespace Volume

variable {volume : Volume}

/-- The path leads to a directory or a file. -/
def IsPresent (volume : Volume) (text : Text) : Prop :=
  (∃ entries, volume.lookUp (Path.ofText text) = .ok (.directory entries)) ∨
    ∃ bytes, volume.lookUp (Path.ofText text) = .ok (.file bytes)

/-- The source files that a path stands for: those below a directory in alphabetical order, or a file
itself. -/
def sources (volume : Volume) (text : Text) : List Path :=
  match volume.lookUp (Path.ofText text) with
  | .ok (.directory _) => (volume.sourcesBelow (Path.ofText text)).map Place.path
  | .ok (.file _) => [Path.ofText text]
  | _ => []

/-- The path leads to a file that can be opened and is a text in UTF-8. -/
def IsReadable (volume : Volume) (path : Path) : Prop :=
  ∃ bytes text, volume.lookUp path = .ok (.file bytes) ∧ volume.openFault path = none ∧
    Text.ofUtf8? bytes = some text

/-- The path leads to a file that can be opened but is no text in UTF-8. -/
def IsUndecodable (volume : Volume) (path : Path) : Prop :=
  ∃ bytes, volume.lookUp path = .ok (.file bytes) ∧ volume.openFault path = none ∧
    Text.ofUtf8? bytes = none

theorem lookUp_of_find {path : Path} {node : Node} (granted : volume.lookupFault path = none)
    (found : volume.find path = .ok node) : volume.lookUp path = .ok node := by
  rw [lookUp, granted, found]
  rfl

theorem read_of_file {path : Path} {bytes : List UInt8} (found : volume.lookUp path = .ok (.file bytes))
    (opened : volume.openFault path = none) :
    volume.read path = match Text.ofUtf8? bytes with
      | some text => .ok text.withLineFeeds
      | none => .error .encoding := by
  unfold read sourceText?
  rw [found, opened]
  dsimp only
  cases Text.ofUtf8? bytes with
  | some text => rfl
  | none => rfl

/-- What is no file, or cannot be opened, is a matter of the system. -/
theorem read_of_not_opened {path : Path}
    (closed : ∀ bytes, volume.lookUp path = .ok (.file bytes) → volume.openFault path ≠ none) :
    ∃ error, volume.read path = .error (.system error) := by
  unfold read
  cases found : volume.lookUp path with
  | error error => exact ⟨error, rfl⟩
  | ok node =>
    cases opened : volume.openFault path with
    | some error => exact ⟨error, rfl⟩
    | none =>
      cases node with
      | file bytes => exact absurd opened (closed bytes found)
      | link target => exact ⟨PathError.isDirectory.system, rfl⟩
      | directory entries => exact ⟨PathError.isDirectory.system, rfl⟩

/-- A file that is a text or cannot be opened does not end a run. -/
theorem read_of_not_isUndecodable {path : Path} (decodable : ¬ volume.IsUndecodable path) :
    (volume.IsReadable path ∧ ∃ document, volume.read path = .ok document) ∨
      (¬ volume.IsReadable path ∧ ∃ error, volume.read path = .error (.system error)) := by
  by_cases opens : ∃ bytes, volume.lookUp path = .ok (.file bytes) ∧ volume.openFault path = none
  · obtain ⟨bytes, found, opened⟩ := opens
    cases decoded : Text.ofUtf8? bytes with
    | none => exact absurd ⟨bytes, found, opened, decoded⟩ decodable
    | some text =>
      have read := read_of_file found opened
      rw [decoded] at read
      exact Or.inl ⟨⟨bytes, text, found, opened, decoded⟩, _, read⟩
  · have closed : ∀ bytes, volume.lookUp path = .ok (.file bytes) → volume.openFault path ≠ none :=
      fun bytes found opened => opens ⟨bytes, found, opened⟩
    refine Or.inr ⟨?_, read_of_not_opened closed⟩
    rintro ⟨bytes, text, found, opened, -⟩
    exact closed bytes found opened

theorem expandPath_of_isPresent {text : Text} (present : volume.IsPresent text) :
    expandPath volume text = .ok (volume.sources text) := by
  unfold expandPath sources
  rcases present with ⟨entries, found⟩ | ⟨bytes, found⟩
  · simp only [found]
  · simp only [found]

theorem expandPaths_cons (volume : Volume) (text : Text) (texts : List Text) :
    expandPaths volume (text :: texts) = (do
      let first ← expandPath volume text
      let others ← expandPaths volume texts
      return first ++ others) := by
  unfold expandPaths
  rw [List.mapM_cons]
  cases expandPath volume text with
  | error missing => rfl
  | ok first =>
    cases texts.mapM (expandPath volume) with
    | error missing => rfl
    | ok others => rfl

theorem expandPaths_of_isPresent {texts : List Text} (present : ∀ text ∈ texts, volume.IsPresent text) :
    expandPaths volume texts = .ok (texts.flatMap volume.sources) := by
  induction texts with
  | nil => rfl
  | cons text texts ih =>
    obtain ⟨first, others⟩ := List.forall_mem_cons.mp present
    rw [expandPaths_cons, expandPath_of_isPresent first, ih others]
    rfl

/-- The reports on the files that can be read, in the order of their paths. -/
def reports (volume : Volume) (summary : Bool) (paths : List Path) : List Json :=
  paths.filterMap fun path => (volume.read path).toOption.map (fileReport summary path)

theorem scanFiles_of_not_isUndecodable {paths : List Path}
    (decodable : ∀ path ∈ paths, ¬ volume.IsUndecodable path) (summary : Bool) :
    ∃ records, scanFiles volume summary paths = .ok ⟨volume.reports summary paths, records⟩ ∧
      (records = [] ↔ ∀ path ∈ paths, volume.IsReadable path) := by
  induction paths with
  | nil => exact ⟨[], rfl, by simp⟩
  | cons path paths ih =>
    obtain ⟨first, others⟩ := List.forall_mem_cons.mp decodable
    obtain ⟨records, scanned, complete⟩ := ih others
    unfold scanFiles reports
    rcases read_of_not_isUndecodable first with ⟨readable, document, read⟩ | ⟨unreadable, error, read⟩
    · refine ⟨records, ?_, ?_⟩
      · rw [read, scanned, List.filterMap_cons, read]
        rfl
      · rw [complete, List.forall_mem_cons]
        exact (and_iff_right readable).symm
    · refine ⟨unreadableRecord path error :: records, ?_, ?_⟩
      · rw [read, scanned, List.filterMap_cons, read]
        rfl
      · exact iff_of_false (List.cons_ne_nil _ _) fun all => unreadable (all path List.mem_cons_self)

end Volume

theorem readArguments_of_text {argument : Argument} (text : argument.flags? = .ok none)
    (reading : Reading) (others : List Argument) :
    readArguments reading (argument :: others) = readArguments (reading.addText argument) others := by
  rw [readArguments, text]

theorem readArguments_plain (texts : List Text) (reading : Reading) (ready : reading.stage ≠ .past)
    (clean : reading.leftOver = []) :
    readArguments reading (texts.map .plain) = .ok (.run
      { reading.settings with paths := reading.settings.paths ++ texts }) := by
  induction texts generalizing reading with
  | nil => simp [readArguments, Reading.finish, clean]
  | cons text texts ih =>
    have added : reading.addText (.plain text) =
        { reading with
          settings := { reading.settings with paths := reading.settings.paths ++ [text] }
          stage := .current } := if_neg ready
    have later := ih (reading.addText (.plain text)) (by simp [added]) (by simp [added, clean])
    rw [List.map_cons, readArguments_of_text rfl, later, added]
    simp only [List.append_assoc, List.singleton_append]

/-- All that stands behind two dashes is a path. -/
theorem readCommandLine_paths (summary : Bool) (paths : List Text) :
    readCommandLine ((if summary then ["--summary".toList] else []) ++ "--".toList :: paths) =
      .ok (.run { paths, summary }) := by
  cases summary with
  | false =>
    calc readCommandLine ("--".toList :: paths)
        = readArguments {} (.separator :: paths.map .plain) := rfl
      _ = readArguments { stage := .current } (paths.map .plain) := readArguments_of_text rfl _ _
      _ = .ok (.run { paths, summary := false }) := readArguments_plain paths _ (by simp) rfl
  | true =>
    calc readCommandLine ("--summary".toList :: "--".toList :: paths)
        = readArguments {} (.flag .summary none :: .separator :: paths.map .plain) := rfl
      _ = readArguments { settings := { summary := true } } (.separator :: paths.map .plain) := rfl
      _ = readArguments { settings := { summary := true }, stage := .current } (paths.map .plain) :=
        readArguments_of_text rfl _ _
      _ = .ok (.run { paths, summary := true }) := readArguments_plain paths _ (by simp) rfl

theorem runCommand_eq_runOnPaths {arguments : List Text} {settings : Settings}
    (read : readCommandLine arguments = .ok (.run settings)) (noExpression : settings.expression = none)
    (filled : settings.paths ≠ []) {levelForAll : Option Text} {level : LogLevel}
    (leveled : settings.level levelForAll = .ok level) (volume : Volume) :
    runCommand volume levelForAll arguments =
      (runOnPaths volume settings).map (·.atLevel level) := by
  have some_path : settings.paths.isEmpty = false := by
    rw [List.isEmpty_eq_false_iff]
    exact filled
  rw [runCommand, read]
  simp only [leveled, runWith, noExpression, some_path]
  rfl

section

variable {volume : Volume} {settings : Settings}

theorem runOnPaths_of_not_isUndecodable (present : ∀ text ∈ settings.paths, volume.IsPresent text)
    (decodable : ∀ path ∈ settings.paths.flatMap volume.sources, ¬ volume.IsUndecodable path) :
    ∃ outcome, runOnPaths volume settings = .ok outcome ∧
      outcome.output = outputLine
        (.array (volume.reports settings.summary (settings.paths.flatMap volume.sources))) ∧
      outcome.exitCode ≤ 1 ∧
      (outcome.exitCode = 0 ↔
        ∀ path ∈ settings.paths.flatMap volume.sources, volume.IsReadable path) := by
  obtain ⟨records, scanned, complete⟩ :=
    Volume.scanFiles_of_not_isUndecodable decodable settings.summary
  rw [runOnPaths, Volume.expandPaths_of_isPresent present]
  simp only [scanned, Except.map]
  refine ⟨_, rfl, rfl, ?_, ?_⟩
  · dsimp only
    split <;> omega
  · rw [← complete]
    cases records with
    | nil => exact iff_of_true rfl rfl
    | cons record others => exact iff_of_false Nat.one_ne_zero (List.cons_ne_nil _ _)

end

end ClassUsage
