import ClassUsage.Proofs.DocumentLineEnds
import ClassUsage.Proofs.RequestAnswers
import ClassUsage.Proofs.SourceRun

set_option autoImplicit false

/-!
The same bytes as a source file and as an upload. The service reads an upload as it is, the command
reads a file with line feeds for all line ends; apart from that both say the same.
-/
namespace ClassUsage

def fileHeader (path : Path) : List (String × Json) :=
  [("file", .string path.text),
    ("dialect", (path.dialect?.map fun dialect => Json.string dialect.name).getD .null)]

def documentFields (summary : Bool) (document : Text) : List (String × Json) :=
  if summary then (summarize document).fields
  else [("extractions", Extraction.listToJson (extractAll document))]

theorem fileReport_eq (summary : Bool) (path : Path) (document : Text) :
    fileReport summary path document = .ofFields (fileHeader path ++ documentFields summary document) :=
  rfl

theorem Volume.exists_reports_of_read {volume : Volume} {paths : List Path} {path : Path}
    (listed : path ∈ paths) {document : Text} (read : volume.read path = .ok document)
    (summary : Bool) :
    ∃ before after, volume.reports summary paths =
      before ++ fileReport summary path document :: after := by
  obtain ⟨front, back, rfl⟩ := List.append_of_mem listed
  refine ⟨volume.reports summary front, volume.reports summary back, ?_⟩
  unfold reports
  rw [List.filterMap_append, List.filterMap_cons, read]
  rfl

/-- The settings of a run that finds a source file behind each path and no file that is no text, at a level
that there is. -/
structure Settings.FindsText (settings : Settings) (volume : Volume) (levelForAll : Option Text) :
    Prop where
  noExpression : settings.expression = none
  leveled : ∃ level, settings.level levelForAll = .ok level
  present : ∀ text ∈ settings.paths, volume.IsPresent text
  decodable : ∀ path ∈ settings.paths.flatMap volume.sources, ¬ volume.IsUndecodable path

/-- Such a run reports on each file what is found in its text as it is read. -/
theorem exists_report_of_file {volume : Volume} {arguments : List Text} {settings : Settings}
    (read : readCommandLine arguments = .ok (.run settings)) {levelForAll : Option Text}
    (finds : settings.FindsText volume levelForAll) {path : Path}
    (listed : path ∈ settings.paths.flatMap volume.sources) {bytes : List UInt8}
    (found : volume.lookUp path = .ok (.file bytes)) (opened : volume.openFault path = none)
    {text : Text} (decoded : Text.ofUtf8? bytes = some text) :
    ∃ outcome before after, runCommand volume levelForAll arguments = .ok outcome ∧
      outcome.output = outputLine (.array (before ++
        .ofFields (fileHeader path ++ documentFields settings.summary text.withLineFeeds) :: after)) := by
  have filled : settings.paths ≠ [] := by
    intro noPaths
    rw [noPaths] at listed
    cases listed
  have readText : volume.read path = .ok text.withLineFeeds := by
    rw [Volume.read_of_file found opened, decoded]
  obtain ⟨before, after, reports⟩ :=
    Volume.exists_reports_of_read listed readText settings.summary
  obtain ⟨outcome, run, written, -, -⟩ :=
    runOnPaths_of_not_isUndecodable finds.present finds.decodable
  obtain ⟨level, leveled⟩ := finds.leveled
  have whole := runCommand_eq_runOnPaths read finds.noExpression filled leveled volume
  rw [run] at whole
  refine ⟨_, before, after, whole, ?_⟩
  rw [← fileReport_eq, ← reports]
  exact written

namespace Web.Host

variable {Request : Type} {host : Host Request} {request : Request}

/-- The request asks for the summary of an uploaded file with the given bytes. -/
structure Receives (host : Host Request) (request : Request) (bytes : List UInt8) : Prop where
  post : host.method request = "POST".toList
  path : host.path request = Endpoint.summary.path
  file : ∃ upload, host.file "file".toList request = .ok (some upload) ∧ upload.isNamed = true ∧
    upload.content = bytes

theorem respond_of_receives (documented : host.Documented) {bytes : List UInt8}
    (receives : host.Receives request bytes) {text : Text}
    (decoded : Text.ofUtf8? bytes = some text) :
    host.respond request = ⟨200, some (.ofFields (documentFields true text))⟩ := by
  obtain ⟨upload, found, named, rfl⟩ := receives.file
  have read : host.summaryText request = .ok (some text) := by
    unfold summaryText
    rw [found]
    simp only [bind, Except.bind, Option.filter, named, if_true, decoded]
    rfl
  rw [respond_eq_settle documented receives.post receives.path]
  change host.summaryResponse request = _
  rw [summaryResponse, read]
  rfl

end Web.Host

/-- The command reports on a file what the service answers to an upload of the same bytes, but for the
text with line feeds for all line ends: the same extractions at the places that stand for theirs, and the
same classes. These texts are the same if there are no carriage returns. -/
theorem command_agrees_with_service {volume : Volume} {path : Path} {bytes : List UInt8}
    (found : volume.lookUp path = .ok (.file bytes)) (opened : volume.openFault path = none)
    {text : Text} (decoded : Text.ofUtf8? bytes = some text) {arguments : List Text}
    {settings : Settings} (read : readCommandLine arguments = .ok (.run settings))
    {levelForAll : Option Text} (finds : settings.FindsText volume levelForAll)
    (listed : path ∈ settings.paths.flatMap volume.sources) {Request : Type}
    {host : Web.Host Request} (documented : host.Documented) {request : Request}
    (receives : host.Receives request bytes) :
    (∃ outcome before after, runCommand volume levelForAll arguments = .ok outcome ∧
      outcome.output = outputLine (.array (before ++
        .ofFields (fileHeader path ++ documentFields settings.summary text.withLineFeeds) :: after))) ∧
    host.respond request = ⟨200, some (.ofFields (documentFields true text))⟩ ∧
    summarize text.withLineFeeds = (summarize text).withLineFeeds text ∧
    (text.withLineFeeds = text ↔ '\r' ∉ text) :=
  ⟨exists_report_of_file read finds listed found opened decoded,
    Web.Host.respond_of_receives documented receives decoded, summarize_withLineFeeds text,
    Text.withLineFeeds_eq_self_iff⟩

def utf8 (text : Text) : List UInt8 := text.flatMap String.utf8EncodeChar

/-- A directory with a file of the given text, of which nothing is forbidden. -/
def volumeOf (text : Text) : Volume where
  root := .directory [("a.vue".toList, .file (utf8 text))]
  workingDirectory := []

theorem lookUp_volumeOf (text : Text) :
    (volumeOf text).lookUp (Path.ofText "a.vue".toList) = .ok (.file (utf8 text)) :=
  Volume.lookUp_of_find rfl (FileSystem.find_name rfl rfl (by decide) rfl (by simp))

theorem sources_volumeOf (text : Text) :
    ["a.vue".toList].flatMap (volumeOf text).sources = [Path.ofText "a.vue".toList] := by
  rw [List.flatMap_singleton, Volume.sources, lookUp_volumeOf]

theorem findsText_volumeOf {text decoded : Text}
    (decodes : Text.ofUtf8? (utf8 text) = some decoded) (summary : Bool) :
    Settings.FindsText { paths := ["a.vue".toList], summary } (volumeOf text) none := by
  refine ⟨rfl, ⟨.warning, rfl⟩, ?_, ?_⟩
  · exact List.forall_mem_singleton.mpr (Or.inr ⟨_, lookUp_volumeOf text⟩)
  · rw [sources_volumeOf]
    refine List.forall_mem_singleton.mpr ?_
    rintro ⟨bytes, found, -, undecoded⟩
    rw [lookUp_volumeOf] at found
    cases found
    rw [decodes] at undecoded
    cases undecoded

theorem listed_volumeOf (text : Text) :
    Path.ofText "a.vue".toList ∈ ["a.vue".toList].flatMap (volumeOf text).sources := by
  rw [sources_volumeOf]
  exact List.mem_singleton_self _

theorem receives_fileParcel (content : List UInt8) :
    Web.loopback.Receives (Web.fileParcel content) content :=
  ⟨rfl, rfl, _, rfl, rfl, rfl⟩

def plainDocument : Text := "\n<a class=\x22x\x22>".toList

theorem command_agrees_with_service_plain :
    (∃ outcome before after, runCommand (volumeOf plainDocument) none
        ["--summary".toList, "--".toList, "a.vue".toList] = .ok outcome ∧
      outcome.output = outputLine (.array (before ++ .ofFields
        (fileHeader (Path.ofText "a.vue".toList) ++ documentFields true plainDocument) :: after))) ∧
    Web.loopback.respond (Web.fileParcel (utf8 plainDocument)) =
      ⟨200, some (.ofFields (documentFields true plainDocument))⟩ := by
  have decoded : Text.ofUtf8? (utf8 plainDocument) = some plainDocument := by decide +kernel
  obtain ⟨command, service, -, same⟩ := command_agrees_with_service (lookUp_volumeOf plainDocument)
    rfl decoded (readCommandLine_paths true ["a.vue".toList]) (findsText_volumeOf decoded true)
    (listed_volumeOf plainDocument) Web.loopback_documented (receives_fileParcel (utf8 plainDocument))
  rw [same.mpr (by decide)] at command
  exact ⟨command, service⟩

def returnedDocument : Text := '\r' :: plainDocument

/-- The command reports the class one character before the place that the service reports. -/
theorem carriage_return_moves_report :
    Text.ofUtf8? (utf8 returnedDocument) = some returnedDocument ∧
    (∃ outcome before after, runCommand (volumeOf returnedDocument) none
        ["--summary".toList, "--".toList, "a.vue".toList] = .ok outcome ∧
      outcome.output = outputLine (.array (before ++ .ofFields
        (fileHeader (Path.ofText "a.vue".toList) ++ documentFields true plainDocument) :: after))) ∧
    Web.loopback.respond (Web.fileParcel (utf8 returnedDocument)) =
      ⟨200, some (.ofFields (documentFields true returnedDocument))⟩ ∧
    (extractAll plainDocument).map (·.range) = [⟨4, 13⟩] ∧
    (extractAll returnedDocument).map (·.range) = [⟨5, 14⟩] := by
  have decoded : Text.ofUtf8? (utf8 returnedDocument) = some returnedDocument := by
    decide +kernel
  have converted : returnedDocument.withLineFeeds = plainDocument := by decide
  refine ⟨decoded, ?_, ?_, by decide +kernel, by decide +kernel⟩
  · have report := exists_report_of_file (readCommandLine_paths true ["a.vue".toList])
      (findsText_volumeOf decoded true) (listed_volumeOf returnedDocument)
      (lookUp_volumeOf returnedDocument) rfl decoded
    rw [converted] at report
    exact report
  · exact Web.Host.respond_of_receives Web.loopback_documented
      (receives_fileParcel (utf8 returnedDocument)) decoded

end ClassUsage
