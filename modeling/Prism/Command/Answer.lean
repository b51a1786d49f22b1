import Prism.Command.Invocation
import Prism.Disk
import Prism.Report.Markdown
import Prism.Run.Rehearsal

namespace Prism

/-- What a call sees: the files, the directories of users, the environment, the time that log files tell, and how
far it may go. -/
structure Surroundings where
  disk : Disk
  homes : Homes := fun _ => none
  environment : String → Option String := fun _ => none
  time : String := ""
  room : Room := {}

structure CommandAnswer where
  status : Nat
  output : String := ""
  errors : String := ""
  records : List LogRecord := []
  disk : Disk

inductive CommandFault where
  | config (fault : ConfigFault)
  | specification (fault : SpecFileFault)
  | registry (error : RegistryError)
  | number (fault : NumberFault)
  | stopped (obstacle : Obstacle)
  | writing (fault : WritingFault)

namespace Command

/-- A complaint, with the problems it is made of below it. -/
def complaint (message : String) (problems : List String) : String :=
  Invocation.program ++ ": " ++ message ++ "\n" ++
    String.join (problems.map fun problem => "  - " ++ problem ++ "\n")

def refused (disk : Disk) (message : String) (problems : List String := []) : CommandAnswer :=
  { status := 2, errors := complaint message problems, disk }

/-- A text with blanks behind it up to a width. -/
def padded (width : Nat) (text : String) : String :=
  text ++ String.ofList (List.replicate (width - text.length) ' ')

def targetLine (target : Target) : String :=
  padded 24 target.id ++ " " ++ padded 16 (label target.framework) ++ " " ++
    padded 12 (label target.language) ++ " " ++ label target.maturity ++ "\n"

def listing (registry : Registry) (json : Bool) : String :=
  if json then (Json.list (registry.targets.map Target.describe)).pretty ++ "\n"
  else String.join (registry.targets.map targetLine)

def checked (surroundings : Surroundings) (path : Location) : Except CommandFault CommandAnswer :=
  let disk := surroundings.disk
  match Specification.ofFile surroundings.room surroundings.homes disk.find path with
  | .error fault =>
    if fault.isRefusal then
      let error := GenerationError.ofFile fault
      .ok (refused disk error.message error.problems)
    else .error (.specification fault)
  | .ok spec =>
    let problems := spec.structuralErrors.map (·.message)
    let name := spec.metadata.name
    if problems.isEmpty then
      .ok {
        status := 0
        output := name ++ ": ok (" ++ spec.entities.length.repr ++ " entities, " ++
          spec.flows.length.repr ++ " flows, " ++
          spec.architecture.components.length.repr ++ " components, " ++
          spec.compliance.rules.length.repr ++ " rules)\n"
        disk }
    else
      .ok {
        status := 1
        output := name ++ ": " ++ problems.length.repr ++ " structural problem(s)\n" ++
          String.join (problems.map fun problem => "  - " ++ problem ++ "\n")
        disk }

/-- Where the settings are: the file itself, or the usual one in a directory. -/
def configPlace (disk : Disk) (path : Location) : Location :=
  disk.resolve (match disk.find path with
    | .directory => path.child Config.fileName
    | _ => path)

def loadConfig (surroundings : Surroundings) (path : Option Location) : Except ConfigFault Config := do
  let path ← ((path.getD {}).expand surroundings.homes).mapError .home
  match surroundings.disk.find path with
  | .overlong => throw (.reading (.overlong path.text))
  | .nullName => throw (.reading .nullName)
  | _ =>
    let place := configPlace surroundings.disk path
    Config.load surroundings.room place.parent place.name (surroundings.disk.find place) surroundings.environment

/-- Texts in a directory stand in the place of templates. One that cannot be decoded is found all the same. -/
def templatesOf (disk : Disk) : Option Location → TemplateSource
  | none => .builtin
  | some directory => {
      load name := match disk.find (directory.child name) with
        | .octets octets => match Text.decodeUtf8 octets with
          | .ok text => .replaced text
          | .error fault => .broken ⟨"UnicodeDecodeError", fault.message⟩
        | _ => .bundled }

def bundleFiles (bundle : OutputBundle) : List (String × String) :=
  bundle.files.map (fun file => (file.path, file.content)) ++
    bundle.configuration.map (fun file => (file.path, file.content)) ++
    bundle.documentation.map (fun file => (file.path, file.content))

/-- All files of the results that succeeded, each target in a directory of its own. -/
def outputFiles (directory : Location) (results : List GenerationResult) :
    List (Location × String) :=
  (results.filter (·.success)).flatMap fun result =>
    (bundleFiles result.output).map fun (path, content) =>
      ((directory.child result.targetId).child path, content)

def writeAll (disk : Disk) (files : List (Location × String)) : Except WritingFault Disk :=
  files.foldlM (fun disk (path, content) => disk.write path content) disk

/-- Writes the bundles when there is a directory for them. -/
def writeBundles (disk : Disk) (directory : Option Location) (results : List GenerationResult) :
    Except CommandFault (Disk × List LogRecord) :=
  match directory with
  | none => .ok (disk, [])
  | some directory => do
    let files := outputFiles directory results
    let written ← (writeAll disk files).mapError .writing
    return (written, [{
      level := .info
      logger := "cli"
      message := "Wrote " ++ files.length.repr ++ " file(s) under " ++ directory.text }])

def reportText (room : Room) (report : EvidenceReport) (format : String) : Except CommandFault String :=
  if format = "markdown" then report.markdown.mapError .number
  else match report.jsonText room with
    | .ok text => .ok (text ++ "\n")
    | .error limit => .error (.stopped (.limit limit))

def statusLine (report : EvidenceReport) (missing : List String) : String :=
  Invocation.program ++ ": " ++ report.summary.successful.repr ++ "/" ++
    report.summary.totalTargets.repr ++ " target(s) succeeded" ++
    (if missing.isEmpty then ""
      else "; incomplete, missing " ++ String.intercalate ", " missing) ++ "\n"

/-- Delivers the outcome of a run: bundles, the report, and the last line. -/
def deliver (room : Room) (disk : Disk) (request : CompileCommand) (output : OutputSettings) (run : RunRecord) :
    Except CommandFault CommandAnswer :=
  let outcome := run.outcome
  match outcome.report with
  | none =>
    let error : GenerationError :=
      outcome.error.getD { kind := .generationError, message := "compilation failed" }
    .ok {
      status := outcome.exitCode
      errors := complaint error.message error.problems
      records := run.records
      disk }
  | some report => do
    let (disk, records) ← writeBundles disk (request.out <|> output.directory) outcome.results
    let text ← reportText room report (request.format.getD output.format)
    let answer : CommandAnswer := {
      status := outcome.exitCode
      output := text
      errors := statusLine report outcome.missing
      records := run.records ++ records
      disk }
    match request.report <|> output.report with
    | none => return answer
    | some path =>
      let disk ← (disk.write path text).mapError .writing
      return { answer with output := "Report written to " ++ disk.shown path ++ "\n", disk }

def compiled (surroundings : Surroundings) (request : CompileCommand) :
    Except CommandFault CommandAnswer :=
  let disk := surroundings.disk
  match loadConfig surroundings request.config with
  | .error fault =>
    if fault.isRefusal then .ok (refused disk fault.message) else .error (.config fault)
  | .ok config =>
    let axes := config.validation.axes
    match Axis.select (if axes.isEmpty then none else some axes) with
    | .error error => .ok (refused disk ("validation.axes: " ++ error.message))
    | .ok axes =>
      let compiler : Compiler := {
        source := templatesOf disk config.templates
        validator := { axes, tolerance := config.validation.tolerance, room := surroundings.room }
        settings := config.compiler
        room := surroundings.room }
      match compiler.compileFile surroundings.homes disk.find request.spec request.targets
          ({} : Run.Script Empty) with
      | .error (.specification fault) => .error (.specification fault)
      | .error (.run (.registry error)) => .ok (refused disk error.message)
      | .error (.run (.number fault)) => .error (.number fault)
      | .error (.run (.stopped obstacle)) => .error (.stopped obstacle)
      | .ok run => deliver surroundings.room disk request config.output run

/-- What a command answers. The service is no matter of files and answers nothing here. -/
def answer (surroundings : Surroundings) : Command → Except CommandFault CommandAnswer
  | .compile request => compiled surroundings request
  | .targets json =>
    .ok { status := 0, output := listing .builtin json, disk := surroundings.disk }
  | .check spec => checked surroundings spec
  | .serve _ _ _ => .ok { status := 0, disk := surroundings.disk }

end Command

namespace Invocation

def logText (time : String) (records : List LogRecord) : String :=
  String.join (records.map fun record => time ++ " " ++ record.fileLine "MainThread" ++ "\n")

/-- Answers a call. A log file is opened first and holds all records in the end. -/
def answer (surroundings : Surroundings) (invocation : Invocation) :
    Except CommandFault CommandAnswer :=
  match invocation.logFile with
  | none => invocation.command.answer surroundings
  | some path => do
    let opened ← (surroundings.disk.append path "").mapError .writing
    let answer ← invocation.command.answer { surroundings with disk := opened }
    let disk ← (answer.disk.append path (logText surroundings.time answer.records)).mapError .writing
    return { answer with disk }

end Invocation

end Prism
