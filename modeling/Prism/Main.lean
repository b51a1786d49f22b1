import Prism.Command.Answer

namespace Prism

def storedAt (path : String) : IO Stored := do
  try
    return .octets ((← IO.FS.readBinFile path).toList.map UInt8.toNat)
  catch error => match error with
    | .noFileOrDirectory .. => return .absent
    | _ => return .directory

def pathText (place : Place) : String := "/" ++ String.intercalate "/" place

/-- Takes a path into the picture of the file system. A directory shows by a nameless file in it. -/
def lookAt (homes : Homes) (disk : Disk) (path : Location) : IO Disk := do
  let place := disk.placeOf ((path.expand homes).toOption.getD path)
  match ← storedAt (pathText place) with
  | .octets octets => return { disk with files := (place, octets) :: disk.files }
  | .directory => return { disk with files := (place ++ [""], []) :: disk.files }
  | .absent | .blocked | .overlong | .nullName => return disk

/-- The paths that a command reads before it knows its settings. -/
def readPaths : Command → List Location
  | .compile request =>
    let config := request.config.getD {}
    [request.spec, config, config.child Config.fileName]
  | .check spec => [spec]
  | .targets _ | .serve _ _ _ => []

/-- The templates that the settings of a command lead to. -/
def templatePaths (surroundings : Surroundings) : Command → List Location
  | .compile request => match Command.loadConfig surroundings request.config with
    | .ok config => match config.templates with
      | some directory => Generator.templateNames.map directory.child
      | none => []
    | .error _ => []
  | .check _ | .targets _ | .serve _ _ _ => []

def writeChange (change : Place × List Nat) : IO Unit := do
  let (place, octets) := change
  IO.FS.createDirAll (pathText place.dropLast)
  IO.FS.writeBinFile (pathText place) ⟨(octets.map Nat.toUInt8).toArray⟩

def CommandFault.message : CommandFault → String
  | .config fault => fault.message
  | .specification fault => fault.message
  | .registry error => error.message
  | .number fault => fault.message
  | .stopped obstacle => obstacle.message
  | .writing fault => fault.message

def answerCall (invocation : Invocation) : IO UInt32 := do
  let base := (Location.ofText (← IO.currentDir).toString).names
  let workers ← IO.getEnv Config.workersVariable
  let timeout ← IO.getEnv Config.timeoutVariable
  let environment (name : String) : Option String :=
    if name = Config.workersVariable then workers
    else if name = Config.timeoutVariable then timeout
    else none
  let own ← IO.getEnv "HOME"
  let homes (user : String) : Option Location := if user.isEmpty then own.map Location.ofText else none
  let time := (← IO.monoMsNow).repr
  let first ← (invocation.logFile.toList ++ readPaths invocation.command).foldlM (lookAt homes) { base }
  let surroundings : Surroundings := { disk := first, homes, environment, time }
  let disk ← (templatePaths surroundings invocation.command).foldlM (lookAt homes) first
  match invocation.answer { surroundings with disk } with
  | .error fault =>
    IO.eprintln fault.message
    return 1
  | .ok answer =>
    (disk.changes answer.disk).forM writeChange
    IO.eprint (consoleText invocation.verbose answer.records)
    IO.print answer.output
    IO.eprint answer.errors
    return answer.status.toUInt32

end Prism

def main (arguments : List String) : IO UInt32 := do
  match Prism.Invocation.read arguments with
  | .error error =>
    if error.fault = .helpWanted then return 0
    IO.eprintln error.message
    return 2
  | .ok invocation => Prism.answerCall invocation
