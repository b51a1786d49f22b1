import Prism.Command.Argument
import Prism.Location

namespace Prism

/-- A compilation as the command line asks for it. What is not given comes from the settings. -/
structure CompileCommand where
  spec : Location
  config : Option Location := none
  targets : List String := []
  out : Option Location := none
  report : Option Location := none
  format : Option String := none
  deriving DecidableEq, Repr

inductive Command where
  | compile (request : CompileCommand)
  | targets (json : Bool)
  | check (spec : Location)
  | serve (host : String) (port : Int) (cache : Option Location)
  deriving DecidableEq, Repr

structure Invocation where
  verbose : Bool := false
  logFile : Option Location := none
  command : Command
  deriving DecidableEq, Repr

structure UsageError where
  program : String
  fault : ArgumentFault
  deriving DecidableEq, Repr

def UsageError.message (error : UsageError) : String :=
  error.program ++ ": error: " ++ error.fault.message

namespace Invocation

def verboseOption : CommandOption := { names := ["-v", "--verbose"] }
def logFileOption : CommandOption := { names := ["--log-file"], takesValue := true }
def configOption : CommandOption := { names := ["--config"], takesValue := true }
def targetOption : CommandOption := { names := ["-t", "--target"], takesValue := true }
def outOption : CommandOption := { names := ["--out"], takesValue := true }
def reportOption : CommandOption := { names := ["--report"], takesValue := true }
def formatOption : CommandOption :=
  { names := ["--format"], takesValue := true, choices := ["json", "markdown"] }
def jsonOption : CommandOption := { names := ["--json"] }
def hostOption : CommandOption := { names := ["--host"], takesValue := true }
def portOption : CommandOption := { names := ["--port"], takesValue := true, whole := true }
def cacheOption : CommandOption := { names := ["--cache"], takesValue := true }

def program : String := "polygen"

/-- The options of each command, and what it takes besides. -/
def commands : List (String × List CommandOption × Operand) := [
  ("compile",
    [configOption, targetOption, outOption, reportOption, formatOption], .one "spec"),
  ("targets", [jsonOption], .nothing),
  ("check", [], .one "spec"),
  ("serve", [hostOption, portOption, cacheOption], .nothing)]

def usage : Usage where
  program := program
  options := [.help, verboseOption, logFileOption]
  operand := .command "command" (commands.map (·.1))

def usageOf (name : String) : Usage :=
  let (options, operand) := (commands.lookup name).getD ([], .nothing)
  { program := program ++ " " ++ name
    options := [.help, verboseOption] ++ options
    operand }

def location? (given : Usage.Given) (option : CommandOption) : Option Location :=
  (given.last? option).map Location.ofText

def commandOf (name : String) (given : Usage.Given) : Command :=
  let spec := Location.ofText (given.operands.head?.getD "")
  match name with
  | "compile" => .compile {
      spec
      config := location? given configOption
      targets := given.all targetOption
      out := location? given outOption
      report := location? given reportOption
      format := given.last? formatOption }
  | "targets" => .targets (given.has jsonOption)
  | "check" => .check spec
  | _ =>
    let port := (given.last? portOption).bind (Decimal.readInt? usage.room)
    .serve ((given.last? hostOption).getD "127.0.0.1") (port.getD 8000) (location? given cacheOption)

/-- Reads the arguments of a call. Arguments that mean nothing are refused last. -/
def read (arguments : List String) : Except UsageError Invocation := do
  let refuse (usage : Usage) (fault : ArgumentFault) : UsageError := ⟨usage.program, fault⟩
  let outer ← (usage.read arguments).mapError (refuse usage)
  let name := outer.operands.head?.getD ""
  let inner ← ((usageOf name).read outer.operands.tail).mapError (refuse (usageOf name))
  let strays := outer.strays ++ inner.strays
  if strays.isEmpty then
    return {
      verbose := outer.has verboseOption || inner.has verboseOption
      logFile := location? outer logFileOption
      command := commandOf name inner }
  else throw (refuse usage (.unrecognized strays))

end Invocation

end Prism
