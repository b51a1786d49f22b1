import Prism.Text.Basic

namespace Prism

inductive LogLevel where
  | debug | info | warning | error | critical
  deriving DecidableEq, Repr

instance : Labelled LogLevel where
  all := [.debug, .info, .warning, .error, .critical]
  label
    | .debug => "DEBUG"
    | .info => "INFO"
    | .warning => "WARNING"
    | .error => "ERROR"
    | .critical => "CRITICAL"

def LogLevel.rank : LogLevel → Nat
  | .debug => 0
  | .info => 1
  | .warning => 2
  | .error => 3
  | .critical => 4

/-- Levels that the console always shows. -/
def LogLevel.isShown (level : LogLevel) : Bool := LogLevel.info.rank ≤ level.rank

/-- The names of a record's own parts; nothing that is added to it may have one of them. -/
def LogRecord.ownNames : List String := ["name", "msg", "args", "levelname", "levelno", "pathname",
  "filename", "module", "exc_info", "exc_text", "stack_info", "lineno", "funcName", "created",
  "msecs", "relativeCreated", "thread", "threadName", "processName", "process", "message", "asctime"]

/-- The complaint about an addition under a name that is taken. -/
def LogRecord.nameTaken (name : String) : String :=
  "Attempt to overwrite '" ++ name ++ "' in LogRecord"

/-- One record. The root logger has no name, and records about no target have an empty one. -/
structure LogRecord where
  level : LogLevel
  logger : String := ""
  target : String := ""
  message : String
  deriving DecidableEq, Repr

namespace LogRecord

/-- The message, after the target it is about. -/
def body (record : LogRecord) : String :=
  if record.target.isEmpty then record.message else record.target ++ ": " ++ record.message

def loggerName (record : LogRecord) : String :=
  if record.logger.isEmpty then "polygen" else "polygen." ++ record.logger

def consoleLine (record : LogRecord) : String :=
  "[polygen] " ++ label record.level ++ " " ++ record.body

def fileLine (thread : String) (record : LogRecord) : String :=
  label record.level ++ " " ++ record.loggerName ++ " [" ++ thread ++ "]: " ++ record.body

def isShown (verbose : Bool) (record : LogRecord) : Bool := verbose || record.level.isShown

end LogRecord

def consoleText (verbose : Bool) (records : List LogRecord) : String :=
  String.join ((records.filter (·.isShown verbose)).map fun record => record.consoleLine ++ "\n")

/-- The form of the time in front of a line; zeros stand for digits. -/
def timeForm : List Char := "0000-00-00 00:00:00,000 ".toList

def isTimed (line : List Char) : Bool :=
  timeForm.length ≤ line.length &&
    (timeForm.zip line).all fun (form, c) =>
      if form = '0' then (Text.digitValue? c).isSome else form = c

def untimed (line : List Char) : List Char :=
  if isTimed line then line.drop timeForm.length else line

/-- What a file keeps of the records: all of them, without the times in front of lines. -/
def logFileText (thread : String) (records : List LogRecord) : String :=
  let lines := (String.join (records.map fun record => record.fileLine thread ++ "\n")).splitOn "\n"
  String.intercalate "\n" (lines.map fun line => String.ofList (untimed line.toList))

end Prism
