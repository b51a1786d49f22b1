import Prism.Cache
import Prism.Run.Rehearsal

namespace Prism

structure Request where
  method : String
  path : String
  body : String := ""
  deriving DecidableEq, Repr

/-- A reply with a body, or word that the body of the request does not fit. -/
inductive Reply where
  | answer (status : Nat) (body : Json)
  | invalid

structure Service where
  compiler : Compiler := {}
  file : CacheFile := {}

inductive Route where
  | health
  | targets
  | target (id : String)
  | compile
  | report (fingerprint : String)
  deriving DecidableEq, Repr

namespace Route

def method : Route → String
  | .compile => "POST"
  | .health | .targets | .target _ | .report _ => "GET"

/-- The route of a single name. A line end after it does not count. -/
def ofName (name : String) : Option Route :=
  let named (expected : String) : Bool := name = expected || name = expected ++ "\n"
  if named "health" then some .health
  else if named "targets" then some .targets
  else if named "compile" then some .compile
  else none

def ofNames : List String → Option Route
  | [name] => ofName name
  | ["targets", id] => if id.isEmpty then none else some (.target id)
  | ["reports", fingerprint] => if fingerprint.isEmpty then none else some (.report fingerprint)
  | _ => none

def names (path : List Char) : List String :=
  (Text.splitAtChar '/' (path.drop 1)).map String.ofList

def ofPath (path : List Char) : Option Route := ofNames (names path)

/-- The path to which a request for a path without a route is sent on: a route may be found when
the slashes at the end are left out. -/
def onward? (path : List Char) : Option (List Char) :=
  let shorter := (path.reverse.dropWhile (· = '/')).reverse
  if (ofPath path).isNone && (ofPath shorter).isSome then some shorter else none

end Route

namespace Request

/-- A percent sign and two hexadecimal digits stand for an octet. -/
def octets : List Char → List Nat
  | '%' :: a :: b :: rest => match Json.hexValue? a, Json.hexValue? b with
    | some high, some low => (16 * high + low) :: octets rest
    | _, _ => '%'.toNat :: octets (a :: b :: rest)
  | c :: rest => (String.singleton c).toUTF8.toList.map UInt8.toNat ++ octets rest
  | [] => []

/-- Characters in place of the octets that they stand for. -/
def decoded (text : List Char) : List Char := Text.decodeLossy (octets text)

/-- Decodes a text that may hold other than ASCII characters; these end what is decoded as one. -/
def decodedRuns : (run : List Char) → List Char → List Char
  | run, [] => decoded run.reverse
  | run, c :: rest =>
    if c.toNat < 0x80 then decodedRuns (c :: run) rest
    else decoded run.reverse ++ c :: decodedRuns [] rest

/-- Names on the way without those for staying and for going back. -/
def straightened (names : List (List Char)) : List (List Char) :=
  names.foldl (fun before name =>
    if name = ['.'] then before
    else if name = ['.', '.'] then (if before = [[]] then before else before.dropLast)
    else before ++ [name]) []

/-- The path without host, query and fragment. It is decoded on both sides of the connection. -/
def plainPath (request : Request) : List Char :=
  let path := request.path.toList.takeWhile fun c => c ≠ '?' && c ≠ '#'
  let path := if path.take 2 = ['/', '/'] then (path.drop 2).dropWhile (· ≠ '/') else path
  let path := '/' :: path.dropWhile (· = '/')
  let names := straightened (Text.splitAtChar '/' path)
  decodedRuns [] (decoded (List.intercalate ['/'] names))

/-- The path at which a request arrives. When it is sent on, the new path is decoded again. -/
def arrival : Nat → Request → List Char
  | 0, request => request.plainPath
  | fuel + 1, request =>
    match Route.onward? request.plainPath with
    | some path => arrival fuel { request with path := String.ofList path }
    | none => request.plainPath

/-- The value in the body of a request. A mark of the byte order in front does not count. -/
def value (room : Room) (request : Request) : Except Json.ReadFault Json :=
  match request.body.toList with
  | '\ufeff' :: rest => Json.readChars room rest
  | body => Json.readChars room body

/-- The document and the targets that the body of a request names, if it fits. -/
def order? (body : Json) : Option (Doc × List String) := do
  let specification ← (body.member? "specification").filter Json.isObject
  let targets ← match body.member? "targets" with
    | none => some []
    | some (.list items) => items.mapM fun item => match item with
      | .text id => some id
      | _ => none
    | some _ => none
  return (Doc.ofJson specification, targets)

end Request

namespace Service

def restart (service : Service) : Except ReportCache.Fault Service :=
  (service.file.reopen service.compiler.room).map fun file => { service with file }

def detail (status : Nat) (message : String) : Reply :=
  .answer status (.object [("detail", .text message)])

def runBody (outcome : RunOutcome) : Json := .object [
  ("state", .text (label outcome.state)),
  ("exit_code", .ofNat outcome.exitCode),
  ("complete", .bool outcome.complete),
  ("fingerprint", Json.ofOption (fun report => .text report.specification.fingerprint) outcome.report),
  ("missing", .texts outcome.missing),
  ("error", Json.ofOption GenerationError.toJson outcome.error),
  ("report", Json.ofOption EvidenceReport.toJson outcome.report)]

/-- Stores the report of a run, and the limit at which writing the file ends, if it does. -/
def keep (service : Service) (time : String) (outcome : RunOutcome) : Service × Option Limit :=
  match outcome.report with
  | none => (service, none)
  | some report =>
    let cache := service.file.cache.store report.specification.fingerprint
      (outcome.results.map (·.targetId)) report.toJson time
    let file : CacheFile := { service.file with cache }
    match file.persist service.compiler.room with
    | .ok file => ({ service with file }, none)
    | .error limit => ({ service with file }, some limit)

def compile (service : Service) (time : String) (request : Request) : Service × Reply :=
  match (request.value service.compiler.room).map Request.order? with
  | .error (.limit _) => (service, detail 400 "There was an error parsing the body")
  | .error _ | .ok none => (service, .invalid)
  | .ok (some (document, targets)) =>
    match service.compiler.compileDocument document targets ({} : Run.Script Empty) with
    | .error (.registry error) => (service, detail 404 error.message)
    | .error (.number fault) => (service, detail 500 fault.message)
    | .error (.stopped obstacle) => (service, detail 500 obstacle.message)
    | .ok run => match service.keep time run.outcome with
      | (service, some limit) => (service, detail 500 limit.message)
      | (service, none) =>
        let status := if run.outcome.state = .failed then 422 else 200
        (service, .answer status (runBody run.outcome))

def answer (service : Service) (time : String) (request : Request) (route : Route) :
    Service × Reply :=
  let registry := service.compiler.registry
  match route with
  | .health => (service, .answer 200 (.object [
      ("status", .text "ok"), ("targets", .ofNat registry.targets.length)]))
  | .targets => (service, .answer 200 (.list (registry.targets.map Target.describe)))
  | .target id => (service, match registry.get id with
    | .ok target => .answer 200 target.describe
    | .error error => detail 404 error.message)
  | .compile => service.compile time request
  | .report fingerprint => (service, match service.file.cache.get? fingerprint with
    | some report => .answer 200 report
    | none => detail 404 ("No report for specification " ++ fingerprint))

/-- A reply of which only the head is wanted. -/
def headOnly : Reply → Reply
  | .answer status _ => .answer status (.text "")
  | .invalid => .invalid

/-- Handles a request at a time: what the service is afterwards, and its reply. -/
def handle (service : Service) (time : String) (request : Request) : Service × Reply :=
  let method := String.ofList (request.method.toList.map Char.toUpper)
  let shown (reply : Reply) : Reply := if method = "HEAD" then headOnly reply else reply
  match Route.ofPath (Request.arrival request.path.length request) with
  | none => (service, shown (detail 404 "Not Found"))
  | some route =>
    if method = route.method then service.answer time request route
    else (service, shown (detail 405 "Method Not Allowed"))

end Service

end Prism
