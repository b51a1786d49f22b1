import Prism.Document.Show
import Prism.Json.Reader
import Prism.Json.Writer
import Prism.Reading

namespace Prism

/-- The members of an entry, among them the report. -/
abbrev CacheEntry := List (String × Json)

structure ReportCache where
  durable : Bool := true
  entries : List (String × CacheEntry) := []
  changed : Bool := false

namespace ReportCache

def version : Int := 1

/-- Whether a value counts as the version; other spellings of one do. -/
def isVersion : Json → Bool
  | .int n => n = version
  | .float x => x == Float.ofInt version
  | .bool b => b
  | _ => false

def entry? : String × Json → Option (String × CacheEntry)
  | (key, .object members) =>
    if (Json.lookup "report" members).any Json.isObject then some (key, members) else none
  | _ => none

/-- The entries in the value of a file. What is no entry is left out. -/
def entriesOf (value : Json) : List (String × CacheEntry) :=
  if (value.member? "version").any isVersion then
    match value.member? "entries" with
    | some (.object members) => members.filterMap entry?
    | _ => []
  else []

def inMemory : ReportCache := { durable := false }

inductive Fault where
  | encoding (fault : Text.Utf8Fault)
  | nullName
  | limit (limit : Limit)
  deriving DecidableEq, Repr

def Fault.message : Fault → String
  | .encoding fault => fault.message
  | .nullName => ReadingFault.nullName.message
  | .limit met => met.message

/-- Opens the cache of a file. A file that is not there or holds no JSON counts as empty, but its name may
hold no null character, its octets have to be a text, and what it holds may not be too large to be read. -/
def ofFile (room : Room) (stored : Stored) : Except Fault ReportCache :=
  match stored.text "" with
  | .error (.encoding fault) => .error (.encoding fault)
  | .error .nullName => .error .nullName
  | .error _ => .ok {}
  | .ok text => match Json.read room text with
    | .error (.limit limit) => .error (.limit limit)
    | .error _ => .ok {}
    | .ok value => .ok { entries := entriesOf value }

def entry (cache : ReportCache) (fingerprint : String) : CacheEntry :=
  (cache.entries.lookup fingerprint).getD []

def get? (cache : ReportCache) (fingerprint : String) : Option Json :=
  (Json.lookup "report" (cache.entry fingerprint)).filter Json.isObject

def targets (cache : ReportCache) (fingerprint : String) : List String :=
  match Json.lookup "targets" (cache.entry fingerprint) with
  | some (.list items) => items.map fun item => match Doc.ofJson item with
    | .scalar value => value.plain
    | value => value.literal
  | _ => []

def fingerprints (cache : ReportCache) : List String :=
  (cache.entries.map (·.1)).mergeSort fun a b => a ≤ b

/-- Gives a fingerprint its entry: in place when there is one, at the end otherwise. -/
def setEntry (fingerprint : String) (entry : CacheEntry) :
    List (String × CacheEntry) → List (String × CacheEntry)
  | [] => [(fingerprint, entry)]
  | (key, old) :: entries =>
    if key = fingerprint then (key, entry) :: entries
    else (key, old) :: setEntry fingerprint entry entries

/-- Stores a report with targets of any form and the time. -/
def storeValues (cache : ReportCache) (fingerprint : String) (targets : List Json) (report : Json)
    (time : String) : ReportCache :=
  let entry : CacheEntry :=
    [("targets", .list targets), ("report", report), ("updated_at", .text time)]
  { cache with entries := setEntry fingerprint entry cache.entries, changed := true }

def store (cache : ReportCache) (fingerprint : String) (targets : List String) (report : Json)
    (time : String) : ReportCache :=
  cache.storeValues fingerprint (targets.map .text) report time

def prune (cache : ReportCache) (keep : List String) : ReportCache :=
  let kept := cache.entries.filter fun (key, _) => keep.contains key
  { cache with
    entries := kept
    changed := cache.changed || cache.entries.any fun (key, _) => !keep.contains key }

def clear (cache : ReportCache) : ReportCache := { cache with entries := [], changed := true }

def toJson (cache : ReportCache) : Json := .object [
  ("version", .int version),
  ("entries", .object (cache.entries.map fun (key, entry) => (key, .object entry)))]

def text (cache : ReportCache) : String := cache.toJson.sorted.pretty

/-- The limit at which writing the cache ends. -/
def writingLimit? (room : Room) (cache : ReportCache) : Option Limit :=
  if !cache.toJson.isSpelled room then some room.unspelled
  else if room.writing < cache.toJson.writingCalls then some .writing
  else none

/-- Writes the cache when it has a file and changed: what stands in the file from now on. The text is there before
the file is touched, so when there is none nothing happens. -/
def persist (room : Room) (cache : ReportCache) : Except Limit (ReportCache × Option String) :=
  if cache.durable && cache.changed then match cache.writingLimit? room with
    | some met => .error met
    | none => .ok ({ cache with changed := false }, some cache.text)
  else .ok (cache, none)

end ReportCache

/-- A cache together with the text of its file, if the file is there. -/
structure CacheFile where
  cache : ReportCache := {}
  text : Option String := none

namespace CacheFile

def reopen (room : Room) (file : CacheFile) : Except ReportCache.Fault CacheFile :=
  (ReportCache.ofFile room ((file.text.map Stored.ofText).getD .absent)).map fun cache =>
    { file with cache }

def persist (room : Room) (file : CacheFile) : Except Limit CacheFile :=
  (file.cache.persist room).map fun (cache, written) => { cache, text := written <|> file.text }

end CacheFile

end Prism
