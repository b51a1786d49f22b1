import Prism.Decimal.Read
import Prism.Text.Literal

namespace Prism

/-- An option: its names, and whether a value follows it. A value may have to be one of some choices
or a whole number. -/
structure CommandOption where
  names : List String
  takesValue : Bool := false
  choices : List String := []
  whole : Bool := false
  deriving DecidableEq, Repr

/-- What a command takes besides options: nothing, one argument, or another command with all that
follows it. -/
inductive Operand where
  | nothing
  | one (name : String)
  | command (name : String) (choices : List String)
  deriving DecidableEq, Repr

structure Usage where
  program : String
  options : List CommandOption
  operand : Operand
  room : Room := {}
  deriving DecidableEq, Repr

inductive ArgumentFault where
  | ambiguous (given : String) (candidates : List String)
  | missingValue (title : String)
  | unusedValue (title value : String)
  | unknownChoice (title value : String) (choices : List String)
  | notWhole (title value : String)
  | required (name : String)
  | unrecognized (arguments : List String)
  | helpWanted
  deriving DecidableEq, Repr

def ArgumentFault.message : ArgumentFault → String
  | .ambiguous given candidates =>
    "ambiguous option: " ++ given ++ " could match " ++ String.intercalate ", " candidates
  | .missingValue title => "argument " ++ title ++ ": expected one argument"
  | .unusedValue title value =>
    "argument " ++ title ++ ": ignored explicit argument " ++ Text.quoted value
  | .unknownChoice title value choices =>
    "argument " ++ title ++ ": invalid choice: " ++ Text.quoted value ++ " (choose from " ++
      String.intercalate ", " (choices.map Text.quoted) ++ ")"
  | .notWhole title value => "argument " ++ title ++ ": invalid int value: " ++ Text.quoted value
  | .required name => "the following arguments are required: " ++ name
  | .unrecognized arguments => "unrecognized arguments: " ++ String.intercalate " " arguments
  | .helpWanted => ""

namespace CommandOption

def title (option : CommandOption) : String := String.intercalate "/" option.names

def help : CommandOption := { names := ["-h", "--help"] }

end CommandOption

namespace Usage

def named (usage : Usage) : List (String × CommandOption) :=
  usage.options.flatMap fun option => option.names.map fun name => (name, option)

def option? (usage : Usage) (name : String) : Option CommandOption := usage.named.lookup name

/-- An argument that looks like an option: the option if there is one, the name it goes by, and a
value that is attached to it. -/
structure Spotted where
  option : Option CommandOption
  name : String
  attached : Option (List Char) := none
  deriving DecidableEq, Repr

inductive Piece where
  | operand
  | option (spotted : Spotted)
  | divider
  deriving DecidableEq, Repr

def Piece.isOption : Piece → Bool
  | .option _ => true
  | _ => false

/-- What stands before the first equals sign, and what stands after it if there is one. -/
def splitEquals (text : List Char) : List Char × Option (List Char) :=
  (text.takeWhile (· ≠ '='), (text.dropWhile (· ≠ '=')).tail?)

/-- A minus sign with digits, and perhaps a point before the last of them. -/
def isNegativeNumber : List Char → Bool
  | '-' :: rest =>
    let isDigit (c : Char) : Bool := (Text.digitValue? c).isSome
    let whole := rest.takeWhile isDigit
    match rest.dropWhile isDigit with
    | [] => !whole.isEmpty
    | '.' :: places => !places.isEmpty && places.all isDigit
    | _ => false
  | _ => false

/-- The options that an argument can stand for when it is no full name. -/
def candidates (usage : Usage) (text : List Char) : List Spotted :=
  if text.take 2 = ['-', '-'] then
    let (start, value) := splitEquals text
    (usage.named.filter fun (name, _) => start.isPrefixOf name.toList).map fun (name, option) =>
      ⟨some option, name, value⟩
  else
    usage.named.filterMap fun (name, option) =>
      if name.toList = text.take 2 then some ⟨some option, name, some (text.drop 2)⟩
      else if text.isPrefixOf name.toList then some ⟨some option, name, none⟩
      else none

def spot (usage : Usage) (argument : String) : Except ArgumentFault Piece :=
  let text := argument.toList
  if text.head? ≠ some '-' then .ok .operand
  else match usage.option? argument with
    | some option => .ok (.option ⟨some option, argument, none⟩)
    | none =>
      if text.length = 1 then .ok .operand
      else
        let (start, value) := splitEquals text
        match value, usage.option? (String.ofList start) with
        | some value, some option =>
          .ok (.option ⟨some option, String.ofList start, some value⟩)
        | _, _ => match usage.candidates text with
          | [spotted] => .ok (.option spotted)
          | [] =>
            if isNegativeNumber text || text.contains ' ' then .ok .operand
            else .ok (.option ⟨none, argument, none⟩)
          | several => .error (.ambiguous argument (several.map (·.name)))

/-- The kinds of all arguments. After two dashes everything is an operand. -/
def pieces (usage : Usage) : List String → Except ArgumentFault (List (String × Piece))
  | [] => .ok []
  | argument :: rest =>
    if argument = "--" then .ok ((argument, .divider) :: rest.map fun text => (text, .operand))
    else do
      let piece ← usage.spot argument
      return (argument, piece) :: (← usage.pieces rest)

/-- Reads an attached value. After a short option that takes none, it is a cluster of further short
options; the last of them may still want its value. -/
def attached (usage : Usage) : (option : CommandOption) → (short : Bool) → List Char →
    Except ArgumentFault (List (CommandOption × String) × Option CommandOption)
  | option, _, [] =>
    if option.takesValue then .ok ([(option, "")], none)
    else .error (.unusedValue option.title "")
  | option, short, letter :: rest =>
    if option.takesValue then .ok ([(option, String.ofList (letter :: rest))], none)
    else match short, usage.option? (String.ofList ['-', letter]) with
      | true, some next =>
        if rest.isEmpty then .ok ([(option, "")], some next)
        else (attached usage next true rest).map fun (later, last) => ((option, "") :: later, last)
      | _, _ => .error (.unusedValue option.title (String.ofList (letter :: rest)))

/-- What was given: options with their values in order, operands, and arguments that mean nothing. -/
structure Given where
  values : List (CommandOption × String) := []
  operands : List String := []
  strays : List String := []
  deriving DecidableEq, Repr

/-- Takes options with their values, if these are allowed. -/
def take (usage : Usage) (given : Given) : List (CommandOption × String) → Except ArgumentFault Given
  | [] => .ok given
  | (option, value) :: rest =>
    if option = CommandOption.help then .error .helpWanted
    else if option.whole && (Decimal.readInt? usage.room value).isNone then
      .error (.notWhole option.title value)
    else if !option.choices.isEmpty && !option.choices.contains value then
      .error (.unknownChoice option.title value option.choices)
    else take usage { given with values := given.values ++ [(option, value)] } rest

/-- Takes an option at the head of the arguments, with the value that follows it if it wants one. -/
def takeOption (usage : Usage) (option : CommandOption) (before : List (CommandOption × String)) (given : Given)
    (rest : List (String × Piece)) : Except ArgumentFault (Given × List (String × Piece)) :=
  if option.takesValue then
    match rest with
    | (value, .operand) :: rest => do return (← usage.take given (before ++ [(option, value)]), rest)
    | _ => .error (.missingValue option.title)
  else do return (← usage.take given (before ++ [(option, "")]), rest)

def takeSpotted (usage : Usage) (argument : String) (spotted : Spotted) (given : Given)
    (rest : List (String × Piece)) : Except ArgumentFault (Given × List (String × Piece)) :=
  match spotted.option, spotted.attached with
  | none, _ => .ok ({ given with strays := given.strays ++ [argument] }, rest)
  | some option, none => usage.takeOption option [] given rest
  | some option, some value => do
    let (taken, last?) ← usage.attached option (spotted.name.toList[1]? ≠ some '-') value
    match last? with
    | none => return (← usage.take given taken, rest)
    | some last => usage.takeOption last taken given rest

/-- Takes the operand at the head of the arguments, if it is still wanted and there is one. -/
def takeOperand (usage : Usage) (given : Given) (rest : List (String × Piece)) :
    Except ArgumentFault (Option (Given × List (String × Piece))) :=
  let isDivider (item : String × Piece) : Bool := item.2 = .divider
  if !given.operands.isEmpty then .ok none
  else match usage.operand, rest.dropWhile isDivider with
    | .one _, (value, .operand) :: more =>
      .ok (some ({ given with operands := [value] }, more.dropWhile isDivider))
    | .command name choices, (_, .operand) :: _ =>
      let words := rest.map (·.1)
      if choices.contains (words.head?.getD "") then .ok (some ({ given with operands := words }, []))
      else .error (.unknownChoice name (words.head?.getD "") choices)
    | _, _ => .ok none

/-- Reads the pieces in order; every round takes at least one of them. -/
def readPieces (usage : Usage) : (fuel : Nat) → Given → List (String × Piece) →
    Except ArgumentFault Given
  | 0, given, _ => .ok given
  | fuel + 1, given, pieces =>
    if pieces.all fun (_, piece) => !piece.isOption then do
      match ← usage.takeOperand given pieces with
      | some (given, rest) => return { given with strays := given.strays ++ rest.map (·.1) }
      | none => return { given with strays := given.strays ++ pieces.map (·.1) }
    else match pieces with
      | (argument, .option spotted) :: rest => do
        let (given, rest) ← usage.takeSpotted argument spotted given rest
        usage.readPieces fuel given rest
      | pieces => do
        match ← usage.takeOperand given pieces with
        | some (given, rest) => usage.readPieces fuel given rest
        | none =>
          let isOperand (item : String × Piece) : Bool := !item.2.isOption
          let strays := (pieces.takeWhile isOperand).map (·.1)
          usage.readPieces fuel { given with strays := given.strays ++ strays }
            (pieces.dropWhile isOperand)

def read (usage : Usage) (arguments : List String) : Except ArgumentFault Given := do
  let pieces ← usage.pieces arguments
  let given ← usage.readPieces (2 * pieces.length + 1) {} pieces
  match usage.operand, given.operands with
  | .one name, [] => throw (.required name)
  | .command name _, [] => throw (.required name)
  | _, _ => return given

end Usage

namespace Usage.Given

def last? (given : Given) (option : CommandOption) : Option String :=
  (given.values.reverse.find? (·.1 = option)).map (·.2)

def all (given : Given) (option : CommandOption) : List String :=
  (given.values.filter (·.1 = option)).map (·.2)

def has (given : Given) (option : CommandOption) : Bool := given.values.any (·.1 = option)

end Usage.Given

end Prism
