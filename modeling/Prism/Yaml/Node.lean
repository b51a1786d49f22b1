import Prism.Yaml.Token

namespace Prism.Yaml

/-- A node. A scalar without a tag may be open: then its text decides what it is. A collection has a
number of its own, and an alias gives the number of the collection that it means. -/
inductive Node where
  | scalar (tag : Option String) (text : String) (isOpen : Bool)
  | sequence (mark : Nat) (tag : Option String) (items : List Node)
  | mapping (mark : Nat) (tag : Option String) (entries : List (Node × Node))
  | alias (mark : Nat)

namespace Node

def empty : Node := .scalar none "" true

/-- Tokens that are left, with the fault at which they end; what names mean, and the collections that
have names; how many collections there are so far, and in how many more the next node may lie. -/
structure State where
  rest : List Token
  fault : Option Fault := none
  count : Nat := 0
  anchors : List (String × Node) := []
  named : List (Nat × Node) := []
  handles : List (String × String) := []
  left : Nat

def stop {α : Type} (state : State) : Except Fault α :=
  if state.rest.head? = some .broken then .error (state.fault.getD .malformed) else malformed

def standardTags : String := "tag:yaml.org,2002:"

/-- The beginning of tags that a handle stands for. -/
def tagStart? (state : State) (handle : String) : Option String :=
  match state.handles.lookup handle with
  | some beginning => some beginning
  | none => if handle = "!" then some "!" else if handle = "!!" then some standardTags else none

def resolveTag (state : State) (handle : Option String) (suffix : String) : Except Fault String :=
  match handle with
  | none => .ok suffix
  | some handle => needed ((tagStart? state handle).map (· ++ suffix))

/-- The name and the tag in front of a node, in either order. -/
structure Properties where
  anchor : Option String := none
  tag : Option String := none

/-- The tag that leaves the choice to the text. -/
def openTag : String := "!"

def Properties.leavesOpen (given : Properties) : Bool := given.tag = some openTag

def Properties.typeTag (given : Properties) : Option String := given.tag.filter (· ≠ openTag)

def properties (state : State) : Except Fault (Properties × State) :=
  match state.rest with
  | .anchor name :: .tag handle suffix :: rest => do
    let tag ← resolveTag state handle suffix
    return (⟨some name, some tag⟩, { state with rest })
  | .anchor name :: rest => .ok (⟨some name, none⟩, { state with rest })
  | .tag handle suffix :: .anchor name :: rest => do
    let tag ← resolveTag state handle suffix
    return (⟨some name, some tag⟩, { state with rest })
  | .tag handle suffix :: rest => do
    let tag ← resolveTag state handle suffix
    return (⟨none, some tag⟩, { state with rest })
  | _ => .ok ({}, state)

def enter (state : State) (rest : List Token) : State :=
  { state with rest, count := state.count + 1, left := state.left - 1 }

/-- Takes a name for the node that comes next. No name is taken twice. -/
def reserve (state : State) (anchor : Option String) : Except Fault State :=
  match anchor with
  | none => .ok state
  | some name =>
    if (state.anchors.lookup name).isSome then malformed
    else .ok { state with anchors := (name, .alias state.count) :: state.anchors }

def record (state : State) (anchor : Option String) (node : Node) : State :=
  match anchor with
  | none => state
  | some name => match node with
    | .sequence number _ _ | .mapping number _ _ =>
      { state with named := (number, node) :: state.named }
    | _ => { state with anchors := (name, node) :: state.anchors }

/-- Whether one of the marks comes next that end an entry. -/
def ends (marks : List Token) (state : State) : Bool :=
  state.rest.head?.any marks.contains

def drop (state : State) : State := { state with rest := state.rest.drop 1 }

def inBlockMapping : List Token := [.key, .value, .blockEnd]

mutual

/-- A node; in a block it may be a block collection, and as an entry of a mapping a sequence without
indentation. -/
def node : Nat → (inBlock indentless : Bool) → State → Except Fault (Node × State)
  | 0, _, _, _ => malformed
  | fuel + 1, inBlock, indentless, state =>
    match state.rest with
    | .alias name :: rest => do
      return (← needed (state.anchors.lookup name), { state with rest })
    | _ => do
      let (given, state) ← properties state
      let state ← reserve state given.anchor
      let (node, state) ← content fuel inBlock indentless given state
      return (node, record state given.anchor node)

def content : Nat → Bool → Bool → Properties → State → Except Fault (Node × State)
  | 0, _, _, _, _ => malformed
  | fuel + 1, inBlock, indentless, given, state =>
    let collection {α : Type} (read : State → Except Fault (α × State)) (rest : List Token)
        (make : Nat → Option String → α → Node) : Except Fault (Node × State) := do
      if state.left = 0 then noValue (.limit .calls)
      else
        let (parts, after) ← read (enter state rest)
        return (make state.count given.typeTag parts, { after with left := state.left })
    match state.rest with
    | .scalar text plain :: rest =>
      .ok (.scalar given.typeTag text (given.leavesOpen || (plain && given.tag.isNone)),
        { state with rest })
    | .flowSequence :: rest => collection (flowItems fuel true) rest .sequence
    | .flowMapping :: rest => collection (flowEntries fuel true) rest .mapping
    | .blockEntry :: _ =>
      if indentless then collection (indentlessItems fuel) state.rest .sequence else malformed
    | .blockSequence :: rest =>
      if inBlock then collection (blockItems fuel) rest .sequence else malformed
    | .blockMapping :: rest =>
      if inBlock then collection (blockEntries fuel) rest .mapping else malformed
    | _ =>
      if given.anchor.isSome || given.tag.isSome then
        .ok (.scalar given.typeTag "" given.typeTag.isNone, state)
      else stop state

def blockItems : Nat → State → Except Fault (List Node × State)
  | 0, _ => malformed
  | fuel + 1, state =>
    match state.rest with
    | .blockEntry :: rest => do
      let state := { state with rest }
      let (item, state) ← if ends [.blockEntry, .blockEnd] state then .ok (empty, state)
        else node fuel true false state
      let (items, state) ← blockItems fuel state
      return (item :: items, state)
    | .blockEnd :: rest => .ok ([], { state with rest })
    | _ => stop state

def indentlessItems : Nat → State → Except Fault (List Node × State)
  | 0, _ => malformed
  | fuel + 1, state =>
    match state.rest with
    | .blockEntry :: rest => do
      let state := { state with rest }
      let (item, state) ← if ends (.blockEntry :: inBlockMapping) state then .ok (empty, state)
        else node fuel true false state
      let (items, state) ← indentlessItems fuel state
      return (item :: items, state)
    | _ => .ok ([], state)

def blockEntries : Nat → State → Except Fault (List (Node × Node) × State)
  | 0, _ => malformed
  | fuel + 1, state =>
    match state.rest with
    | .key :: rest => do
      let state := { state with rest }
      let (key, state) ← if ends inBlockMapping state then .ok (empty, state)
        else node fuel true true state
      let (value, state) ← match state.rest with
        | .value :: rest =>
          let state := { state with rest }
          if ends inBlockMapping state then .ok (empty, state) else node fuel true true state
        | _ => .ok (empty, state)
      let (entries, state) ← blockEntries fuel state
      return ((key, value) :: entries, state)
    | .blockEnd :: rest => .ok ([], { state with rest })
    | _ => stop state

/-- The value after a key inside brackets, empty when none is written. -/
def flowValue : Nat → Token → State → Except Fault (Node × State)
  | 0, _, _ => malformed
  | fuel + 1, closer, state =>
    match state.rest with
    | .value :: rest =>
      let state := { state with rest }
      if ends [.flowEntry, closer] state then .ok (empty, state) else node fuel false false state
    | _ => .ok (empty, state)

/-- A key with its value inside brackets, after the mark of the key. -/
def flowPair : Nat → Token → State → Except Fault ((Node × Node) × State)
  | 0, _, _ => malformed
  | fuel + 1, closer, state => do
    let (key, state) ← if ends [.value, .flowEntry, closer] state then .ok (empty, state)
      else node fuel false false state
    let (value, state) ← flowValue fuel closer state
    return ((key, value), state)

def flowItems : Nat → Bool → State → Except Fault (List Node × State)
  | 0, _, _ => malformed
  | fuel + 1, first, state =>
    match state.rest with
    | .flowSequenceEnd :: rest => .ok ([], { state with rest })
    | _ => do
      let state ← if first then pure state
        else if ends [.flowEntry] state then pure (drop state) else stop state
      match state.rest with
      | .key :: rest =>
        if state.left = 0 then noValue (.limit .calls)
        else
          let (pair, after) ← flowPair fuel .flowSequenceEnd (enter state rest)
          let (items, last) ← flowItems fuel false { after with left := state.left }
          return (.mapping state.count none [pair] :: items, last)
      | .flowSequenceEnd :: rest => return ([], { state with rest })
      | _ =>
        let (item, state) ← node fuel false false state
        let (items, state) ← flowItems fuel false state
        return (item :: items, state)

def flowEntries : Nat → Bool → State → Except Fault (List (Node × Node) × State)
  | 0, _, _ => malformed
  | fuel + 1, first, state =>
    match state.rest with
    | .flowMappingEnd :: rest => .ok ([], { state with rest })
    | _ => do
      let state ← if first then pure state
        else if ends [.flowEntry] state then pure (drop state) else stop state
      match state.rest with
      | .key :: rest =>
        let (pair, state) ← flowPair fuel .flowMappingEnd { state with rest }
        let (entries, state) ← flowEntries fuel false state
        return (pair :: entries, state)
      | .flowMappingEnd :: rest => return ([], { state with rest })
      | _ =>
        let (key, state) ← node fuel false false state
        let (entries, state) ← flowEntries fuel false state
        return ((key, empty) :: entries, state)

end

/-- The directives in front of a document, of which the version is told at most once. -/
def directives : List Token → Bool → State → Except Fault State
  | .version major :: rest, versioned, state =>
    if versioned || major ≠ 1 then malformed else directives rest true { state with rest }
  | .handle name beginning :: rest, versioned, state =>
    if (state.handles.lookup name).isSome then malformed
    else directives rest versioned
      { state with rest, handles := (name, beginning) :: state.handles }
  | .directive :: rest, versioned, state => directives rest versioned { state with rest }
  | _, _, state => .ok state

/-- A document: its root, and the collections that have names. -/
structure Tree where
  root : Node
  named : List (Nat × Node) := []

/-- One document: nothing more may follow it. -/
def document (fuel : Nat) (state : State) : Except Fault Tree := do
  let (root, state) ← match state.rest with
    | .version _ :: _ | .handle _ _ :: _ | .directive :: _ | .documentStart :: _
    | .documentEnd :: _ | .streamEnd :: _ => .ok (empty, state)
    | _ => node fuel true false state
  let rest := state.rest.dropWhile (· = .documentEnd)
  match rest with
  | [.streamEnd] => return { root, named := state.named }
  | _ => stop { state with rest }

/-- The single document of a text: nothing when there is none, and a fault when there are several
or it is not well formed. -/
def ofTokens (room : Room) (tokens : List Token) (fault : Option Fault) : Except Fault (Option Tree) :=
  let fuel := 6 * tokens.length + 6
  let state : State := { rest := tokens, fault, left := room.composing }
  match tokens with
  | .streamEnd :: _ => .ok none
  | .version _ :: _ | .handle _ _ :: _ | .directive :: _ | .documentStart :: _ => do
    let state ← directives tokens false state
    match state.rest with
    | .documentStart :: rest => return some (← document fuel { state with rest })
    | _ => stop state
  | .documentEnd :: _ => malformed
  | _ => (document fuel state).map some

end Node

end Prism.Yaml
