import Prism.Document.Show
import Prism.Yaml.Scalar
import Std.Data.HashMap

namespace Prism.Yaml

/-- What a cell holds: a single value, or another cell by its number. -/
inductive Link where
  | scalar (value : Scalar)
  | cell (mark : Nat)

inductive Cell where
  | list (items : List Link)
  | map (entries : List (Scalar × Link))
  | pairs (entries : List (Link × Link))
  | set (members : List Scalar)

abbrev Cells := Std.HashMap Nat Cell

/-- The collections that have names, by their numbers. -/
abbrev Named := List (Nat × Node)

def Node.meant (named : Named) : Node → Node
  | .alias mark => (named.lookup mark).getD (.alias mark)
  | node => node

/-- Whether a node is a key with a meaning of its own. -/
def isKind (kind : Kind) : Node → Bool
  | .scalar tag text isOpen => scalarKind? tag text isOpen = some kind
  | .sequence _ tag _ | .mapping _ tag _ => tag.bind kindOfTag? = some kind
  | .alias _ => false

def isMerge : Node → Bool := isKind .merge

/-- The entries of a mapping, those that are merged in first. `active` are the mappings that are being
flattened; of those only their own entries are merged in. -/
def flatten (named : Named) :
    Nat → List Nat → List (Node × Node) → Except Fault (List (Node × Node))
  | 0, _, _ => malformed
  | fuel + 1, active, entries => do
    let inner (node : Node) : Except Fault (List (Node × Node)) :=
      match node.meant named with
      | .mapping mark _ entries =>
        if active.contains mark then .ok (entries.filter fun (key, _) => !isMerge key)
        else flatten named fuel (mark :: active) entries
      | _ => malformed
    let merged ← (entries.filter fun (key, _) => isMerge key).mapM fun (_, value) =>
      match value.meant named with
      | .sequence _ _ items => do return (← items.mapM inner).reverse.flatten
      | _ => inner value
    return merged.flatten ++ entries.filter fun (key, _) => !isMerge key

/-- The text of a node with a tag for single values. A mapping can say which of its values stands for
it. -/
def textOf (named : Named) : Nat → Node → Except Fault String
  | 0, _ => malformed
  | fuel + 1, node => match node.meant named with
    | .scalar _ text _ => .ok text
    | .mapping _ _ entries => match entries.find? fun (key, _) => isKind .value key with
      | some (_, value) => textOf named fuel value
      | none => malformed
    | _ => malformed

/-- The types of collections that tags name. -/
def collectionTags : List String := ["seq", "map", "omap", "pairs", "set"]

/-- Whether a tag, if given, is the one of a type. -/
def allowsType (tag : Option String) (name : String) : Bool :=
  tag.all (· = Node.standardTags ++ name)

def isTagged (tag : Option String) (name : String) : Bool :=
  tag = some (Node.standardTags ++ name)

/-- Whether a collection with a tag gets a cell. -/
def hasCell (tag : Option String) : Bool := tag.isNone || collectionTags.any (isTagged tag)

/-- What stands for a collection: its cell, or a single value when its tag says so. -/
def collectionLink (room : Room) (named : Named) (fuel mark : Nat) (tag : Option String) (node : Node) :
    Except Fault Link :=
  if hasCell tag then .ok (.cell mark)
  else match tag.bind kindOfTag? with
    | none => malformed
    | some kind => do
      let text ← textOf named fuel node
      if kind = .moment then noValue .momentOfEntries else return .scalar (← scalarOf room kind text)

def linkOf (room : Room) (named : Named) (fuel : Nat) (node : Node) : Except Fault Link :=
  match node.meant named with
  | .scalar tag text isOpen => match scalarKind? tag text isOpen with
    | some kind => (scalarOf room kind text).map Link.scalar
    | none => malformed
  | .sequence mark tag items => collectionLink room named fuel mark tag (.sequence mark tag items)
  | .mapping mark tag entries => collectionLink room named fuel mark tag (.mapping mark tag entries)
  | .alias _ => malformed

/-- The key of an entry; a collection cannot be one. -/
def keyOf (room : Room) (named : Named) (fuel : Nat) (node : Node) : Except Fault Scalar :=
  match node with
  | .scalar none text isOpen =>
    let kind := if isOpen then kindOf text else .text
    if kind = .value then .ok (.text text) else scalarOf room kind text
  | node =>
    if isKind .value node then (textOf named fuel node).map Scalar.text
    else do match ← linkOf room named fuel node with
      | .scalar key => return key
      | .cell _ => malformed

/-- Puts a value under a key; a key that is there keeps its place. -/
def put {α : Type} (key : Scalar) (value : α) : List (Scalar × α) → List (Scalar × α)
  | [] => [(key, value)]
  | (other, old) :: entries =>
    if other.same key then (other, value) :: entries else (other, old) :: put key value entries

def pairsOf (room : Room) (named : Named) (fuel : Nat) (items : List Node) : Except Fault (List (Link × Link)) :=
  items.mapM fun item => match item.meant named with
    | .mapping _ _ [(key, value)] => do
      return (← linkOf room named fuel key, ← linkOf room named fuel value)
    | _ => malformed

def entriesOf (room : Room) (named : Named) (fuel mark : Nat) (entries : List (Node × Node)) :
    Except Fault (List (Scalar × Link)) := do
  let entries ← flatten named fuel [mark] entries
  let values ← entries.mapM fun (key, value) => do
    return (← keyOf room named fuel key, ← linkOf room named fuel value)
  return values.foldl (fun known (key, value) => put key value known) []

def cellOf (room : Room) (named : Named) (fuel : Nat) : Node → Except Fault Cell
  | .sequence _ tag items =>
    if allowsType tag "seq" then (items.mapM (linkOf room named fuel)).map Cell.list
    else if isTagged tag "omap" || isTagged tag "pairs" then
      (pairsOf room named fuel items).map Cell.pairs
    else malformed
  | .mapping mark tag entries =>
    if allowsType tag "map" then (entriesOf room named fuel mark entries).map Cell.map
    else if isTagged tag "set" then do
      return .set ((← entriesOf room named fuel mark entries).map (·.1))
    else malformed
  | _ => malformed

/-- The collections that a collection holds, in the order in which they are met. -/
def heldNodes (named : Named) (fuel : Nat) : Node → List Node
  | .sequence _ tag items =>
    if tag.any fun tag => isTagged (some tag) "omap" || isTagged (some tag) "pairs" then
      items.flatMap fun item => match item.meant named with
        | .mapping _ _ entries => entries.flatMap fun (key, value) => [key, value]
        | _ => []
    else items
  | .mapping mark _ entries => match flatten named fuel [mark] entries with
    | .ok entries => entries.map (·.2)
    | .error _ => []
  | _ => []

def markOf? : Node → Option Nat
  | .sequence mark tag _ | .mapping mark tag _ => if hasCell tag then some mark else none
  | _ => none

/-- Collections that are new, each once. -/
def fresh (named : Named) (cells : Cells) (nodes : List Node) : List Node :=
  let step (state : List Nat × List Node) (node : Node) : List Nat × List Node :=
    let node := node.meant named
    match markOf? node with
    | none => state
    | some mark =>
      if cells.contains mark || state.1.contains mark then state
      else (mark :: state.1, node :: state.2)
  (nodes.foldl step ([], [])).2.reverse

/-- Makes the cells of a wave, and then those of the waves after it. -/
def makeCells (room : Room) (named : Named) (fuel : Nat) : Nat → Cells → List Node → Except Fault Cells
  | 0, _, _ => malformed
  | _ + 1, cells, [] => .ok cells
  | waves + 1, cells, wave => do
    let cells ← wave.foldlM (fun cells node => do
      let cell ← cellOf room named fuel node
      return cells.insert ((markOf? node).getD 0) cell) cells
    makeCells room named fuel waves cells (fresh named cells (wave.flatMap (heldNodes named fuel)))

def Cell.toDoc (tree : Link → Doc) : Cell → Doc
  | .list items => .list (items.map tree)
  | .map entries => .map (entries.map fun (key, value) => (key, tree value))
  | .pairs entries => .list (entries.map fun (key, value) => .tuple [tree key, tree value])
  | .set members => .set members

def Cell.links : Cell → List Link
  | .list items => items
  | .map entries => entries.map (·.2)
  | .pairs entries => entries.flatMap fun (key, value) => [key, value]
  | .set _ => []

/-- Trees that are known, and cells that lead to themselves and have none. -/
abbrev Trees := Std.HashMap Nat (Option Doc)

/-- The tree of a link, if it has one by itself. -/
def Trees.get? (trees : Trees) : Link → Option Doc
  | .scalar value => some (.scalar value)
  | .cell mark => (trees[mark]?).join

/-- Finds the tree of a cell after those of the cells that it holds. -/
def plant (cells : Cells) : Nat → List Nat → Trees → Nat → Trees
  | 0, _, trees, _ => trees
  | fuel + 1, path, trees, mark =>
    if trees.contains mark || path.contains mark then trees
    else match cells[mark]? with
      | none => trees
      | some cell =>
        let trees := cell.links.foldl (fun trees link => match link with
          | .scalar _ => trees
          | .cell inner => plant cells fuel (mark :: path) trees inner) trees
        let tree := if cell.links.all fun link => (trees.get? link).isSome
          then some (cell.toDoc fun link => (trees.get? link).getD .null) else none
        trees.insert mark tree

/-- Unrolls a link that lies in the cells of `path`, the innermost first. `again` says what stands for
one of those cells, which lies so far out. -/
def unroll (cells : Cells) (trees : Trees) (again : List Nat → Nat → Nat → Doc) :
    Nat → List Nat → Link → Doc
  | 0, _, _ => .null
  | _ + 1, _, .scalar value => .scalar value
  | fuel + 1, path, .cell mark =>
    match (trees[mark]?).join with
    | some tree => tree
    | none => match path.findIdx? (· = mark) with
      | some distance => again path distance mark
      | none => match cells[mark]? with
        | some cell => cell.toDoc (unroll cells trees again fuel (mark :: path))
        | none => .null

/-- The empty collection of the kind of a cell. -/
def hollow (cells : Cells) (mark : Nat) : Doc :=
  match cells[mark]? with
  | some (.map _) => .map []
  | _ => .list []

/-- How a cell shows inside cells that are shown already. -/
def shownIn (cells : Cells) (trees : Trees) (path : List Nat) (mark : Nat) : String :=
  let closed := fun _ _ mark => Doc.loop (hollow cells mark) []
  (unroll cells trees closed (cells.size + 2) path (.cell mark)).literal

/-- How often a collection that holds itself is told once more. -/
def mostTurns : Nat := 2

/-- The tree of a link; where it leads back, the cell is told so many times more. -/
def treeOf (cells : Cells) (trees : Trees) : Nat → Link → Doc
  | 0, link => unroll cells trees (fun _ _ mark => .loop (hollow cells mark) []) (cells.size + 2) [] link
  | turns + 1, link =>
    let again (path : List Nat) (distance mark : Nat) : Doc :=
      .loop (treeOf cells trees turns (.cell mark))
        ((List.range (distance + 1)).map fun depth => shownIn cells trees (path.take depth) mark)
    unroll cells trees again (cells.size + 2) [] link

def docOf (room : Room) (fuel : Nat) (tree : Node.Tree) : Except Fault Doc := do
  let link ← linkOf room tree.named fuel tree.root
  let cells ← makeCells room tree.named fuel fuel {} (fresh tree.named {} [tree.root])
  match link with
  | .scalar value => return .scalar value
  | .cell mark =>
    let trees := plant cells (cells.size + 1) [] {} mark
    return treeOf cells trees mostTurns link

end Prism.Yaml

namespace Prism

/-- Reads the single document of a YAML text; an empty text is null. -/
def Doc.ofYaml (room : Room) (text : String) : Except Yaml.Fault Doc := do
  let chars := text.toList
  let (tokens, fault) := Yaml.tokenize room chars
  match ← Yaml.Node.ofTokens room tokens fault with
  | none => return .null
  | some tree => Yaml.docOf room (chars.length + 2) tree

end Prism
