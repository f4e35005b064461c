import SeriesCatalog.Yaml.Token

/-! # Nodes of YAML documents

A document is a tree of scalars, sequences and mappings. A node can have an anchor, by which other
places of the document refer to it.
-/

namespace SeriesCatalog.Yaml

inductive Node where
  | scalar (tag : Option Tag) (style : ScalarStyle) (text : String)
  | sequence (tag : Option Tag) (items : List Node)
  | mapping (tag : Option Tag) (entries : List (Node × Node))
  /-- The node that has an anchor, by the number of the anchor. -/
  | alias (anchor : Nat)
  deriving Repr, Inhabited

namespace Node

def blank : Node := .scalar none .plain ""

mutual

/-- The number of marks that a node consists of: a scalar or an alias is one, a collection has one
at its start and one at its end. -/
def size : Node → Nat
  | .scalar .. | .alias _ => 1
  | .sequence _ items => 2 + itemsSize items
  | .mapping _ entries => 2 + entriesSize entries

def itemsSize : List Node → Nat
  | [] => 0
  | item :: rest => size item + itemsSize rest

def entriesSize : List (Node × Node) → Nat
  | [] => 0
  | (key, value) :: rest => size key + size value + entriesSize rest

end

end Node

structure Document where
  /-- The outermost node, which is blank in a text without any content. -/
  root : Node
  anchors : List (Nat × Node)
  deriving Repr

/-- How often aliases may be followed while a document is read. -/
def Document.aliasLimit (d : Document) : Nat :=
  100 * d.root.size

def Document.resolve (d : Document) : Node → Node
  | .alias anchor => (d.anchors.lookup anchor).getD Node.blank
  | node => node

/-- The anchors of a document that is being read. An anchor is numbered by how many different names
are in use before it. A number that is given to two nodes belongs to the one that starts later. -/
structure Anchors where
  names : List (String × Nat)
  /-- The node of each number, by its turn; the latest first. -/
  turns : List (Nat × Nat)
  nodes : List (Nat × Node)

namespace Anchors

def empty : Anchors := ⟨[], [], []⟩

/-- Gives an anchor to a node that starts, whose turn is the length of `turns`. -/
def enter (a : Anchors) (name : String) : Anchors :=
  let number := (a.names.map (·.1)).eraseDups.length
  { a with names := (name, number) :: a.names, turns := (number, a.turns.length) :: a.turns }

def table (a : Anchors) : List (Nat × Node) :=
  a.turns.filterMap fun (number, turn) => (a.nodes.lookup turn).map (number, ·)

end Anchors

/-- The tokens that remain, and what they have to be read with. -/
structure Reading where
  tokens : List Token
  handles : List (String × Tag)
  anchors : Anchors

/-- A part of a document that is read from tokens, if it can be. -/
abbrev Read := StateT Reading Option

namespace Read

def peek : Read (Option Token) := do
  return (← get).tokens.head?

def skip : Read Unit :=
  modify fun r => { r with tokens := r.tokens.tail }

/-- Passes the next token if it is the one given. -/
def accept (t : Token) : Read Bool := do
  if (← peek) = some t then
    skip
    return true
  else return false

def sees (ts : List Token) : Read Bool := do
  return match ← peek with
    | some t => ts.contains t
    | none => false

def anchor? : Read (Option String) := do
  match ← peek with
  | some (.anchor name) => skip; return some name
  | _ => return none

/-- Passes a tag, if there is one, and resolves its handle. -/
def tag? : Read (Option Tag) := do
  match ← peek with
  | some (.tag tag) =>
    skip
    if tag.handle.isEmpty then return some (Tag.after ⟨[]⟩ tag.suffix)
    match (← get).handles.lookup tag.handle with
    | some lead => return some (lead.after tag.suffix)
    | none => failure
  | _ => return none

/-- Passes the anchor and the tag of a node, which stand in either order. -/
def properties : Read (Option String × Option Tag) := do
  match ← anchor? with
  | some name => return (some name, ← tag?)
  | none =>
    match ← tag? with
    | some tag => return (← anchor?, some tag)
    | none => return (none, none)

/-- The parts of a document; reading one takes at most `fuel` steps. -/
structure Parts where
  /-- A node, in a block or in brackets; the items of a block sequence may stand at the column of
  the key that they belong to. -/
  node : (block indentless : Bool) → Read Node
  blockItems : Read (List Node)
  /-- The items of a sequence without an indentation of its own. -/
  plainItems : Read (List Node)
  blockEntries : Read (List (Node × Node))
  flowItems : (first : Bool) → Read (List Node)
  flowEntries : (first : Bool) → Read (List (Node × Node))

/-- Reads a node, unless one of the given tokens says that there is none. -/
def nodeUnless (parts : Parts) (block indentless : Bool) (ends : List Token) : Read Node := do
  if ← sees ends then return .blank else parts.node block indentless

/-- The content of a node whose anchor and tag have been read. -/
def content (parts : Parts) (block indentless : Bool) (anchored : Bool) (tag : Option Tag) :
    Read Node := do
  match ← peek with
  | some (.scalar style text) => skip; return .scalar tag style text
  | some .flowSequenceStart => skip; return .sequence tag (← parts.flowItems true)
  | some .flowMappingStart => skip; return .mapping tag (← parts.flowEntries true)
  | some .blockSequenceStart =>
    if block then skip; return .sequence tag (← parts.blockItems) else missing
  | some .blockMappingStart =>
    if block then skip; return .mapping tag (← parts.blockEntries) else missing
  | some .blockEntry =>
    if indentless then return .sequence tag (← parts.plainItems) else missing
  | _ => missing
where
  /-- Without a content, an anchor or a tag stands for an empty scalar. -/
  missing : Read Node :=
    if anchored || tag.isSome then return .scalar tag .plain "" else failure

/-- A node with its anchor and its tag, or an alias. -/
def node (parts : Parts) (block indentless : Bool) : Read Node := do
  match ← peek with
  | some (.alias name) =>
    skip
    match (← get).anchors.names.lookup name with
    | some number => return .alias number
    | none => failure
  | _ =>
    let (anchor, tag) ← properties
    match anchor with
    | none => content parts block indentless false tag
    | some name =>
      let turn := (← get).anchors.turns.length
      modify fun r => { r with anchors := r.anchors.enter name }
      let node ← content parts block indentless true tag
      modify fun r =>
        { r with anchors := { r.anchors with nodes := (turn, node) :: r.anchors.nodes } }
      return node

/-- Items after hyphens, up to the end of the block. -/
def blockItems (parts : Parts) : Read (List Node) := do
  if ← accept .blockEntry then
    let item ← nodeUnless parts true false [.blockEntry, .blockEnd]
    return item :: (← parts.blockItems)
  else if ← accept .blockEnd then return []
  else failure

/-- Items after hyphens, as long as there are any. -/
def plainItems (parts : Parts) : Read (List Node) := do
  if ← accept .blockEntry then
    let item ← nodeUnless parts true false [.blockEntry, .key, .value, .blockEnd]
    return item :: (← parts.plainItems)
  else return []

/-- Keys with their values, up to the end of the block. -/
def blockEntries (parts : Parts) : Read (List (Node × Node)) := do
  if ← accept .key then
    let ends := [.key, .value, .blockEnd]
    let key ← nodeUnless parts true true ends
    let value ← if ← accept .value then nodeUnless parts true true ends else pure .blank
    return (key, value) :: (← parts.blockEntries)
  else if ← accept .blockEnd then return []
  else failure

/-- Items between commas, up to the closing bracket. An item can be a single pair. The token after
the mark of a key that is missing belongs to the mark. -/
def flowItems (parts : Parts) (first : Bool) : Read (List Node) := do
  if ← accept .flowSequenceEnd then return []
  if !first then
    if !(← accept .flowEntry) then failure
  if ← accept .flowSequenceEnd then return []
  let item ← if ← accept .key then do
      let key ← if ← sees [.value, .flowEntry, .flowSequenceEnd] then do
          skip
          pure Node.blank
        else parts.node false false
      let value ← if ← accept .value then
          nodeUnless parts false false [.flowEntry, .flowSequenceEnd]
        else pure .blank
      pure (.mapping none [(key, value)])
    else parts.node false false
  return item :: (← parts.flowItems false)

/-- Pairs between commas, up to the closing brace; a key can stand alone. -/
def flowEntries (parts : Parts) (first : Bool) : Read (List (Node × Node)) := do
  if ← accept .flowMappingEnd then return []
  if !first then
    if !(← accept .flowEntry) then failure
  if ← accept .flowMappingEnd then return []
  let entry ← if ← accept .key then do
      let key ← nodeUnless parts false false [.value, .flowEntry, .flowMappingEnd]
      let value ← if ← accept .value then
          nodeUnless parts false false [.flowEntry, .flowMappingEnd]
        else pure .blank
      pure (key, value)
    else do
      let key ← parts.node false false
      pure (key, .blank)
  return entry :: (← parts.flowEntries false)

/-- The parts of a document that can be read in a number of steps. -/
def parts : (fuel : Nat) → Parts
  | 0 =>
    ⟨fun _ _ => failure, failure, failure, failure, fun _ => failure, fun _ => failure⟩
  | fuel + 1 =>
    let inner := parts fuel
    ⟨node inner, blockItems inner, plainItems inner, blockEntries inner, flowItems inner,
      flowEntries inner⟩

end Read

/-- What the handles of tags stand for without a directive. -/
def commonHandles : List (String × Tag) :=
  [("!", Tag.ofText "!"), ("!!", Tag.common "")]

/-- Passes directives: at most one about a known version, and one about each handle. -/
def readDirectives? (versioned : Bool) (handles : List (String × Tag)) :
    List Token → Option (List (String × Tag) × List Token)
  | .directive (.version major minor) :: rest =>
    if versioned || major != 1 || !(minor == 1 || minor == 2) then none
    else readDirectives? true handles rest
  | .directive (.handle name lead) :: rest =>
    if (handles.lookup name).isSome then none
    else readDirectives? versioned ((name, lead) :: handles) rest
  | rest => some (handles, rest)

def Document.ofTokens? (tokens : List Token) : Option Document :=
  match tokens with
  | [] => some ⟨Node.blank, []⟩
  | _ => do
    let (handles, rest) ← readDirectives? false [] tokens
    let (started, rest) ← match rest with
      | .documentStart :: rest => some (true, rest)
      | rest => if rest.length = tokens.length then some (false, rest) else none
    let reading : Reading := ⟨rest, handles ++ commonHandles, Anchors.empty⟩
    let isEmpty := started && match rest with
      | [] | .documentStart :: _ | .documentEnd :: _ | .directive _ :: _ => true
      | _ => false
    let (root, after) ←
      if isEmpty then some (Node.blank, reading)
      else ((Read.parts (4 * tokens.length + 4)).node true false).run reading
    if after.tokens.all (· == .documentEnd) then some ⟨root, after.anchors.table⟩ else none

def Document.ofText? (text : String) : Option Document := do
  Document.ofTokens? (← tokens? (← readableText? text))

end SeriesCatalog.Yaml
