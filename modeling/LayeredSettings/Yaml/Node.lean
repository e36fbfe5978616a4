import LayeredSettings.Yaml.Token

set_option autoImplicit false

/-! # Nodes of a YAML document

`Document.ofTokens?` builds the tree of a text's only document. Anchors are numbered as their nodes
open: a new anchor gets as its number the count of different anchor names met before it, and an
alias the number that its name had last. A number that is given out twice stands for the later node.
-/

namespace LayeredSettings.Yaml

/-- A node of a document, with the number of its anchor and its tag in full. -/
inductive Node where
  | alias (target : Nat)
  | scalar (anchor : Option Nat) (tag : Option TagOctets) (text : String) (plain : Bool)
  | list (anchor : Option Nat) (tag : Option TagOctets) (items : List Node)
  | map (anchor : Option Nat) (tag : Option TagOctets) (entries : List (Node × Node))
deriving Inhabited

namespace Node

/-- An omitted node. -/
def empty : Node :=
  .scalar none none "" true

/-! ## Reading nodes from tokens -/

/-- What reading has left over, with the names met so far. -/
structure Reading where
  tokens : List Token
  /-- The meaning of tag handles. -/
  handles : List (String × TagOctets)
  /-- The numbers of anchor names, each name once. -/
  anchors : List (String × Nat) := []

/-- A step of reading; `none` is a text that is not well formed. -/
abbrev Read := StateT Reading Option

/-- The next token. -/
def peek : Read Token := do
  return (← get).tokens.headD .streamEnd

/-- Go behind the next token. -/
def skip : Read Unit :=
  modify fun r => { r with tokens := r.tokens.tail }

/-- Whether the next token is `t`; if so, go behind it. -/
def skipIf (t : Token) : Read Bool := do
  if (← peek) = t then
    skip
    return true
  else return false

/-- Number an anchor. -/
def declare (name : String) : Read Nat := do
  let r ← get
  let number := r.anchors.length
  let others := r.anchors.filter (fun a => a.1 != name)
  set { r with anchors := (name, number) :: others }
  return number

/-- The number that an alias refers to. -/
def refer (name : String) : Read Nat := do
  match (← get).anchors.lookup name with
  | some n => return n
  | none => failure

/-- A tag in full: its handle replaced by what it stands for. -/
def fullTag (handle : String) (suffix : TagOctets) : Read TagOctets := do
  if handle == "" then return suffix
  else
    match (← get).handles.lookup handle with
    | some stem => return stem ++ suffix
    | none => failure

/-- The anchor name and the tag in front of a node, in either order. -/
def properties : Read (Option String × Option TagOctets) := do
  match ← peek with
  | .anchor name =>
    skip
    match ← peek with
    | .tag handle suffix =>
      skip
      return (some name, some (← fullTag handle suffix))
    | _ => return (some name, none)
  | .tag handle suffix =>
    skip
    match ← peek with
    | .anchor name =>
      skip
      return (some name, some (← fullTag handle suffix))
    | _ => return (none, some (← fullTag handle suffix))
  | _ => return (none, none)

/-- Number the anchor of a node that opens here, if it has one. -/
def declare? : Option String → Read (Option Nat)
  | none => return none
  | some name => return some (← declare name)

/-- Whether a key or value is left out before this token, inside a block map. -/
def endsBlockPart (t : Token) : Bool :=
  t = .key || t = .value || t = .blockEnd

mutual

/-- A node. Block collections are read where `block` holds, and where `indentless` holds a list
    whose dashes stand no deeper than the key it belongs to. -/
def read (block indentless : Bool) : Nat → Read Node
  | 0 => failure
  | fuel + 1 => do
    match ← peek with
    | .alias name =>
      skip
      return .alias (← refer name)
    | _ =>
      let (name, tag) ← properties
      match ← peek with
      | .scalar text plain =>
        skip
        let anchor ← declare? name
        return .scalar anchor tag text plain
      | .flowListStart =>
        skip
        let anchor ← declare? name
        return .list anchor tag (← readFlowItems true fuel)
      | .flowMapStart =>
        skip
        let anchor ← declare? name
        return .map anchor tag (← readFlowEntries true fuel)
      | .blockEntry =>
        if indentless then
          let anchor ← declare? name
          return .list anchor tag (← readIndentlessItems fuel)
        else if name.isSome || tag.isSome then
          return .scalar (← declare? name) tag "" true
        else failure
      | .blockListStart =>
        if block then
          skip
          let anchor ← declare? name
          return .list anchor tag (← readBlockItems fuel)
        else if name.isSome || tag.isSome then
          return .scalar (← declare? name) tag "" true
        else failure
      | .blockMapStart =>
        if block then
          skip
          let anchor ← declare? name
          return .map anchor tag (← readBlockEntries fuel)
        else if name.isSome || tag.isSome then
          return .scalar (← declare? name) tag "" true
        else failure
      | _ =>
        if name.isSome || tag.isSome then
          return .scalar (← declare? name) tag "" true
        else failure

/-- The items of a block list, up to the end of the block. -/
def readBlockItems : Nat → Read (List Node)
  | 0 => failure
  | fuel + 1 => do
    if ← skipIf .blockEnd then return []
    else if ← skipIf .blockEntry then
      let next ← peek
      let item ←
        if next = .blockEntry || next = .blockEnd then pure empty else read true false fuel
      return item :: (← readBlockItems fuel)
    else failure

/-- The items of a list without an indentation of its own. -/
def readIndentlessItems : Nat → Read (List Node)
  | 0 => failure
  | fuel + 1 => do
    if ← skipIf .blockEntry then
      let next ← peek
      let item ←
        if next = .blockEntry || endsBlockPart next then pure empty else read true false fuel
      return item :: (← readIndentlessItems fuel)
    else return []

/-- The entries of a block map, up to the end of the block. -/
def readBlockEntries : Nat → Read (List (Node × Node))
  | 0 => failure
  | fuel + 1 => do
    if ← skipIf .blockEnd then return []
    else if ← skipIf .key then
      let key ← if endsBlockPart (← peek) then pure empty else read true true fuel
      let value ←
        if ← skipIf .value then
          (do if endsBlockPart (← peek) then pure empty else read true true fuel)
        else pure empty
      return (key, value) :: (← readBlockEntries fuel)
    else failure

/-- The items of a flow list, up to its closing bracket. An item that starts with a key is a map of
    one entry. -/
def readFlowItems (first : Bool) : Nat → Read (List Node)
  | 0 => failure
  | fuel + 1 => do
    if ← skipIf .flowListEnd then return []
    else
      if !first then
        if !(← skipIf .flowEntry) then failure
      if ← skipIf .flowListEnd then return []
      else if ← skipIf .key then
        let entry ← readFlowPair fuel
        return .map none none [entry] :: (← readFlowItems false fuel)
      else
        let item ← read false false fuel
        return item :: (← readFlowItems false fuel)

/-- The key and value of a flow list item that is a map of one entry. Where the key is left out, the
    token in its place is dropped. -/
def readFlowPair : Nat → Read (Node × Node)
  | 0 => failure
  | fuel + 1 => do
    let ends (t : Token) : Bool := t = .flowEntry || t = .flowListEnd
    let next ← peek
    let key ←
      if next = .value || ends next then
        (do skip; pure empty)
      else read false false fuel
    let value ←
      if ← skipIf .value then
        (do if ends (← peek) then pure empty else read false false fuel)
      else pure empty
    return (key, value)

/-- The entries of a flow map, up to its closing brace. -/
def readFlowEntries (first : Bool) : Nat → Read (List (Node × Node))
  | 0 => failure
  | fuel + 1 => do
    let ends (t : Token) : Bool := t = .flowEntry || t = .flowMapEnd
    if ← skipIf .flowMapEnd then return []
    else
      if !first then
        if !(← skipIf .flowEntry) then failure
      if ← skipIf .flowMapEnd then return []
      else if ← skipIf .key then
        let next ← peek
        let key ← if next = .value || ends next then pure empty else read false false fuel
        let value ←
          if ← skipIf .value then
            (do if ends (← peek) then pure empty else read false false fuel)
          else pure empty
        return (key, value) :: (← readFlowEntries false fuel)
      else
        let key ← read false false fuel
        return (key, empty) :: (← readFlowEntries false fuel)

end

end Node

/-! ## Documents -/

namespace Document

/-- What the two standard tag handles stand for. -/
def standardHandles : List (String × TagOctets) :=
  [("!", Utf8.encode "!"), ("!!", Utf8.encode "tag:yaml.org,2002:")]

/-- The directives at the start of a text: at most one version, 1.1 or 1.2, and each handle once. -/
def readDirectives :
    Nat → Bool → List (String × TagOctets) → Node.Read (List (String × TagOctets))
  | 0, _, _ => failure
  | fuel + 1, versioned, handles => do
    match ← Node.peek with
    | .versionDirective major minor =>
      if versioned || major != 1 || !(minor == 1 || minor == 2) then failure
      Node.skip
      readDirectives fuel true handles
    | .tagDirective handle stem =>
      if (handles.lookup handle).isSome then failure
      Node.skip
      readDirectives fuel versioned (handles ++ [(handle, stem)])
    | _ => return handles

/-- Whether a token stands where a document has no content. -/
def endsContent : Token → Bool
  | .versionDirective _ _ => true
  | .tagDirective _ _ => true
  | .documentStart => true
  | .documentEnd => true
  | .streamEnd => true
  | _ => false

/-- Go behind any number of document end marks. -/
def skipEnds : Nat → Node.Read Unit
  | 0 => failure
  | fuel + 1 => do
    if ← Node.skipIf .documentEnd then skipEnds fuel else return ()

/-- The root of the only document, or nothing if the text holds no document. -/
def read (fuel : Nat) : Node.Read (Option Node) := do
  let next ← Node.peek
  if next = .streamEnd then return none
  else
    let explicit :=
      match next with
      | .versionDirective _ _ => true
      | .tagDirective _ _ => true
      | .documentStart => true
      | _ => false
    let root ←
      if explicit then
        (do
          let handles ← readDirectives fuel false []
          if !(← Node.skipIf .documentStart) then failure
          modify fun r => { r with handles := handles ++ standardHandles }
          if endsContent (← Node.peek) then pure Node.empty else Node.read true false fuel)
      else Node.read true false fuel
    skipEnds fuel
    if (← Node.peek) = .streamEnd then return some root else failure

/-- The root of the document that the tokens write. Every second round reads a token. -/
def ofTokens? (tokens : List Token) : Option (Option Node) :=
  ((read (4 * tokens.length + 8)).run ⟨tokens, standardHandles, []⟩).map Prod.fst

end Document

end LayeredSettings.Yaml
