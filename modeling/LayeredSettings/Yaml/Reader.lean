import LayeredSettings.Yaml.Node
import LayeredSettings.Yaml.Plain

set_option autoImplicit false

/-! # Values of a YAML text

`Yaml.value?` reads the only document of a text; a text without document is null. Aliases are
written out, at most a hundred for each event of the document, and lists and maps may nest 128 deep.
Keys are taken as their text, and a key that occurs again replaces the earlier entry. -/

namespace LayeredSettings.Yaml

namespace Node

/-! ## Anchored nodes -/

mutual

/-- The number of events of a node: one for a scalar or an alias, two around a collection. -/
def events : Node → Nat
  | .alias _ => 1
  | .scalar _ _ _ _ => 1
  | .list _ _ items => 2 + eventsOfList items
  | .map _ _ entries => 2 + eventsOfEntries entries

/-- The number of events of list items. -/
def eventsOfList : List Node → Nat
  | [] => 0
  | n :: rest => events n + eventsOfList rest

/-- The number of events of map entries. -/
def eventsOfEntries : List (Node × Node) → Nat
  | [] => 0
  | (k, v) :: rest => events k + events v + eventsOfEntries rest

end

/-- A node with its number in front of the others. -/
def number (anchor : Option Nat) (n : Node) (rest : List (Nat × Node)) : List (Nat × Node) :=
  match anchor with
  | some a => (a, n) :: rest
  | none => rest

mutual

/-- The numbered nodes in the order in which they open. -/
def anchored : Node → List (Nat × Node)
  | .alias _ => []
  | .scalar a t s p => number a (.scalar a t s p) []
  | .list a t items => number a (.list a t items) (anchoredOfList items)
  | .map a t entries => number a (.map a t entries) (anchoredOfEntries entries)

/-- The numbered nodes of list items. -/
def anchoredOfList : List Node → List (Nat × Node)
  | [] => []
  | n :: rest => anchored n ++ anchoredOfList rest

/-- The numbered nodes of map entries. -/
def anchoredOfEntries : List (Node × Node) → List (Nat × Node)
  | [] => []
  | (k, v) :: rest => anchored k ++ anchored v ++ anchoredOfEntries rest

end

/-! ## Values -/

/-- What aliases mean in a document, and how many of them may be followed. -/
structure Aliases where
  /-- The numbered nodes, later ones first. -/
  targets : List (Nat × Node)
  limit : Nat

/-- The aliases of a document with this root. -/
def aliases (root : Node) : Aliases :=
  ⟨root.anchored.reverse, 100 * root.events⟩

/-- A step of building values that counts the aliases followed. -/
abbrev Build := StateT Nat Option

/-- The node itself, or the one that an alias stands for. -/
def follow (a : Aliases) : Node → Build Node
  | .alias target => do
    let count := (← get) + 1
    if a.limit < count then failure
    set count
    match a.targets.lookup target with
    | some n => return n
    | none => failure
  | n => return n

/-- What a tag asks of the node it stands at. -/
inductive Demand where
  | bool
  | whole
  | float
  | null
  /-- No value fits. -/
  | unknown
  /-- The same as without tag. -/
  | nothing
  /-- A scalar is text. -/
  | other
deriving DecidableEq

/-- What a tag asks. A tag that starts with an exclamation mark names a type that no value has, but
    it counts for nothing where its octets are no text. -/
def Demand.ofTag (tag : TagOctets) : Demand :=
  let isStandard (name : String) : Bool := tag == Utf8.encode ("tag:yaml.org,2002:" ++ name)
  if isStandard "bool" then .bool
  else if isStandard "int" then .whole
  else if isStandard "float" then .float
  else if isStandard "null" then .null
  else if tag.head? == (Utf8.encode "!").head? then
    if (Utf8.decode? tag).isSome then .unknown else .nothing
  else .other

/-- Whether no collection carries a tag. -/
def refusesCollection (tag : Option TagOctets) : Bool :=
  tag.map Demand.ofTag == some .unknown

/-- The value of a scalar that no type is asked of: plain ones are told by their spelling, quoted
    ones are text. -/
def untaggedValue? (text : String) (plain : Bool) : Option Value :=
  if plain then plainValue? text else some (.text text)

/-- The value of a scalar. The standard tags for booleans, whole numbers, floats and null ask for
    such a scalar. -/
def scalarValue? (tag : Option TagOctets) (text : String) (plain : Bool) : Option Value :=
  match tag.map Demand.ofTag with
  | some .bool => (boolWord? text).map .bool
  | some .whole => ((wholeNumber? text.toList).bind wholeValue?).join
  | some .float => floatValue? text
  | some .null => if isNullWord text then some .null else none
  | some .unknown => none
  | some .other => some (.text text)
  | some .nothing => untaggedValue? text plain
  | none => untaggedValue? text plain

/-- The text of a key, a scalar or an alias of one. -/
def buildKey (a : Aliases) (n : Node) : Build String := do
  match ← follow a n with
  | .scalar _ _ text _ => return text
  | _ => failure

/-- The value of a scalar node. -/
def buildScalar : Node → Build Value
  | .scalar _ tag text plain => (scalarValue? tag text plain : Option Value)
  | _ => failure

/-- The key and the value of a map entry, with a way to build what is inside of a collection. -/
def buildEntry (a : Aliases) (inside : Node → Build Value) (e : Node × Node) :
    Build (String × Value) := do
  let key ← buildKey a e.1
  return (key, ← inside e.2)

/-- The value of a node that is no alias, with a way to build what is inside of a collection. -/
def buildWith (a : Aliases) (inside : Node → Build Value) : Node → Build Value
  | .list _ tag items =>
    if refusesCollection tag then failure
    else return .list (← items.mapM inside)
  | .map _ tag entries =>
    if refusesCollection tag then failure
    else return .map (KeyMap.ofEntries (← entries.mapM (buildEntry a inside)))
  | n => buildScalar n

/-- The value of a node inside at most `depth` further collections. -/
def build (a : Aliases) : Nat → Node → Build Value
  | 0, n => do buildScalar (← follow a n)
  | depth + 1, n => do buildWith a (build a depth) (← follow a n)

/-- How deep collections may nest. -/
def depthLimit : Nat := 128

/-- The value of a document. -/
def value? (root : Node) : Option Value :=
  ((build root.aliases depthLimit root).run 0).map Prod.fst

end Node

/-- The value of the only document of a text; null if there is none. -/
def value? (text : String) : Option Value := do
  let tokens ← Token.ofChars? text.toList
  match ← Document.ofTokens? tokens with
  | some root => root.value?
  | none => some .null

end LayeredSettings.Yaml
