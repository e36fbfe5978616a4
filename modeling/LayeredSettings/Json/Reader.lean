import LayeredSettings.Json.Token

set_option autoImplicit false

/-! # Values of a JSON text

Reading has two stages. The tokens drive a stack of the lists and maps that are still open and give
what the text writes; `Written.value?` makes a value of it, in which at most 127 lists and maps may
be open at once and a key that occurs again replaces the earlier entry. Only the second stage asks
for the values of numbers and texts, so what nobody asks for may lack one. -/

namespace LayeredSettings.Json

/-- What a JSON text writes: the entries of maps as they stand, numbers and quoted texts with their
    values if they have any. -/
inductive Written where
  | null
  | bool (b : Bool)
  | number (n : Option Number)
  | text (s : Option String)
  | list (items : List Written)
  | map (entries : List (Option String × Written))

/-! ## From tokens to what is written -/

/-- An open list or map; what it holds so far stands in reverse. -/
inductive Frame where
  | list (items : List Written)
  | map (entries : List (Option String × Written)) (key : Option String)

/-- What must come next, inside the frames that are open. -/
inductive ReadState where
  /-- A value. -/
  | value (stack : List Frame)
  /-- The first item of a list, or its end. -/
  | firstItem (stack : List Frame)
  /-- The first key of a map, or its end. -/
  | firstKey (stack : List Frame)
  /-- A key of a map. -/
  | key (stack : List Frame) (entries : List (Option String × Written))
  /-- The colon after a key. -/
  | colon (stack : List Frame) (entries : List (Option String × Written)) (key : Option String)
  /-- A separator or the end of the innermost frame, after a finished value. -/
  | done (stack : List Frame) (value : Written)

namespace ReadState

/-- A token where a value must stand. -/
def startValue? (stack : List Frame) : Token → Option ReadState
  | .null => some (.done stack .null)
  | .bool b => some (.done stack (.bool b))
  | .number n => some (.done stack (.number n))
  | .text s => some (.done stack (.text s))
  | .openList => some (.firstItem stack)
  | .openMap => some (.firstKey stack)
  | _ => none

/-- One token further. -/
def step? : ReadState → Token → Option ReadState
  | .value stack, token => startValue? stack token
  | .firstItem stack, .closeList => some (.done stack (.list []))
  | .firstItem stack, token => startValue? (.list [] :: stack) token
  | .firstKey stack, .closeMap => some (.done stack (.map []))
  | .firstKey stack, .text name => some (.colon stack [] name)
  | .key stack entries, .text name => some (.colon stack entries name)
  | .colon stack entries name, .colon => some (.value (.map entries name :: stack))
  | .done (.list items :: stack) v, .comma => some (.value (.list (v :: items) :: stack))
  | .done (.list items :: stack) v, .closeList => some (.done stack (.list (v :: items).reverse))
  | .done (.map entries name :: stack) v, .comma => some (.key stack ((name, v) :: entries))
  | .done (.map entries name :: stack) v, .closeMap =>
    some (.done stack (.map ((name, v) :: entries).reverse))
  | _, _ => none

/-- What is written, once every frame is closed. -/
def result? : ReadState → Option Written
  | .done [] v => some v
  | _ => none

end ReadState

/-- What the tokens write. -/
def ofTokens? (tokens : List Token) : Option Written :=
  (tokens.foldlM ReadState.step? (.value [])).bind ReadState.result?

/-- What the units of a text write. -/
def ofUnits? (units : List (Option Char)) : Option Written :=
  (Token.ofUnits? units).bind ofTokens?

/-! ## From what is written to values -/

namespace Written

/-- How many lists and maps may be open at once. -/
def depthLimit : Nat := 127

mutual

/-- The value of what is written, with at most `depth` lists and maps open at once. -/
def value? (depth : Nat) : Written → Option Value
  | .null => some .null
  | .bool b => some (.bool b)
  | .number n => n.map .number
  | .text s => s.map .text
  | .list items => if depth = 0 then none else (values? (depth - 1) items).map .list
  | .map entries =>
    if depth = 0 then none
    else (entries? (depth - 1) entries).map fun entries => .map (KeyMap.ofEntries entries)

/-- The values of list items. -/
def values? (depth : Nat) : List Written → Option (List Value)
  | [] => some []
  | w :: rest => do
    let v ← value? depth w
    let others ← values? depth rest
    some (v :: others)

/-- The keys and values of map entries. -/
def entries? (depth : Nat) : List (Option String × Written) → Option (List (String × Value))
  | [] => some []
  | (key?, w) :: rest => do
    let key ← key?
    let v ← value? depth w
    let others ← entries? depth rest
    some ((key, v) :: others)

end

end Written

/-- The value that a text writes. -/
def value? (text : String) : Option Value :=
  (ofUnits? (text.toList.map some)).bind (Written.value? Written.depthLimit)

/-- The map that a text writes. -/
def map? (text : String) : Option Tree :=
  (value? text).bind Value.entries?

end LayeredSettings.Json
