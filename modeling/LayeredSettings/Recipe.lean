import LayeredSettings.Kind
import LayeredSettings.Text.Integer

set_option autoImplicit false

/-! # Recipes

A recipe lists the kinds of sources to load from, later ones winning. Its text holds tokens between
commas and blanks: a kind name, perhaps with a colon and a position. A token without position stands
at its number in the text. Tokens that are not understood are kept aside; a kind that was already
listed is passed over. -/

namespace LayeredSettings

/-- A kind with its position in the merge order. -/
structure RecipeEntry where
  kind : SourceKind
  precedence : Nat
deriving DecidableEq, Repr

/-- The kinds to load in merge order, and the tokens that were not understood. -/
structure Recipe where
  entries : List RecipeEntry := []
  ignored : List String := []
deriving DecidableEq, Repr

namespace Recipe

/-- A comma or a blank. -/
def isSeparator (c : Char) : Bool :=
  c == ',' || Text.isBlank c

/-- The tokens of a recipe's text. -/
def tokens (text : String) : List String :=
  (Text.runs isSeparator text.toList).map String.ofList

/-- The position behind the colon of a token: digits, within 64 bits. -/
def position? (digits : List Char) : Option Nat :=
  if digits.all Text.isDigit then
    (Text.natOfDigits? 10 digits).filter (fun n => decide (n < Word.unsigned64))
  else none

/-- The entry that the token with this number describes. -/
def entry? (number : Nat) (token : String) : Option RecipeEntry :=
  let name := token.toList.takeWhile (· != ':')
  match SourceKind.ofName? (String.ofList name), token.toList.drop name.length with
  | some kind, [] => some ⟨kind, number⟩
  | some kind, _ :: digits => (position? digits).map fun n => ⟨kind, n⟩
  | none, _ => none

/-- The recipe with one more token read; entries stand in the order of the text. -/
def add (r : Recipe) (number : Nat) (token : String) : Recipe :=
  match entry? number token with
  | none => { r with ignored := r.ignored ++ [token] }
  | some e =>
    if r.entries.any (fun other => other.kind == e.kind) then r
    else { r with entries := r.entries ++ [e] }

/-- The recipe with all tokens read, the first of them having this number. -/
def addAll : Recipe → Nat → List String → Recipe
  | r, _, [] => r
  | r, number, token :: rest => addAll (r.add number token) (number + 1) rest

/-- The merge order: by position, then by the rank of the kind. -/
def RecipeEntry.le (a b : RecipeEntry) : Bool :=
  a.precedence < b.precedence || (a.precedence == b.precedence && a.kind.rank ≤ b.kind.rank)

/-- The recipe that a text writes; every text writes one. -/
def ofText (text : String) : Recipe :=
  let r := addAll {} 1 (tokens text)
  { r with entries := r.entries.mergeSort RecipeEntry.le }

/-- The kinds in merge order. -/
def kinds (r : Recipe) : List SourceKind :=
  r.entries.map RecipeEntry.kind

/-- Whether no kind is listed. -/
def isEmpty (r : Recipe) : Bool :=
  r.entries.isEmpty

end Recipe

end LayeredSettings
