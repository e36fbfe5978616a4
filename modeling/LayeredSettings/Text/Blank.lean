set_option autoImplicit false

/-! # Blank characters, fields and words

Blank characters are those of the Unicode property White_Space. `Text.trim` cuts them from both
ends, `Text.words` lists the maximal runs between them and `Text.fieldsOn` the (possibly empty)
pieces between separators. The list functions carry the definitions; the functions on `String` wrap
them. -/

namespace LayeredSettings.Text

/-- The Unicode property White_Space. -/
def isBlank (c : Char) : Bool :=
  let n := c.toNat
  (0x9 ≤ n && n ≤ 0xD) || n == 0x20 || n == 0x85 || n == 0xA0 || n == 0x1680
    || (0x2000 ≤ n && n ≤ 0x200A) || n == 0x2028 || n == 0x2029 || n == 0x202F || n == 0x205F
    || n == 0x3000

/-! ## Cutting ends -/

/-- Drop the longest tail whose elements all satisfy `p`. -/
def dropTailWhile {α : Type} (p : α → Bool) (l : List α) : List α :=
  (l.reverse.dropWhile p).reverse

/-- Drop the longest head and the longest tail whose elements all satisfy `p`. -/
def stripWhile {α : Type} (p : α → Bool) (l : List α) : List α :=
  dropTailWhile p (l.dropWhile p)

/-- The text without blanks at either end. -/
def trim (s : String) : String :=
  String.ofList (stripWhile isBlank s.toList)

/-- The text without leading occurrences of `c`. -/
def dropLeading (c : Char) (s : String) : String :=
  String.ofList (s.toList.dropWhile (· == c))

/-- The text without trailing occurrences of `c`. -/
def dropTrailing (c : Char) (s : String) : String :=
  String.ofList (dropTailWhile (· == c) s.toList)

/-- The text without leading and trailing occurrences of `c`. -/
def stripChar (c : Char) (s : String) : String :=
  String.ofList (stripWhile (· == c) s.toList)

/-! ## Pieces -/

/-- The pieces between the elements satisfying `p`, empty pieces included: one more than there are
    such elements. -/
def pieces {α : Type} (p : α → Bool) : List α → List (List α)
  | [] => [[]]
  | c :: rest =>
    if p c then [] :: pieces p rest
    else
      match pieces p rest with
      | [] => [[c]]
      | piece :: more => (c :: piece) :: more

/-- The maximal runs of elements that do not satisfy `p`. -/
def runs {α : Type} (p : α → Bool) (l : List α) : List (List α) :=
  (pieces p l).filter (fun piece => !piece.isEmpty)

/-- The pieces of the text between occurrences of `c`, empty pieces included. -/
def fieldsOn (c : Char) (s : String) : List String :=
  (pieces (· == c) s.toList).map String.ofList

/-- The maximal runs of characters that are not blank. -/
def words (s : String) : List String :=
  (runs isBlank s.toList).map String.ofList

/-- The texts with `c` written between neighbours. -/
def joinWith (sep : String) : List String → String
  | [] => ""
  | [s] => s
  | s :: rest => s ++ sep ++ joinWith sep rest

end LayeredSettings.Text
