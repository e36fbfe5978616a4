import LayeredSettings.Proofs.Integers
import LayeredSettings.Proofs.RowKeys

set_option autoImplicit false

/-! # Whole numbers in untyped rows

A row without a declared format is read as what its text looks like, and a document as what it
writes. For a whole number the two agree within a signed 64-bit word, whatever blanks are around it
for the row, and those of JSON for the document. From there to the end of an unsigned word only the
document keeps the digits: the row becomes the nearest binary64 number (`stores_whole`). -/

namespace LayeredSettings

/-! ## Whole numbers in JSON -/

namespace Json

/-- The blanks of a JSON text. -/
def isSpace (c : Char) : Bool :=
  c == ' ' || c == '\t' || c == '\n' || c == '\r'

theorem eq_of_isSpace {c : Char} (h : isSpace c = true) :
    c = ' ' ∨ c = '\t' ∨ c = '\n' ∨ c = '\r' := by
  simpa [isSpace, or_assoc] using h

theorem isBlank_of_isSpace {c : Char} (h : isSpace c = true) : Text.isBlank c = true := by
  rcases eq_of_isSpace h with rfl | rfl | rfl | rfl <;> rfl

/-! ### Parts -/

namespace NumberText

/-- A number that is digits only, without a needless zero in front. -/
theorem ofChars?_of_isDigit (negative : Bool) {digits : List Char} (hne : digits ≠ [])
    (h : ∀ c ∈ digits, Text.isDigit c = true) (hzero : digits.head? = some '0' → digits.length = 1) :
    ofChars? (if negative then '-' :: digits else digits) = some ⟨negative, digits, [], none⟩ := by
  have hwhole : digits.takeWhile Text.isDigit = digits := List.takeWhile_eq_self_iff.2 h
  have hrest : digits.dropWhile Text.isDigit = [] := List.dropWhile_eq_nil_iff.2 h
  have hempty : digits.isEmpty = false := by simpa using hne
  unfold ofChars?
  split
  next sign rest hsign =>
    have hparts : negative = sign ∧ digits = rest := by
      cases negative with
      | true => exact Prod.mk.inj hsign
      | false =>
        simp only [Bool.false_eq_true, if_false] at hsign
        split at hsign
        · exact absurd (h '-' (by simp)) (by decide)
        · exact Prod.mk.inj hsign
    obtain ⟨rfl, rfl⟩ := hparts
    simpa [hwhole, hrest, hempty, fractionPart?, exponentPart?] using hzero

/-- The parts of a whole number's text. -/
theorem ofChars?_toString (n : Int) :
    ofChars? (toString n).toList
      = some ⟨decide (n < 0), (toString n.natAbs).toList, [], none⟩ := by
  have hzero : (toString n.natAbs).toList.head? = some '0' → (toString n.natAbs).toList.length = 1 := by
    intro hhead
    have hn : n.natAbs = 0 := by
      by_contra hn
      exact Text.head?_toString_ne_zero hn hhead
    rw [hn]
    rfl
  have hparts := ofChars?_of_isDigit (decide (n < 0)) (Text.toList_toString_ne_nil n.natAbs)
    (fun c hc => Text.isDigit_of_mem_toString hc) hzero
  by_cases hneg : n < 0
  · have hn : -(n.natAbs : Int) = n := by omega
    rw [if_pos (decide_eq_true hneg), ← Text.toList_toString_neg (by omega), hn] at hparts
    exact hparts
  · have hn : (n.natAbs : Int) = n := by omega
    have hdigits : (toString n.natAbs).toList = (toString n).toList := by
      rw [← Text.toString_natCast, hn]
    rw [if_neg (by simpa using hneg)] at hparts
    rw [← hparts, hdigits]

/-- A whole number of a signed or an unsigned word is the one that its parts write. -/
theorem number?_of_whole {n : Int} (hlow : -(Word.signed64 : Int) ≤ n)
    (hhigh : n < Word.unsigned64) :
    number? ⟨decide (n < 0), (toString n.natAbs).toList, [], none⟩ = some (.whole n) := by
  unfold number?
  simp only [Text.decimalValue_toString, List.isEmpty_nil, Option.isSome_none, Bool.not_true,
    Bool.or_self, Bool.false_eq_true, if_false, decide_eq_true_eq]
  by_cases hneg : n < 0
  · have hrange : ¬ (n.natAbs = 0 ∨ Word.signed64 < n.natAbs) := by omega
    have hn : -(n.natAbs : Int) = n := by omega
    rw [if_pos hneg, if_neg (by simpa using hrange), hn]
  · have hrange : n.natAbs < Word.unsigned64 := by omega
    have hn : (n.natAbs : Int) = n := by omega
    rw [if_neg hneg, if_pos hrange, hn]

end NumberText

/-! ### Tokens -/

namespace Token

variable {c : Char}

theorem start?_of_isSpace (h : isSpace c = true) : start? c = some ([], .between) := by
  rcases eq_of_isSpace h with rfl | rfl | rfl | rfl <;> rfl

/-- Characters of a class that has no blank of JSON and no mark start a number, a word or nothing. -/
theorem start?_of_class {p : Char → Bool} (hc : p c = true)
    (hp : [' ', '\t', '\n', '\r', '[', ']', '{', '}', ':', ',', '"'].any p = false) :
    start? c = if Text.isDigit c || c == '-' then some ([], .number [c])
      else if Text.isLetter c then some ([], .word [c]) else none := by
  unfold start?
  split
  case h_12 => rfl
  all_goals exact absurd hc (List.any_eq_false.1 hp _ (by simp))

/-- A digit or a minus sign starts a number. -/
theorem start?_of_isDigit_or_minus (h : Text.isDigit c = true ∨ c = '-') :
    start? c = some ([], .number [c]) := by
  have hnumber : (Text.isDigit c || c == '-') = true := by simpa using h
  have hstart := start?_of_class (p := fun d => Text.isDigit d || d == '-') hnumber rfl
  rw [hstart, if_pos hnumber]

theorem not_isNumberChar_of_isBlank (h : Text.isBlank c = true) : isNumberChar c = false := by
  by_contra hnumber
  rw [Bool.not_eq_false] at hnumber
  have hcases : ((((Text.isDigit c = true ∨ c = '-') ∨ c = '+') ∨ c = '.') ∨ c = 'e') ∨ c = 'E' := by
    simpa only [isNumberChar, Bool.or_eq_true, beq_iff_eq] using hnumber
  have hblank : Text.isBlank c = false := by
    rcases hcases with ((((hdigit | rfl) | rfl) | rfl) | rfl) | rfl
    · exact Text.not_isBlank_of_isDigit hdigit
    all_goals rfl
  rw [h] at hblank
  cases hblank

/-- Other blanks than those of JSON may not stand between tokens. -/
theorem start?_of_isBlank (h : Text.isBlank c = true) (hspace : isSpace c = false) :
    start? c = none := by
  have hclass : (Text.isBlank c && !isSpace c) = true := by rw [h, hspace]; rfl
  have hnumber : ¬ (Text.isDigit c || c == '-') = true := by
    have hother := not_isNumberChar_of_isBlank h
    simp only [isNumberChar, Bool.or_eq_false_iff] at hother
    simp [hother]
  have hletter : ¬ Text.isLetter c = true := by
    intro hletter
    rw [Text.not_isBlank_of_isLetter hletter] at h
    cases h
  have hstart := start?_of_class (p := fun d => Text.isBlank d && !isSpace d) hclass rfl
  rw [hstart, if_neg hnumber, if_neg hletter]

/-- Blanks in front of a text are skipped if JSON knows them. -/
theorem lexFrom?_blanks_append {front : List Char} (h : ∀ c ∈ front, Text.isBlank c = true)
    (rest : List (Option Char)) :
    lexFrom? .between (front.map some ++ rest)
      = if front.all isSpace then lexFrom? .between rest else none := by
  induction front with
  | nil => rfl
  | cons c front ih =>
    have hrest := ih fun d hd => h d (List.mem_cons_of_mem _ hd)
    rw [List.map_cons, List.cons_append, lexFrom?, step?, charStep?, List.all_cons]
    cases hspace : isSpace c with
    | true =>
      rw [start?_of_isSpace hspace, Bool.true_and, ← hrest]
      exact Option.map_id'
    | false =>
      rw [start?_of_isBlank (h c List.mem_cons_self) hspace]
      rfl

/-- Inside a number its characters are collected. -/
theorem lexFrom?_number_append {cs : List Char} (h : ∀ c ∈ cs, isNumberChar c = true)
    (rev : List Char) (rest : List (Option Char)) :
    lexFrom? (.number rev) (cs.map some ++ rest) = lexFrom? (.number (cs.reverse ++ rev)) rest := by
  induction cs generalizing rev with
  | nil => rfl
  | cons c cs ih =>
    have hstep : charStep? (.number rev) c = some ([], .number (c :: rev)) := by
      rw [charStep?, if_pos (h c List.mem_cons_self)]
    rw [List.map_cons, List.cons_append, lexFrom?, step?, hstep, List.reverse_cons, List.append_assoc,
      List.singleton_append, ← ih fun d hd => h d (List.mem_cons_of_mem _ hd)]
    exact Option.map_id'

/-- A number ends where no character of one follows. -/
theorem lexFrom?_number {rev back : List Char} {token : Token} (htoken : ofNumber? rev = some token)
    (hback : ∀ c, back.head? = some c → isNumberChar c = false) :
    lexFrom? (.number rev) (back.map some)
      = (lexFrom? .between (back.map some)).map (token :: ·) := by
  cases back with
  | nil =>
    rw [List.map_nil, lexFrom?, lexFrom?, finish?, finish?, htoken]
    rfl
  | cons c rest =>
    -- The character that ends the number is then taken as if it stood between tokens.
    have hnumber : ¬ isNumberChar c = true := by simp [hback c rfl]
    have hinside : charStep? (.number rev) c
        = (start? c).map fun found => (token :: found.1, found.2) := by
      rw [charStep?, if_neg hnumber, htoken]
      cases start? c <;> rfl
    have hbetween : charStep? .between c = start? c := rfl
    rw [List.map_cons, lexFrom?, lexFrom?, step?, step?, hinside, hbetween]
    cases start? c with
    | none => rfl
    | some found =>
      simp [Function.comp_def]

/-- A whole number between blanks is one token, if JSON knows the blanks. -/
theorem ofUnits?_padded {front written back : List Char} {token : Token}
    (hfront : ∀ c ∈ front, Text.isBlank c = true) (hback : ∀ c ∈ back, Text.isBlank c = true)
    (hne : written ≠ []) (hwritten : ∀ c ∈ written, Text.isDigit c = true ∨ c = '-')
    (htoken : ofNumber? written.reverse = some token) :
    ofUnits? ((front ++ written ++ back).map some)
      = if (front ++ back).all isSpace then some [token] else none := by
  obtain ⟨c, cs, rfl⟩ := List.exists_cons_of_ne_nil hne
  have hnumber : ∀ d ∈ cs, isNumberChar d = true := by
    intro d hd
    rcases hwritten d (List.mem_cons_of_mem _ hd) with hdigit | rfl
    · simp [isNumberChar, hdigit]
    · rfl
  have hend : ∀ d, back.head? = some d → isNumberChar d = false :=
    fun d hd => not_isNumberChar_of_isBlank (hback d (List.mem_of_head? hd))
  have hblanks := lexFrom?_blanks_append hback []
  rw [List.append_nil] at hblanks
  have hstart := start?_of_isDigit_or_minus (hwritten c List.mem_cons_self)
  have hread : lexFrom? .between ((c :: cs).map some ++ back.map some)
      = if back.all isSpace then some [token] else none := by
    rw [List.map_cons, List.cons_append, lexFrom?, step?, charStep?, hstart]
    dsimp only
    rw [lexFrom?_number_append hnumber, lexFrom?_number (by simpa using htoken) hend, hblanks]
    cases back.all isSpace <;> rfl
  rw [ofUnits?, List.append_assoc, List.map_append, List.map_append, lexFrom?_blanks_append hfront,
    hread, List.all_append]
  cases front.all isSpace <;> rfl

end Token

/-! ### Documents -/

section Document

variable {n : Int} (hlow : -(Word.signed64 : Int) ≤ n) (hhigh : n < Word.unsigned64)
include hlow hhigh

theorem value?_padded {front back : List Char} {text : String}
    (hfront : ∀ c ∈ front, Text.isBlank c = true) (hback : ∀ c ∈ back, Text.isBlank c = true)
    (htext : text.toList = front ++ (toString n).toList ++ back) :
    value? text = if (front ++ back).all isSpace then some (.ofInt n) else none := by
  have htoken : Token.ofNumber? (toString n).toList.reverse = some (.number (some (.whole n))) := by
    rw [Token.ofNumber?, List.reverse_reverse, NumberText.ofChars?_toString, Option.map_some,
      NumberText.number?_of_whole hlow hhigh]
  have hunits := Token.ofUnits?_padded hfront hback (Text.toList_toString_int_ne_nil n)
    (fun c hc => Text.isDigit_or_minus hc) htoken
  rw [value?, ofUnits?, htext, hunits]
  cases (front ++ back).all isSpace <;> rfl

/-- A whole number between blanks of JSON is a document. -/
theorem value?_of_padded {text : String} (h : Text.Padded isSpace (toString n) text) :
    value? text = some (.ofInt n) := by
  obtain ⟨front, back, hfront, hback, htext⟩ := h
  have hall : (front ++ back).all isSpace = true := by
    rw [List.all_append, List.all_eq_true.2 hfront, List.all_eq_true.2 hback]
    rfl
  rw [value?_padded hlow hhigh (fun c hc => isBlank_of_isSpace (hfront c hc))
    (fun c hc => isBlank_of_isSpace (hback c hc)) htext, if_pos hall]

/-- Between other blanks it is none. -/
theorem value?_of_not_padded {text : String} (h : Text.Padded Text.isBlank (toString n) text)
    (hnot : ¬ Text.Padded isSpace (toString n) text) : value? text = none := by
  obtain ⟨front, back, hfront, hback, htext⟩ := h
  rw [value?_padded hlow hhigh hfront hback htext, if_neg]
  intro hall
  rw [List.all_eq_true] at hall
  exact hnot ⟨front, back, fun c hc => hall c (by simp [hc]), fun c hc => hall c (by simp [hc]), htext⟩

end Document

end Json

theorem Format.value?_json {text : String} (hne : Text.trim text ≠ "") :
    Format.json.value? text = Json.value? text := by
  rw [Format.value?, if_neg (by simpa using hne)]

/-! ## Whole numbers as they look -/

namespace Value

theorem collection?_toString (n : Int) : collection? (toString n) = none := by
  have hhead : ∀ c, Text.isDigit c = false → c ≠ '-' → (toString n).toList.head? ≠ some c := by
    intro c hdigit hminus hc
    rcases Text.isDigit_or_minus (List.mem_of_head? hc) with h | h
    · rw [hdigit] at h
      cases h
    · exact hminus h
  rw [collection?, if_neg]
  rw [beq_false_of_ne (hhead '\x7b' rfl (by decide)), beq_false_of_ne (hhead '[' rfl (by decide))]
  exact Bool.false_ne_true

theorem looseBool?_toString (n : Int) : looseBool? (toString n) = none := by
  have hword : ∀ word : String, (∃ c ∈ (Text.lower word).toList, Text.isLetter c = true) →
      ¬ Text.sameIgnoringCase (toString n) word = true := by
    intro word hletter hsame
    exact Text.ofList_lowerChar_ne (fun c hc => Text.not_isLetter_of_mem_toString hc) hletter
      (Text.sameIgnoringCase_iff.1 hsame)
  rw [looseBool?, if_neg (hword "true" ⟨'e', by simp [Text.lower, Text.lowerChar], rfl⟩),
    if_neg (hword "false" ⟨'e', by simp [Text.lower, Text.lowerChar], rfl⟩)]

/-- A whole number between blanks looks like a number, if it can be one. -/
theorem inferred_of_padded {n : Int} {text : String}
    (h : Text.Padded Text.isBlank (toString n) text) {number : Number}
    (hnumber : looseNumber? (toString n) = some number) : inferred text = .number number := by
  have htrim := Text.trim_of_padded h fun c hc => Text.not_isBlank_of_mem_toString hc
  rw [inferred, htrim, collection?_toString, looseBool?_toString, hnumber]

theorem looseNumber?_of_signed {n : Int} (hlow : -(Word.signed64 : Int) ≤ n)
    (hhigh : n < Word.signed64) : looseNumber? (toString n) = some (.whole n) := by
  have hsigned : Text.isSigned64 n = true := by
    rw [Text.isSigned64, decide_eq_true hlow, decide_eq_true hhigh]
    rfl
  rw [looseNumber?, Text.signed64?_toString, if_pos hsigned]

/-- Beyond a signed word a whole number looks like a binary64 number. -/
theorem looseNumber?_of_large {n : Nat} (hlow : Word.signed64 ≤ n) (hhigh : n < Word.unsigned64) :
    looseNumber? (toString (n : Int)) = some (.float (Binary64.ofInt n)) := by
  have hsigned : ¬ Text.isSigned64 n = true := by
    intro h
    simp only [Text.isSigned64, Bool.and_eq_true, decide_eq_true_eq] at h
    omega
  have hfloat : Binary64.ofText? (toString (n : Int)) = some (Binary64.ofInt n) :=
    Binary64.ofChars?_natCast n
  have hfinite : (Binary64.ofInt n).isFinite = true := by
    have hnear := (Binary64.nearest_error n).2
    have hword : Word.unsigned64 = 2 ^ 64 := rfl
    have hbound : Binary64.nearest n < 2 ^ 65 := by omega
    refine (Binary64.shows_ofInt n).isFinite ?_
    exact Nat.lt_of_le_of_lt (Binary64.log2_mono (Nat.le_of_lt hbound)) (by decide +kernel)
  rw [looseNumber?, Text.signed64?_toString, if_neg hsigned, hfloat, Option.filter_some, if_pos hfinite]
  rfl

end Value

/-! ## The law -/

theorem exists_treeOfRows_untyped (table : String) (rows : List Row) :
    ∃ tree, treeOfRows none table rows = .ok tree := by
  cases h : treeOfRows none table rows with
  | ok tree => exact ⟨tree, rfl⟩
  | error e =>
    obtain ⟨-, r, -, -, -, ⟨raw, f, -, hf, -⟩, -⟩ := treeOfRows_eq_error_iff.1 h
    cases hf

/-- **Whole numbers of untyped rows.** An integer of a signed or an unsigned 64-bit word that a row
    writes, with any blanks around it, is stored as it is below `2 ^ 63`, and as the nearest binary64
    number from there on. As a document the same text always is the integer, unless a blank around it
    is none of JSON. -/
theorem stores_whole {n : Int} (hlow : -2 ^ 63 ≤ n) (hhigh : n < 2 ^ 64) {text : String}
    (htext : Text.Padded Text.isBlank (toString n) text) {before after : List Row} {r : Row}
    (hvalue : r.value = some text) (hpath : r.path ≠ [])
    (hafter : ∀ s ∈ after, s.path ≠ [] → ¬ s.Along r.path) (table source : String) :
    ∃ tree, treeOfRows none table (before ++ r :: after) = .ok tree
      ∧ (n < 2 ^ 63 → Value.at? r.path (.map tree) = some (.ofInt n))
      ∧ (2 ^ 63 ≤ n →
          Value.at? r.path (.map tree) = some (.number (.float (Binary64.ofInt n)))
            ∧ Binary64.Shows (Binary64.ofInt n) (Binary64.nearest n.toNat))
      ∧ (Text.Padded Json.isSpace (toString n) text → Format.json.value text source = .ok (.ofInt n))
      ∧ (¬ Text.Padded Json.isSpace (toString n) text →
          Format.json.value text source = .error (.parse source .malformed)) := by
  obtain ⟨tree, htree⟩ := exists_treeOfRows_untyped table (before ++ r :: after)
  obtain ⟨v, hv, hat⟩ := at?_treeOfRows_of_last htree hpath hafter
  -- Both ranges differ only in what the digits look like.
  have hstored : ∀ number, Value.looseNumber? (toString n) = some number →
      Value.at? r.path (.map tree) = some (.number number) := by
    intro number hnumber
    have hdecode : r.decode none table = .ok (Value.inferred text) := by
      unfold Row.decode
      rw [hvalue]
    obtain rfl := Except.ok.inj (hdecode.symm.trans hv)
    rw [hat, Value.inferred_of_padded htext hnumber]
  have htrim : Text.trim text ≠ "" := by
    rw [Text.trim_of_padded htext fun c hc => Text.not_isBlank_of_mem_toString hc, ne_eq,
      ← String.toList_eq_nil_iff]
    exact Text.toList_toString_int_ne_nil n
  refine ⟨tree, htree, fun hsigned => ?_, fun hlarge => ?_, fun hspaces => ?_, fun hother => ?_⟩
  · exact hstored _ (Value.looseNumber?_of_signed hlow hsigned)
  · obtain ⟨k, rfl⟩ := Int.eq_ofNat_of_zero_le (by omega : 0 ≤ n)
    have hfloat := Value.looseNumber?_of_large (Int.ofNat_le.1 hlarge) (Int.ofNat_lt.1 hhigh)
    exact ⟨hstored _ hfloat, Binary64.shows_ofInt k⟩
  · rw [Format.value, Format.value?_json htrim, Json.value?_of_padded hlow hhigh hspaces]
  · rw [Format.value, Format.value?_json htrim, Json.value?_of_not_padded hlow hhigh htext hother]

/-- The least integer among other rows, between blanks that JSON knows. -/
theorem stores_whole_least :
    let before : List Row := [⟨"base", "limit", some "7"⟩]
    let r : Row := ⟨"prod", ".limit", some "\t-9223372036854775808 "⟩
    let after : List Row := [⟨"prod", "LIMIT", some "8"⟩, ⟨"prod", ".", some "9"⟩]
    (r.path ≠ [] ∧ ∀ s ∈ after, s.path ≠ [] → ¬ s.Along r.path)
      ∧ (∃ tree, treeOfRows none "settings" (before ++ r :: after) = .ok tree
        ∧ Value.at? ["limit"] (.map tree) = some (.ofInt (-9223372036854775808)))
      ∧ Format.json.value "\t-9223372036854775808 " "settings"
        = .ok (.ofInt (-9223372036854775808)) := by
  intro before r after
  have hwritten : ∀ p : Char → Bool, p '\t' = true → p ' ' = true →
      Text.Padded p (toString (-9223372036854775808 : Int)) "\t-9223372036854775808 " :=
    fun p htab hspace => ⟨['\t'], [' '], by simpa using htab, by simpa using hspace, by decide +kernel⟩
  have hpath : r.path ≠ [] := by decide +kernel
  have hafter : ∀ s ∈ after, s.path ≠ [] → ¬ s.Along r.path := by
    unfold Row.Along
    decide +kernel
  have hlimit : r.path = ["limit"] := by decide +kernel
  obtain ⟨tree, htree, hstored, -, hdocument, -⟩ :=
    @stores_whole (-9223372036854775808) (by decide) (by decide) _ (hwritten Text.isBlank rfl rfl)
      before after r rfl hpath hafter "settings" "settings"
  rw [hlimit] at hstored
  exact ⟨⟨hpath, hafter⟩, ⟨tree, htree, hstored (by decide)⟩, hdocument (hwritten Json.isSpace rfl rfl)⟩

/-- So digits are lost without an error: the largest integer of an unsigned word becomes `2 ^ 64`,
    alone as a row but not as a document, nor inside of a list in a row. -/
theorem stores_whole_not_beyond :
    let text := "18446744073709551615"
    treeOfRows none "settings" [⟨"base", "n", some text⟩]
        = .ok [("n", .number (.float (.finite false 0x10000000000000 12)))]
      ∧ Format.json.value text "settings" = .ok (.ofInt 18446744073709551615)
      ∧ treeOfRows none "settings" [⟨"base", "n", some ("[" ++ text ++ "]")⟩]
        = .ok [("n", .list [.ofInt 18446744073709551615])] := by
  decide +kernel

end LayeredSettings
