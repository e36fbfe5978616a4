import LayeredSettings.Proofs.Integers
import LayeredSettings.Settings.Basic

set_option autoImplicit false

/-! # Texts of durations

The text of a duration is cut into parts, and nothing of it is lost (`flatMap_parts`), so what can be
read is amounts with units and nothing else. Amounts of whole units are read as their sum, rounded
part by part (`ofText?_spell`): the exact sum below `2 ^ 53` nanoseconds (`reads_exactly`), none above
`2 ^ 64` of them (`refuses_overflow`). -/

namespace LayeredSettings.Duration

open Binary64 (Shows nearest shows_ofInt nearest_of_lt nearest_error)

/-! ## Units -/

/-- The units with their nanoseconds; the micro sign comes in two forms. -/
def units : List (String × Nat) :=
  [ ("ns", 1), ("us", 1000), ("\u00b5s", 1000), ("\u03bcs", 1000), ("ms", 1000000),
    ("s", 1000000000), ("m", 60000000000), ("h", 3600000000000) ]

theorem unit?_eq_some_iff {name : String} {scale : Nat} :
    unit? name = some scale ↔ (name, scale) ∈ units := by
  unfold unit?
  split <;> simp_all [units, eq_comm]

/-! ## Parts -/

/-- What a part looks like in the text. -/
def Part.text (p : Part) : List Char :=
  p.amount ++ p.unit

theorem flatMap_consChar (c : Char) (ps : List Part) :
    (consChar c ps).flatMap Part.text = c :: ps.flatMap Part.text := by
  cases ps with
  | nil =>
    simp only [consChar]
    split <;> rfl
  | cons p rest =>
    simp only [consChar]
    split
    · rfl
    · split
      · next hempty =>
        rw [List.isEmpty_iff] at hempty
        simp [Part.text, hempty]
      · rfl

/-- The parts of a text make up the whole text. -/
theorem flatMap_parts (cs : List Char) : (parts cs).flatMap Part.text = cs := by
  induction cs with
  | nil => rfl
  | cons c rest ih =>
    show (consChar c (parts rest)).flatMap Part.text = _
    rw [flatMap_consChar, ih]

/-- One more character in front keeps amounts to their characters. -/
theorem isAmountChar_of_mem_consChar (c : Char) {ps : List Part}
    (h : ∀ p ∈ ps, ∀ d ∈ p.amount, isAmountChar d = true) :
    ∀ p ∈ consChar c ps, ∀ d ∈ p.amount, isAmountChar d = true := by
  cases ps with
  | nil =>
    simp only [consChar]
    split
    · next hc => simpa using hc
    · simp
  | cons q more =>
    obtain ⟨hq, hmore⟩ := List.forall_mem_cons.1 h
    simp only [consChar]
    split
    · next hc => exact List.forall_mem_cons.2 ⟨List.forall_mem_cons.2 ⟨hc, hq⟩, hmore⟩
    · split
      · exact List.forall_mem_cons.2 ⟨by simp, hmore⟩
      · exact List.forall_mem_cons.2 ⟨by simp, h⟩

theorem isAmountChar_of_mem_parts (cs : List Char) :
    ∀ p ∈ parts cs, ∀ c ∈ p.amount, isAmountChar c = true := by
  induction cs with
  | nil => simp [parts]
  | cons c rest ih => exact isAmountChar_of_mem_consChar c ih

/-! ## What can be read -/

/-- Digits, at least one, with at most one point among them or around them. -/
structure IsAmount (cs : List Char) : Prop where
  chars : ∀ c ∈ cs, isAmountChar c = true
  digit : ∃ c ∈ cs, Text.isDigit c = true
  point : cs.count '.' ≤ 1

/-- Amounts with units, one after the other and at least one of them. -/
def IsSpelt (cs : List Char) : Prop :=
  ∃ ps : List Part, ps ≠ [] ∧ cs = ps.flatMap Part.text
    ∧ ∀ p ∈ ps, IsAmount p.amount ∧ String.ofList p.unit ∈ units.map Prod.fst

theorem isAmountChar_iff {c : Char} : isAmountChar c = true ↔ Text.isDigit c = true ∨ c = '.' := by
  simp [isAmountChar]

theorem count_point_of_isDigit {cs : List Char} (h : ∀ c ∈ cs, Text.isDigit c = true) :
    cs.count '.' = 0 :=
  List.count_eq_zero.2 fun hmem => absurd (h '.' hmem) (by decide)

/-- An exponent of amount characters is no exponent. -/
theorem eq_nil_of_exponentPart? {cs : List Char} {e : Int} (hchars : ∀ c ∈ cs, isAmountChar c = true)
    (h : Binary64.exponentPart? cs = some e) : cs = [] := by
  cases cs with
  | nil => rfl
  | cons c rest =>
    have hc : ¬ (c = 'e' ∨ c = 'E') := by
      rintro (rfl | rfl)
      · exact absurd (hchars 'e' (by simp)) (by decide)
      · exact absurd (hchars 'E' (by simp)) (by decide)
    rw [Binary64.exponentPart?, if_neg hc] at h
    cases h

theorem isAmount_of_isDigit {cs : List Char} (hne : cs ≠ [])
    (h : ∀ c ∈ cs, Text.isDigit c = true) : IsAmount cs := by
  obtain ⟨c, hc⟩ := List.exists_mem_of_ne_nil cs hne
  exact ⟨fun d hd => isAmountChar_iff.2 (.inl (h d hd)), ⟨c, hc, h c hc⟩,
    by rw [count_point_of_isDigit h]; omega⟩

theorem isAmount_of_point {whole more : List Char} (hwhole : ∀ c ∈ whole, Text.isDigit c = true)
    (hmore : ∀ c ∈ more, Text.isDigit c = true) (hne : whole ≠ [] ∨ more ≠ []) :
    IsAmount (whole ++ '.' :: more) := by
  have hdigit : ∀ c ∈ whole ++ '.' :: more, Text.isDigit c = true ∨ c = '.' := by
    intro c hc
    rcases List.mem_append.1 hc with hc | hc
    · exact .inl (hwhole c hc)
    · rcases List.mem_cons.1 hc with rfl | hc
      · exact .inr rfl
      · exact .inl (hmore c hc)
  refine ⟨fun c hc => isAmountChar_iff.2 (hdigit c hc), ?_, ?_⟩
  · rcases hne with hne | hne
    · obtain ⟨c, hc⟩ := List.exists_mem_of_ne_nil whole hne
      exact ⟨c, by simp [hc], hwhole c hc⟩
    · obtain ⟨c, hc⟩ := List.exists_mem_of_ne_nil more hne
      exact ⟨c, by simp [hc], hmore c hc⟩
  · rw [List.count_append, List.count_cons_self, count_point_of_isDigit hwhole,
      count_point_of_isDigit hmore]

/-- A decimal of amount characters has no exponent, so it is digits and at most one point. -/
theorem isAmount_of_decimalPart? {cs : List Char} {x : Binary64}
    (hchars : ∀ c ∈ cs, isAmountChar c = true) (h : Binary64.decimalPart? false cs = some x) :
    IsAmount cs := by
  by_cases hall : ∀ c ∈ cs, Text.isDigit c = true
  · refine isAmount_of_isDigit ?_ hall
    rintro rfl
    cases h
  · obtain ⟨c, hc, hdigit⟩ : ∃ c ∈ cs, Text.isDigit c = false := by simpa using hall
    obtain ⟨whole, d, more, rfl, hwhole, hd⟩ := Text.exists_stop hc hdigit
    obtain rfl : d = '.' := (isAmountChar_iff.1 (hchars d (by simp))).resolve_left (by simp [hd])
    rw [Binary64.decimalPart?_point false hwhole] at h
    split at h
    · cases h
    · next hempty =>
      obtain ⟨e, he, -⟩ := Option.map_eq_some_iff.1 h
      have hlast : more.dropWhile Text.isDigit = [] := by
        refine eq_nil_of_exponentPart? (fun b hb => hchars b ?_) he
        simp [(List.dropWhile_sublist _).mem hb]
      have hmore : ∀ b ∈ more, Text.isDigit b = true := List.dropWhile_eq_nil_iff.1 hlast
      rw [List.takeWhile_eq_self_iff.2 hmore, Bool.and_eq_true, List.isEmpty_iff, List.isEmpty_iff,
        not_and_or] at hempty
      exact isAmount_of_point hwhole hmore hempty

theorem Part.isAmount_of_value? {p : Part} {x : Binary64}
    (hchars : ∀ c ∈ p.amount, isAmountChar c = true) (h : p.value? = some x) :
    IsAmount p.amount ∧ String.ofList p.unit ∈ units.map Prod.fst := by
  unfold Part.value? at h
  split at h
  · next amount scale hamount hunit =>
    have hletter : ∀ c ∈ p.amount, Text.isLetter c = false := by
      intro c hc
      rcases isAmountChar_iff.1 (hchars c hc) with hdigit | rfl
      · exact Text.not_isLetter_of_isDigit hdigit
      · rfl
    have hhead : ∀ d, isAmountChar d = false → p.amount.head? ≠ some d := by
      intro d hd heq
      rw [hchars d (List.mem_of_head? heq)] at hd
      cases hd
    rw [Binary64.ofChars?_of_unsigned hletter (hhead '-' rfl) (hhead '+' rfl)] at hamount
    exact ⟨isAmount_of_decimalPart? hchars hamount,
      List.mem_map.2 ⟨_, unit?_eq_some_iff.1 hunit, rfl⟩⟩
  · cases h

theorem exists_value?_of_total? {start x : Binary64} {ps : List Part} (h : total? start ps = some x) :
    ∀ p ∈ ps, ∃ y, p.value? = some y := by
  induction ps generalizing start with
  | nil => simp
  | cons p rest ih =>
    obtain ⟨y, hy, hrest⟩ := Option.bind_eq_some_iff.1 h
    exact List.forall_mem_cons.2 ⟨⟨y, hy⟩, ih hrest⟩

theorem dropPlus_eq_or (cs : List Char) : cs = dropPlus cs ∨ cs = '+' :: dropPlus cs := by
  unfold dropPlus
  split
  · exact .inr rfl
  · exact .inl rfl

theorem isSpelt_of_ofText? {s : String} {d : Duration} (h : ofText? s = some d) :
    dropPlus s.toList = ['0'] ∨ IsSpelt (dropPlus s.toList) := by
  unfold ofText? at h
  generalize dropPlus s.toList = cs at h ⊢
  split at h
  · cases h
  · exact .inl rfl
  · next hne _ =>
    obtain ⟨x, hx, -⟩ := Option.bind_eq_some_iff.1 h
    refine .inr ⟨parts cs, ?_, (flatMap_parts cs).symm, fun p hp => ?_⟩
    · intro hnil
      have hcs := flatMap_parts cs
      rw [hnil] at hcs
      exact hne hcs.symm
    · obtain ⟨y, hy⟩ := exists_value?_of_total? hx p hp
      exact Part.isAmount_of_value? (isAmountChar_of_mem_parts cs p hp) hy

/-! ## Amounts of whole units -/

/-- So many units of one kind. -/
structure Amount where
  count : Nat
  unit : String
  scale : Nat
  known : (unit, scale) ∈ units

namespace Amount

/-- The nanoseconds of an amount. -/
def nanoseconds (a : Amount) : Nat :=
  a.count * a.scale

/-- The count in digits, then the unit. -/
def text (a : Amount) : String :=
  toString a.count ++ a.unit

/-- The part of a text that an amount makes. -/
def part (a : Amount) : Part :=
  ⟨(toString a.count).toList, a.unit.toList⟩

/-- The nanoseconds of an amount as binary64 has them: the count and the product are rounded. -/
def rounded (a : Amount) : Nat :=
  nearest (nearest a.count * a.scale)

end Amount

/-- The amounts, one after the other. -/
def spell : List Amount → String
  | [] => ""
  | a :: rest => a.text ++ spell rest

/-- The nanoseconds of all amounts. -/
def total (as : List Amount) : Nat :=
  (as.map Amount.nanoseconds).sum

/-- The nanoseconds of all amounts on a start, the sum rounded at each of them. -/
def roundedTotal (start : Nat) (as : List Amount) : Nat :=
  as.foldl (fun sum a => nearest (sum + a.rounded)) start

namespace Amount

variable (a : Amount)

theorem scale_pos : 0 < a.scale :=
  (by decide : ∀ u ∈ units, 0 < u.2) _ a.known

theorem scale_lt : a.scale < 2 ^ 53 :=
  (by decide : ∀ u ∈ units, u.2 < 2 ^ 53) _ a.known

theorem unit_ne_nil : a.unit.toList ≠ [] :=
  (by simp [units] : ∀ u ∈ units, u.1.toList ≠ []) _ a.known

theorem not_isAmountChar_of_mem_unit : ∀ c ∈ a.unit.toList, isAmountChar c = false :=
  (by simp [units, isAmountChar, Text.isDigit] :
    ∀ u ∈ units, ∀ c ∈ u.1.toList, isAmountChar c = false) _ a.known

theorem isAmountChar_of_mem_count {c : Char} (hc : c ∈ (toString a.count).toList) :
    isAmountChar c = true :=
  isAmountChar_iff.2 (.inl (Text.isDigit_of_mem_toString hc))

/-- The value of the part of an amount is its nanoseconds, rounded. -/
theorem exists_value? : ∃ x, a.part.value? = some x ∧ Shows x a.rounded := by
  have hunit : unit? (String.ofList a.part.unit) = some a.scale := by
    rw [part, String.ofList_toList]
    exact unit?_eq_some_iff.2 a.known
  have hscale : Shows (Binary64.ofInt a.scale) a.scale := by
    have hshows := shows_ofInt a.scale
    rwa [nearest_of_lt a.scale_lt] at hshows
  have hrange : Nat.log2 a.scale < 1000 := by
    have hlog := (Nat.log2_lt (Nat.ne_of_gt a.scale_pos)).2 a.scale_lt
    omega
  refine ⟨_, ?_, (shows_ofInt a.count).mul hscale a.scale_pos hrange⟩
  unfold Part.value?
  rw [part, Binary64.ofChars?_natCast]
  rw [part] at hunit
  rw [hunit]

end Amount

/-! ## Reading them -/

theorem foldr_consChar_unit {unit : List Char} (hne : unit ≠ [])
    (hunit : ∀ c ∈ unit, isAmountChar c = false) {ps : List Part}
    (hps : ∀ p, ps.head? = some p → p.amount ≠ []) :
    unit.foldr consChar ps = ⟨[], unit⟩ :: ps := by
  induction unit with
  | nil => exact absurd rfl hne
  | cons c rest ih =>
    obtain ⟨hc, hrest⟩ := List.forall_mem_cons.1 hunit
    rw [List.foldr_cons]
    by_cases hnil : rest = []
    · subst hnil
      cases ps with
      | nil => simp [consChar, hc]
      | cons p more =>
        have hamount : p.amount.isEmpty = false := by simpa using hps p rfl
        simp [consChar, hc, hamount]
    · rw [ih hnil hrest]
      simp [consChar, hc]

theorem foldr_consChar_amount {amount : List Char} (hamount : ∀ c ∈ amount, isAmountChar c = true)
    (unit : List Char) (ps : List Part) :
    amount.foldr consChar (⟨[], unit⟩ :: ps) = ⟨amount, unit⟩ :: ps := by
  induction amount with
  | nil => rfl
  | cons c rest ih =>
    obtain ⟨hc, hrest⟩ := List.forall_mem_cons.1 hamount
    rw [List.foldr_cons, ih hrest]
    simp [consChar, hc]

/-- The parts of written amounts are the amounts. -/
theorem parts_spell (as : List Amount) : parts (spell as).toList = as.map Amount.part := by
  induction as with
  | nil => rfl
  | cons a rest ih =>
    have hhead : ∀ p, (rest.map Amount.part).head? = some p → p.amount ≠ [] := by
      intro p hp
      rw [List.head?_map, Option.map_eq_some_iff] at hp
      obtain ⟨b, -, rfl⟩ := hp
      exact Text.toList_toString_ne_nil b.count
    have hspell : (spell (a :: rest)).toList
        = (toString a.count).toList ++ (a.unit.toList ++ (spell rest).toList) := by
      simp [spell, Amount.text]
    -- The fold comes from the right: the rest is in parts already, then the unit opens a new one.
    unfold parts at ih ⊢
    rw [hspell, List.foldr_append, List.foldr_append, ih,
      foldr_consChar_unit a.unit_ne_nil a.not_isAmountChar_of_mem_unit hhead,
      foldr_consChar_amount fun _ => a.isAmountChar_of_mem_count]
    rfl

theorem exists_total? (as : List Amount) {x : Binary64} {n : Nat} (hx : Shows x n) :
    ∃ y, total? x (as.map Amount.part) = some y ∧ Shows y (roundedTotal n as) := by
  induction as generalizing x n with
  | nil => exact ⟨x, rfl, hx⟩
  | cons a rest ih =>
    obtain ⟨v, hv, hvalue⟩ := a.exists_value?
    obtain ⟨y, hy, hshows⟩ := ih (hx.add hvalue)
    refine ⟨y, ?_, hshows⟩
    rw [List.map_cons, total?, hv, Option.bind_some]
    exact hy

theorem ofTotal?_of_shows {x : Binary64} {n : Nat} (hx : Shows x n) :
    ofTotal? x = if Word.unsigned64 < n then none else some ⟨min n (Word.unsigned64 - 1)⟩ := by
  have hexceeds := hx.exceeds_iff Word.unsigned64 (by decide +kernel)
  unfold ofTotal?
  by_cases hlarge : Word.unsigned64 < n
  · rw [if_pos hlarge, hexceeds.2 hlarge, Bool.or_true, if_pos rfl]
  · have hlog := Binary64.log2_mono (Nat.le_of_not_lt hlarge)
    have hword : Nat.log2 Word.unsigned64 = 64 := by decide +kernel
    have hfinite := hx.isFinite (by omega)
    have hwithin : x.exceeds (Word.unsigned64 : Nat) = false :=
      Bool.eq_false_iff.2 fun h => hlarge (hexceeds.1 h)
    rw [if_neg hlarge, hfinite, hwithin, hx.roundToUnsigned64_eq, if_neg (by simp)]

section Spelt

variable {as : List Amount} {sign : String} (hne : as ≠ []) (hsign : sign = "" ∨ sign = "+")
include hne hsign

theorem dropPlus_spell : dropPlus (sign ++ spell as).toList = (spell as).toList := by
  obtain ⟨a, rest, rfl⟩ := List.exists_cons_of_ne_nil hne
  obtain ⟨c, more, hc⟩ := List.exists_cons_of_ne_nil (Text.toList_toString_ne_nil a.count)
  have hdigit : Text.isDigit c = true := Text.isDigit_of_mem_toString (hc ▸ List.mem_cons_self)
  have hspell : (spell (a :: rest)).toList = c :: (more ++ (a.unit.toList ++ (spell rest).toList)) := by
    rw [spell, Amount.text, String.toList_append, String.toList_append, hc, List.append_assoc,
      List.cons_append]
  rcases hsign with rfl | rfl
  · rw [String.empty_append, hspell]
    unfold dropPlus
    split
    · next heq =>
      obtain ⟨rfl, -⟩ := List.cons.inj heq
      exact absurd hdigit (by decide)
    · rfl
  · rw [String.toList_append]
    rfl

/-- Written amounts are read as their sum, rounded part by part, unless that exceeds `2 ^ 64`; of
    `2 ^ 64` itself one nanosecond is lost. -/
theorem ofText?_spell :
    ofText? (sign ++ spell as)
      = if Word.unsigned64 < roundedTotal 0 as then none
        else some ⟨min (roundedTotal 0 as) (Word.unsigned64 - 1)⟩ := by
  obtain ⟨a, rest, rfl⟩ := List.exists_cons_of_ne_nil hne
  have hstart : Shows (Binary64.zero false) 0 := .finite (by simp [Binary64.Counts])
  obtain ⟨x, hx, hshows⟩ := exists_total? (a :: rest) hstart
  have htotal : total? (Binary64.zero false) (parts (spell (a :: rest)).toList) = some x := by
    rw [parts_spell, hx]
  have hunit : ∃ c ∈ (spell (a :: rest)).toList, isAmountChar c = false := by
    obtain ⟨c, hc⟩ := List.exists_mem_of_ne_nil _ a.unit_ne_nil
    exact ⟨c, by simp [spell, Amount.text, hc], a.not_isAmountChar_of_mem_unit c hc⟩
  unfold ofText?
  rw [dropPlus_spell hne hsign]
  generalize (spell (a :: rest)).toList = cs at htotal hunit
  -- No text of digits only: it is not the single zero.
  split
  · simp at hunit
  · simp [isAmountChar, Text.isDigit] at hunit
  · rw [htotal, Option.bind_some, ofTotal?_of_shows hshows]

end Spelt

/-! ## Exact sums -/

theorem roundedTotal_of_lt {as : List Amount} {start : Nat} (h : start + total as < 2 ^ 53) :
    roundedTotal start as = start + total as := by
  induction as generalizing start with
  | nil => simp [roundedTotal, total]
  | cons a rest ih =>
    have hsum : total (a :: rest) = a.nanoseconds + total rest := rfl
    have hcount : a.count ≤ a.nanoseconds := Nat.le_mul_of_pos_right _ a.scale_pos
    have hsmall : a.nanoseconds < 2 ^ 53 := by omega
    have hrounded : a.rounded = a.nanoseconds := by
      rw [Amount.rounded, nearest_of_lt (Nat.lt_of_le_of_lt hcount hsmall)]
      exact nearest_of_lt hsmall
    have hstep : roundedTotal start (a :: rest) = roundedTotal (start + a.nanoseconds) rest := by
      rw [roundedTotal, List.foldl_cons, hrounded, nearest_of_lt (by omega), roundedTotal]
    rw [hstep, ih (by omega), hsum, Nat.add_assoc]

/-- **Texts of durations are read exactly.** What is read is a zero or amounts with units, behind at
    most one plus. Written amounts of whole units, in any order and with repeats, are read as their
    exact sum if that is below `2 ^ 53` nanoseconds. -/
theorem reads_exactly :
    (∀ (s : String) (d : Duration), ofText? s = some d →
        ∃ cs, (s.toList = cs ∨ s.toList = '+' :: cs) ∧ (cs = ['0'] ∨ IsSpelt cs))
      ∧ ∀ (as : List Amount) (sign : String), as ≠ [] → sign = "" ∨ sign = "+" →
        total as < 2 ^ 53 → ofText? (sign ++ spell as) = some ⟨total as⟩ := by
  constructor
  · intro s d h
    exact ⟨dropPlus s.toList, dropPlus_eq_or s.toList, isSpelt_of_ofText? h⟩
  · intro as sign hne hsign hsmall
    have hrounded : roundedTotal 0 as = total as := by
      rw [roundedTotal_of_lt (by omega), Nat.zero_add]
    have hword : Word.unsigned64 = 2 ^ 64 := rfl
    rw [ofText?_spell hne hsign, hrounded, if_neg (by omega), Nat.min_eq_left (by omega)]

/-- A fraction of a second; hours that come twice, and a micro sign. -/
theorem reads_exactly_repeats :
    let as : List Amount :=
      [ ⟨250, "ms", 1000000, by decide⟩, ⟨1, "h", 3600000000000, by decide⟩,
        ⟨3, "\u00b5s", 1000, by decide⟩, ⟨1, "h", 3600000000000, by decide⟩ ]
    (ofText? "+1.5s" = some ⟨1500000000⟩
        ∧ ∃ cs, ("+1.5s".toList = cs ∨ "+1.5s".toList = '+' :: cs) ∧ (cs = ['0'] ∨ IsSpelt cs))
      ∧ (as ≠ [] ∧ total as < 2 ^ 53) ∧ "+" ++ spell as = "+250ms1h3\u00b5s1h"
      ∧ ofText? ("+" ++ spell as) = some ⟨7200250003000⟩ := by
  intro as
  have hread : ofText? "+1.5s" = some ⟨1500000000⟩ := by decide +kernel
  have hne : as ≠ [] := List.cons_ne_nil _ _
  have hsmall : total as < 2 ^ 53 := by decide +kernel
  exact ⟨⟨hread, reads_exactly.1 _ _ hread⟩, ⟨hne, hsmall⟩, by decide +kernel,
    reads_exactly.2 as "+" hne (.inr rfl) hsmall⟩

end LayeredSettings.Duration
