import LayeredSettings.Binary64.Text
import LayeredSettings.Proofs.Rounding
import LayeredSettings.Proofs.Text
import Mathlib.Data.List.Basic

set_option autoImplicit false

/-! # Integers in decimal

What an integer is written as: digits without a needless zero in front, a minus sign before those of
a negative one. The readers of whole numbers give back what was written (`Text.signed64?_toString`),
and the reader of binary64 numbers its rounded value (`Binary64.ofChars?_natCast`). -/

namespace LayeredSettings

namespace Text

/-! ## Digits -/

/-- Only zero is written with a zero in front. -/
theorem head?_toString_ne_zero {n : Nat} (hn : n ≠ 0) : (toString n).toList.head? ≠ some '0' := by
  rw [Nat.toString_eq_ofList_toDigits, String.toList_ofList]
  induction n using Nat.strong_induction_on with
  | h n ih =>
    by_cases hlt : n < 10
    · rw [Nat.toDigits_of_lt_base hlt, List.head?_cons, ne_eq, Option.some.injEq,
        Nat.digitChar_eq_zero]
      exact hn
    · rw [Nat.toDigits_of_base_le (by decide) (by omega),
        List.head?_append_of_ne_nil _ Nat.toDigits_ne_nil]
      exact ih (n / 10) (by omega) (by omega)

theorem digitValue?_of_not_isDigit {c : Char} (h : isDigit c = false) : digitValue? 10 c = none := by
  unfold digitValue?
  rw [h, if_neg (by simp)]
  split
  · rw [Option.filter_some, if_neg (by simp)]
  · rfl

/-- A single character that is no digit of the radix makes a text unreadable. -/
theorem natOfDigits?_eq_none {radix : Nat} {cs : List Char} {c : Char} (hc : c ∈ cs)
    (hvalue : digitValue? radix c = none) : natOfDigits? radix cs = none := by
  have hfold : ∀ n : Nat,
      cs.foldlM (fun n c => (digitValue? radix c).map (n * radix + ·)) n = none := by
    induction cs with
    | nil => cases hc
    | cons d rest ih =>
      intro n
      rw [List.foldlM_cons]
      rcases List.mem_cons.1 hc with rfl | hrest
      · rw [hvalue]
        rfl
      · cases digitValue? radix d with
        | none => rfl
        | some value => exact ih hrest _
  unfold natOfDigits?
  split
  · rfl
  · exact hfold 0

/-! ## Signs -/

theorem toString_natCast (n : Nat) : toString (n : Int) = toString n :=
  rfl

theorem toList_toString_neg {n : Nat} (hn : n ≠ 0) :
    (toString (-(n : Int))).toList = '-' :: (toString n).toList := by
  obtain ⟨k, rfl⟩ := Nat.exists_eq_succ_of_ne_zero hn
  have hminus : toString (-((k.succ : Nat) : Int)) = "-" ++ toString k.succ := rfl
  rw [hminus, String.toList_append]
  rfl

/-- An integer is written in digits, or in digits with a minus sign in front. -/
theorem isDigit_or_minus {n : Int} {c : Char} (h : c ∈ (toString n).toList) :
    isDigit c = true ∨ c = '-' := by
  obtain ⟨k, rfl | rfl⟩ := Int.eq_nat_or_neg n
  · exact .inl (isDigit_of_mem_toString h)
  · by_cases hk : k = 0
    · subst hk
      exact .inl (isDigit_of_mem_toString h)
    · rw [toList_toString_neg hk, List.mem_cons] at h
      exact h.symm.imp_left isDigit_of_mem_toString

/-- The sign stands in front. -/
theorem minus_notMem_tail (n : Int) : '-' ∉ (toString n).toList.tail := by
  have hdigits : ∀ k : Nat, '-' ∉ (toString k).toList := fun k hminus =>
    absurd (isDigit_of_mem_toString hminus) (by decide)
  obtain ⟨k, rfl | rfl⟩ := Int.eq_nat_or_neg n
  · exact fun hminus => hdigits k (List.mem_of_mem_tail hminus)
  · by_cases hk : k = 0
    · subst hk
      exact fun hminus => hdigits 0 (List.mem_of_mem_tail hminus)
    · rw [toList_toString_neg hk, List.tail_cons]
      exact hdigits k

theorem toList_toString_int_ne_nil (n : Int) : (toString n).toList ≠ [] := by
  obtain ⟨k, rfl | rfl⟩ := Int.eq_nat_or_neg n
  · exact toList_toString_ne_nil k
  · by_cases hk : k = 0
    · subst hk
      exact toList_toString_ne_nil 0
    · rw [toList_toString_neg hk]
      exact List.cons_ne_nil _ _

theorem not_isBlank_of_mem_toString {n : Int} {c : Char} (h : c ∈ (toString n).toList) :
    isBlank c = false := by
  rcases isDigit_or_minus h with hdigit | rfl
  · exact not_isBlank_of_isDigit hdigit
  · rfl

theorem not_isLetter_of_mem_toString {n : Int} {c : Char} (h : c ∈ (toString n).toList) :
    isLetter c = false := by
  rcases isDigit_or_minus h with hdigit | rfl
  · exact not_isLetter_of_isDigit hdigit
  · rfl

/-! ## Reading back -/

theorem natOfDigits?_toString (n : Nat) : natOfDigits? 10 (toString n).toList = some n := by
  rw [natOfDigits?_ten (toList_toString_ne_nil n) fun c hc => isDigit_of_mem_toString hc,
    decimalValue_toString]

theorem integer?_of_isDigit {digits : List Char} (h : ∀ c ∈ digits, isDigit c = true) :
    integer? 10 digits = (natOfDigits? 10 digits).map Int.ofNat := by
  unfold integer?
  split
  · exact absurd (h '-' (by simp)) (by decide)
  · exact absurd (h '+' (by simp)) (by decide)
  · cases natOfDigits? 10 digits <;> rfl

/-- An integer is read as it was written. -/
theorem integer?_toString (n : Int) : integer? 10 (toString n).toList = some n := by
  have hnatural : ∀ k : Nat, integer? 10 (toString (k : Int)).toList = some (k : Int) := by
    intro k
    rw [toString_natCast, integer?_of_isDigit fun c hc => isDigit_of_mem_toString hc,
      natOfDigits?_toString]
    rfl
  obtain ⟨k, rfl | rfl⟩ := Int.eq_nat_or_neg n
  · exact hnatural k
  · by_cases hk : k = 0
    · subst hk
      exact hnatural 0
    · rw [toList_toString_neg hk, integer?, natOfDigits?_toString]
      rfl

theorem signed64?_toString (n : Int) :
    signed64? (toString n) = if isSigned64 n then some n else none := by
  rw [signed64?, integer?_toString, Option.filter_some]

theorem unsigned64?_toString (n : Nat) :
    unsigned64? (toString n) = if n < Word.unsigned64 then some n else none := by
  have hrange : isUnsigned64 n = decide (n < Word.unsigned64) := by
    simp only [isUnsigned64, Int.natCast_nonneg, decide_true, Bool.true_and, Int.ofNat_lt]
  have hsign : (toString n).toList.head? ≠ some '+' := fun hplus =>
    ne_of_isDigit (isDigit_of_mem_toString (List.mem_of_head? hplus)) rfl rfl
  unfold unsigned64?
  split
  · next rest hplus => exact absurd (by rw [hplus, List.head?_cons]) hsign
  · show ((natOfDigits? 10 (toString n).toList).filter fun k : Nat => isUnsigned64 k) = _
    rw [natOfDigits?_toString, Option.filter_some, hrange]
    simp only [decide_eq_true_eq]

/-! ## Blanks around a text -/

/-- The text is `s` with characters of the class `p` on both sides, or on neither. -/
def Padded (p : Char → Bool) (s text : String) : Prop :=
  ∃ front back : List Char, (∀ c ∈ front, p c = true) ∧ (∀ c ∈ back, p c = true)
    ∧ text.toList = front ++ s.toList ++ back

theorem trim_of_padded {s text : String} (h : Padded isBlank s text)
    (hs : ∀ c ∈ s.toList, isBlank c = false) : trim text = s := by
  obtain ⟨front, back, hfront, hback, htext⟩ := h
  have hhead : ∀ c, s.toList.head? = some c → isBlank c = false :=
    fun c hc => hs c (List.mem_of_head? hc)
  have hlast : ∀ c, s.toList.getLast? = some c → isBlank c = false :=
    fun c hc => hs c (List.mem_of_getLast? hc)
  rw [trim, htext, stripWhile_append hfront hback hhead hlast, String.ofList_toList]

end Text

/-! ## Reading binary64 numbers -/

namespace Binary64

/-- What has no letters is no word, and what no sign starts is not signed. -/
theorem ofChars?_of_unsigned {cs : List Char} (hletter : ∀ c ∈ cs, Text.isLetter c = false)
    (hminus : cs.head? ≠ some '-') (hplus : cs.head? ≠ some '+') :
    ofChars? cs = decimalPart? false cs := by
  have hsign : splitSign cs = (false, cs) := by
    unfold splitSign
    split
    · simp at hminus
    · simp at hplus
    · rfl
  have hword : ∀ word : String, (∃ c ∈ word.toList, Text.isLetter c = true) →
      String.ofList (cs.map Text.lowerChar) ≠ word :=
    fun _ => Text.ofList_lowerChar_ne hletter
  have hinf := hword "inf" ⟨'i', by simp, rfl⟩
  have hinfinity := hword "infinity" ⟨'i', by simp, rfl⟩
  have hnan := hword "nan" ⟨'n', by simp, rfl⟩
  unfold ofChars?
  rw [hsign]
  simp only [hinf, hinfinity, hnan, or_self, if_false]

theorem decimalPart?_of_isDigit {digits : List Char} (hne : digits ≠ [])
    (h : ∀ c ∈ digits, Text.isDigit c = true) :
    decimalPart? false digits = some (ofDecimal false (Text.decimalValue digits) 0) := by
  have hrest : digits.dropWhile Text.isDigit = [] := List.dropWhile_eq_nil_iff.2 h
  have hwhole : digits.takeWhile Text.isDigit = digits := List.takeWhile_eq_self_iff.2 h
  have hempty : digits.isEmpty = false := by simpa using hne
  simp [decimalPart?, hrest, hwhole, hempty, exponentPart?]

/-- A decimal with a point: the digits on both sides count, at least one of them is there. -/
theorem decimalPart?_point (negative : Bool) {whole : List Char}
    (h : ∀ c ∈ whole, Text.isDigit c = true) (more : List Char) :
    decimalPart? negative (whole ++ '.' :: more)
      = if whole.isEmpty && (more.takeWhile Text.isDigit).isEmpty then none
        else (exponentPart? (more.dropWhile Text.isDigit)).map fun e =>
          ofDecimal negative (Text.decimalValue (whole ++ more.takeWhile Text.isDigit))
            (e - (more.takeWhile Text.isDigit).length) := by
  have hwhole : (whole ++ '.' :: more).takeWhile Text.isDigit = whole :=
    Text.takeWhile_append_cons h rfl more
  have hrest : (whole ++ '.' :: more).dropWhile Text.isDigit = '.' :: more := by
    rw [List.dropWhile_append_of_pos h]
    rfl
  unfold decimalPart?
  rw [hwhole, hrest]
  rfl

theorem ofDecimal_natCast (n : Nat) : ofDecimal false n 0 = ofInt n := by
  by_cases hn : n = 0
  · subst hn
    rfl
  · have hlow : ¬ (0 : Int) + (Nat.log2 n : Int) + 1 < -400 := by omega
    rw [ofInt_natCast, ofDecimal, if_neg hn, if_neg (by decide), if_neg hlow, if_pos (Int.le_refl 0)]
    show ofRatio false (n * 1) 1 = _
    rw [Nat.mul_one]

/-- A number in digits is read as the nearest number of the format. -/
theorem ofChars?_natCast (n : Nat) : ofChars? (toString n).toList = some (ofInt n) := by
  have hdigits : ∀ c ∈ (toString n).toList, Text.isDigit c = true :=
    fun c hc => Text.isDigit_of_mem_toString hc
  have hhead : ∀ d, Text.isDigit d = false → (toString n).toList.head? ≠ some d :=
    fun d hd h => Text.ne_of_isDigit (hdigits d (List.mem_of_head? h)) hd rfl
  rw [ofChars?_of_unsigned (fun c hc => Text.not_isLetter_of_isDigit (hdigits c hc))
      (hhead '-' rfl) (hhead '+' rfl),
    decimalPart?_of_isDigit (Text.toList_toString_ne_nil n) hdigits, Text.decimalValue_toString,
    ofDecimal_natCast]

end Binary64

end LayeredSettings
