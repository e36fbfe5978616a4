import LayeredSettings.Proofs.Durations
import LayeredSettings.Proofs.Fallback

set_option autoImplicit false

/-! # Durations out of range

A duration has 64 bits of nanoseconds. Written amounts are refused if their sum exceeds `2 ^ 64`
after the roundings on the way, so they are refused if the exact sum does by more than these
roundings can take away (`Duration.refuses_overflow`). Between `2 ^ 64 - 1` and there the sum is cut
to the end of the range (`Duration.cut_at_end`). -/

namespace LayeredSettings.Duration

open Binary64 (nearest nearest_error)

/-! ## What roundings take away -/

section Rounding

/- What rounding keeps of a number is at least `low / high` of it. -/
variable {low high : Nat} (hround : ∀ n, low * n ≤ high * nearest n)
include hround

/-- An amount is rounded twice, once its count and once the product. -/
theorem Amount.nanoseconds_le_rounded (a : Amount) :
    low ^ 2 * a.nanoseconds ≤ high ^ 2 * a.rounded := by
  have hcount := hround a.count
  have hproduct := hround (nearest a.count * a.scale)
  calc low ^ 2 * a.nanoseconds = low * (low * a.count) * a.scale := by
        rw [Amount.nanoseconds]
        ring
    _ ≤ low * (high * nearest a.count) * a.scale :=
        Nat.mul_le_mul_right _ (Nat.mul_le_mul_left _ hcount)
    _ = high * (low * (nearest a.count * a.scale)) := by ring
    _ ≤ high * (high * a.rounded) := Nat.mul_le_mul_left _ hproduct
    _ = high ^ 2 * a.rounded := by ring

/-- Every amount adds one rounding to those of the sum before it. -/
theorem total_le_roundedTotal (hle : low ≤ high) (as : List Amount) {start exact roundings : Nat}
    (htwo : 2 ≤ roundings) (hstart : low ^ roundings * exact ≤ high ^ roundings * start) :
    low ^ (roundings + as.length) * (exact + total as)
      ≤ high ^ (roundings + as.length) * roundedTotal start as := by
  -- The sum so far has as many roundings as `roundings` counts, never fewer than an amount has.
  induction as generalizing start exact roundings with
  | nil => exact hstart
  | cons a rest ih =>
    obtain ⟨more, rfl⟩ := Nat.exists_eq_add_of_le htwo
    have hamount : low ^ (2 + more) * a.nanoseconds ≤ high ^ (2 + more) * a.rounded := by
      have hrounded := a.nanoseconds_le_rounded hround
      calc low ^ (2 + more) * a.nanoseconds = low ^ more * (low ^ 2 * a.nanoseconds) := by ring
        _ ≤ high ^ more * (high ^ 2 * a.rounded) :=
            Nat.mul_le_mul (Nat.pow_le_pow_left hle more) hrounded
        _ = high ^ (2 + more) * a.rounded := by ring
    have hstep : low ^ (2 + more + 1) * (exact + a.nanoseconds)
        ≤ high ^ (2 + more + 1) * nearest (start + a.rounded) := by
      calc low ^ (2 + more + 1) * (exact + a.nanoseconds)
          = low * (low ^ (2 + more) * exact + low ^ (2 + more) * a.nanoseconds) := by ring
        _ ≤ low * (high ^ (2 + more) * start + high ^ (2 + more) * a.rounded) :=
            Nat.mul_le_mul_left _ (Nat.add_le_add hstart hamount)
        _ = high ^ (2 + more) * (low * (start + a.rounded)) := by ring
        _ ≤ high ^ (2 + more) * (high * nearest (start + a.rounded)) :=
            Nat.mul_le_mul_left _ (hround _)
        _ = high ^ (2 + more + 1) * nearest (start + a.rounded) := by ring
    have hrest := ih (Nat.le_succ_of_le htwo) hstep
    have hlength : 2 + more + (a :: rest).length = 2 + more + 1 + rest.length := by
      rw [List.length_cons]
      omega
    have hsum : exact + total (a :: rest) = exact + a.nanoseconds + total rest :=
      (Nat.add_assoc _ _ _).symm
    rw [hlength, hsum]
    exact hrest

end Rounding

/-! ## Getters -/

namespace Amount

variable (a : Amount)

theorem not_isBlank_of_mem_unit : ∀ c ∈ a.unit.toList, Text.isBlank c = false :=
  (by simp [units, Text.isBlank] : ∀ u ∈ units, ∀ c ∈ u.1.toList, Text.isBlank c = false) _ a.known

end Amount

theorem not_isBlank_of_mem_spell {as : List Amount} {c : Char} (hc : c ∈ (spell as).toList) :
    Text.isBlank c = false := by
  induction as with
  | nil => simp [spell] at hc
  | cons a rest ih =>
    rw [spell, Amount.text, String.toList_append, String.toList_append, List.mem_append,
      List.mem_append] at hc
    rcases hc with (hc | hc) | hc
    · exact Text.not_isBlank_of_isDigit (Text.isDigit_of_mem_toString hc)
    · exact a.not_isBlank_of_mem_unit c hc
    · exact ih hc

section Spelt

variable {as : List Amount} {sign : String} (hne : as ≠ []) (hsign : sign = "" ∨ sign = "+")
include hne hsign

theorem unsigned64?_spell : Text.unsigned64? (sign ++ spell as) = none := by
  have hdigits : Text.unsigned64? (sign ++ spell as)
      = (Text.natOfDigits? 10 (dropPlus (sign ++ spell as).toList)).filter
          fun n : Nat => Text.isUnsigned64 n := rfl
  obtain ⟨a, rest, rfl⟩ := List.exists_cons_of_ne_nil hne
  obtain ⟨c, hc⟩ := List.exists_mem_of_ne_nil _ a.unit_ne_nil
  have hmem : c ∈ (spell (a :: rest)).toList := by simp [spell, Amount.text, hc]
  have hdigit : Text.isDigit c = false := by
    have hamount := a.not_isAmountChar_of_mem_unit c hc
    rw [isAmountChar, Bool.or_eq_false_iff] at hamount
    exact hamount.1
  rw [hdigits, dropPlus_spell hne hsign,
    Text.natOfDigits?_eq_none hmem (Text.digitValue?_of_not_isDigit hdigit), Option.filter_none]

/-- Getters read written amounts as they are, blanks around them ignored. -/
theorem read_spell {text : String} (h : Text.Padded Text.isBlank (sign ++ spell as) text) :
    Coercion.duration.read (.text text) = ofText? (sign ++ spell as) := by
  have htrim : Text.trim text = sign ++ spell as := by
    refine Text.trim_of_padded h fun c hc => ?_
    rw [String.toList_append, List.mem_append] at hc
    rcases hc with hc | hc
    · rcases hsign with rfl | rfl
      · simp at hc
      · obtain rfl : c = '+' := by simpa using hc
        rfl
    · exact not_isBlank_of_mem_spell hc
  unfold Coercion.duration
  dsimp only
  rw [htrim, Coercion.durationOfText?, unsigned64?_spell hne hsign]

end Spelt

/-! ## The law -/

/-- **Durations out of range are refused.** Written amounts are none, and getters give nothing, if
    their sum exceeds `2 ^ 64` nanoseconds as it is rounded; otherwise they are that sum, or the end
    of the range where the sum is `2 ^ 64`. Of the exact sum, two roundings and one more for every
    amount take at most one part in `2 ^ 53` each. -/
theorem refuses_overflow {as : List Amount} (hne : as ≠ []) {sign : String}
    (hsign : sign = "" ∨ sign = "+") :
    (Word.unsigned64 < roundedTotal 0 as →
        ofText? (sign ++ spell as) = none
          ∧ ∀ (s : Settings) (key text : String), s.get? key = some (.text text) →
              Text.Padded Text.isBlank (sign ++ spell as) text → s.GivesNothing .duration key)
      ∧ (roundedTotal 0 as ≤ Word.unsigned64 →
        ofText? (sign ++ spell as) = some ⟨min (roundedTotal 0 as) (Word.unsigned64 - 1)⟩)
      ∧ ((2 ^ 53) ^ (2 + as.length) * Word.unsigned64 < (2 ^ 53 - 1) ^ (2 + as.length) * total as →
        Word.unsigned64 < roundedTotal 0 as) := by
  have hread := ofText?_spell hne hsign
  refine ⟨fun hlarge => ?_, fun hwithin => ?_, fun hlarge => ?_⟩
  · rw [if_pos hlarge] at hread
    refine ⟨hread, fun s key text hget hpadded => ?_⟩
    have hnone : s.read? .duration key = none := by
      rw [Settings.read?, hget, Option.bind_some, read_spell hne hsign hpadded, hread]
    exact ⟨Settings.read_of_none hnone, Settings.readOr_of_none hnone⟩
  · rw [hread, if_neg (Nat.not_lt.2 hwithin)]
  · have hstart : (2 ^ 53 - 1) ^ 2 * 0 ≤ (2 ^ 53) ^ 2 * 0 := by rw [Nat.mul_zero, Nat.mul_zero]
    have hbound := total_le_roundedTotal (fun n => (nearest_error n).1) (Nat.sub_le _ _) as
      (Nat.le_refl 2) hstart
    rw [Nat.zero_add] at hbound
    exact Nat.lt_of_mul_lt_mul_left (Nat.lt_of_lt_of_le hlarge hbound)

/-- A third of a second too much. -/
theorem refuses_overflow_of_centuries :
    let as : List Amount :=
      [ ⟨5124095, "h", 3600000000000, by decide⟩, ⟨34, "m", 60000000000, by decide⟩,
        ⟨34, "s", 1000000000, by decide⟩ ]
    let s : Settings := { tree := [("limit", .text " 5124095h34m34s ")] }
    (as ≠ [] ∧ Word.unsigned64 - 1 < total as) ∧ spell as = "5124095h34m34s"
      ∧ ofText? "5124095h34m34s" = none ∧ s.GivesNothing .duration "limit" := by
  intro as s
  have hne : as ≠ [] := List.cons_ne_nil _ _
  have hspell : spell as = "5124095h34m34s" := by decide +kernel
  have hlarge : (2 ^ 53) ^ (2 + as.length) * Word.unsigned64
      < (2 ^ 53 - 1) ^ (2 + as.length) * total as := by decide +kernel
  obtain ⟨hnone, hgives⟩ := (refuses_overflow hne (.inl rfl)).1
    ((refuses_overflow hne (.inl rfl)).2.2 hlarge)
  have hpadded : Text.Padded Text.isBlank ("" ++ spell as) " 5124095h34m34s " := by
    refine ⟨[' '], [' '], by simp [Text.isBlank], by simp [Text.isBlank], ?_⟩
    rw [hspell]
    decide +kernel
  refine ⟨⟨hne, by decide +kernel⟩, hspell, ?_, hgives s "limit" _ (by decide +kernel) hpadded⟩
  rwa [String.empty_append, hspell] at hnone

/-- So the end of the range is not exact: `2 ^ 64` nanoseconds are cut to one less, and what is
    rounded to them loses more. -/
theorem cut_at_end :
    let a : Amount := ⟨18446744073709551616, "ns", 1, by decide⟩
    let b : Amount := ⟨18446744073709553664, "ns", 1, by decide⟩
    let s : Settings := { tree := [("limit", .text (spell [a]))] }
    Word.unsigned64 - 1 < total [a] ∧ total [a] < total [b]
      ∧ ofText? (spell [a]) = some ⟨18446744073709551615⟩
      ∧ ofText? (spell [b]) = some ⟨18446744073709551615⟩
      ∧ s.read .duration "limit" = ⟨18446744073709551615⟩
      ∧ s.readOr .duration "limit" ⟨5⟩ = ⟨18446744073709551615⟩ := by
  decide +kernel

end LayeredSettings.Duration
