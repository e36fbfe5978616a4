import LayeredSettings.Proofs.Utf8
import Mathlib.Data.Char
import Mathlib.Tactic.SplitIfs

set_option autoImplicit false

/-! # UTF-8 keeps the order of texts

Texts are compared character by character and their octets one by one, and both come to the same
(`Utf8.encode_lt_encode_iff`). For the octets of two characters differ within both of them, and where
they first do, the smaller character has the smaller octet. -/

namespace LayeredSettings.Utf8

/-! ## One character -/

/-- Octets compare as the numbers that they were made of, and if these are equal, as what follows. -/
theorem octets_lt_iff {m n : Nat} {x y : List UInt8} (hm : m < 0x100) (hn : n < 0x100) :
    UInt8.ofNat m :: x < UInt8.ofNat n :: y ↔ m < n ∨ m = n ∧ x < y := by
  rw [List.cons_lt_cons_iff, UInt8.lt_iff_toNat_lt, ← UInt8.toNat_inj, toNat_octet hm, toNat_octet hn]

/-- Of two numbers, the smaller one has the smaller digit to base 64 where they first differ. -/
theorem digits_lt {m n : Nat} (h : m < n) :
    m / 0x40000 < n / 0x40000 ∨ m / 0x40000 = n / 0x40000
      ∧ (m / 0x1000 % 0x40 < n / 0x1000 % 0x40 ∨ m / 0x1000 % 0x40 = n / 0x1000 % 0x40
        ∧ (m / 0x40 % 0x40 < n / 0x40 % 0x40 ∨ m / 0x40 % 0x40 = n / 0x40 % 0x40
          ∧ m % 0x40 < n % 0x40)) := by
  have hone : m / 0x40 < n / 0x40 ∨ m / 0x40 = n / 0x40 ∧ m % 0x40 < n % 0x40 := by omega
  have htwo : m / 0x40 < n / 0x40 →
      m / 0x1000 < n / 0x1000 ∨ m / 0x1000 = n / 0x1000 ∧ m / 0x40 % 0x40 < n / 0x40 % 0x40 := by
    omega
  have hthree : m / 0x1000 < n / 0x1000 →
      m / 0x40000 < n / 0x40000
        ∨ m / 0x40000 = n / 0x40000 ∧ m / 0x1000 % 0x40 < n / 0x1000 % 0x40 := by
    omega
  omega

/-- The octets of a smaller character are smaller, whatever follows them. -/
theorem encodeChar_lt {c d : Char} (h : c < d) (x y : List UInt8) :
    String.utf8EncodeChar c ++ x < String.utf8EncodeChar d ++ y := by
  have hlt : c.toNat < d.toNat := h
  have hd : d.toNat < 0x110000 := by
    rcases d.valid with hlow | ⟨-, hhigh⟩
    · exact Nat.lt_trans hlow (by decide)
    · exact hhigh
  have hvalue : ∀ e : Char, e.val.toNat = e.toNat := fun _ => rfl
  unfold String.utf8EncodeChar
  simp only [hvalue]
  generalize c.toNat = m at hlt ⊢
  generalize d.toNat = n at hlt hd ⊢
  have hdigits := digits_lt hlt
  have hm : m / 0x40000 % 8 = m / 0x40000 := by omega
  have hn : n / 0x40000 % 8 = n / 0x40000 := by omega
  split_ifs
  -- The smaller character is not the longer one.
  any_goals omega
  -- Characters of unequal length differ in their first octets, those of equal length in the octet
  -- that carries the first digit in which they differ.
  all_goals
    simp (disch := omega) only [List.cons_append, List.nil_append, octets_lt_iff]
    omega

/-! ## A text -/

theorem append_lt_append_iff (front : List UInt8) {x y : List UInt8} :
    front ++ x < front ++ y ↔ x < y := by
  induction front with
  | nil => rfl
  | cons octet front ih =>
    rw [List.cons_append, List.cons_append, List.cons_lt_cons_iff, ih]
    simp

theorem encodeChars_lt_iff {cs ds : List Char} :
    cs.flatMap String.utf8EncodeChar < ds.flatMap String.utf8EncodeChar ↔ cs < ds := by
  induction cs generalizing ds with
  | nil =>
    cases ds with
    | nil => simp
    | cons d ds =>
      obtain ⟨octet, rest, hd⟩ := List.exists_cons_of_ne_nil (String.utf8EncodeChar_ne_nil (c := d))
      simp [hd]
  | cons c cs ih =>
    cases ds with
    | nil => simp
    | cons d ds =>
      rw [List.flatMap_cons, List.flatMap_cons, List.cons_lt_cons_iff]
      rcases lt_trichotomy c d with hlt | rfl | hgt
      · exact iff_of_true (encodeChar_lt hlt _ _) (.inl hlt)
      · rw [append_lt_append_iff, ih]
        simp
      · have hoctets := encodeChar_lt hgt (ds.flatMap String.utf8EncodeChar)
          (cs.flatMap String.utf8EncodeChar)
        have hchars : ¬ (c < d ∨ c = d ∧ cs < ds) := by
          rintro (hlt | ⟨rfl, -⟩)
          · exact lt_asymm hlt hgt
          · exact lt_irrefl c hgt
        exact iff_of_false (List.lt_asymm hoctets) hchars

/-- Texts are ordered as their octets are. -/
theorem encode_lt_encode_iff {s t : String} : encode s < encode t ↔ s < t :=
  encodeChars_lt_iff

end LayeredSettings.Utf8
