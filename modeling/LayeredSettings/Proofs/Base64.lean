import LayeredSettings.Octets.Base64

set_option autoImplicit false

/-! # Base64 there and back

Reading takes the text of octets back to the octets (`Base64.decode?_encode`). -/

namespace LayeredSettings.Base64

theorem value?_digit : ∀ n < 64, value? (digit n) = some n := by
  decide

theorem digit_ne_padding : ∀ n < 64, digit n ≠ '=' := by
  decide

/-! ## Groups -/

theorem lastOne?_digit {x y : Nat} (hx : x < 64) (hy : y < 64) (hstray : y % 16 = 0) :
    lastOne? (digit x) (digit y) = some [UInt8.ofNat (x * 4 + y / 16)] := by
  simp only [lastOne?, value?_digit x hx, value?_digit y hy, bind, Option.bind, if_pos hstray]

theorem lastTwo?_digit {x y z : Nat} (hx : x < 64) (hy : y < 64) (hz : z < 64)
    (hstray : z % 4 = 0) :
    lastTwo? (digit x) (digit y) (digit z)
      = some [UInt8.ofNat (x * 4 + y / 16), UInt8.ofNat (y % 16 * 16 + z / 4)] := by
  simp only [lastTwo?, value?_digit x hx, value?_digit y hy, value?_digit z hz, bind, Option.bind,
    if_pos hstray]

theorem group?_digit {x y z w : Nat} (hx : x < 64) (hy : y < 64) (hz : z < 64) (hw : w < 64) :
    group? (digit x) (digit y) (digit z) (digit w)
      = some [UInt8.ofNat (x * 4 + y / 16), UInt8.ofNat (y % 16 * 16 + z / 4),
          UInt8.ofNat (z % 4 * 64 + w)] := by
  simp only [group?, value?_digit x hx, value?_digit y hy, value?_digit z hz, value?_digit w hw,
    bind, Option.bind]

theorem decodeChars?_two {a b c : Char} (hc : c ≠ '=') :
    decodeChars? [a, b, c, '='] = lastTwo? a b c := by
  rw [decodeChars?]
  intro h
  exact hc h

/-- A group without padding is a full one, whatever follows. -/
theorem decodeChars?_full {a b c d : Char} (hd : d ≠ '=') (rest : List Char) :
    decodeChars? (a :: b :: c :: d :: rest)
      = (group? a b c d).bind fun octets => (decodeChars? rest).map (octets ++ ·) := by
  rw [decodeChars?]
  · cases group? a b c d <;> cases decodeChars? rest <;> rfl
  · intro _ h
    exact absurd h hd
  · intro h
    exact absurd h hd

theorem ofNat_of_eq_toNat (octet : UInt8) {n : Nat} (h : n = octet.toNat) :
    UInt8.ofNat n = octet := by
  rw [h, UInt8.ofNat_toNat]

/-! ## Texts -/

theorem decodeChars?_encodeChars (octets : List UInt8) :
    decodeChars? (encodeChars octets) = some octets := by
  induction octets using encodeChars.induct with
  | case1 => rfl
  | case2 a =>
    have ha := a.toNat_lt
    show lastOne? _ _ = _
    rw [lastOne?_digit (by omega) (by omega) (by omega), ofNat_of_eq_toNat a (by omega)]
  | case3 a b =>
    have ha := a.toNat_lt
    have hb := b.toNat_lt
    -- The third digit is no padding sign, so two octets are read and not one.
    rw [encodeChars, decodeChars?_two (digit_ne_padding _ (by omega)),
      lastTwo?_digit (by omega) (by omega) (by omega) (by omega), ofNat_of_eq_toNat a (by omega), ofNat_of_eq_toNat b (by omega)]
  | case4 a b c rest ih =>
    have ha := a.toNat_lt
    have hb := b.toNat_lt
    have hc := c.toNat_lt
    rw [encodeChars, decodeChars?_full (digit_ne_padding _ (by omega)), ih,
      group?_digit (by omega) (by omega) (by omega) (by omega),
      ofNat_of_eq_toNat a (by omega), ofNat_of_eq_toNat b (by omega),
      ofNat_of_eq_toNat c (by omega)]
    rfl

theorem decode?_encode (octets : List UInt8) : decode? (encode octets) = some octets := by
  rw [decode?, encode, String.toList_ofList, decodeChars?_encodeChars]

end LayeredSettings.Base64
