import LayeredSettings.Proofs.Integers
import LayeredSettings.Proofs.SecretManager

set_option autoImplicit false

/-! # Damage in a few octets is found

A register of the checksum is shifted bit by bit (`Crc32c.shiftBit_xor`) and no bit that leaves it
is lost (`Crc32c.shiftBit_injective`). So octets behind a difference cannot hide it, and four
octets, which fill the register, leave a different one for each of their values
(`Crc32c.feedAll_octets_injective`). Octets that are changed within a window of four have another
checksum, and are refused with the old one (`finds_local_damage`). -/

namespace LayeredSettings

namespace Crc32c

variable {octets others : List UInt8}

/-! ## The register -/

theorem shiftBit_of_odd {r : BitVec 32} (h : r.getLsbD 0 = true) :
    shiftBit r = (r >>> 1) ^^^ polynomial :=
  if_pos h

theorem shiftBit_of_even {r : BitVec 32} (h : r.getLsbD 0 = false) : shiftBit r = r >>> 1 := by
  rw [shiftBit, h, if_neg (by simp)]

/-- The register is shifted bit by bit: a sum in it is shifted as its parts are. -/
theorem shiftBit_xor (a b : BitVec 32) : shiftBit (a ^^^ b) = shiftBit a ^^^ shiftBit b := by
  have hlow : (a ^^^ b).getLsbD 0 = (a.getLsbD 0 ^^ b.getLsbD 0) := BitVec.getLsbD_xor
  have hshift : (a ^^^ b) >>> 1 = (a >>> 1) ^^^ (b >>> 1) := BitVec.ushiftRight_xor_distrib a b 1
  cases ha : a.getLsbD 0 <;> cases hb : b.getLsbD 0 <;> rw [ha, hb] at hlow
  · rw [shiftBit_of_even ha, shiftBit_of_even hb, shiftBit_of_even hlow, hshift]
  · rw [shiftBit_of_even ha, shiftBit_of_odd hb, shiftBit_of_odd hlow, hshift, BitVec.xor_assoc]
  · rw [shiftBit_of_odd ha, shiftBit_of_even hb, shiftBit_of_odd hlow, hshift]
    ac_rfl
  · -- The polynomial is added twice, which leaves nothing of it.
    rw [shiftBit_of_odd ha, shiftBit_of_odd hb, shiftBit_of_even hlow, hshift]
    calc (a >>> 1) ^^^ (b >>> 1)
        = ((a >>> 1) ^^^ (b >>> 1)) ^^^ (polynomial ^^^ polynomial) := by
          rw [BitVec.xor_self, BitVec.xor_zero]
      _ = ((a >>> 1) ^^^ polynomial) ^^^ ((b >>> 1) ^^^ polynomial) := by ac_rfl

/-- The polynomial has its highest bit set, so what is left of a register tells which bit has left
    it. -/
theorem eq_zero_of_shiftBit {r : BitVec 32} (h : shiftBit r = 0#32) : r = 0#32 := by
  have hlow : r.getLsbD 0 = false := by
    cases hbit : r.getLsbD 0 with
    | false => rfl
    | true =>
      rw [shiftBit_of_odd hbit] at h
      have hhigh := congrArg (fun x => x.getLsbD 31) h
      simp [polynomial] at hhigh
  rw [shiftBit_of_even hlow] at h
  apply BitVec.eq_of_getLsbD_eq
  intro i hi
  cases i with
  | zero => rw [hlow, BitVec.getLsbD_zero]
  | succ i =>
    have hbit := congrArg (fun x => x.getLsbD i) h
    simpa [Nat.add_comm] using hbit

theorem shiftBit_injective : Function.Injective shiftBit := by
  intro a b h
  have hsum : a ^^^ b = 0#32 := by
    apply eq_zero_of_shiftBit
    rw [shiftBit_xor, h, BitVec.xor_self]
  exact BitVec.xor_eq_zero_iff.1 hsum

theorem shiftBits_injective (n : Nat) : Function.Injective (shiftBits n) := by
  induction n with
  | zero => exact fun a b h => h
  | succ n ih => exact fun a b h => shiftBit_injective (ih h)

theorem shiftBits_add (m n : Nat) (r : BitVec 32) :
    shiftBits (m + n) r = shiftBits n (shiftBits m r) := by
  induction m generalizing r with
  | zero => rw [Nat.zero_add]; rfl
  | succ m ih =>
    rw [Nat.succ_add]
    exact ih (shiftBit r)

/-- What is so far down that no bit of it is lost is multiplied. -/
theorem toNat_shiftLeft_of_lt {n : Nat} (hn : n ≤ 32) {y : BitVec 32}
    (hy : y.toNat < 2 ^ (32 - n)) : (y <<< n).toNat = y.toNat * 2 ^ n := by
  have hbound : y.toNat * 2 ^ n < 2 ^ 32 := by
    calc y.toNat * 2 ^ n
        < 2 ^ (32 - n) * 2 ^ n := Nat.mul_lt_mul_of_pos_right hy (Nat.two_pow_pos n)
      _ = 2 ^ 32 := by rw [← Nat.pow_add, Nat.sub_add_cancel hn]
  rw [BitVec.toNat_shiftLeft, Nat.shiftLeft_eq, Nat.mod_eq_of_lt hbound]

/-- What no bit leaves of is only moved down. -/
theorem shiftBits_xor_shiftLeft {n : Nat} (hn : n ≤ 32) (x : BitVec 32) {y : BitVec 32}
    (hy : y.toNat < 2 ^ (32 - n)) : shiftBits n (x ^^^ (y <<< n)) = shiftBits n x ^^^ y := by
  induction n generalizing x with
  | zero => rw [BitVec.shiftLeft_zero]; rfl
  | succ n ih =>
    have hless : y.toNat < 2 ^ (32 - n) :=
      Nat.lt_of_lt_of_le hy (Nat.pow_le_pow_right (by decide) (by omega))
    have hstep : shiftBit (y <<< (n + 1)) = y <<< n := by
      have heven : (y <<< (n + 1)).getLsbD 0 = false := by simp
      apply BitVec.eq_of_toNat_eq
      rw [shiftBit_of_even heven, BitVec.toNat_ushiftRight, Nat.shiftRight_eq_div_pow,
        toNat_shiftLeft_of_lt hn hy, toNat_shiftLeft_of_lt (by omega) hless, Nat.pow_succ,
        ← Nat.mul_assoc, Nat.pow_one, Nat.mul_div_cancel _ (by decide)]
    show shiftBits n (shiftBit (x ^^^ (y <<< (n + 1)))) = shiftBits n (shiftBit x) ^^^ y
    rw [shiftBit_xor, hstep, ih (by omega) _ hless]

theorem feedAll_injective (octets : List UInt8) : Function.Injective fun r => feedAll r octets := by
  induction octets with
  | nil => exact fun a b h => h
  | cons o rest ih =>
    intro a b h
    have hfed : feed a o = feed b o := ih h
    exact (BitVec.xor_left_inj _).1 (shiftBits_injective 8 hfed)

theorem feedAll_append (r : BitVec 32) (octets others : List UInt8) :
    feedAll r (octets ++ others) = feedAll (feedAll r octets) others :=
  List.foldl_append

/-! ## Four octets -/

/-- Octets side by side in a register, the first one lowest. -/
def packed : List UInt8 → BitVec 32
  | [] => 0
  | o :: rest => o.toBitVec.setWidth 32 ^^^ (packed rest <<< 8)

theorem packed_lt (octets : List UInt8) : (packed octets).toNat < 2 ^ (8 * octets.length) := by
  induction octets with
  | nil => decide
  | cons o rest ih =>
    have hoctet : (o.toBitVec.setWidth 32).toNat < 2 ^ (8 * (o :: rest).length) := by
      have ho : o.toNat < 2 ^ 8 := o.toNat_lt
      have hle : 2 ^ 8 ≤ 2 ^ (8 * (o :: rest).length) :=
        Nat.pow_le_pow_right (by decide) (by rw [List.length_cons]; omega)
      rw [BitVec.toNat_setWidth]
      exact Nat.lt_of_le_of_lt (Nat.mod_le _ _) (Nat.lt_of_lt_of_le ho hle)
    have hrest : (packed rest <<< 8).toNat < 2 ^ (8 * (o :: rest).length) := by
      rw [BitVec.toNat_shiftLeft, Nat.shiftLeft_eq, List.length_cons, Nat.mul_add, Nat.pow_add]
      exact Nat.lt_of_le_of_lt (Nat.mod_le _ _) (Nat.mul_lt_mul_of_pos_right ih (by decide))
    rw [packed, BitVec.toNat_xor]
    exact Nat.xor_lt_two_pow hoctet hrest

theorem packed_lt_of_length {rest : List UInt8} (h : rest.length ≤ 3) :
    (packed rest).toNat < 2 ^ (32 - 8) :=
  Nat.lt_of_lt_of_le (packed_lt rest) (Nat.pow_le_pow_right (by decide) (by omega))

/-- Four octets fill the register, so that up to four are fed as one. -/
theorem feedAll_eq (r : BitVec 32) (h : octets.length ≤ 4) :
    feedAll r octets = shiftBits (8 * octets.length) (r ^^^ packed octets) := by
  induction octets generalizing r with
  | nil => exact (BitVec.xor_zero).symm
  | cons o rest ih =>
    have hrest : rest.length ≤ 3 := Nat.le_of_succ_le_succ h
    calc feedAll r (o :: rest)
        = feedAll (shiftBits 8 (r ^^^ o.toBitVec.setWidth 32)) rest := rfl
      _ = shiftBits (8 * rest.length)
            (shiftBits 8 (r ^^^ o.toBitVec.setWidth 32) ^^^ packed rest) := ih _ (by omega)
      _ = shiftBits (8 * rest.length)
            (shiftBits 8 (r ^^^ o.toBitVec.setWidth 32 ^^^ (packed rest <<< 8))) := by
          rw [shiftBits_xor_shiftLeft (by decide) _ (packed_lt_of_length hrest)]
      _ = shiftBits (8 * (o :: rest).length) (r ^^^ packed (o :: rest)) := by
          rw [← shiftBits_add, BitVec.xor_assoc, packed, List.length_cons, Nat.mul_succ,
            Nat.add_comm]

theorem setWidth_packed_cons (o : UInt8) (rest : List UInt8) :
    (packed (o :: rest)).setWidth 8 = o.toBitVec := by
  apply BitVec.eq_of_getLsbD_eq
  intro i hi
  simp [packed, hi]

theorem packed_cons_ushiftRight (o : UInt8) {rest : List UInt8} (h : rest.length ≤ 3) :
    packed (o :: rest) >>> 8 = packed rest := by
  have hgone : (o.toBitVec.setWidth 32) >>> 8 = 0#32 := by
    apply BitVec.eq_of_toNat_eq
    have ho : o.toNat < 256 := o.toNat_lt
    simp [Nat.shiftRight_eq_div_pow]
    omega
  have hkept : (packed rest <<< 8) >>> 8 = packed rest := by
    apply BitVec.eq_of_toNat_eq
    rw [BitVec.toNat_ushiftRight, Nat.shiftRight_eq_div_pow,
      toNat_shiftLeft_of_lt (by decide) (packed_lt_of_length h), Nat.mul_div_cancel _ (by decide)]
  rw [packed, BitVec.ushiftRight_xor_distrib, hgone, hkept, BitVec.zero_xor]

theorem packed_injective (h : octets.length ≤ 4) (hlength : octets.length = others.length)
    (hpacked : packed octets = packed others) : octets = others := by
  induction octets generalizing others with
  | nil => exact (List.length_eq_zero_iff.1 hlength.symm).symm
  | cons o rest ih =>
    cases others with
    | nil => cases hlength
    | cons o' rest' =>
      rw [List.length_cons, List.length_cons, Nat.succ_inj] at hlength
      have hrest : rest.length ≤ 3 := Nat.le_of_succ_le_succ h
      have hoctet : o.toBitVec = o'.toBitVec := by
        rw [← setWidth_packed_cons o rest, hpacked, setWidth_packed_cons]
      have hbehind : packed rest = packed rest' := by
        rw [← packed_cons_ushiftRight o hrest, hpacked,
          packed_cons_ushiftRight o' (hlength ▸ hrest)]
      rw [UInt8.toBitVec_inj.1 hoctet, ih (by omega) hlength hbehind]

/-- Up to four octets that differ leave different registers. -/
theorem feedAll_octets_injective {r : BitVec 32} (h : octets.length ≤ 4)
    (hlength : octets.length = others.length) (hfed : feedAll r octets = feedAll r others) :
    octets = others := by
  rw [feedAll_eq r h, feedAll_eq r (hlength ▸ h), ← hlength] at hfed
  exact packed_injective h hlength ((BitVec.xor_right_inj r).1 (shiftBits_injective _ hfed))

/-! ## Damage -/

/-- Two runs of octets of one length that differ inside of a window of so many octets only. -/
def DifferWithin (width : Nat) (a b : List UInt8) : Prop :=
  a.length = b.length ∧ ∃ start, ∀ i, a[i]? ≠ b[i]? → start ≤ i ∧ i < start + width

/-- So they are the same in front of the window and behind it. -/
theorem differWithin_iff {width : Nat} {a b : List UInt8} :
    DifferWithin width a b ↔ ∃ front as bs back, a = front ++ as ++ back ∧ b = front ++ bs ++ back
      ∧ as.length = bs.length ∧ as.length ≤ width := by
  constructor
  · rintro ⟨hlength, start, hsame⟩
    have hfront : b.take start = a.take start := by
      apply List.ext_getElem?
      intro i
      rw [List.getElem?_take, List.getElem?_take]
      split
      · next hi => exact (not_not.1 fun hne => absurd (hsame i hne).1 (by omega)).symm
      · rfl
    have hback : b.drop (start + width) = a.drop (start + width) := by
      apply List.ext_getElem?
      intro i
      rw [List.getElem?_drop, List.getElem?_drop]
      exact (not_not.1 fun hne => absurd (hsame _ hne).2 (by omega)).symm
    have hsplit : ∀ l : List UInt8,
        l = l.take start ++ (l.drop start).take width ++ l.drop (start + width) := by
      intro l
      rw [List.append_assoc, ← List.drop_drop, List.take_append_drop, List.take_append_drop]
    refine ⟨a.take start, (a.drop start).take width, (b.drop start).take width,
      a.drop (start + width), hsplit a, ?_, by simp [hlength], by simp⟩
    rw [← hfront, ← hback]
    exact hsplit b
  · rintro ⟨front, as, bs, back, rfl, rfl, hlength, hwidth⟩
    refine ⟨by simp [hlength], front.length, fun i hne => ?_⟩
    by_contra houtside
    apply hne
    by_cases hi : i < front.length
    · rw [List.append_assoc, List.append_assoc, List.getElem?_append_left hi,
        List.getElem?_append_left hi]
    · rw [List.getElem?_append_right (by simp; omega), List.getElem?_append_right (by simp; omega)]
      simp [hlength]

theorem checksum_ne {a b : List UInt8} (hwindow : DifferWithin 4 a b) (hne : a ≠ b) :
    checksum a ≠ checksum b := by
  obtain ⟨front, as, bs, back, rfl, rfl, hlength, hwidth⟩ := differWithin_iff.1 hwindow
  intro hsum
  have hregister : feedAll (BitVec.allOnes 32) (front ++ as ++ back)
      = feedAll (BitVec.allOnes 32) (front ++ bs ++ back) :=
    BitVec.not_inj.1 (BitVec.eq_of_toNat_eq hsum)
  rw [feedAll_append, feedAll_append, feedAll_append, feedAll_append] at hregister
  have hwindows := feedAll_injective back hregister
  rw [feedAll_octets_injective hwidth hlength hwindows] at hne
  exact hne rfl

end Crc32c

/-! ## Verification -/

/-- A number, or the text of one between blanks, is the checksum that is expected. -/
theorem expectedChecksum?_of_sent {sum : Nat} (h : sum < Word.unsigned64) {sent : Value}
    (hsent : sent = .ofInt sum
      ∨ ∃ text, sent = .text text ∧ Text.Padded Text.isBlank (toString sum) text) :
    SecretPayload.expectedChecksum? (some sent) = some sum := by
  rcases hsent with rfl | ⟨text, rfl, hpadded⟩
  · show (Number.whole sum).unsigned64? = some sum
    rw [Number.unsigned64?_eq_some_iff]
    exact ⟨rfl, h⟩
  · have htrim : Text.trim text = toString sum := Text.trim_of_padded hpadded fun c hc =>
      Text.not_isBlank_of_isDigit (Text.isDigit_of_mem_toString hc)
    rw [SecretPayload.expectedChecksum?, htrim, Text.unsigned64?_toString, if_pos h]

theorem verifyChecksum_of_expected {sent : Option Value} {expected : Nat}
    (h : SecretPayload.expectedChecksum? sent = some expected) (resource : String)
    (octets : List UInt8) :
    verifyChecksum resource octets sent =
      if Crc32c.checksum octets = expected then .ok ()
      else .error (.dataCorruption resource (.mismatch expected (Crc32c.checksum octets))) := by
  rw [verifyChecksum, h]

/-- **Local damage is found.** Octets are taken with their own checksum, sent as a number or as the
    text of one. With that checksum, octets that differ from them within a window of four are refused
    as damaged. -/
theorem finds_local_damage {octets damaged : List UInt8}
    (hwindow : Crc32c.DifferWithin 4 octets damaged) (hne : octets ≠ damaged) (resource : String)
    {sent : Value} (hsent : sent = .ofInt (Crc32c.checksum octets)
      ∨ ∃ text, sent = .text text
          ∧ Text.Padded Text.isBlank (toString (Crc32c.checksum octets)) text) :
    verifyChecksum resource octets (some sent) = .ok ()
      ∧ verifyChecksum resource damaged (some sent) = .error (.dataCorruption resource
          (.mismatch (Crc32c.checksum octets) (Crc32c.checksum damaged))) := by
  have hrange : Crc32c.checksum octets < Word.unsigned64 :=
    Nat.lt_trans (Crc32c.checksum_lt octets) (by decide)
  have hexpected := expectedChecksum?_of_sent hrange hsent
  constructor
  · rw [verifyChecksum_of_expected hexpected, if_pos rfl]
  · rw [verifyChecksum_of_expected hexpected, if_neg (Crc32c.checksum_ne hwindow hne).symm]

/-- Two swapped letters in a document. -/
theorem finds_local_damage_of_swap :
    let octets := Utf8.encode "key: value\n"
    let damaged := Utf8.encode "key: vlaue\n"
    (Crc32c.DifferWithin 4 octets damaged ∧ octets ≠ damaged) ∧ Crc32c.checksum octets = 3281132089
      ∧ verifyChecksum "s" octets (some (.text " 3281132089 ")) = .ok ()
      ∧ ∃ reason, verifyChecksum "s" damaged (some (.text " 3281132089 "))
          = .error (.dataCorruption "s" reason) := by
  intro octets damaged
  have hwindow : Crc32c.DifferWithin 4 octets damaged :=
    Crc32c.differWithin_iff.2 ⟨Utf8.encode "key: v", Utf8.encode "al", Utf8.encode "la",
      Utf8.encode "ue\n", by decide +kernel, by decide +kernel, rfl, by decide +kernel⟩
  have hne : octets ≠ damaged := by decide +kernel
  have hsum : Crc32c.checksum octets = 3281132089 := by decide +kernel
  have hpadded : Text.Padded Text.isBlank (toString (Crc32c.checksum octets)) " 3281132089 " := by
    rw [hsum]
    exact ⟨[' '], [' '], by simp [Text.isBlank], by simp [Text.isBlank], by decide +kernel⟩
  obtain ⟨htaken, hrefused⟩ := finds_local_damage hwindow hne "s" (.inr ⟨_, rfl, hpadded⟩)
  exact ⟨⟨hwindow, hne⟩, hsum, htaken, _, hrefused⟩

end LayeredSettings
