import LayeredSettings.Octets.Utf8

set_option autoImplicit false

/-! # UTF-8 there and back

The octets of a text are read as the characters of the text, and as nothing else: strict and lossy
decoding agree on them (`Utf8.decode?_encode`, `Utf8.decodeLossy_encode`). Octets of no text are
refused by strict decoding (`Utf8.decode?_eq_none_iff`), and lossy decoding puts the replacement
character into what it makes of them (`Utf8.replacement_mem_decodeLossy`). -/

namespace LayeredSettings.Utf8

/-! ## One octet -/

theorem toNat_octet {n : Nat} (h : n < 0x100) : (UInt8.ofNat n).toNat = n :=
  UInt8.toNat_ofNat_of_lt' h

theorem unitsFrom_cons (state : State) (octet : UInt8) (rest : List UInt8) :
    unitsFrom state (octet :: rest)
      = (next state octet.toNat).1 ++ unitsFrom (next state octet.toNat).2 rest := by
  cases state <;> rfl

/-- A continuation octet with `x` as its bits. -/
theorem unitsFrom_inside {bits missing lo hi x : Nat} {rest : List UInt8} (hx : x < 0x40)
    (hlo : lo ≤ x + 0x80) (hhi : x + 0x80 ≤ hi) :
    unitsFrom (.inside bits missing lo hi) (UInt8.ofNat (x + 0x80) :: rest)
      = if missing ≤ 1 then some (Char.ofNat (bits * 0x40 + x)) :: unitsFrom .between rest
        else unitsFrom (.inside (bits * 0x40 + x) (missing - 1) 0x80 0xBF) rest := by
  have hoctet : (UInt8.ofNat (x + 0x80)).toNat = x + 0x80 := toNat_octet (by omega)
  rw [unitsFrom_cons, hoctet]
  simp only [next]
  rw [if_pos ⟨hlo, hhi⟩, Nat.add_sub_cancel]
  split <;> rfl

/-! ## One character -/

theorem unitsFrom_two {x y : Nat} {rest : List UInt8} (hx : 2 ≤ x) (hx' : x < 0x20) (hy : y < 0x40) :
    unitsFrom .between (UInt8.ofNat (x + 0xC0) :: UInt8.ofNat (y + 0x80) :: rest)
      = some (Char.ofNat (x * 0x40 + y)) :: unitsFrom .between rest := by
  have hoctet : (UInt8.ofNat (x + 0xC0)).toNat = x + 0xC0 := toNat_octet (by omega)
  have hfirst : next .between (x + 0xC0) = ([], .inside x 1 0x80 0xBF) := by
    simp only [next, first]
    rw [if_neg (by omega), if_pos (by omega), Nat.add_sub_cancel]
  rw [unitsFrom_cons, hoctet, hfirst]
  exact unitsFrom_inside hy (by omega) (by omega)

theorem unitsFrom_three {x y z : Nat} {rest : List UInt8} (hx : x < 0x10) (hy : y < 0x40)
    (hz : z < 0x40) (overlong : 0x20 ≤ x * 0x40 + y) (surrogate : x = 0xD → y < 0x20) :
    unitsFrom .between
        (UInt8.ofNat (x + 0xE0) :: UInt8.ofNat (y + 0x80) :: UInt8.ofNat (z + 0x80) :: rest)
      = some (Char.ofNat ((x * 0x40 + y) * 0x40 + z)) :: unitsFrom .between rest := by
  have hoctet : (UInt8.ofNat (x + 0xE0)).toNat = x + 0xE0 := toNat_octet (by omega)
  have hfirst : ∃ lo hi, next .between (x + 0xE0) = ([], .inside x 2 lo hi)
      ∧ lo ≤ y + 0x80 ∧ y + 0x80 ≤ hi := by
    simp only [next, first]
    rw [if_neg (by omega), if_neg (by omega)]
    -- The bounds of the second octet are narrower behind `0xE0` and `0xED`.
    by_cases h0 : x = 0
    · subst h0
      exact ⟨0xA0, 0xBF, rfl, by omega, by omega⟩
    · by_cases hD : x = 0xD
      · subst hD
        have := surrogate rfl
        exact ⟨0x80, 0x9F, rfl, by omega, by omega⟩
      · rw [if_neg (by omega), if_neg (by omega), if_pos (by omega), Nat.add_sub_cancel]
        exact ⟨0x80, 0xBF, rfl, by omega, by omega⟩
  obtain ⟨lo, hi, hnext, hlo, hhi⟩ := hfirst
  rw [unitsFrom_cons, hoctet, hnext]
  show unitsFrom (.inside x 2 lo hi) _ = _
  rw [unitsFrom_inside hy hlo hhi, if_neg (by omega), unitsFrom_inside hz (by omega) (by omega),
    if_pos (by omega)]

theorem unitsFrom_four {x y z t : Nat} {rest : List UInt8} (hx : x < 5) (hy : y < 0x40)
    (hz : z < 0x40) (ht : t < 0x40) (overlong : 0x10 ≤ x * 0x40 + y) (last : x = 4 → y < 0x10) :
    unitsFrom .between
        (UInt8.ofNat (x + 0xF0) :: UInt8.ofNat (y + 0x80) :: UInt8.ofNat (z + 0x80)
          :: UInt8.ofNat (t + 0x80) :: rest)
      = some (Char.ofNat (((x * 0x40 + y) * 0x40 + z) * 0x40 + t)) :: unitsFrom .between rest := by
  have hoctet : (UInt8.ofNat (x + 0xF0)).toNat = x + 0xF0 := toNat_octet (by omega)
  have hfirst : ∃ lo hi, next .between (x + 0xF0) = ([], .inside x 3 lo hi)
      ∧ lo ≤ y + 0x80 ∧ y + 0x80 ≤ hi := by
    simp only [next, first]
    rw [if_neg (by omega), if_neg (by omega), if_neg (by omega), if_neg (by omega),
      if_neg (by omega)]
    -- Here the narrower bounds are those behind `0xF0` and `0xF4`.
    by_cases h0 : x = 0
    · subst h0
      exact ⟨0x90, 0xBF, rfl, by omega, by omega⟩
    · by_cases h4 : x = 4
      · subst h4
        have := last rfl
        exact ⟨0x80, 0x8F, rfl, by omega, by omega⟩
      · rw [if_neg (by omega), if_neg (by omega), if_pos (by omega), Nat.add_sub_cancel]
        exact ⟨0x80, 0xBF, rfl, by omega, by omega⟩
  obtain ⟨lo, hi, hnext, hlo, hhi⟩ := hfirst
  rw [unitsFrom_cons, hoctet, hnext]
  show unitsFrom (.inside x 3 lo hi) _ = _
  rw [unitsFrom_inside hy hlo hhi, if_neg (by omega), unitsFrom_inside hz (by omega) (by omega),
    if_neg (by omega), unitsFrom_inside ht (by omega) (by omega), if_pos (by omega)]

/-- The octets of a character are read as this character. -/
theorem unitsFrom_encodeChar (c : Char) (rest : List UInt8) :
    unitsFrom .between (String.utf8EncodeChar c ++ rest) = some c :: unitsFrom .between rest := by
  have hc : Char.ofNat c.toNat = c := Char.ofNat_toNat c
  have hvalid : c.toNat < 0xD800 ∨ 0xDFFF < c.toNat ∧ c.toNat < 0x110000 := c.valid
  have hval : c.val.toNat = c.toNat := rfl
  unfold String.utf8EncodeChar
  simp only [hval]
  generalize c.toNat = n at hc hvalid ⊢
  subst hc
  -- One case for each length; the code is the sum of the bits that its octets carry.
  split
  · next h =>
    have hoctet : (UInt8.ofNat n).toNat = n := toNat_octet (by omega)
    have hfirst : next .between n = ([some (Char.ofNat n)], .between) := by
      simp only [next, first]
      rw [if_pos (by omega)]
    rw [List.cons_append, unitsFrom_cons, hoctet, hfirst]
    rfl
  · split
    · next h =>
      have hn : n = n / 0x40 % 0x20 * 0x40 + n % 0x40 := by omega
      rw [List.cons_append, List.cons_append, unitsFrom_two (by omega) (by omega) (by omega), ← hn]
      rfl
    · split
      · next h =>
        have hn : n = (n / 0x1000 % 0x10 * 0x40 + n / 0x40 % 0x40) * 0x40 + n % 0x40 := by omega
        rw [List.cons_append, List.cons_append, List.cons_append,
          unitsFrom_three (by omega) (by omega) (by omega) (by omega) (by omega), ← hn]
        rfl
      · next h =>
        have hn : n = ((n / 0x40000 % 8 * 0x40 + n / 0x1000 % 0x40) * 0x40 + n / 0x40 % 0x40) * 0x40
            + n % 0x40 := by omega
        rw [List.cons_append, List.cons_append, List.cons_append, List.cons_append,
          unitsFrom_four (by omega) (by omega) (by omega) (by omega) (by omega) (by omega), ← hn]
        rfl

/-! ## A text -/

/-- The octets of a text are read as the characters of the text. -/
theorem units_encode (s : String) : units (encode s) = s.toList.map some := by
  have hchars : ∀ cs : List Char,
      unitsFrom .between (cs.flatMap String.utf8EncodeChar) = cs.map some := by
    intro cs
    induction cs with
    | nil => rfl
    | cons c rest ih => rw [List.flatMap_cons, unitsFrom_encodeChar, ih, List.map_cons]
  exact hchars s.toList

theorem decode?_encode (s : String) : decode? (encode s) = some s := by
  have hall : ∀ cs : List Char, (cs.map some).mapM (m := Option) id = some cs := by
    intro cs
    induction cs with
    | nil => rfl
    | cons c rest ih => simp [ih]
  rw [decode?, units_encode, hall]
  simp

theorem decodeLossy_encode (s : String) : decodeLossy (encode s) = s := by
  rw [decodeLossy, units_encode, List.map_map]
  simp [Function.comp_def]

/-! ## The octets of what was read -/

theorem toNat_ofNat {n : Nat} (h : n.isValidChar) : (Char.ofNat n).val.toNat = n := by
  rw [Char.ofNat, dif_pos h]
  rfl

theorem encodeChar_one {n : Nat} (h : n < 0x80) :
    String.utf8EncodeChar (Char.ofNat n) = [UInt8.ofNat n] := by
  have hvalid : n.isValidChar := .inl (by omega)
  unfold String.utf8EncodeChar
  simp only [toNat_ofNat hvalid]
  rw [if_pos (by omega)]

theorem encodeChar_two {x y : Nat} (hx : 2 ≤ x) (hx' : x < 0x20) (hy : y < 0x40) :
    String.utf8EncodeChar (Char.ofNat (x * 0x40 + y))
      = [UInt8.ofNat (x + 0xC0), UInt8.ofNat (y + 0x80)] := by
  have hvalid : (x * 0x40 + y).isValidChar := .inl (by omega)
  have hlead : (x * 0x40 + y) / 0x40 % 0x20 = x := by omega
  have hlast : (x * 0x40 + y) % 0x40 = y := by omega
  unfold String.utf8EncodeChar
  simp only [toNat_ofNat hvalid]
  rw [if_neg (by omega), if_pos (by omega), hlead, hlast]

theorem encodeChar_three {x y z : Nat} (hx : x < 0x10) (hy : y < 0x40) (hz : z < 0x40)
    (overlong : 0x20 ≤ x * 0x40 + y) (surrogate : x = 0xD → y < 0x20) :
    String.utf8EncodeChar (Char.ofNat ((x * 0x40 + y) * 0x40 + z))
      = [UInt8.ofNat (x + 0xE0), UInt8.ofNat (y + 0x80), UInt8.ofNat (z + 0x80)] := by
  have hvalid : ((x * 0x40 + y) * 0x40 + z).isValidChar := by
    unfold Nat.isValidChar
    omega
  have hlead : ((x * 0x40 + y) * 0x40 + z) / 0x1000 % 0x10 = x := by omega
  have hmiddle : ((x * 0x40 + y) * 0x40 + z) / 0x40 % 0x40 = y := by omega
  have hlast : ((x * 0x40 + y) * 0x40 + z) % 0x40 = z := by omega
  unfold String.utf8EncodeChar
  simp only [toNat_ofNat hvalid]
  rw [if_neg (by omega), if_neg (by omega), if_pos (by omega), hlead, hmiddle, hlast]

theorem encodeChar_four {x y z t : Nat} (hx : x < 5) (hy : y < 0x40) (hz : z < 0x40) (ht : t < 0x40)
    (overlong : 0x10 ≤ x * 0x40 + y) (last : x = 4 → y < 0x10) :
    String.utf8EncodeChar (Char.ofNat (((x * 0x40 + y) * 0x40 + z) * 0x40 + t))
      = [UInt8.ofNat (x + 0xF0), UInt8.ofNat (y + 0x80), UInt8.ofNat (z + 0x80),
          UInt8.ofNat (t + 0x80)] := by
  have hvalid : (((x * 0x40 + y) * 0x40 + z) * 0x40 + t).isValidChar := by
    unfold Nat.isValidChar
    omega
  have hlead : (((x * 0x40 + y) * 0x40 + z) * 0x40 + t) / 0x40000 % 8 = x := by omega
  have hsecond : (((x * 0x40 + y) * 0x40 + z) * 0x40 + t) / 0x1000 % 0x40 = y := by omega
  have hthird : (((x * 0x40 + y) * 0x40 + z) * 0x40 + t) / 0x40 % 0x40 = z := by omega
  have hlast : (((x * 0x40 + y) * 0x40 + z) * 0x40 + t) % 0x40 = t := by omega
  unfold String.utf8EncodeChar
  simp only [toNat_ofNat hvalid]
  rw [if_neg (by omega), if_neg (by omega), if_neg (by omega), hlead, hsecond, hthird, hlast]

/-- Inside a character that is read to its end comes a continuation octet. -/
theorem exists_continuation {bits missing lo hi : Nat} {octets : List UInt8} {cs : List Char}
    (hlo : 0x80 ≤ lo) (hhi : hi ≤ 0xBF)
    (h : unitsFrom (.inside bits missing lo hi) octets = cs.map some) :
    ∃ x rest, octets = UInt8.ofNat (x + 0x80) :: rest ∧ x < 0x40 ∧ lo ≤ x + 0x80 ∧ x + 0x80 ≤ hi := by
  cases octets with
  | nil =>
    have hmem : none ∈ cs.map some := by
      rw [← h]
      exact List.mem_singleton.2 rfl
    simp at hmem
  | cons octet rest =>
    by_cases hrange : lo ≤ octet.toNat ∧ octet.toNat ≤ hi
    · have hsum : octet.toNat - 0x80 + 0x80 = octet.toNat := by omega
      refine ⟨octet.toNat - 0x80, rest, ?_, by omega, by omega, by omega⟩
      rw [hsum, UInt8.ofNat_toNat]
    · have hmem : none ∈ cs.map some := by
        rw [← h, unitsFrom_cons]
        simp [next, hrange]
      simp at hmem

/-- What is read first was written by the first octets. -/
def StartsWithChar (octets : List UInt8) (cs : List Char) : Prop :=
  ∃ c cs' rest, cs = c :: cs' ∧ octets = String.utf8EncodeChar c ++ rest
    ∧ unitsFrom .between rest = cs'.map some

theorem exists_of_cons_map {c : Char} {octets : List UInt8} {cs : List Char}
    (h : some c :: unitsFrom .between octets = cs.map some) :
    ∃ cs', cs = c :: cs' ∧ unitsFrom .between octets = cs'.map some := by
  obtain ⟨d, cs', rfl, hd, hcs'⟩ := List.map_eq_cons_iff.1 h.symm
  obtain rfl := Option.some.inj hd
  exact ⟨cs', rfl, hcs'.symm⟩

theorem startsWithChar_two {x : Nat} {octets : List UInt8} {cs : List Char} (hx : 2 ≤ x)
    (hx' : x < 0x20) (h : unitsFrom (.inside x 1 0x80 0xBF) octets = cs.map some) :
    StartsWithChar (UInt8.ofNat (x + 0xC0) :: octets) cs := by
  obtain ⟨y, rest, rfl, hy, hlo, hhi⟩ := exists_continuation (by omega) (by omega) h
  rw [unitsFrom_inside hy hlo hhi, if_pos (by omega)] at h
  obtain ⟨cs', rfl, hcs'⟩ := exists_of_cons_map h
  exact ⟨_, cs', rest, rfl, by rw [encodeChar_two hx hx' hy]; rfl, hcs'⟩

theorem startsWithChar_three {x lo hi : Nat} {octets : List UInt8} {cs : List Char} (hx : x < 0x10)
    (hlo : 0x80 ≤ lo) (hhi : hi ≤ 0xBF) (overlong : x = 0 → 0xA0 ≤ lo)
    (surrogate : x = 0xD → hi ≤ 0x9F) (h : unitsFrom (.inside x 2 lo hi) octets = cs.map some) :
    StartsWithChar (UInt8.ofNat (x + 0xE0) :: octets) cs := by
  obtain ⟨y, octets, rfl, hy, hylo, hyhi⟩ := exists_continuation hlo hhi h
  rw [unitsFrom_inside hy hylo hyhi, if_neg (by omega)] at h
  obtain ⟨z, rest, rfl, hz, hzlo, hzhi⟩ := exists_continuation (by omega) (by omega) h
  rw [unitsFrom_inside hz hzlo hzhi, if_pos (by omega)] at h
  obtain ⟨cs', rfl, hcs'⟩ := exists_of_cons_map h
  refine ⟨_, cs', rest, rfl, ?_, hcs'⟩
  rw [encodeChar_three hx hy hz (by omega) (by omega)]
  rfl

theorem startsWithChar_four {x lo hi : Nat} {octets : List UInt8} {cs : List Char} (hx : x < 5)
    (hlo : 0x80 ≤ lo) (hhi : hi ≤ 0xBF) (overlong : x = 0 → 0x90 ≤ lo) (last : x = 4 → hi ≤ 0x8F)
    (h : unitsFrom (.inside x 3 lo hi) octets = cs.map some) :
    StartsWithChar (UInt8.ofNat (x + 0xF0) :: octets) cs := by
  obtain ⟨y, octets, rfl, hy, hylo, hyhi⟩ := exists_continuation hlo hhi h
  rw [unitsFrom_inside hy hylo hyhi, if_neg (by omega)] at h
  obtain ⟨z, octets, rfl, hz, hzlo, hzhi⟩ := exists_continuation (by omega) (by omega) h
  rw [unitsFrom_inside hz hzlo hzhi, if_neg (by omega)] at h
  obtain ⟨t, rest, rfl, ht, htlo, hthi⟩ := exists_continuation (by omega) (by omega) h
  rw [unitsFrom_inside ht htlo hthi, if_pos (by omega)] at h
  obtain ⟨cs', rfl, hcs'⟩ := exists_of_cons_map h
  refine ⟨_, cs', rest, rfl, ?_, hcs'⟩
  rw [encodeChar_four hx hy hz ht (by omega) (by omega)]
  rfl

theorem ofNat_sub_add (octet : UInt8) {n : Nat} (h : n ≤ octet.toNat) :
    UInt8.ofNat (octet.toNat - n + n) = octet := by
  rw [Nat.sub_add_cancel h, UInt8.ofNat_toNat]

/-- Octets that are read as characters start with the octets of the first one. -/
theorem startsWithChar_of_units {octet : UInt8} {octets : List UInt8} {cs : List Char}
    (h : unitsFrom .between (octet :: octets) = cs.map some) :
    StartsWithChar (octet :: octets) cs := by
  have hoctet := octet.toNat_lt
  rw [unitsFrom_cons] at h
  simp only [next, first] at h
  -- The first octet tells how many follow, and the bounds of the next one.
  split at h
  · next hone =>
    obtain ⟨cs', rfl, hcs'⟩ := exists_of_cons_map h
    refine ⟨_, cs', octets, rfl, ?_, hcs'⟩
    rw [encodeChar_one hone, UInt8.ofNat_toNat]
    rfl
  split at h
  · next htwo =>
    rw [← ofNat_sub_add octet (n := 0xC0) (by omega)]
    exact startsWithChar_two (by omega) (by omega) h
  split at h
  · next hE0 =>
    rw [← ofNat_sub_add octet (n := 0xE0) (by omega), hE0]
    exact startsWithChar_three (by omega) (by omega) (by omega) (by omega) (by omega) h
  split at h
  · next hED =>
    rw [← ofNat_sub_add octet (n := 0xE0) (by omega), hED]
    exact startsWithChar_three (by omega) (by omega) (by omega) (by omega) (by omega) h
  split at h
  · next hthree =>
    rw [← ofNat_sub_add octet (n := 0xE0) (by omega)]
    exact startsWithChar_three (by omega) (by omega) (by omega) (by omega) (by omega) h
  split at h
  · next hF0 =>
    rw [← ofNat_sub_add octet (n := 0xF0) (by omega), hF0]
    exact startsWithChar_four (by omega) (by omega) (by omega) (by omega) (by omega) h
  split at h
  · next hF4 =>
    rw [← ofNat_sub_add octet (n := 0xF0) (by omega), hF4]
    exact startsWithChar_four (by omega) (by omega) (by omega) (by omega) (by omega) h
  split at h
  · next hfour =>
    rw [← ofNat_sub_add octet (n := 0xF0) (by omega)]
    exact startsWithChar_four (by omega) (by omega) (by omega) (by omega) (by omega) h
  · have hmem : none ∈ cs.map some := by
      rw [← h]
      simp
    simp at hmem

/-- Octets that are read as characters are the octets of these. -/
theorem flatMap_encodeChar_of_units {octets : List UInt8} {cs : List Char}
    (h : unitsFrom .between octets = cs.map some) : cs.flatMap String.utf8EncodeChar = octets := by
  induction cs generalizing octets with
  | nil =>
    cases octets with
    | nil => rfl
    | cons octet octets =>
      obtain ⟨c, cs', rest, hcs, -⟩ := startsWithChar_of_units h
      cases hcs
  | cons c cs ih =>
    cases octets with
    | nil => cases h
    | cons octet octets =>
      obtain ⟨d, cs', rest, hcs, hoctets, hrest⟩ := startsWithChar_of_units h
      obtain ⟨rfl, rfl⟩ := List.cons.inj hcs
      rw [List.flatMap_cons, ih hrest, hoctets]

theorem mapM_id_eq_some_iff {units : List (Option Char)} {cs : List Char} :
    units.mapM id = some cs ↔ units = cs.map some := by
  induction units generalizing cs with
  | nil => cases cs <;> simp
  | cons unit units ih =>
    have hcons : (unit :: units).mapM id = some cs ↔
        ∃ c rest, unit = some c ∧ units.mapM id = some rest ∧ c :: rest = cs := by
      simp [List.mapM_cons, Option.bind_eq_some_iff]
    simp only [hcons, ih]
    constructor
    · rintro ⟨c, rest, rfl, rfl, rfl⟩
      rfl
    · intro h
      obtain ⟨c, rest, rfl, rfl, rfl⟩ := List.map_eq_cons_iff.1 h.symm
      exact ⟨c, rest, rfl, rfl, rfl⟩

/-- Octets are decoded as the text whose octets they are. -/
theorem decode?_eq_some_iff {octets : List UInt8} {s : String} :
    decode? octets = some s ↔ encode s = octets := by
  constructor
  · intro h
    obtain ⟨cs, hcs, rfl⟩ := Option.map_eq_some_iff.1 h
    rw [encode, String.toList_ofList]
    exact flatMap_encodeChar_of_units (mapM_id_eq_some_iff.1 hcs)
  · rintro rfl
    exact decode?_encode s

theorem decode?_eq_none_iff {octets : List UInt8} :
    decode? octets = none ↔ ∀ s, encode s ≠ octets := by
  simp only [Option.eq_none_iff_forall_ne_some, ne_eq, decode?_eq_some_iff]

/-- Lossy decoding marks octets of no text with the replacement character. -/
theorem replacement_mem_decodeLossy {octets : List UInt8} (h : ∀ s, encode s ≠ octets) :
    '\ufffd' ∈ (decodeLossy octets).toList := by
  by_cases hnone : none ∈ units octets
  · rw [decodeLossy, String.toList_ofList, List.mem_map]
    exact ⟨none, hnone, rfl⟩
  · have hunits : ((units octets).map (·.getD '\ufffd')).map some = units octets := by
      rw [List.map_map]
      refine (List.map_congr_left fun unit hunit => ?_).trans (List.map_id _)
      cases unit with
      | none => exact absurd hunit hnone
      | some c => rfl
    refine absurd ?_ (h (decodeLossy octets))
    rw [encode, decodeLossy, String.toList_ofList]
    exact flatMap_encodeChar_of_units hunits.symm

end LayeredSettings.Utf8
