set_option autoImplicit false

/-! # UTF-8

Octets are read one at a time with the state of an unfinished character. `Utf8.units` gives a
character for each well-formed sequence and nothing for each maximal malformed one; strict decoding
refuses the latter, lossy decoding writes the replacement character for it. -/

namespace LayeredSettings.Utf8

/-- The octets of a text. -/
def encode (s : String) : List UInt8 :=
  s.toList.flatMap String.utf8EncodeChar

/-- Between characters, or inside one: the bits so far, how many octets are missing, and the bounds
    of the next one. -/
inductive State where
  | between
  | inside (bits missing lo hi : Nat)

/-- What an octet between characters gives: characters or malformed sequences, and the next state.
    The bounds of the second octet leave out overlong forms, surrogates and codes beyond the last
    plane. -/
def first (octet : Nat) : List (Option Char) × State :=
  if octet < 0x80 then ([some (Char.ofNat octet)], .between)
  else if 0xC2 ≤ octet ∧ octet ≤ 0xDF then ([], .inside (octet - 0xC0) 1 0x80 0xBF)
  else if octet = 0xE0 then ([], .inside 0 2 0xA0 0xBF)
  else if octet = 0xED then ([], .inside 0xD 2 0x80 0x9F)
  else if 0xE1 ≤ octet ∧ octet ≤ 0xEF then ([], .inside (octet - 0xE0) 2 0x80 0xBF)
  else if octet = 0xF0 then ([], .inside 0 3 0x90 0xBF)
  else if octet = 0xF4 then ([], .inside 4 3 0x80 0x8F)
  else if 0xF1 ≤ octet ∧ octet ≤ 0xF3 then ([], .inside (octet - 0xF0) 3 0x80 0xBF)
  else ([none], .between)

/-- One octet further. An octet that cannot continue a character ends a malformed sequence and is
    read as a first octet. -/
def next (state : State) (octet : Nat) : List (Option Char) × State :=
  match state with
  | .between => first octet
  | .inside bits missing lo hi =>
    if lo ≤ octet ∧ octet ≤ hi then
      let bits := bits * 0x40 + (octet - 0x80)
      if missing ≤ 1 then ([some (Char.ofNat bits)], .between)
      else ([], .inside bits (missing - 1) 0x80 0xBF)
    else
      let (units, after) := first octet
      (none :: units, after)

/-- The characters and malformed sequences of octets read on from a state. -/
def unitsFrom : State → List UInt8 → List (Option Char)
  | .between, [] => []
  | .inside _ _ _ _, [] => [none]
  | state, octet :: rest =>
    let (units, after) := next state octet.toNat
    units ++ unitsFrom after rest

/-- The characters and malformed sequences of octets. -/
def units (octets : List UInt8) : List (Option Char) :=
  unitsFrom .between octets

/-- The text that well-formed octets encode. -/
def decode? (octets : List UInt8) : Option String :=
  ((units octets).mapM id).map String.ofList

/-- The text of octets, with the replacement character for each malformed sequence. -/
def decodeLossy (octets : List UInt8) : String :=
  String.ofList ((units octets).map fun unit => unit.getD '\ufffd')

end LayeredSettings.Utf8
