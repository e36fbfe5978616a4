set_option autoImplicit false

/-! # The CRC32C checksum

The cyclic redundancy check with the Castagnoli polynomial, the least significant bit first: the
register starts with all ones, takes in one octet after the other, and is complemented at the end.
-/

namespace LayeredSettings.Crc32c

/-- The Castagnoli polynomial with its bits reversed. -/
def polynomial : BitVec 32 := 0x82F63B78

/-- The register after one bit has left it. -/
def shiftBit (r : BitVec 32) : BitVec 32 :=
  if r.getLsbD 0 then (r >>> 1) ^^^ polynomial else r >>> 1

/-- The register after `n` bits have left it. -/
def shiftBits : Nat → BitVec 32 → BitVec 32
  | 0, r => r
  | n + 1, r => shiftBits n (shiftBit r)

/-- The register after an octet has gone in. -/
def feed (r : BitVec 32) (octet : UInt8) : BitVec 32 :=
  shiftBits 8 (r ^^^ octet.toBitVec.setWidth 32)

/-- The register after octets have gone in. -/
def feedAll (r : BitVec 32) (octets : List UInt8) : BitVec 32 :=
  octets.foldl feed r

/-- The checksum of octets. -/
def checksum (octets : List UInt8) : Nat :=
  (~~~ feedAll (BitVec.allOnes 32) octets).toNat

theorem checksum_lt (octets : List UInt8) : checksum octets < 0x100000000 :=
  BitVec.isLt _

/-- The check value of the Castagnoli polynomial: the checksum of the digits from one to nine. -/
example : checksum [0x31, 0x32, 0x33, 0x34, 0x35, 0x36, 0x37, 0x38, 0x39] = 0xE3069283 := by
  decide +kernel

end LayeredSettings.Crc32c
