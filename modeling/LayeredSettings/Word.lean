set_option autoImplicit false

/-! # Bounds of integer words -/

namespace LayeredSettings.Word

/-- The least number too large for a signed 64-bit word; `-signed64` is the least integer of one. -/
abbrev signed64 : Nat := 0x8000000000000000

/-- The least number too large for an unsigned 64-bit word. -/
abbrev unsigned64 : Nat := 0x10000000000000000

/-- The least number too large for a signed 128-bit word; `-signed128` is the least integer of one.
    -/
abbrev signed128 : Nat := 0x80000000000000000000000000000000

/-- The least number too large for an unsigned 128-bit word. -/
abbrev unsigned128 : Nat := 0x100000000000000000000000000000000

end LayeredSettings.Word
