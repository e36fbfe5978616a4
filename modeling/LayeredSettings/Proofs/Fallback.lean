import LayeredSettings.Settings.Basic

set_option autoImplicit false

/-! # When a fallback takes the place of a setting

A getter with a fallback differs from the plain one in one place: under the zero-value policy where
the plain one gives zero, under the presence policy where nothing can be read. Timestamps have no
zero and follow no policy, and where a key is not set, every fallback is taken
(`Settings.fallbackLaw`). -/

namespace LayeredSettings

variable {α : Type}

namespace Coercion

/-- The coercions whose getters follow the policy. Binary64 numbers are left out, since several of
    them count as zero or differ from themselves. -/
inductive Governed : {α : Type} → Coercion α → Prop where
  | text : Governed text
  | int : Governed int
  | bool : Governed bool
  | duration : Governed duration
  | texts : Governed texts
  | map : Governed map
  | textMap : Governed textMap
  | maps : Governed maps

variable {c : Coercion α}

theorem Governed.isZero_iff (h : c.Governed) (x : α) : c.isZero x = true ↔ x = c.zero := by
  cases h with
  | text | int | duration => exact beq_iff_eq
  | bool => exact iff_of_eq (Bool.not_eq_true' x)
  | texts | map | textMap | maps => exact List.isEmpty_iff

theorem Governed.read_null (h : c.Governed) : c.read .null = none := by
  cases h <;> rfl

end Coercion

namespace Settings

variable {s : Settings} {key : String}

/-! ## Keys that are not set -/

theorem isSet_eq_false_iff : s.isSet key = false ↔ s.get? key = none ∨ s.get? key = some .null := by
  unfold isSet
  cases s.get? key with
  | none => simp
  | some v => cases v <;> simp [Value.isNull]

/-- What reads nothing from null reads nothing where a key is not set. -/
theorem bind_get?_of_not_isSet {read : Value → Option α} (hnull : read .null = none)
    (h : s.isSet key = false) : (s.get? key).bind read = none := by
  rcases isSet_eq_false_iff.1 h with hget | hget
  · rw [hget, Option.bind_none]
  · rw [hget, Option.bind_some, hnull]

theorem getOr_of_not_isSet (h : s.isSet key = false) (fallback : Value) :
    s.getOr key fallback = fallback := by
  unfold getOr
  rcases isSet_eq_false_iff.1 h with hget | hget
  · rw [hget]
  · rw [hget]
    rfl

/-! ## One getter -/

variable {c : Coercion α}

/-- Nothing can be read under the key: it is missing, or the coercion refuses its value. -/
def Unreadable (s : Settings) (c : Coercion α) (key : String) : Prop :=
  s.get? key = none ∨ ∃ v, s.get? key = some v ∧ c.read v = none

theorem read?_eq_none_iff : s.read? c key = none ↔ s.Unreadable c key := by
  unfold read? Unreadable
  cases s.get? key <;> simp

theorem read_of_none (h : s.read? c key = none) : s.read c key = c.zero := by
  rw [read, h, Option.getD_none]

theorem read_of_some {x : α} (h : s.read? c key = some x) : s.read c key = x := by
  rw [read, h, Option.getD_some]

theorem readOr_of_none (h : s.read? c key = none) (fallback : α) :
    s.readOr c key fallback = fallback := by
  rw [readOr, h]

theorem readOr_of_presence {x : α} (h : s.read? c key = some x) (hpolicy : s.policy = .presence)
    (fallback : α) : s.readOr c key fallback = x := by
  rw [readOr, h, hpolicy]

theorem readOr_of_zeroValue {x : α} (h : s.read? c key = some x) (hpolicy : s.policy = .zeroValue)
    (fallback : α) : s.readOr c key fallback = if c.isZero x then fallback else x := by
  rw [readOr, h, hpolicy]

/-- Plain getters give zero and the others the fallback. -/
def GivesNothing (s : Settings) (c : Coercion α) (key : String) : Prop :=
  s.read c key = c.zero ∧ ∀ fallback, s.readOr c key fallback = fallback

theorem givesNothing_of_not_isSet (hnull : c.read .null = none) (h : s.isSet key = false) :
    s.GivesNothing c key := by
  have hnone : s.read? c key = none := bind_get?_of_not_isSet hnull h
  exact ⟨read_of_none hnone, readOr_of_none hnone⟩

/-! ## The law -/

/-- What the getters with a fallback have to give under a key. -/
structure FallbackLaw (s : Settings) (key : String) : Prop where
  /-- Under the zero-value policy the fallback stands in for zero, and for nothing else. -/
  zeroValue : s.policy = .zeroValue → ∀ {α : Type} {c : Coercion α}, c.Governed → ∀ fallback,
    (s.read c key = c.zero → s.readOr c key fallback = fallback)
      ∧ (s.read c key ≠ c.zero → s.readOr c key fallback = s.read c key)
  /-- Under the presence policy it stands in for what cannot be read, and never for zero. -/
  presence : s.policy = .presence → ∀ {α : Type} {c : Coercion α}, c.Governed → ∀ fallback,
    (s.Unreadable c key → s.readOr c key fallback = fallback)
      ∧ (¬ s.Unreadable c key → s.readOr c key fallback = s.read c key)
  /-- Where the key is not set, no getter finds anything, whatever the policy. -/
  not_set : s.isSet key = false →
    (∀ {α : Type} {c : Coercion α}, c.Governed → s.GivesNothing c key)
      ∧ s.GivesNothing .float key ∧ (∀ fallback, s.getOr key fallback = fallback)
      ∧ s.time? key = none ∧ ∀ fallback, s.timeOr key fallback = fallback
  /-- The policy does not matter to timestamps. -/
  time : ∀ policy fallback, Settings.timeOr { s with policy } key fallback = s.timeOr key fallback

theorem readOr_eq_of_zeroValue (hpolicy : s.policy = .zeroValue) (hc : c.Governed) (fallback : α) :
    (s.read c key = c.zero → s.readOr c key fallback = fallback)
      ∧ (s.read c key ≠ c.zero → s.readOr c key fallback = s.read c key) := by
  cases hread : s.read? c key with
  | none =>
    have hzero := read_of_none hread
    exact ⟨fun _ => readOr_of_none hread fallback, fun hne => absurd hzero hne⟩
  | some x =>
    rw [read_of_some hread, readOr_of_zeroValue hread hpolicy]
    constructor
    · intro hx
      rw [if_pos ((hc.isZero_iff x).2 hx)]
    · intro hx
      rw [if_neg fun hzero => hx ((hc.isZero_iff x).1 hzero)]

theorem readOr_eq_of_presence (hpolicy : s.policy = .presence) (fallback : α) :
    (s.Unreadable c key → s.readOr c key fallback = fallback)
      ∧ (¬ s.Unreadable c key → s.readOr c key fallback = s.read c key) := by
  rw [← read?_eq_none_iff]
  cases hread : s.read? c key with
  | none => simp [readOr_of_none hread]
  | some x => simp [readOr_of_presence hread hpolicy, read_of_some hread]

/-- **The law of fallbacks.** -/
theorem fallbackLaw (s : Settings) (key : String) : s.FallbackLaw key where
  zeroValue hpolicy _ _ hc := readOr_eq_of_zeroValue hpolicy hc
  presence hpolicy _ _ _ := readOr_eq_of_presence hpolicy
  not_set h := by
    have htime : s.time? key = none := bind_get?_of_not_isSet rfl h
    refine ⟨fun hc => givesNothing_of_not_isSet hc.read_null h, givesNothing_of_not_isSet rfl h,
      getOr_of_not_isSet h, htime, fun fallback => ?_⟩
    rw [timeOr, htime, Option.getD_none]
  time _ _ := rfl

/-- An explicit `false` counts as unset under the zero-value policy only. -/
example :
    (Settings.mk [("debug", .bool false)] .zeroValue).readOr .bool "debug" true = true
      ∧ (Settings.mk [("debug", .bool false)] .presence).readOr .bool "debug" true = false := by
  decide +kernel

end Settings

end LayeredSettings
