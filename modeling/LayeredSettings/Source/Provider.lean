import LayeredSettings.Value.Basic
import LayeredSettings.World.Network

set_option autoImplicit false

/-! # Providers

A provider is initialised and then hands out the settings that it holds. `SourceState` makes a
provider of a source: it holds nothing until an initialisation succeeds. -/

namespace LayeredSettings

/-- How the values of a type provide settings. -/
structure Provider (π : Type) where
  /-- Initialise: the provider as it is left, and what came of it. -/
  init : π → π × Outcome Unit
  /-- The settings that are held. -/
  data : π → Tree

namespace Provider

variable {π : Type}

/-- The provider as an initialisation leaves it. -/
def after (P : Provider π) (p : π) : π :=
  (P.init p).1

/-- The requests of an initialisation. -/
def requests (P : Provider π) (p : π) : List Request :=
  (P.init p).2.requests

/-- What an initialisation reports. -/
def report (P : Provider π) (p : π) : Except Error Unit :=
  (P.init p).2.result

/-- The settings that a provider holds once it was initialised. -/
def held (P : Provider π) (p : π) : Tree :=
  P.data (P.after p)

end Provider

/-- A source with the settings that it holds. -/
structure SourceState (σ : Type) where
  source : σ
  data : Tree := []

namespace SourceState

variable {σ : Type}

/-- A source before it is initialised. -/
def fresh (s : σ) : SourceState σ :=
  { source := s }

/-- Load the source, and hold its settings if that succeeds. -/
def init (load : σ → Outcome Tree) (p : SourceState σ) : SourceState σ × Outcome Unit :=
  let loaded := load p.source
  match loaded.result with
  | .ok tree => ({ p with data := tree }, ⟨loaded.requests, .ok ()⟩)
  | .error e => (p, ⟨loaded.requests, .error e⟩)

/-- Sources as providers, for a way to load them. -/
def provider (load : σ → Outcome Tree) : Provider (SourceState σ) where
  init := init load
  data := data

/-! ## Initialisations -/

section Initialisations

variable {load : σ → Outcome Tree} {s : σ}

theorem init_of_ok {tree : Tree} (h : (load s).result = .ok tree) (data : Tree) :
    (provider load).init ⟨s, data⟩ = (⟨s, tree⟩, ⟨(load s).requests, .ok ()⟩) := by
  unfold provider init
  simp only [h]

theorem init_of_error {e : Error} (h : (load s).result = .error e) (data : Tree) :
    (provider load).init ⟨s, data⟩ = (⟨s, data⟩, ⟨(load s).requests, .error e⟩) := by
  unfold provider init
  simp only [h]

theorem report_eq (load : σ → Outcome Tree) (s : σ) (data : Tree) :
    (provider load).report ⟨s, data⟩ = (load s).result.map fun _ => () := by
  rw [Provider.report]
  cases h : (load s).result with
  | ok tree => rw [init_of_ok h]; rfl
  | error e => rw [init_of_error h]; rfl

theorem requests_eq (load : σ → Outcome Tree) (s : σ) (data : Tree) :
    (provider load).requests ⟨s, data⟩ = (load s).requests := by
  rw [Provider.requests]
  cases h : (load s).result with
  | ok tree => rw [init_of_ok h]
  | error e => rw [init_of_error h]

/-- What was held stays if the load fails. -/
theorem held_eq (load : σ → Outcome Tree) (s : σ) (data : Tree) :
    (provider load).held ⟨s, data⟩ = (load s).result.toOption.getD data := by
  rw [Provider.held, Provider.after]
  cases h : (load s).result with
  | ok tree => rw [init_of_ok h]; rfl
  | error e => rw [init_of_error h]; rfl

end Initialisations

/-! ## Fresh sources -/

variable {load : σ → Outcome Tree}

theorem report_fresh (s : σ) :
    (provider load).report (fresh s) = (load s).result.map fun _ => () :=
  report_eq load s []

theorem requests_fresh (s : σ) : (provider load).requests (fresh s) = (load s).requests :=
  requests_eq load s []

theorem held_of_ok {s : σ} {tree : Tree} (h : (load s).result = .ok tree) :
    (provider load).held (fresh s) = tree := by
  rw [fresh, held_eq, h]
  rfl

theorem held_of_error {s : σ} {e : Error} (h : (load s).result = .error e) :
    (provider load).held (fresh s) = [] := by
  rw [fresh, held_eq, h]
  rfl

/-- An initialisation succeeds with the settings that the source gives. -/
theorem report_and_held_iff {s : σ} {tree : Tree} :
    (provider load).report (fresh s) = .ok () ∧ (provider load).held (fresh s) = tree ↔
      (load s).result = .ok tree := by
  rw [report_fresh]
  constructor
  · rintro ⟨hreport, rfl⟩
    cases h : (load s).result with
    | ok tree => rw [held_of_ok h]
    | error e =>
      rw [h] at hreport
      cases hreport
  · intro h
    exact ⟨by rw [h]; rfl, held_of_ok h⟩

/-- An initialisation fails with the error of the source. -/
theorem report_eq_error_iff {s : σ} {e : Error} :
    (provider load).report (fresh s) = .error e ↔ (load s).result = .error e := by
  rw [report_fresh]
  cases (load s).result <;> simp [Except.map]

/-- What a source holds has its keys in order if all that it gives has. -/
theorem ordered_held (h : ∀ s tree, (load s).result = .ok tree → KeyMap.Ordered tree) (s : σ) :
    KeyMap.Ordered ((provider load).held (fresh s)) := by
  cases hload : (load s).result with
  | error e =>
    rw [held_of_error hload]
    exact KeyMap.ordered_nil
  | ok tree =>
    rw [held_of_ok hload]
    exact h s tree hload

end SourceState

end LayeredSettings
