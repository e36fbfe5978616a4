import LayeredSettings.Proofs.Wiring
import Mathlib.Data.List.Basic

set_option autoImplicit false

/-! # The targets are planned apart

One walk over a recipe fills the sources of both targets. Still each target gets the sources that its
own descriptors and its own string variable describe: wirings that agree on one target give it the
same sources, whatever they say about the other one, both for a recipe and for the local files
(`Wiring.targets_planned_apart`). -/

namespace LayeredSettings

theorem SecretSource.toConfig_injective {s s' : SecretSource} (h : s.toConfig = s'.toConfig) :
    s = s' := by
  cases s <;> cases s' <;> simp_all [toConfig]

namespace Wiring

variable {w w' : Wiring} {target : Target}

/-! ## Wirings that agree -/

/-- The wirings say the same about a target: they have the same descriptors for the kinds that feed
    it, and the same string variable was given for it, or none. -/
structure AgreeOn (target : Target) (w w' : Wiring) : Prop where
  descriptor : ∀ kind, kind.feeds target = true →
    w'.catalogue.descriptor kind target = w.catalogue.descriptor kind target
  stringVar : w'.stringVars target = w.stringVars target

theorem AgreeOn.source?_eq (agree : AgreeOn target w w') (remotes : w.AgreeOnRemotes w')
    {kind : SourceKind} (hfeeds : kind.feeds target = true) :
    w'.source? (kind, target) = w.source? (kind, target) :=
  source?_congr remotes (descriptor_congr (agree.descriptor kind hfeeds) agree.stringVar)

/-! ## Recipes -/

/-- Each kind in turn adds the same sources to the target. -/
theorem sourcesFor_planKinds_eq (remotes : w.AgreeOnRemotes w') (agree : AgreeOn target w w')
    {kinds : List SourceKind} {plan plan' : Plan} (hplan : w.planKinds kinds = .ok plan)
    (hplan' : w'.planKinds kinds = .ok plan') : plan'.sourcesFor target = plan.sourcesFor target := by
  induction kinds generalizing plan plan' with
  | nil =>
    obtain rfl := Except.ok.inj hplan
    obtain rfl := Except.ok.inj hplan'
    rfl
  | cons kind rest ih =>
    obtain ⟨lower, hlower, hcell⟩ := sourcesFor_cons hplan
    obtain ⟨lower', hlower', hcell'⟩ := sourcesFor_cons hplan'
    obtain ⟨s?, hs, hsources⟩ := hcell target
    obtain ⟨s'?, hs', hsources'⟩ := hcell' target
    have hsame : s'? = s? := by
      by_cases hfeeds : kind.feeds target = true
      · rw [if_pos hfeeds] at hs hs'
        rw [agree.source?_eq remotes hfeeds, hs] at hs'
        exact (Except.ok.inj hs').symm
      · rw [if_neg hfeeds] at hs hs'
        rw [hs, hs']
    rw [hsources, hsources', hsame, ih hlower hlower']

/-! ## Local files -/

theorem AgreeOn.localFile_eq (agree : AgreeOn target w w') :
    w'.localFile target = w.localFile target :=
  localFile_congr (agree.descriptor .file (SourceKind.feeds_file target))

theorem planLocalFiles_eq_ok_iff {plan : Plan} :
    w.planLocalFiles = .ok plan ↔
      ∃ config, w.localFile .config = .ok config ∧ ∃ secret, w.localFile .secret = .ok secret
        ∧ (⟨[.file config], [.file secret]⟩ : Plan) = plan := by
  rw [planLocalFiles, Except.bind_eq_ok_iff]
  simp only [Except.bind_eq_ok_iff, Except.ok.injEq]

theorem sourcesFor_planLocalFiles_eq (agree : AgreeOn target w w') {plan plan' : Plan}
    (hplan : w.planLocalFiles = .ok plan) (hplan' : w'.planLocalFiles = .ok plan') :
    plan'.sourcesFor target = plan.sourcesFor target := by
  obtain ⟨config, hconfig, secret, hsecret, rfl⟩ := planLocalFiles_eq_ok_iff.1 hplan
  obtain ⟨config', hconfig', secret', hsecret', rfl⟩ := planLocalFiles_eq_ok_iff.1 hplan'
  cases target with
  | config =>
    rw [agree.localFile_eq, hconfig] at hconfig'
    obtain rfl := Except.ok.inj hconfig'
    rfl
  | secret =>
    rw [agree.localFile_eq, hsecret] at hsecret'
    obtain rfl := Except.ok.inj hsecret'
    rfl

/-! ## The law -/

/-- Of two plans that are made in the same way, each target has the same sources if the wirings agree
    on it. -/
structure PlannedApart (w w' : Wiring) (planned planned' : Except Error Plan) : Prop where
  configs : AgreeOn .config w w' → ∀ plan plan', planned = .ok plan → planned' = .ok plan' →
    plan'.configs = plan.configs
  secrets : AgreeOn .secret w w' → ∀ plan plan', planned = .ok plan → planned' = .ok plan' →
    plan'.secrets = plan.secrets

theorem plannedApart_of_sourcesFor {planned planned' : Except Error Plan}
    (h : ∀ target, AgreeOn target w w' → ∀ plan plan', planned = .ok plan → planned' = .ok plan' →
      plan'.sourcesFor target = plan.sourcesFor target) : PlannedApart w w' planned planned' where
  configs agree plan plan' hplan hplan' := h .config agree plan plan' hplan hplan'
  secrets agree plan plan' hplan hplan' :=
    (List.map_inj_right fun _ _ => SecretSource.toConfig_injective).1
      (h .secret agree plan plan' hplan hplan')

/-- **The law of targets.** What a wiring says about one target is no concern of the other one. -/
theorem targets_planned_apart (remotes : w.AgreeOnRemotes w') :
    (∀ r : Recipe, PlannedApart w w' (w.planRecipe r) (w'.planRecipe r))
      ∧ PlannedApart w w' w.planLocalFiles w'.planLocalFiles := by
  constructor
  · intro r
    exact plannedApart_of_sourcesFor fun _ agree _ _ hplan hplan' =>
      sourcesFor_planKinds_eq remotes agree hplan hplan'
  · exact plannedApart_of_sourcesFor fun _ agree _ _ hplan hplan' =>
      sourcesFor_planLocalFiles_eq agree hplan hplan'

/-- A wiring with a key-value store for configuration and a secret manager for secrets, one with the
    secrets crossed over to the store, and one with the configuration crossed over to a database. -/
theorem targets_planned_apart_of_crossed :
    let wired (config secret : SourceKind) : Wiring :=
      { catalogue :=
          { Catalogue.bind (fun _ => none) with
            descriptor := fun kind target =>
              if kind = (match target with | .config => config | .secret => secret)
              then { name := "app", address := "sqlite:store" } else {} } }
    let w := wired .keyValue .secretManager
    let secrets := wired .keyValue .keyValue
    let configs := wired .database .secretManager
    let r : Recipe := ⟨[⟨.database, 1⟩, ⟨.keyValue, 2⟩, ⟨.secretManager, 3⟩], []⟩
    (w.AgreeOnRemotes secrets ∧ AgreeOn .config w secrets)
      ∧ (w.AgreeOnRemotes configs ∧ AgreeOn .secret w configs)
      ∧ ∃ plan plan' plan'', w.planRecipe r = .ok plan ∧ secrets.planRecipe r = .ok plan'
        ∧ configs.planRecipe r = .ok plan''
        ∧ (plan'.configs = plan.configs ∧ plan'.secrets ≠ plan.secrets)
        ∧ (plan''.secrets = plan.secrets ∧ plan''.configs ≠ plan.configs) := by
  intro wired w secrets configs r
  have hremotes : w.AgreeOnRemotes secrets := ⟨rfl, rfl⟩
  have hremotes' : w.AgreeOnRemotes configs := ⟨rfl, rfl⟩
  have hconfig : AgreeOn .config w secrets := ⟨fun _ _ => rfl, rfl⟩
  have hsecret : AgreeOn .secret w configs := ⟨fun _ _ => rfl, rfl⟩
  let store : KeyValueSource := ⟨"consul", "sqlite:store", "app", .yaml, none⟩
  let manager : SecretManagerSource := ⟨"sqlite:store", "app", .yaml, none, none⟩
  have hplan : w.planRecipe r = .ok ⟨[.keyValue store], [.secretManager manager]⟩ := by
    decide +kernel
  have hplan' : secrets.planRecipe r = .ok ⟨[.keyValue store], [.keyValue store]⟩ := by
    decide +kernel
  have hplan'' : configs.planRecipe r
      = .ok ⟨[.database ⟨"sqlite:store", "app", [], none⟩], [.secretManager manager]⟩ := by
    decide +kernel
  refine ⟨⟨hremotes, hconfig⟩, ⟨hremotes', hsecret⟩, _, _, _, hplan, hplan', hplan'', ?_, ?_⟩
  · exact ⟨((targets_planned_apart hremotes).1 r).configs hconfig _ _ hplan hplan', by decide⟩
  · exact ⟨((targets_planned_apart hremotes').1 r).secrets hsecret _ _ hplan hplan'', by decide⟩

end Wiring

end LayeredSettings
