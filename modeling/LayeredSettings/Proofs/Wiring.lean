import LayeredSettings.Plan.Wiring
import LayeredSettings.Proofs.Outcome
import LayeredSettings.Proofs.Search

set_option autoImplicit false

/-! # What a recipe selects

A kind that feeds a target makes a cell. The plan of a recipe has one source for each wired cell,
in the order of the recipe, and the first wired cell that declares an unsupported format is its only
way to fail (`Wiring.planRecipe_selects`). -/

namespace LayeredSettings

/-! ## Declared formats -/

namespace Format

/-- The names of formats. -/
def names : List String :=
  ["yaml", "yml", "json"]

theorem ofName_eq_error_iff {text : String} {e : Error} :
    ofName text = .error e ↔
      Text.lower (Text.trim text) ∉ names ∧ e = .unsupportedFormat (Text.lower (Text.trim text)) := by
  unfold ofName
  split
  · next h => simp [h, names]
  · next h => simp [h, names]
  · next h => simp [h, names]
  · next hyaml hyml hjson =>
    have hnames : Text.lower (Text.trim text) ∉ names := by
      simp only [names, List.mem_cons, List.not_mem_nil, or_false, not_or]
      exact ⟨hyaml, hyml, hjson⟩
    simp [hnames, eq_comm]

/-- A format is what its name declares. -/
theorem ofName_name (f : Format) : ofName f.name = .ok f := by
  cases f <;> rfl

end Format

namespace Descriptor

variable {d : Descriptor} {e : Error}

/-- The format that the descriptor declares is not supported; an empty text declares none. -/
def IsUnsupported (d : Descriptor) : Prop :=
  d.format ≠ "" ∧ Text.lower (Text.trim d.format) ∉ Format.names

/-- The error of a format that is not supported. -/
def formatError (d : Descriptor) : Error :=
  .unsupportedFormat (Text.lower (Text.trim d.format))

theorem declaredFormat_eq_error_iff :
    d.declaredFormat = .error e ↔ d.IsUnsupported ∧ e = d.formatError := by
  unfold declaredFormat IsUnsupported formatError
  by_cases h : d.format = ""
  · simp [h]
  · simp [h, Format.ofName_eq_error_iff]

theorem declaredFormat?_eq_error_iff :
    d.declaredFormat? = .error e ↔ d.IsUnsupported ∧ e = d.formatError := by
  unfold declaredFormat? IsUnsupported formatError
  by_cases h : d.format = ""
  · simp [h]
  · simp [h, Except.map_eq_error_iff, Format.ofName_eq_error_iff]

end Descriptor

/-! ## Sources from descriptors -/

namespace ConfigSource

variable {kind : SourceKind} {d : Descriptor} {c : Catalogue}

/-- Only an unsupported format keeps a descriptor from describing a source. -/
theorem ofDescriptor_eq_error_iff {e : Error} :
    ofDescriptor kind d c = .error e ↔ d.IsUnsupported ∧ e = d.formatError := by
  cases kind <;>
    simp [ofDescriptor, Descriptor.stringVar, Descriptor.file, Descriptor.database,
      Descriptor.secretManager, Descriptor.keyValue, Except.map_eq_error_iff,
      Descriptor.declaredFormat_eq_error_iff, Descriptor.declaredFormat?_eq_error_iff]

theorem kind_of_ofDescriptor {s : ConfigSource} (h : ofDescriptor kind d c = .ok s) :
    s.kind = kind := by
  cases kind <;>
    · obtain ⟨_, -, rfl⟩ := Except.map_eq_ok_iff.1 h
      rfl

end ConfigSource

namespace SecretSource

/-- A secret source is built as its like of configuration. -/
theorem map_ofDescriptor (kind : SecretKind) (d : Descriptor) (c : Catalogue) :
    (ofDescriptor kind d c).map toConfig = ConfigSource.ofDescriptor kind.kind d c := by
  cases kind <;> exact Except.map_map _ _ _

theorem ofDescriptor_eq_error_iff {kind : SecretKind} {d : Descriptor} {c : Catalogue} {e : Error} :
    ofDescriptor kind d c = .error e ↔ d.IsUnsupported ∧ e = d.formatError := by
  rw [← ConfigSource.ofDescriptor_eq_error_iff, ← map_ofDescriptor, Except.map_eq_error_iff]

end SecretSource

namespace StringVar

variable (v : StringVar)

/-- The format of a string variable is one that its name declares. -/
theorem declaredFormat_descriptor : v.descriptor.declaredFormat = .ok v.format := by
  have hname : v.format.name ≠ "" := by cases v.format <;> simp [Format.name]
  unfold Descriptor.declaredFormat descriptor
  simp [hname, Format.ofName_name]

/-- The descriptor of a string variable describes this variable. -/
theorem ofDescriptor_descriptor (c : Catalogue) :
    ConfigSource.ofDescriptor .stringVar v.descriptor c = .ok (.stringVar v) := by
  show (v.descriptor.declaredFormat.map _).map ConfigSource.stringVar = _
  rw [declaredFormat_descriptor]
  rfl

theorem not_isUnsupported_descriptor : ¬ v.descriptor.IsUnsupported := by
  intro h
  have herror := Descriptor.declaredFormat_eq_error_iff.2 ⟨h, rfl⟩
  rw [declaredFormat_descriptor] at herror
  cases herror

theorem isWired_descriptor_iff : v.descriptor.isWired .stringVar = true ↔ v.name ≠ "" := by
  have hname : v.format.name ≠ "" := by cases v.format <;> simp [Format.name]
  simp [Descriptor.isWired, SourceKind.isRemote, descriptor, hname]

end StringVar

/-! ## Cells -/

/-- Whether the kind may hold the settings of a target. -/
def SourceKind.feeds (kind : SourceKind) : Target → Bool
  | .config => true
  | .secret => kind != .database

theorem SourceKind.feeds_file (target : Target) : SourceKind.feeds .file target = true := by
  cases target <;> rfl

/-- A kind with a target that it feeds. -/
abbrev Cell := SourceKind × Target

/-- The cells of a kind, configuration first. -/
def SourceKind.cells (kind : SourceKind) : List Cell :=
  (Target.all.filter kind.feeds).map fun target => (kind, target)

theorem SourceKind.cells_eq (kind : SourceKind) :
    kind.cells
      = (kind, .config) :: if kind.feeds .secret = true then [(kind, .secret)] else [] := by
  cases kind <;> rfl

/-- The sources of a plan for a target. -/
def Plan.sourcesFor (p : Plan) : Target → List ConfigSource
  | .config => p.configs
  | .secret => p.secrets.map SecretSource.toConfig

namespace Wiring

variable {w w' : Wiring} {kind : SourceKind} {target : Target} {e : Error}

/-- The descriptor of the cell takes part, with a format that is not supported. -/
def Faulty (w : Wiring) (c : Cell) : Prop :=
  (w.descriptor c.1 c.2).isWired c.1 = true ∧ (w.descriptor c.1 c.2).IsUnsupported

/-- The source of a cell, if its descriptor is wired. -/
def source? (w : Wiring) (c : Cell) : Except Error (Option ConfigSource) :=
  let d := w.descriptor c.1 c.2
  if d.isWired c.1 then (ConfigSource.ofDescriptor c.1 d w.catalogue).map some else .ok none

theorem source?_eq_error_iff {c : Cell} :
    w.source? c = .error e ↔ w.Faulty c ∧ e = (w.descriptor c.1 c.2).formatError := by
  unfold source? Faulty
  by_cases h : (w.descriptor c.1 c.2).isWired c.1 = true
  · simp [h, Except.map_eq_error_iff, ConfigSource.ofDescriptor_eq_error_iff]
  · simp [h]

theorem exists_source?_iff {c : Cell} : (∃ s?, w.source? c = .ok s?) ↔ ¬ w.Faulty c :=
  Except.exists_ok_iff_not source?_eq_error_iff

/-- The wirings name the same remote provider and connect to remote sources in the same way. -/
structure AgreeOnRemotes (w w' : Wiring) : Prop where
  provider : w'.catalogue.remoteProvider = w.catalogue.remoteProvider
  connection : w'.catalogue.connection = w.catalogue.connection

theorem AgreeOnRemotes.ofDescriptor_eq (remotes : w.AgreeOnRemotes w') (kind : SourceKind)
    (d : Descriptor) :
    ConfigSource.ofDescriptor kind d w'.catalogue = ConfigSource.ofDescriptor kind d w.catalogue := by
  unfold ConfigSource.ofDescriptor
  rw [remotes.provider, remotes.connection]

theorem descriptor_congr
    (hbound : w'.catalogue.descriptor kind target = w.catalogue.descriptor kind target)
    (hgiven : w'.stringVars target = w.stringVars target) :
    w'.descriptor kind target = w.descriptor kind target := by
  unfold descriptor
  rw [hbound, hgiven]

/-- A cell has the same source where its descriptor is the same. -/
theorem source?_congr (remotes : w.AgreeOnRemotes w')
    (h : w'.descriptor kind target = w.descriptor kind target) :
    w'.source? (kind, target) = w.source? (kind, target) := by
  unfold source?
  simp only [h, remotes.ofDescriptor_eq]

theorem localFile_congr
    (h : w'.catalogue.descriptor .file target = w.catalogue.descriptor .file target) :
    w'.localFile target = w.localFile target := by
  unfold localFile
  rw [h]

theorem config?_eq (w : Wiring) (kind : SourceKind) : w.config? kind = w.source? (kind, .config) :=
  rfl

theorem map_secret? (w : Wiring) (h : kind.feeds .secret = true) :
    (w.secret? kind).map (Option.map SecretSource.toConfig) = w.source? (kind, .secret) := by
  obtain ⟨secretKind, hkind, rfl⟩ : ∃ k, SecretKind.ofKind? kind = some k ∧ k.kind = kind := by
    cases kind with
    | database => cases h
    | _ => exact ⟨_, rfl, rfl⟩
  unfold secret? source?
  simp only [hkind]
  split
  · rw [← SecretSource.map_ofDescriptor, Except.map_map, Except.map_map]
    rfl
  · rfl

theorem secret?_of_not_feeds (w : Wiring) (h : ¬ kind.feeds .secret = true) :
    w.secret? kind = .ok none := by
  cases kind with
  | database => rfl
  | _ => exact absurd rfl h

/-! ## Kinds in order -/

theorem planKinds_cons_eq_error_iff {rest : List SourceKind} :
    w.planKinds (kind :: rest) = .error e ↔
      w.config? kind = .error e ∨ (∃ config, w.config? kind = .ok config)
        ∧ (w.secret? kind = .error e ∨ (∃ secret, w.secret? kind = .ok secret)
          ∧ w.planKinds rest = .error e) := by
  rw [planKinds]
  exact Except.bind_eq_error_iff_of_forall fun _ =>
    Except.bind_eq_error_iff_of_forall fun _ => Except.bind_ok_eq_error_iff

theorem planKinds_cons_eq_ok_iff {rest : List SourceKind} {plan : Plan} :
    w.planKinds (kind :: rest) = .ok plan ↔
      ∃ config, w.config? kind = .ok config ∧ ∃ secret, w.secret? kind = .ok secret
        ∧ ∃ lower, w.planKinds rest = .ok lower
          ∧ (⟨config.toList ++ lower.configs, secret.toList ++ lower.secrets⟩ : Plan) = plan := by
  rw [planKinds, Except.bind_eq_ok_iff]
  simp only [Except.bind_eq_ok_iff, Except.ok.injEq]

/-- Planning fails as a walk over the cells does. -/
theorem planKinds_eq_error_iff {kinds : List SourceKind} :
    w.planKinds kinds = .error e ↔
      (kinds.flatMap SourceKind.cells).mapM w.source? = .error e := by
  induction kinds with
  | nil => simp [planKinds, pure, Except.pure]
  | cons kind rest ih =>
    rw [planKinds_cons_eq_error_iff, ih, List.flatMap_cons, SourceKind.cells_eq, config?_eq,
      List.cons_append, Except.mapM_cons_eq_error_iff]
    by_cases h : kind.feeds .secret = true
    · rw [if_pos h, List.singleton_append, Except.mapM_cons_eq_error_iff, ← map_secret? w h,
        Except.map_eq_error_iff, Except.exists_map_eq_ok_iff]
    · simp [h, secret?_of_not_feeds w h]

/-- Planning fails with the first faulty cell. -/
theorem planKinds_eq_first_iff {kinds : List SourceKind} :
    w.planKinds kinds = .error e ↔
      ∃ before c after, kinds.flatMap SourceKind.cells = before ++ c :: after
        ∧ (∀ b ∈ before, ¬ w.Faulty b) ∧ w.Faulty c
        ∧ e = (w.descriptor c.1 c.2).formatError := by
  rw [planKinds_eq_error_iff, Except.mapM_eq_error_iff]
  simp only [exists_source?_iff, source?_eq_error_iff]

/-- The sources of one more kind lie below those of the kinds after it. -/
theorem sourcesFor_cons {rest : List SourceKind} {plan : Plan}
    (h : w.planKinds (kind :: rest) = .ok plan) :
    ∃ lower, w.planKinds rest = .ok lower ∧ ∀ target, ∃ s?,
      (if kind.feeds target = true then w.source? (kind, target) = .ok s? else s? = none)
        ∧ plan.sourcesFor target = s?.toList ++ lower.sourcesFor target := by
  obtain ⟨config, hconfig, secret, hsecret, lower, hlower, rfl⟩ := planKinds_cons_eq_ok_iff.1 h
  refine ⟨lower, hlower, fun target => ?_⟩
  cases target with
  | config => exact ⟨config, by rwa [config?_eq] at hconfig, rfl⟩
  | secret =>
    refine ⟨secret.map SecretSource.toConfig, ?_, ?_⟩
    · split
      · next hfeeds => rw [← map_secret? w hfeeds, hsecret]; rfl
      · next hfeeds =>
        rw [secret?_of_not_feeds w hfeeds] at hsecret
        obtain rfl := Except.ok.inj hsecret
        rfl
    · cases secret <;> simp [Plan.sourcesFor]

/-- The kind has a source for the target. -/
def selects (w : Wiring) (target : Target) (kind : SourceKind) : Bool :=
  kind.feeds target && (w.descriptor kind target).isWired kind

/-- What a kind gives to a target: its source if it is selected, and nothing otherwise. -/
theorem kinds_of_source? {s? : Option ConfigSource}
    (h : if kind.feeds target = true then w.source? (kind, target) = .ok s? else s? = none) :
    s?.toList.map ConfigSource.kind = [kind].filter (w.selects target)
      ∧ ∀ s ∈ s?.toList,
          ConfigSource.ofDescriptor s.kind (w.descriptor s.kind target) w.catalogue = .ok s := by
  by_cases hselects : w.selects target kind = true
  · obtain ⟨hfeeds, hwired⟩ := Bool.and_eq_true_iff.1 hselects
    rw [if_pos hfeeds, source?] at h
    simp only [hwired, if_true] at h
    obtain ⟨s, hs, rfl⟩ := Except.map_eq_ok_iff.1 h
    obtain rfl := ConfigSource.kind_of_ofDescriptor hs
    simp [hselects, hs]
  · have hnone : s? = none := by
      by_cases hfeeds : kind.feeds target = true
      · have hwired : ¬ (w.descriptor kind target).isWired kind = true := fun hwired =>
          hselects (Bool.and_eq_true_iff.2 ⟨hfeeds, hwired⟩)
        rw [if_pos hfeeds, source?] at h
        simp only [hwired] at h
        exact (Except.ok.inj h).symm
      · rwa [if_neg hfeeds] at h
    simp [hnone, hselects]

theorem planKinds_of_ok {kinds : List SourceKind} {plan : Plan} (h : w.planKinds kinds = .ok plan)
    (target : Target) :
    (plan.sourcesFor target).map ConfigSource.kind = kinds.filter (w.selects target)
      ∧ ∀ s ∈ plan.sourcesFor target,
          ConfigSource.ofDescriptor s.kind (w.descriptor s.kind target) w.catalogue = .ok s := by
  induction kinds generalizing plan with
  | nil =>
    obtain rfl := Except.ok.inj h
    cases target <;> simp [Plan.sourcesFor]
  | cons kind rest ih =>
    obtain ⟨lower, hlower, hcell⟩ := sourcesFor_cons h
    obtain ⟨s?, hs, hsources⟩ := hcell target
    obtain ⟨hkinds, hbuilt⟩ := kinds_of_source? hs
    obtain ⟨hkinds', hbuilt'⟩ := ih hlower
    rw [hsources]
    constructor
    · rw [List.map_append, hkinds, hkinds', ← List.filter_append, List.singleton_append]
    · intro s hmem
      rcases List.mem_append.1 hmem with hmem | hmem
      · exact hbuilt s hmem
      · exact hbuilt' s hmem

/-! ## String variables that were given -/

theorem descriptor_of_given {v : StringVar} (h : w.stringVars target = some v) :
    w.descriptor .stringVar target = v.descriptor := by
  simp only [descriptor, h]

theorem descriptor_of_catalogue (h : kind = .stringVar → w.stringVars target = none) :
    w.descriptor kind target = w.catalogue.descriptor kind target := by
  unfold descriptor
  split
  · next v hv =>
    rw [h rfl] at hv
    cases hv
  · rfl

/-- A string variable that was given is a source of its target if it has a name, and then the only
    string variable there. -/
theorem stringVar_mem_iff {kinds : List SourceKind} {plan : Plan} {v : StringVar}
    (h : w.planKinds kinds = .ok plan) (hv : w.stringVars target = some v) (s : StringVar) :
    .stringVar s ∈ plan.sourcesFor target ↔ .stringVar ∈ kinds ∧ v.name ≠ "" ∧ s = v := by
  obtain ⟨hkinds, hbuilt⟩ := planKinds_of_ok h target
  have hselected : ∀ u : StringVar, .stringVar u ∈ plan.sourcesFor target → u = v := by
    intro u hu
    have hdescriptor := hbuilt _ hu
    rw [show (ConfigSource.stringVar u).kind = .stringVar from rfl, descriptor_of_given hv,
      StringVar.ofDescriptor_descriptor] at hdescriptor
    exact (ConfigSource.stringVar.inj (Except.ok.inj hdescriptor)).symm
  have hmem : .stringVar ∈ (plan.sourcesFor target).map ConfigSource.kind ↔
      .stringVar ∈ kinds ∧ v.name ≠ "" := by
    have hfeeds : SourceKind.feeds .stringVar target = true := by cases target <;> rfl
    rw [hkinds, List.mem_filter, selects, hfeeds, Bool.true_and, descriptor_of_given hv,
      StringVar.isWired_descriptor_iff]
  constructor
  · intro hs
    obtain ⟨hkind, hname⟩ := hmem.1 (List.mem_map_of_mem hs)
    exact ⟨hkind, hname, hselected s hs⟩
  · rintro ⟨hkind, hname, rfl⟩
    obtain ⟨source, hsource, hstringVar⟩ := List.mem_map.1 (hmem.2 ⟨hkind, hname⟩)
    cases source with
    | stringVar u =>
      rw [← hselected u hsource]
      exact hsource
    | _ => cases hstringVar

/-! ## The law -/

/-- What the plan of kinds in merge order has to be like. -/
structure Selects (w : Wiring) (kinds : List SourceKind) (planned : Except Error Plan) : Prop where
  /-- The first wired cell that declares an unsupported format is the error. -/
  error_iff : ∀ e, planned = .error e ↔
    ∃ before c after, kinds.flatMap SourceKind.cells = before ++ c :: after
      ∧ (∀ b ∈ before, ¬ w.Faulty b) ∧ w.Faulty c
      ∧ e = (w.descriptor c.1 c.2).formatError
  /-- The sources of configuration are those of the kinds that are wired for it, in order. -/
  configs : ∀ plan, planned = .ok plan → plan.configs.map ConfigSource.kind =
    kinds.filter fun kind => (w.descriptor kind .config).isWired kind
  /-- The sources of secrets are those of the other kinds that are wired for them, in order. -/
  secrets : ∀ plan, planned = .ok plan → plan.secrets.map SecretSource.kind =
    kinds.filter fun kind => kind != .database && (w.descriptor kind .secret).isWired kind
  /-- Each source is the one that its descriptor describes. -/
  built : ∀ plan, planned = .ok plan → ∀ target, ∀ s ∈ plan.sourcesFor target,
    ConfigSource.ofDescriptor s.kind (w.descriptor s.kind target) w.catalogue = .ok s
  /-- A string variable that was given stands in for the descriptor of the catalogue as a whole; it
      is wired if it has a name, and its format is always supported. -/
  given : ∀ target v, w.stringVars target = some v →
    w.descriptor .stringVar target = { name := v.name, format := v.format.name, value := v.value }
      ∧ ((w.descriptor .stringVar target).isWired .stringVar = true ↔ v.name ≠ "")
      ∧ ¬ w.Faulty (.stringVar, target)
  /-- So it is the only string variable of its target, or the target has none. -/
  given_iff : ∀ plan, planned = .ok plan → ∀ target v, w.stringVars target = some v →
    ∀ s, .stringVar s ∈ plan.sourcesFor target ↔ .stringVar ∈ kinds ∧ v.name ≠ "" ∧ s = v
  /-- All other descriptors are those of the catalogue. -/
  catalogued : ∀ kind target, (kind = .stringVar → w.stringVars target = none) →
    w.descriptor kind target = w.catalogue.descriptor kind target

/-- **The law of plans.** The plan of a recipe fails with the first wired descriptor that declares an
    unsupported format, and otherwise it has for each target one source for each kind that is wired,
    in the order of the recipe. -/
theorem planRecipe_selects (w : Wiring) (r : Recipe) : Selects w r.kinds (w.planRecipe r) where
  error_iff e := planKinds_eq_first_iff
  configs plan h := (planKinds_of_ok h .config).1
  secrets plan h := by
    have hkinds := (planKinds_of_ok h .secret).1
    rw [Plan.sourcesFor, List.map_map] at hkinds
    exact hkinds
  built plan h target := (planKinds_of_ok h target).2
  given target v hv := by
    have hdescriptor := descriptor_of_given hv
    refine ⟨hdescriptor, ?_, fun hfaulty => ?_⟩
    · rw [hdescriptor]
      exact v.isWired_descriptor_iff
    · have hunsupported := hfaulty.2
      rw [hdescriptor] at hunsupported
      exact v.not_isUnsupported_descriptor hunsupported
  given_iff plan h target v hv := stringVar_mem_iff h hv
  catalogued kind target := descriptor_of_catalogue

end Wiring

end LayeredSettings
