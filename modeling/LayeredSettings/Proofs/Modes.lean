import LayeredSettings.Proofs.Planning
import LayeredSettings.Proofs.Recipe

set_option autoImplicit false

/-! # Which plan a catalogue gets

A forced mode decides alone; otherwise a complete address pair comes before a recipe and a recipe
before the local files. `Wiring.decision_obeys` says so of every catalogue without unsupported
formats, with what the plan of each mode consists of, and of every catalogue that a gap in the remote
pair is an error that names the first empty variable. -/

namespace LayeredSettings

/-! ## Empty recipes -/

namespace Recipe

open Classical in
/-- A recipe without entries has put all its tokens aside. -/
theorem ignored_of_isEmpty {text : String} (h : (ofText text).isEmpty = true) :
    (ofText text).ignored = tokens text := by
  have hblank := tokens_not_blank text
  have hperm : (ofText text).entries.Perm (addAll {} 1 (tokens text)).entries :=
    List.mergeSort_perm _ RecipeEntry.le
  have hnil : (addAll {} 1 (tokens text)).entries = [] := by
    rw [isEmpty, List.isEmpty_iff] at h
    rw [h] at hperm
    exact hperm.nil_eq.symm
  have hinvalid : ∀ t ∈ tokens text, ¬ IsValid t := by
    rintro t ht ⟨kind, hkind⟩
    have hlisted : kind ∈ (addAll {} 1 (tokens text)).listed :=
      (mem_listed_addAll hblank).2 (.inr ⟨t, ht, hkind⟩)
    simp [listed, hnil] at hlisted
  have hignored : (addAll {} 1 (tokens text)).ignored = tokens text := by
    rw [ignored_addAll hblank, List.filter_eq_self.2 fun t ht => decide_eq_true (hinvalid t ht)]
    exact List.nil_append _
  exact hignored

end Recipe

/-! ## What the catalogue says -/

namespace Catalogue

/-- No descriptor declares an unsupported format. -/
structure IsSupported (c : Catalogue) : Prop where
  descriptor : ∀ kind target, ¬ (c.descriptor kind target).IsUnsupported
  legacyConfig : ¬ c.legacyConfig.IsUnsupported
  legacySecret : ¬ c.legacySecret.IsUnsupported

/-- Both addresses of the remote pair are set. -/
def HasPair (c : Catalogue) : Prop :=
  c.legacyConfig.address ≠ "" ∧ c.legacySecret.address ≠ ""

/-- Both names of the remote pair are set. -/
def NamesPair (c : Catalogue) : Prop :=
  c.legacyConfig.name ≠ "" ∧ c.legacySecret.name ≠ ""

/-- The expression of the recipe consists of blanks. -/
def IsBlank (c : Catalogue) : Prop :=
  ∀ ch ∈ c.dynamicValues.toList, Text.isBlank ch = true

variable {c : Catalogue}

theorem hasAddressPair_iff : c.hasAddressPair = true ↔ c.HasPair := by
  simp [hasAddressPair, HasPair]

theorem hasRecipe_iff : c.hasRecipe = true ↔ ¬ c.IsBlank := by
  unfold hasRecipe IsBlank
  rw [bne_iff_ne, ne_eq, Text.trim_eq_empty_iff]

end Catalogue

/-! ## Local files -/

namespace Wiring

variable {w : Wiring}

/-- The file is the one of a target: it has the bound name, or else the given one. -/
structure NamesFile (w : Wiring) (target : Target) (default : String) (s : FileSource) : Prop where
  bound : (w.catalogue.descriptor .file target).name ≠ "" →
    s.name = (w.catalogue.descriptor .file target).name
  default : (w.catalogue.descriptor .file target).name = "" → s.name = default
  paths : s.paths = (w.catalogue.descriptor .file target).paths
  format : (w.catalogue.descriptor .file target).declaredFormat = .ok s.format

/-- The plan has one source for each target, a file. -/
def IsLocalFiles (w : Wiring) (p : Plan) : Prop :=
  ∃ config secret, p = ⟨[.file config], [.file secret]⟩
    ∧ w.NamesFile .config "config" config ∧ w.NamesFile .secret "secrets" secret

theorem namesFile_of_localFile {target : Target} {s : FileSource} (h : w.localFile target = .ok s) :
    w.NamesFile target (defaultFileName target) s := by
  obtain ⟨format, hformat, rfl⟩ := Except.map_eq_ok_iff.1 h
  refine ⟨?_, ?_, rfl, hformat⟩
  · intro hname
    simp [Descriptor.orText, hname]
  · intro hname
    simp [Descriptor.orText, hname]

theorem exists_planLocalFiles (h : w.catalogue.IsSupported) :
    ∃ plan, w.planLocalFiles = .ok plan ∧ w.IsLocalFiles plan := by
  have hfile : ∀ target, ∃ s, w.localFile target = .ok s := by
    intro target
    rw [Except.exists_ok_iff_not localFile_eq_error_iff]
    exact h.descriptor .file target
  obtain ⟨config, hconfig⟩ := hfile .config
  obtain ⟨secret, hsecret⟩ := hfile .secret
  refine ⟨⟨[.file config], [.file secret]⟩, ?_, config, secret, rfl, ?_, ?_⟩
  · rw [planLocalFiles, hconfig, Except.ok_bind, hsecret, Except.ok_bind]
  · exact namesFile_of_localFile hconfig
  · exact namesFile_of_localFile hsecret

end Wiring

/-! ## The remote pair -/

/-- The names of database drivers. -/
def Driver.names : List String :=
  ["postgres", "postgresql", "mysql", "mariadb", "sqlite"]

theorem Driver.exists_ofName_iff {name : String} : (∃ d, ofName name = .ok d) ↔ name ∈ names := by
  unfold ofName
  split <;> simp_all [names]

namespace Wiring

variable {w : Wiring} {c : Catalogue}

/-- The plan has one source for each target, of the kinds that the name of the provider means. -/
structure IsRemotePair (w : Wiring) (config : ConfigSource) (secret : SecretSource) : Prop where
  database : w.catalogue.remoteProvider ∈ ["postgres", "postgresql", "mysql", "mariadb", "sqlite"] →
    config.kind = .database ∧ secret.kind = .secretManager
  secretManager : w.catalogue.remoteProvider ∈ ["gsm", "secretmanager", "secret_manager"] →
    config.kind = .secretManager ∧ secret.kind = .secretManager
  keyValue : w.catalogue.remoteProvider ∉ ["postgres", "postgresql", "mysql", "mariadb", "sqlite"] →
    w.catalogue.remoteProvider ∉ ["gsm", "secretmanager", "secret_manager"] →
    config.kind = .keyValue ∧ secret.kind = .keyValue
  /-- Both are what the descriptors of the pair describe. -/
  config : ConfigSource.ofDescriptor config.kind w.catalogue.legacyConfig w.catalogue = .ok config
  secret : ConfigSource.ofDescriptor secret.kind w.catalogue.legacySecret w.catalogue
    = .ok secret.toConfig

theorem pairKinds_of_driver {provider : String} (h : provider ∈ Driver.names) :
    pairKinds provider = (.database, .secretManager) := by
  obtain ⟨driver, hdriver⟩ := Driver.exists_ofName_iff.2 h
  rw [pairKinds, hdriver]

theorem pairKinds_of_not_driver {provider : String} (h : provider ∉ Driver.names) :
    pairKinds provider
      = if provider ∈ secretManagerNames then (.secretManager, .secretManager)
        else (.keyValue, .keyValue) := by
  cases hdriver : Driver.ofName provider with
  | ok driver => exact absurd (Driver.exists_ofName_iff.1 ⟨driver, hdriver⟩) h
  | error e =>
    unfold pairKinds
    simp only [hdriver, List.contains_iff_mem]

theorem secretManagerNames_not_driver {provider : String} (h : provider ∈ secretManagerNames) :
    provider ∉ Driver.names := by
  simp only [secretManagerNames, List.mem_cons, List.not_mem_nil, or_false] at h
  rcases h with rfl | rfl | rfl <;> decide

theorem checkPair_eq_ok_iff : checkPair c = .ok () ↔ ∀ e ∈ requiredOfPair c, e.2 ≠ "" := by
  constructor
  · rintro hok ⟨key, value⟩ hmem hvalue
    obtain rfl : value = "" := hvalue
    obtain ⟨e, he⟩ := exists_checkPair_error hmem
    rw [hok] at he
    cases he
  · intro hall
    cases hcheck : checkPair c with
    | ok u => rfl
    | error e =>
      obtain ⟨key, hmem, -⟩ := emptyVariable_of_checkPair hcheck
      exact absurd rfl (hall _ hmem)

theorem mem_requiredOfPair_iff :
    (∀ e ∈ requiredOfPair c, e.2 ≠ "") ↔ c.HasPair ∧ c.NamesPair := by
  unfold requiredOfPair Catalogue.HasPair Catalogue.NamesPair
  simp only [List.forall_mem_cons, List.not_mem_nil, false_imp_iff, implies_true, and_true]
  constructor
  · rintro ⟨hca, hcn, hsa, hsn⟩
    exact ⟨⟨hca, hsa⟩, hcn, hsn⟩
  · rintro ⟨⟨hca, hsa⟩, hcn, hsn⟩
    exact ⟨hca, hcn, hsa, hsn⟩

theorem isRemotePair_of_kinds {config : ConfigSource} {secret : SecretSource}
    (hconfig : ConfigSource.ofDescriptor (pairKinds w.catalogue.remoteProvider).1
      w.catalogue.legacyConfig w.catalogue = .ok config)
    (hsecret : SecretSource.ofDescriptor (pairKinds w.catalogue.remoteProvider).2
      w.catalogue.legacySecret w.catalogue = .ok secret) : w.IsRemotePair config secret := by
  have hsecret' : ConfigSource.ofDescriptor (pairKinds w.catalogue.remoteProvider).2.kind
      w.catalogue.legacySecret w.catalogue = .ok secret.toConfig := by
    rw [← SecretSource.map_ofDescriptor, hsecret]
    rfl
  have hkind := ConfigSource.kind_of_ofDescriptor hconfig
  have hkind' : secret.kind = (pairKinds w.catalogue.remoteProvider).2.kind :=
    ConfigSource.kind_of_ofDescriptor hsecret'
  refine ⟨?_, ?_, ?_, by rw [hkind]; exact hconfig, by rw [hkind']; exact hsecret'⟩
  · intro hdriver
    rw [hkind, hkind', pairKinds_of_driver hdriver]
    exact ⟨rfl, rfl⟩
  · intro hname
    have hname' : w.catalogue.remoteProvider ∈ secretManagerNames := hname
    rw [hkind, hkind', pairKinds_of_not_driver (secretManagerNames_not_driver hname), if_pos hname']
    exact ⟨rfl, rfl⟩
  · intro hdriver hname
    have hname' : w.catalogue.remoteProvider ∉ secretManagerNames := hname
    rw [hkind, hkind', pairKinds_of_not_driver hdriver, if_neg hname']
    exact ⟨rfl, rfl⟩

theorem planRemotePair_of_gap {e : Error} (h : checkPair w.catalogue = .error e) :
    w.planRemotePair = .error e := by
  rw [planRemotePair, h]
  rfl

theorem exists_planRemotePair (h : w.catalogue.IsSupported) (hcheck : checkPair w.catalogue = .ok ()) :
    ∃ config secret, w.planRemotePair = .ok ⟨[config], [secret]⟩ ∧ w.IsRemotePair config secret := by
  obtain ⟨config, hconfig⟩ :
      ∃ config, ConfigSource.ofDescriptor (pairKinds w.catalogue.remoteProvider).1
        w.catalogue.legacyConfig w.catalogue = .ok config := by
    rw [Except.exists_ok_iff_not ConfigSource.ofDescriptor_eq_error_iff]
    exact h.legacyConfig
  obtain ⟨secret, hsecret⟩ :
      ∃ secret, SecretSource.ofDescriptor (pairKinds w.catalogue.remoteProvider).2
        w.catalogue.legacySecret w.catalogue = .ok secret := by
    rw [Except.exists_ok_iff_not SecretSource.ofDescriptor_eq_error_iff]
    exact h.legacySecret
  refine ⟨config, secret, ?_, isRemotePair_of_kinds hconfig hsecret⟩
  rw [planRemotePair, hcheck, Except.ok_bind]
  simp only [hconfig, hsecret, Except.ok_bind]

end Wiring

/-! ## Recipes -/

namespace Wiring

variable {w : Wiring}

theorem not_isUnsupported_descriptor (h : w.catalogue.IsSupported) (kind : SourceKind)
    (target : Target) : ¬ (w.descriptor kind target).IsUnsupported := by
  by_cases hgiven : kind = .stringVar → w.stringVars target = none
  · rw [descriptor_of_catalogue hgiven]
    exact h.descriptor kind target
  · obtain ⟨rfl, hsome⟩ := Classical.not_imp.1 hgiven
    obtain ⟨v, hv⟩ := Option.ne_none_iff_exists'.1 hsome
    rw [descriptor_of_given hv]
    exact v.not_isUnsupported_descriptor

theorem exists_planRecipe (h : w.catalogue.IsSupported) (r : Recipe) :
    ∃ plan, w.planRecipe r = .ok plan := by
  cases hplan : w.planRecipe r with
  | ok plan => exact ⟨plan, rfl⟩
  | error e =>
    obtain ⟨before, c, after, -, -, hfaulty, -⟩ := planKinds_eq_first_iff.1 hplan
    exact absurd hfaulty.2 (not_isUnsupported_descriptor h c.1 c.2)

end Wiring

/-! ## The law -/

namespace Wiring

/-- The local files are chosen, and these tokens were put aside. -/
def ChoosesLocalFiles (w : Wiring) (ignored : List String) : Prop :=
  ∃ plan, w.decision = .ok ⟨.localFiles, plan, ignored⟩ ∧ w.IsLocalFiles plan

/-- The remote pair is chosen if both its names are set too. -/
structure ChoosesRemotePair (w : Wiring) : Prop where
  named : w.catalogue.NamesPair → ∃ config secret,
    w.decision = .ok ⟨.remotePair, ⟨[config], [secret]⟩, []⟩ ∧ w.IsRemotePair config secret
  configName : w.catalogue.legacyConfig.name = "" →
    w.decision = .error (.config (.emptyVariable "CONFIG_REMOTE_NAME"))
  secretName : w.catalogue.legacyConfig.name ≠ "" → w.catalogue.legacySecret.name = "" →
    w.decision = .error (.config (.emptyVariable "SECRET_REMOTE_NAME"))

/-- The recipe is chosen; one without entries gives way to the local files. -/
structure ChoosesRecipe (w : Wiring) (r : Recipe) : Prop where
  listed : r.entries ≠ [] →
    ∃ plan, w.planRecipe r = .ok plan ∧ w.decision = .ok ⟨.dynamic, plan, r.ignored⟩
  empty : r.entries = [] →
    w.ChoosesLocalFiles r.ignored ∧ r.ignored = Recipe.tokens w.catalogue.dynamicValues

/-- What the decision is in each mode. -/
structure ObeysModes (w : Wiring) : Prop where
  forcedLocal : w.catalogue.mode = .forcedLocal → w.ChoosesLocalFiles []
  forcedRemote : w.catalogue.mode = .forcedRemote →
    (w.catalogue.HasPair → w.ChoosesRemotePair)
      ∧ (¬ w.catalogue.HasPair → w.decision = .error (.config .noAddressPair))
  forcedDynamic : w.catalogue.mode = .forcedDynamic →
    w.ChoosesRecipe (Recipe.ofText w.catalogue.dynamicValues)
  /-- The pair comes before the recipe, and the recipe before the local files. -/
  auto : w.catalogue.mode = .auto →
    (w.catalogue.HasPair → w.ChoosesRemotePair)
      ∧ (¬ w.catalogue.HasPair → ¬ w.catalogue.IsBlank →
          w.ChoosesRecipe (Recipe.ofText w.catalogue.dynamicValues))
      ∧ (¬ w.catalogue.HasPair → w.catalogue.IsBlank → w.ChoosesLocalFiles [])

/-- Whatever the formats are, a gap in the remote pair is an error that names the first empty
    variable. -/
structure RefusesGaps (w : Wiring) : Prop where
  error : ∀ before key after, requiredOfPair w.catalogue = before ++ (key, "") :: after →
    (∀ e ∈ before, e.2 ≠ "") → w.planRemotePair = .error (.config (.emptyVariable key))
  complete : ∀ plan, w.planRemotePair = .ok plan → w.catalogue.HasPair ∧ w.catalogue.NamesPair

variable {w : Wiring}

theorem choosesLocalFiles (h : w.catalogue.IsSupported)
    (hmode : w.catalogue.loadMode = .ok .localFiles) : w.ChoosesLocalFiles [] := by
  obtain ⟨plan, hplan, hfiles⟩ := exists_planLocalFiles h
  refine ⟨plan, ?_, hfiles⟩
  rw [decision_eq, hmode, Except.ok_bind, decisionFor, decideLocalFiles, hplan, Except.ok_bind]

theorem choosesRemotePair (h : w.catalogue.IsSupported) (hpair : w.catalogue.HasPair)
    (hmode : w.catalogue.loadMode = .ok .remotePair) : w.ChoosesRemotePair := by
  have hdecision : w.decision = w.planRemotePair >>= fun plan => .ok ⟨.remotePair, plan, []⟩ := by
    rw [decision_eq, hmode, Except.ok_bind, decisionFor]
  refine ⟨?_, ?_, ?_⟩
  · intro hnamed
    have hcheck := checkPair_eq_ok_iff.2 (mem_requiredOfPair_iff.2 ⟨hpair, hnamed⟩)
    obtain ⟨config, secret, hplan, hremote⟩ := exists_planRemotePair h hcheck
    refine ⟨config, secret, ?_, hremote⟩
    rw [hdecision, hplan, Except.ok_bind]
  · intro hname
    have hgap : requiredOfPair w.catalogue
        = [("CONFIG_REMOTE_ADDRESS", w.catalogue.legacyConfig.address)]
          ++ ("CONFIG_REMOTE_NAME", "") :: (requiredOfPair w.catalogue).drop 2 := by
      simp [requiredOfPair, hname]
    have hcheck := checkPair_eq_error_iff.2 ⟨_, _, _, hgap, by simpa using hpair.1, rfl⟩
    rw [hdecision, planRemotePair_of_gap hcheck]
    rfl
  · intro hname hname'
    have hgap : requiredOfPair w.catalogue
        = (requiredOfPair w.catalogue).take 3 ++ [("SECRET_REMOTE_NAME", "")] := by
      simp [requiredOfPair, hname']
    have hbefore : ∀ b ∈ (requiredOfPair w.catalogue).take 3, b.2 ≠ "" := by
      simpa [requiredOfPair] using ⟨hpair.1, hname, hpair.2⟩
    have hcheck := checkPair_eq_error_iff.2 ⟨_, _, _, hgap, hbefore, rfl⟩
    rw [hdecision, planRemotePair_of_gap hcheck]
    rfl

theorem choosesRecipe (h : w.catalogue.IsSupported) (hmode : w.catalogue.loadMode = .ok .dynamic) :
    w.ChoosesRecipe (Recipe.ofText w.catalogue.dynamicValues) := by
  have hdecision : w.decision = w.decideRecipe := by
    rw [decision_eq, hmode, Except.ok_bind, decisionFor]
  constructor
  · intro hlisted
    have hempty : ¬ (Recipe.ofText w.catalogue.dynamicValues).isEmpty = true := by
      rwa [Recipe.isEmpty, List.isEmpty_iff]
    obtain ⟨plan, hplan⟩ := exists_planRecipe h (Recipe.ofText w.catalogue.dynamicValues)
    refine ⟨plan, hplan, ?_⟩
    rw [hdecision, decideRecipe]
    simp only [if_neg hempty, hplan, Except.ok_bind]
  · intro hnil
    have hempty : (Recipe.ofText w.catalogue.dynamicValues).isEmpty = true := by
      rwa [Recipe.isEmpty, List.isEmpty_iff]
    obtain ⟨plan, hplan, hfiles⟩ := exists_planLocalFiles h
    refine ⟨⟨plan, ?_, hfiles⟩, Recipe.ignored_of_isEmpty hempty⟩
    rw [hdecision, decideRecipe]
    simp only [if_pos hempty, decideLocalFiles, hplan, Except.ok_bind]

theorem obeysModes (h : w.catalogue.IsSupported) : w.ObeysModes := by
  have hpair : w.catalogue.hasAddressPair = true ↔ w.catalogue.HasPair := Catalogue.hasAddressPair_iff
  have hrecipe : w.catalogue.hasRecipe = true ↔ ¬ w.catalogue.IsBlank := Catalogue.hasRecipe_iff
  refine ⟨?_, ?_, ?_, ?_⟩
  · intro hmode
    exact choosesLocalFiles h (by simp only [Catalogue.loadMode, hmode])
  · intro hmode
    refine ⟨fun hset => ?_, fun hset => ?_⟩
    · exact choosesRemotePair h hset (by simp only [Catalogue.loadMode, hmode, if_pos (hpair.2 hset)])
    · rw [decision_eq, Catalogue.loadMode_eq_error_iff.2
        ⟨⟨hmode, Bool.eq_false_iff.2 fun hboth => hset (hpair.1 hboth)⟩, rfl⟩]
      rfl
  · intro hmode
    exact choosesRecipe h (by simp only [Catalogue.loadMode, hmode])
  · intro hmode
    refine ⟨fun hset => ?_, fun hset hblank => ?_, fun hset hblank => ?_⟩
    · exact choosesRemotePair h hset (by simp only [Catalogue.loadMode, hmode, if_pos (hpair.2 hset)])
    · have hnone : ¬ w.catalogue.hasAddressPair = true := fun hboth => hset (hpair.1 hboth)
      exact choosesRecipe h
        (by simp only [Catalogue.loadMode, hmode, if_neg hnone, if_pos (hrecipe.2 hblank)])
    · have hnone : ¬ w.catalogue.hasAddressPair = true := fun hboth => hset (hpair.1 hboth)
      have hnothing : ¬ w.catalogue.hasRecipe = true := fun hset => hrecipe.1 hset hblank
      exact choosesLocalFiles h
        (by simp only [Catalogue.loadMode, hmode, if_neg hnone, if_neg hnothing])

theorem refusesGaps (w : Wiring) : w.RefusesGaps := by
  constructor
  · intro before key after hsplit hbefore
    exact planRemotePair_of_gap (checkPair_eq_error_iff.2 ⟨before, key, after, hsplit, hbefore, rfl⟩)
  · intro plan hplan
    cases hcheck : checkPair w.catalogue with
    | ok u => exact mem_requiredOfPair_iff.1 (checkPair_eq_ok_iff.1 hcheck)
    | error e =>
      rw [planRemotePair_of_gap hcheck] at hplan
      cases hplan

/-- **The law of modes.** Where no format is unsupported, the mode, the pair and the recipe of the
    catalogue decide on the plan; and the remote pair is refused unless it is complete. -/
theorem decision_obeys (w : Wiring) : (w.catalogue.IsSupported → w.ObeysModes) ∧ w.RefusesGaps :=
  ⟨obeysModes, refusesGaps w⟩

/-- The law where the recipe lists two names that no kind has. -/
theorem decision_obeys_unknown_names :
    let w : Wiring :=
      ⟨{ Catalogue.bind (fun _ => none) with dynamicValues := "vault, nfs" }, fun _ => none⟩
    w.catalogue.IsSupported ∧ w.ChoosesLocalFiles ["vault", "nfs"] := by
  intro w
  have supported : w.catalogue.IsSupported := by
    refine ⟨fun kind target h => absurd h.1 ?_, fun h => absurd h.1 ?_, fun h => absurd h.1 ?_⟩
    · cases kind <;> cases target <;> decide +kernel
    · decide +kernel
    · decide +kernel
  have noPair : ¬ w.catalogue.HasPair := fun h => absurd h.1 (by decide +kernel)
  have recipe : ¬ w.catalogue.IsBlank := fun h =>
    absurd (h 'v' (by decide +kernel)) (by decide +kernel)
  have unknown : (Recipe.ofText w.catalogue.dynamicValues).entries = [] := by
    have hnone : (Recipe.addAll {} 1 (Recipe.tokens w.catalogue.dynamicValues)).entries = [] := by
      decide +kernel
    rw [Recipe.ofText]
    simp only [hnone, List.mergeSort_nil]
  have ignored : (Recipe.ofText w.catalogue.dynamicValues).ignored = ["vault", "nfs"] := by
    decide +kernel
  refine ⟨supported, ?_⟩
  rw [← ignored]
  exact ((((decision_obeys w).1 supported).auto (by decide +kernel)).2.1 noPair recipe).empty
    unknown |>.1

end Wiring

end LayeredSettings
