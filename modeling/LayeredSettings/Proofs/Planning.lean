import LayeredSettings.Plan.Mode
import LayeredSettings.Proofs.Rows
import LayeredSettings.Proofs.Wiring

set_option autoImplicit false

/-! # What keeps a load from being planned

Planning fails if the environment asks for a remote pair that is not complete, or if a descriptor
that takes part declares an unsupported format: `Wiring.Unplannable` lists the causes. The errors of
planning are its own, for no source fails with one of them (`ConfigSource.pastPlanning_load`). -/

namespace LayeredSettings

variable {α β : Type}

/-! ## Plans that cannot be made -/

/-- What keeps a load from being planned, with the error that it is. -/
inductive Wiring.Unplannable (w : Wiring) : Error → Prop where
  /-- The remote pair is forced, and one of its addresses is empty. -/
  | noAddressPair (mode : w.catalogue.mode = .forcedRemote)
      (missing : w.catalogue.hasAddressPair = false) : Unplannable w (.config .noAddressPair)
  /-- A variable that the remote pair cannot do without is empty. -/
  | emptyVariable (key : String) (mode : w.catalogue.loadMode = .ok .remotePair)
      (empty : (key, "") ∈ requiredOfPair w.catalogue) :
      Unplannable w (.config (.emptyVariable key))
  /-- A source of the remote pair declares an unsupported format. -/
  | pairFormat (d : Descriptor) (mode : w.catalogue.loadMode = .ok .remotePair)
      (mem : d = w.catalogue.legacyConfig ∨ d = w.catalogue.legacySecret)
      (unsupported : d.IsUnsupported) : Unplannable w d.formatError
  /-- A wired cell of the recipe declares an unsupported format, wherever in the recipe it is. -/
  | recipeFormat (c : Cell) (mode : w.catalogue.loadMode = .ok .dynamic)
      (mem : c ∈ (Recipe.ofText w.catalogue.dynamicValues).kinds.flatMap SourceKind.cells)
      (faulty : w.Faulty c) : Unplannable w (w.descriptor c.1 c.2).formatError
  /-- A local file declares an unsupported format, where local files are chosen or the recipe lists
      nothing. -/
  | fileFormat (target : Target)
      (mode : w.catalogue.loadMode = .ok .localFiles ∨ w.catalogue.loadMode = .ok .dynamic
        ∧ (Recipe.ofText w.catalogue.dynamicValues).isEmpty = true)
      (unsupported : (w.catalogue.descriptor .file target).IsUnsupported) :
      Unplannable w (w.catalogue.descriptor .file target).formatError

namespace Catalogue

theorem loadMode_eq_error_iff {c : Catalogue} {e : Error} :
    c.loadMode = .error e ↔
      (c.mode = .forcedRemote ∧ c.hasAddressPair = false) ∧ e = .config .noAddressPair := by
  unfold loadMode
  cases c.mode with
  | forcedRemote => cases c.hasAddressPair <;> simp [eq_comm]
  | auto => cases c.hasAddressPair <;> cases c.hasRecipe <;> simp
  | _ => simp

end Catalogue

namespace Wiring

variable {w : Wiring} {e : Error}

/-! ### Each mode -/

theorem localFile_eq_error_iff {target : Target} :
    w.localFile target = .error e ↔
      (w.catalogue.descriptor .file target).IsUnsupported
        ∧ e = (w.catalogue.descriptor .file target).formatError := by
  unfold localFile Descriptor.file
  rw [Except.map_eq_error_iff, Descriptor.declaredFormat_eq_error_iff]
  rfl

theorem planLocalFiles_eq_error_iff :
    w.planLocalFiles = .error e ↔
      w.localFile .config = .error e
        ∨ (∃ s, w.localFile .config = .ok s) ∧ w.localFile .secret = .error e := by
  unfold planLocalFiles
  exact Except.bind_eq_error_iff_of_forall fun _ => Except.bind_ok_eq_error_iff

/-- The first of the two descriptors that declares an unsupported format. -/
def PairFault (c : Catalogue) (e : Error) : Prop :=
  c.legacyConfig.IsUnsupported ∧ e = c.legacyConfig.formatError
    ∨ ¬ c.legacyConfig.IsUnsupported ∧ c.legacySecret.IsUnsupported
      ∧ e = c.legacySecret.formatError

theorem planRemotePair_eq_error_iff :
    w.planRemotePair = .error e ↔
      checkPair w.catalogue = .error e
        ∨ (∃ u, checkPair w.catalogue = .ok u) ∧ PairFault w.catalogue e := by
  unfold planRemotePair PairFault
  refine Except.bind_eq_error_iff_of_forall fun _ => ?_
  rw [← Except.exists_ok_iff_not ConfigSource.ofDescriptor_eq_error_iff,
    ← ConfigSource.ofDescriptor_eq_error_iff, ← SecretSource.ofDescriptor_eq_error_iff]
  exact Except.bind_eq_error_iff_of_forall fun _ => Except.bind_ok_eq_error_iff

/-- The first empty variable is the only thing that the check of the pair refuses. -/
theorem checkPair_eq_error_iff {c : Catalogue} :
    checkPair c = .error e ↔
      ∃ before key after, requiredOfPair c = before ++ (key, "") :: after
        ∧ (∀ b ∈ before, b.2 ≠ "") ∧ e = .config (.emptyVariable key) := by
  unfold checkPair
  constructor
  · intro h
    split at h
    · next key value hfind =>
      obtain ⟨hempty, before, after, hsplit, hbefore⟩ := List.find?_eq_some_iff_append.1 hfind
      obtain rfl : value = "" := by simpa using hempty
      refine ⟨before, key, after, hsplit, fun b hb => ?_, (Except.error.inj h).symm⟩
      simpa using hbefore b hb
    · cases h
  · rintro ⟨before, key, after, hsplit, hbefore, rfl⟩
    have hfind : (requiredOfPair c).find? (fun entry => entry.2 == "") = some (key, "") := by
      rw [List.find?_eq_some_iff_append]
      exact ⟨rfl, before, after, hsplit, fun b hb => by simpa using hbefore b hb⟩
    rw [hfind]

theorem emptyVariable_of_checkPair {c : Catalogue} (h : checkPair c = .error e) :
    ∃ key, (key, "") ∈ requiredOfPair c ∧ e = .config (.emptyVariable key) := by
  obtain ⟨before, key, after, hsplit, -, rfl⟩ := checkPair_eq_error_iff.1 h
  exact ⟨key, by simp [hsplit], rfl⟩

theorem exists_checkPair_error {c : Catalogue} {key : String}
    (h : (key, "") ∈ requiredOfPair c) : ∃ e, checkPair c = .error e := by
  obtain ⟨before, ⟨first, value⟩, after, hsplit, hbefore, hvalue⟩ :=
    exists_first_of_mem (P := fun entry => entry.2 = "") h rfl
  obtain rfl : value = "" := hvalue
  exact ⟨_, checkPair_eq_error_iff.2 ⟨before, first, after, hsplit, hbefore, rfl⟩⟩

/-! ### All modes -/

/-- The decision for a mode. -/
def decisionFor (w : Wiring) : LoadMode → Except Error Decision
  | .localFiles => w.decideLocalFiles []
  | .remotePair => w.planRemotePair >>= fun plan => .ok ⟨.remotePair, plan, []⟩
  | .dynamic => w.decideRecipe

theorem decision_eq (w : Wiring) : w.decision = w.catalogue.loadMode >>= w.decisionFor :=
  rfl

theorem decideLocalFiles_eq_error_iff {ignored : List String} :
    w.decideLocalFiles ignored = .error e ↔ w.planLocalFiles = .error e :=
  Except.bind_ok_eq_error_iff

theorem decideRecipe_eq_error_iff :
    w.decideRecipe = .error e ↔
      if (Recipe.ofText w.catalogue.dynamicValues).isEmpty then w.planLocalFiles = .error e
      else w.planRecipe (Recipe.ofText w.catalogue.dynamicValues) = .error e := by
  unfold decideRecipe
  split
  · next h => simp only [h, if_true, decideLocalFiles_eq_error_iff]
  · next h =>
    simp only [h]
    exact Except.bind_ok_eq_error_iff

theorem unplannable_of_planLocalFiles (h : w.planLocalFiles = .error e)
    (mode : w.catalogue.loadMode = .ok .localFiles ∨ w.catalogue.loadMode = .ok .dynamic
      ∧ (Recipe.ofText w.catalogue.dynamicValues).isEmpty = true) : w.Unplannable e := by
  rcases planLocalFiles_eq_error_iff.1 h with h | ⟨-, h⟩
  · obtain ⟨hunsupported, rfl⟩ := localFile_eq_error_iff.1 h
    exact .fileFormat .config mode hunsupported
  · obtain ⟨hunsupported, rfl⟩ := localFile_eq_error_iff.1 h
    exact .fileFormat .secret mode hunsupported

/-- Planning fails for one of the causes only. -/
theorem unplannable_of_decision (h : w.decision = .error e) : w.Unplannable e := by
  rw [decision_eq] at h
  rcases Except.bind_eq_error_iff.1 h with h | ⟨mode, hmode, h⟩
  · obtain ⟨⟨hforced, hpair⟩, rfl⟩ := Catalogue.loadMode_eq_error_iff.1 h
    exact .noAddressPair hforced hpair
  · cases mode with
    | localFiles =>
      exact unplannable_of_planLocalFiles (decideLocalFiles_eq_error_iff.1 h) (.inl hmode)
    | remotePair =>
      rcases planRemotePair_eq_error_iff.1 (Except.bind_ok_eq_error_iff.1 h) with
        h | ⟨-, ⟨hunsupported, rfl⟩ | ⟨-, hunsupported, rfl⟩⟩
      · obtain ⟨key, hkey, rfl⟩ := emptyVariable_of_checkPair h
        exact .emptyVariable key hmode hkey
      · exact .pairFormat _ hmode (.inl rfl) hunsupported
      · exact .pairFormat _ hmode (.inr rfl) hunsupported
    | dynamic =>
      have hrecipe := decideRecipe_eq_error_iff.1 h
      split at hrecipe
      · next hempty => exact unplannable_of_planLocalFiles hrecipe (.inr ⟨hmode, hempty⟩)
      · obtain ⟨before, c, after, hcells, -, hfaulty, rfl⟩ := planKinds_eq_first_iff.1 hrecipe
        exact .recipeFormat c hmode (by simp [hcells]) hfaulty

theorem exists_planLocalFiles_error {target : Target}
    (h : (w.catalogue.descriptor .file target).IsUnsupported) :
    ∃ e, w.planLocalFiles = .error e := by
  cases hconfig : w.localFile .config with
  | error e => exact ⟨e, planLocalFiles_eq_error_iff.2 (.inl hconfig)⟩
  | ok s =>
    cases target with
    | config =>
      rw [localFile_eq_error_iff.2 ⟨h, rfl⟩] at hconfig
      cases hconfig
    | secret =>
      have hsecret := localFile_eq_error_iff.2 ⟨h, rfl⟩
      exact ⟨_, planLocalFiles_eq_error_iff.2 (.inr ⟨⟨s, hconfig⟩, hsecret⟩)⟩

theorem exists_planRemotePair_error {d : Descriptor}
    (hd : d = w.catalogue.legacyConfig ∨ d = w.catalogue.legacySecret) (h : d.IsUnsupported) :
    ∃ e, w.planRemotePair = .error e := by
  cases hcheck : checkPair w.catalogue with
  | error e => exact ⟨e, planRemotePair_eq_error_iff.2 (.inl hcheck)⟩
  | ok u =>
    have hfault : ∃ e, PairFault w.catalogue e := by
      by_cases hconfig : w.catalogue.legacyConfig.IsUnsupported
      · exact ⟨_, .inl ⟨hconfig, rfl⟩⟩
      · rcases hd with rfl | rfl
        · exact absurd h hconfig
        · exact ⟨_, .inr ⟨hconfig, h, rfl⟩⟩
    obtain ⟨e, he⟩ := hfault
    exact ⟨e, planRemotePair_eq_error_iff.2 (.inr ⟨⟨u, hcheck⟩, he⟩)⟩

theorem exists_planRecipe_error {r : Recipe} {c : Cell}
    (hc : c ∈ r.kinds.flatMap SourceKind.cells) (h : w.Faulty c) :
    ∃ e, w.planRecipe r = .error e := by
  obtain ⟨before, b, after, hcells, hbefore, hb⟩ := exists_first_of_mem hc h
  exact ⟨_, planKinds_eq_first_iff.2 ⟨before, b, after, hcells, hbefore, hb, rfl⟩⟩

/-- Planning fails for each of the causes. -/
theorem Unplannable.exists_decision_error (h : w.Unplannable e) :
    ∃ e', w.decision = .error e' := by
  -- Where there are several causes, the first that is met is the error, perhaps not this one.
  have hdecision : ∀ {mode}, w.catalogue.loadMode = .ok mode →
      (∃ e', w.decisionFor mode = .error e') → ∃ e', w.decision = .error e' := by
    rintro mode hmode ⟨e', h⟩
    exact ⟨e', by rw [decision_eq, hmode, Except.ok_bind, h]⟩
  cases h with
  | noAddressPair mode missing =>
    have herror := Catalogue.loadMode_eq_error_iff.2 ⟨⟨mode, missing⟩, rfl⟩
    exact ⟨_, by rw [decision_eq]; exact Except.bind_eq_error_iff.2 (.inl herror)⟩
  | emptyVariable key mode empty =>
    obtain ⟨e', he⟩ := exists_checkPair_error empty
    have hpair := planRemotePair_eq_error_iff.2 (.inl he)
    exact hdecision mode ⟨e', Except.bind_ok_eq_error_iff.2 hpair⟩
  | pairFormat d mode mem unsupported =>
    obtain ⟨e', he⟩ := exists_planRemotePair_error mem unsupported
    exact hdecision mode ⟨e', Except.bind_ok_eq_error_iff.2 he⟩
  | recipeFormat c mode mem faulty =>
    obtain ⟨e', he⟩ := exists_planRecipe_error mem faulty
    have hlisted : ¬ (Recipe.ofText w.catalogue.dynamicValues).isEmpty = true := by
      intro hempty
      rw [Recipe.isEmpty, List.isEmpty_iff] at hempty
      simp [Recipe.kinds, hempty] at mem
    exact hdecision mode ⟨e', decideRecipe_eq_error_iff.2 (by rwa [if_neg hlisted])⟩
  | fileFormat target mode unsupported =>
    obtain ⟨e', he⟩ := exists_planLocalFiles_error unsupported
    rcases mode with mode | ⟨mode, hempty⟩
    · exact hdecision mode ⟨e', decideLocalFiles_eq_error_iff.2 he⟩
    · exact hdecision mode ⟨e', decideRecipe_eq_error_iff.2 (by rwa [if_pos hempty])⟩

end Wiring

/-! ## Errors of planning -/

/-- The error is one of planning: a variable rules the mode out, or a format is not supported. -/
def Error.IsPlanning : Error → Prop
  | .config _ => True
  | .unsupportedFormat _ => True
  | _ => False

theorem Wiring.Unplannable.isPlanning {w : Wiring} {e : Error} (h : w.Unplannable e) :
    e.IsPlanning := by
  cases h <;> exact True.intro

/-- A step that does not fail with an error of planning. -/
def PastPlanning (x : Except Error α) : Prop :=
  ∀ e, x = .error e → ¬ e.IsPlanning

@[simp]
theorem pastPlanning_ok (a : α) : PastPlanning (.ok a) := by
  intro e h
  cases h

@[simp]
theorem pastPlanning_error_iff {e : Error} :
    PastPlanning (.error e : Except Error α) ↔ ¬ e.IsPlanning := by
  simp [PastPlanning]

theorem PastPlanning.bind {x : Except Error α} {f : α → Except Error β} (h : PastPlanning x)
    (h' : ∀ a, PastPlanning (f a)) : PastPlanning (x >>= f) := by
  intro e he
  rcases Except.bind_eq_error_iff.1 he with he | ⟨a, -, he⟩
  · exact h e he
  · exact h' a e he

theorem PastPlanning.map {x : Except Error α} (h : PastPlanning x) (f : α → β) :
    PastPlanning (x.map f) :=
  fun e he => h e (Except.map_eq_error_iff.1 he)

theorem Format.pastPlanning_tree (f : Format) (text source : String) :
    PastPlanning (f.tree text source) := by
  intro e he
  obtain ⟨fault, -, rfl⟩ := tree_eq_error_iff.1 he
  exact id

theorem FileSource.pastPlanning_load (s : FileSource) (w : World) : PastPlanning (s.load w) := by
  refine .bind ?_ fun path => .bind ?_ fun text => .bind (s.format.pastPlanning_tree text path)
    fun tree => pastPlanning_ok _
  · unfold locate
    split <;> simp [Error.IsPlanning]
  · unfold textAt
    split <;> simp [Error.IsPlanning]

theorem DatabaseSource.pastPlanning_load (s : DatabaseSource) (w : World) :
    PastPlanning (s.load w) := by
  have hdriver : PastPlanning s.checkedDriver := by
    refine .bind ?_ fun _ => .bind ?_ fun _ => pastPlanning_ok _
    · unfold Driver.ofDsn Driver.ofName
      split <;> simp [Error.IsPlanning]
    · unfold Database.checkTableName
      split <;> simp [Error.IsPlanning]
  refine .bind (hdriver.bind fun driver => ?_) fun rows e he => ?_
  · unfold Database.query
    dsimp only
    split <;> simp [Error.IsPlanning]
  · obtain ⟨_, _, _, _, _, _, rfl⟩ := treeOfRows_eq_error_iff.1 he
    exact id

theorem SecretManagerSource.pastPlanning_treeOf (s : SecretManagerSource) (r : Response) :
    PastPlanning (s.treeOf r) := by
  refine .bind ?_ fun payload => .bind ?_ fun text => s.format.pastPlanning_tree text s.resourceName
  · unfold SecretManagerSource.payload
    split
    · simp [Error.IsPlanning]
    · split <;> simp [Error.IsPlanning]
  · unfold document
    split
    · simp [Error.IsPlanning]
    · next octets hoctets =>
      have hverified : PastPlanning (verifyChecksum s.resourceName octets payload.checksum) := by
        unfold verifyChecksum
        split
        · simp [Error.IsPlanning]
        · dsimp only
          split <;> simp [Error.IsPlanning]
      refine hverified.bind fun _ => ?_
      split <;> simp [Error.IsPlanning]

theorem KeyValueSource.pastPlanning_treeOf (s : KeyValueSource) (p : Protocol) (r : Response) :
    PastPlanning (s.treeOf p r) := by
  have hfirst : PastPlanning (s.firstDocument r.body) := by
    unfold firstDocument
    split
    · simp [Error.IsPlanning]
    · simp [Error.IsPlanning]
    · split <;> simp [Error.IsPlanning]
  refine .bind ?_ fun text => s.format.pastPlanning_tree text s.label
  unfold document
  split
  · simp [Error.IsPlanning]
  · cases p with
    | consul => exact pastPlanning_ok _
    | etcd3 => exact hfirst

theorem Answer.pastPlanning_received (answer : Answer) : PastPlanning answer.received := by
  cases answer with
  | dropped => simp [received, Error.IsPlanning]
  | status code body => exact pastPlanning_ok _

theorem Network.pastPlanning_send (network : Network) (r : Request) :
    PastPlanning (network.send r).result := by
  have hfail : PastPlanning (Outcome.fail .http : Outcome Response).result := by
    simp [Outcome.fail, Error.IsPlanning]
  unfold send
  split
  · exact hfail
  · split
    · split
      · exact hfail
      · next answer _ => exact answer.pastPlanning_received
    · exact hfail

theorem Protocol.pastPlanning_ofName (text : String) : PastPlanning (ofName text) := by
  unfold ofName
  split <;> simp [Error.IsPlanning]

theorem ConfigSource.pastPlanning_load (s : ConfigSource) (w : World) :
    PastPlanning (s.load w).result := by
  cases s with
  | stringVar s =>
    rw [load, loadVia, Outcome.result_ofExcept]
    exact s.format.pastPlanning_tree s.value s.label
  | file s =>
    rw [load, loadVia, Outcome.result_ofExcept]
    exact (s.pastPlanning_load w).map LoadedFile.tree
  | database s =>
    rw [load, loadVia, Outcome.result_ofExcept]
    exact s.pastPlanning_load w
  | secretManager s =>
    rw [load, loadVia, SecretManagerSource.loadVia, Outcome.result_bind]
    exact (w.network.pastPlanning_send s.request).bind s.pastPlanning_treeOf
  | keyValue s =>
    rw [load, loadVia, KeyValueSource.loadVia, Outcome.result_bind, Outcome.result_ofExcept]
    refine (Protocol.pastPlanning_ofName s.protocol).bind fun p => ?_
    rw [Outcome.result_bind]
    exact (w.network.pastPlanning_send (s.request p)).bind (s.pastPlanning_treeOf p)

end LayeredSettings
