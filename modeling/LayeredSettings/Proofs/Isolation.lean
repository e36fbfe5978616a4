import LayeredSettings.Proofs.Environment
import LayeredSettings.Proofs.Requests

set_option autoImplicit false

/-! # Databases stay out of the secrets

No source of secrets is a database, and the variables that would describe one are never read:
sessions whose real environments differ in these variables only are alike through every run
(`Stage.run_ignores_databaseSecrets`). -/

namespace LayeredSettings

/-! ## Descriptors that no plan reads -/

namespace Wiring

/-- The wiring with other descriptors for the kinds. -/
def withDescriptors (f : SourceKind → Target → Descriptor) (w : Wiring) : Wiring :=
  { w with catalogue := { w.catalogue with descriptor := f } }

variable {w : Wiring} {f : SourceKind → Target → Descriptor} {kind : SourceKind} {target : Target}

theorem source?_withDescriptors (h : f kind target = w.catalogue.descriptor kind target) :
    (w.withDescriptors f).source? (kind, target) = w.source? (kind, target) :=
  source?_congr ⟨rfl, rfl⟩ (descriptor_congr h rfl)

theorem secret?_withDescriptors
    (h : kind.feeds .secret = true → f kind .secret = w.catalogue.descriptor kind .secret) :
    (w.withDescriptors f).secret? kind = w.secret? kind := by
  by_cases hfeeds : kind.feeds .secret = true
  · have hdescriptor : (w.withDescriptors f).descriptor kind .secret = w.descriptor kind .secret :=
      descriptor_congr (h hfeeds) rfl
    unfold secret?
    rw [hdescriptor]
    rfl
  · rw [secret?_of_not_feeds _ hfeeds, secret?_of_not_feeds _ hfeeds]

/-- A plan reads the descriptors of the kinds on the targets that they feed, and no others. -/
theorem planKinds_withDescriptors
    (h : ∀ kind target, kind.feeds target = true → f kind target = w.catalogue.descriptor kind target)
    (kinds : List SourceKind) : (w.withDescriptors f).planKinds kinds = w.planKinds kinds := by
  induction kinds with
  | nil => rfl
  | cons kind rest ih =>
    have hconfig : (w.withDescriptors f).config? kind = w.config? kind := by
      rw [config?_eq, config?_eq]
      exact source?_withDescriptors (h kind .config rfl)
    have hsecret : (w.withDescriptors f).secret? kind = w.secret? kind :=
      secret?_withDescriptors (h kind .secret)
    rw [planKinds, hconfig, hsecret, ih, planKinds]

theorem decision_withDescriptors
    (h : ∀ kind target, kind.feeds target = true →
      f kind target = w.catalogue.descriptor kind target) :
    (w.withDescriptors f).decision = w.decision := by
  have hfile : ∀ target, (w.withDescriptors f).localFile target = w.localFile target :=
    fun target => localFile_congr (h .file target (SourceKind.feeds_file target))
  have hfiles : (w.withDescriptors f).planLocalFiles = w.planLocalFiles := by
    unfold planLocalFiles
    rw [hfile, hfile]
  have hmode : (w.withDescriptors f).catalogue.loadMode = w.catalogue.loadMode := rfl
  have hfor : (w.withDescriptors f).decisionFor = w.decisionFor := by
    funext mode
    cases mode with
    | localFiles => rw [decisionFor, decideLocalFiles, hfiles, decisionFor, decideLocalFiles]
    | remotePair => rfl
    | dynamic =>
      have htext : (w.withDescriptors f).catalogue.dynamicValues = w.catalogue.dynamicValues := rfl
      rw [decisionFor, decisionFor, decideRecipe, decideRecipe, htext]
      simp only [decideLocalFiles, hfiles, planRecipe, planKinds_withDescriptors h]
  rw [decision_eq, decision_eq, hmode, hfor]

end Wiring

/-! ## Variables that no load reads -/

/-- The variables that would describe a database of secrets. -/
def databaseSecretVariables : List String :=
  [ "SECRET_DB_ADDRESS", "SECRET_DB_NAME", "SECRET_DB_TYPE", "SECRET_DB_PATH", "SECRET_DB_PREFIX",
    "REMOTE_DB_SECRET_ADDRESS", "REMOTE_DB_SECRET_NAME", "REMOTE_DB_SECRET_TYPE",
    "REMOTE_DB_SECRET_PATH", "REMOTE_DB_SECRET_PREFIX", "REMOTE_DB_SECRET_VALUE" ]

theorem descriptorVariables_of_feeds {kind : SourceKind} {target : Target}
    (h : kind.feeds target = true) :
    ∀ key ∈ Environment.descriptorVariables kind target, key ∉ databaseSecretVariables := by
  cases kind with
  | database =>
    cases target with
    | config => decide +kernel
    | secret => cases h
  | _ => cases target <;> decide +kernel

theorem ownVariables_not_databaseSecret :
    ∀ key ∈ Catalogue.ownVariables, key ∉ databaseSecretVariables := by
  decide +kernel

/-- The environments say the same of all other variables. -/
def Environment.AgreeApart (env env' : Environment) : Prop :=
  ∀ key, key ∉ databaseSecretVariables → env key = env' key

theorem Environment.AgreeApart.withDefaults {env env' : Environment} (h : env.AgreeApart env')
    (entries : List (String × String)) :
    (env.withDefaults entries).AgreeApart (env'.withDefaults entries) := by
  intro key hkey
  rw [Environment.withDefaults, h key hkey, Environment.withDefaults]

/-- The catalogues of such environments differ in a descriptor that no plan reads. -/
theorem Wiring.decision_congr {env env' : Environment} (h : env.AgreeApart env')
    (stringVars : Target → Option StringVar) :
    Wiring.decision ⟨Catalogue.bind env', stringVars⟩
      = Wiring.decision ⟨Catalogue.bind env, stringVars⟩ := by
  have hwiring : (⟨Catalogue.bind env', stringVars⟩ : Wiring)
      = Wiring.withDescriptors env'.descriptor ⟨Catalogue.bind env, stringVars⟩ := by
    rw [Catalogue.bind_congr fun key hkey => h key (ownVariables_not_databaseSecret key hkey)]
    rfl
  rw [hwiring]
  refine decision_withDescriptors fun kind target hfeeds => ?_
  have hdescriptor : env'.descriptor kind target = env.descriptor kind target :=
    Environment.descriptor_congr fun key hkey =>
      (h key (descriptorVariables_of_feeds hfeeds key hkey)).symm
  exact hdescriptor

/-! ## Managers and sessions that are alike -/

/-- The managers do the same in every world. -/
structure Manager.ActsAs (m m' : Manager) : Prop where
  policy : m'.policy = m.policy
  load : ∀ w, m'.load w = m.load w
  worldAfter : ∀ w, m'.worldAfter w = m.worldAfter w

/-- The sessions have published the same, and go on alike. -/
structure Session.ShowsAs (s s' : Session) : Prop where
  manager : s.manager.ActsAs s'.manager
  cells : s'.cells = s.cells
  current : s'.current = s.current

namespace Session

variable {s s' : Session}

theorem ShowsAs.held (h : s.ShowsAs s') : s'.held = s.held := by
  simp only [Session.held, List.get_eq_getElem, h.cells, h.current]

theorem showsAs_start {m m' : Manager} (h : m.ActsAs m') : (start m).ShowsAs (start m') := by
  refine ⟨h, ?_, rfl⟩
  simp only [start, h.policy]

/-- A load is seen alike, and leaves the sessions alike. -/
theorem ShowsAs.init (h : s.ShowsAs s') (w : World) :
    (s'.init w).2 = (s.init w).2 ∧ (s.init w).1.ShowsAs (s'.init w).1 := by
  unfold Session.init
  rw [h.manager.load w]
  generalize s.manager.load w = loaded
  obtain ⟨requests, result⟩ := loaded
  cases result with
  | ok loaded =>
    obtain ⟨summary, tree⟩ := loaded
    refine ⟨rfl, h.manager, ?_, ?_⟩
    · simp only [publish, h.cells, h.manager.policy]
    · simp only [publish, h.cells]
  | error e => exact ⟨rfl, h⟩

end Session

-- What a load shows and leaves is said by `ShowsAs.init`; no proof about runs opens the load itself.
seal Session.init

namespace Stage

theorem step_showsAs {st st' : Stage} (h : st.session.ShowsAs st'.session)
    (hworld : st'.world = st.world) (e : Event) :
    (st.step e).session.ShowsAs (st'.step e).session ∧ (st'.step e).world = (st.step e).world := by
  cases e with
  | change w =>
    rw [step_change, step_change]
    exact ⟨h, rfl⟩
  | init =>
    rw [step_init, step_init, hworld]
    dsimp only
    exact ⟨(h.init st.world).2, h.manager.worldAfter st.world⟩

theorem run_showsAs {st st' : Stage} (h : st.session.ShowsAs st'.session)
    (hworld : st'.world = st.world) (events : List Event) :
    (st.run events).session.ShowsAs (st'.run events).session
      ∧ (st'.run events).world = (st.run events).world := by
  induction events generalizing st st' with
  | nil => exact ⟨h, hworld⟩
  | cons e rest ih =>
    obtain ⟨hsession, hworld⟩ := step_showsAs h hworld e
    exact ih hsession hworld

end Stage

/-! ## The law -/

namespace Manager

/-- The manager with a map for the real environment. -/
def withVariables (vars : KeyMap String) (m : Manager) : Manager :=
  { m with real := .injected vars }

theorem actsAs_withVariables {vars vars' : KeyMap String}
    (h : (Environment.ofMap vars).AgreeApart (Environment.ofMap vars')) (m : Manager) :
    (m.withVariables vars).ActsAs (m.withVariables vars') := by
  have hpath : ∀ w, (m.withVariables vars').envFilePath w = (m.withVariables vars).envFilePath w := by
    intro w
    have hkey : Environment.ofMap vars "ENV_FILE" = Environment.ofMap vars' "ENV_FILE" :=
      h "ENV_FILE" (by decide)
    show (m.envFile.or (Environment.ofMap vars' "ENV_FILE")).getD ".env"
      = (m.envFile.or (Environment.ofMap vars "ENV_FILE")).getD ".env"
    rw [hkey]
  have hentries : ∀ w,
      (m.withVariables vars').envFileEntries? w = (m.withVariables vars).envFileEntries? w := by
    intro w
    rw [envFileEntries?, hpath, envFileEntries?]
  have hvar : ∀ w, ((m.withVariables vars).environment w).var.AgreeApart
      ((m.withVariables vars').environment w).var := by
    intro w
    cases hfile : (m.withVariables vars).envFileEntries? w with
    | none =>
      rw [var_environment_of_none hfile, var_environment_of_none (by rw [hentries, hfile])]
      exact h.withDefaults fileDefaults
    | some entries =>
      rw [var_environment_of_some hfile, var_environment_of_some (by rw [hentries, hfile])]
      exact h.withDefaults entries.reverse
  have hdecision : ∀ w, ((m.withVariables vars').wiring w).decision
      = ((m.withVariables vars).wiring w).decision := fun w =>
    Wiring.decision_congr (hvar w) m.stringVars
  refine ⟨rfl, fun w => ?_, fun w => ?_⟩
  · exact load_congr (hentries w) (hdecision w) fun d _ => rfl
  · exact worldAfter_congr (hdecision w)

end Manager

theorem Session.kind_ne_database {s : Session} {w : World} {summary : LoadSummary}
    (h : (s.init w).2.result = .ok summary) :
    ∀ source ∈ summary.sources, source.target = .secret → source.kind ≠ .database := by
  obtain ⟨d, -, rfl⟩ := summary_of_ok h
  intro source hsource htarget
  obtain ⟨planned, -, rfl⟩ := List.mem_map.1 hsource
  cases planned with
  | config s => cases htarget
  | secret s => cases s <;> exact SourceKind.noConfusion

/-- **Databases stay out of the secrets.** What a real environment says about a database of secrets
    is seen by no load of a run, and no secrets come from a database. -/
theorem Stage.run_ignores_databaseSecrets (m : Manager) (vars vars' : KeyMap String)
    (agree : ∀ key, key ∉ databaseSecretVariables → KeyMap.get? key vars = KeyMap.get? key vars')
    (w : World) (events : List Event) :
    let st := (start (m.withVariables vars) w).run events
    let st' := (start (m.withVariables vars') w).run events
    st'.world = st.world ∧ st'.session.held = st.session.held
      ∧ ∀ w', (st'.session.init w').2 = (st.session.init w').2
        ∧ (st'.session.init w').1.held = (st.session.init w').1.held
        ∧ ∀ summary, (st.session.init w').2.result = .ok summary →
            ∀ source ∈ summary.sources, source.target = .secret → source.kind ≠ .database := by
  intro st st'
  have hstart : (start (m.withVariables vars) w).session.ShowsAs
      (start (m.withVariables vars') w).session :=
    Session.showsAs_start (m.actsAs_withVariables agree)
  obtain ⟨hsession, hworld⟩ := run_showsAs hstart rfl events
  refine ⟨hworld, hsession.held, fun w' => ⟨(hsession.init w').1, (hsession.init w').2.held, ?_⟩⟩
  intro summary hsummary
  exact Session.kind_ne_database hsummary

/-- The law where the recipe lists databases and one of secrets is described. -/
theorem Stage.run_ignores_described_database :
    let vars : KeyMap String := [("USE_CONFIG_DYNAMIC_VALUES", "remote_db")]
    let described := KeyMap.insert "SECRET_DB_ADDRESS" "sqlite:secrets.db"
      (KeyMap.insert "SECRET_DB_NAME" "settings" vars)
    let st := (start (Manager.withVariables vars {}) {}).run [.init]
    let st' := (start (Manager.withVariables described {}) {}).run [.init]
    (∀ key, key ∉ databaseSecretVariables → KeyMap.get? key vars = KeyMap.get? key described)
      ∧ ∀ w, (st'.session.init w).2 = (st.session.init w).2 := by
  intro vars described st st'
  have agree : ∀ key, key ∉ databaseSecretVariables →
      KeyMap.get? key vars = KeyMap.get? key described := by
    intro key hkey
    have haddress : "SECRET_DB_ADDRESS" ≠ key := by
      rintro rfl
      exact hkey (by decide)
    have hname : "SECRET_DB_NAME" ≠ key := by
      rintro rfl
      exact hkey (by decide)
    simp only [described]
    rw [KeyMap.get?_insert_of_ne _ _ haddress, KeyMap.get?_insert_of_ne _ _ hname]
  obtain ⟨-, -, hinit⟩ := run_ignores_databaseSecrets {} vars described agree {} [.init]
  exact ⟨agree, fun w => (hinit w).1⟩

end LayeredSettings
