import LayeredSettings.Proofs.Environment
import LayeredSettings.Proofs.FileTrees
import LayeredSettings.Proofs.Requests

set_option autoImplicit false

/-! # The dotenv file

A dotenv file counts as a whole. If any line of it is malformed, wherever, a load goes on as if there
were no file, with defaults for the local files; otherwise its assignments stand in for what the real
environment does not set. `Manager.reads_envFile` says so of every manager and world. -/

namespace LayeredSettings

/-! ## Malformed files -/

namespace Dotenv

/-- The line is malformed, whatever the variables in it stand for. -/
def IsMalformedLine (line : List Char) : Prop :=
  ∀ lookup, entry? lookup line = none

/-- The text is no dotenv file: it ends inside of a line, or some line of it is malformed. -/
def IsMalformed (text : String) : Prop :=
  logicalLines text = none
    ∨ ∃ lines, logicalLines text = some lines ∧ ∃ line ∈ lines, IsMalformedLine line

/-- What is read next does not depend on what variables stand for. -/
theorem next_step? (lookup lookup' : String → String) (state : ValueState) (c : Char) :
    (state.step? lookup c).map Prod.snd = (state.step? lookup' c).map Prod.snd := by
  cases state with
  | name weak rev =>
    simp only [ValueState.step?, ValueState.stepName]
    split
    · rfl
    · split
      · rfl
      · split <;> rfl
  | braced weak rev =>
    simp only [ValueState.step?]
    split <;> rfl
  | text weak => cases weak <;> rfl
  | _ => rfl

theorem isSome_finish? (lookup lookup' : String → String) (state : ValueState) :
    (state.finish? lookup).isSome = (state.finish? lookup').isSome := by
  cases state with
  | name weak rev => cases weak <;> rfl
  | text weak => cases weak <;> rfl
  | escape weak => cases weak <;> rfl
  | _ => rfl

theorem isSome_readValue? (lookup lookup' : String → String) (state : ValueState) (cs : List Char) :
    (readValue? lookup state cs).isSome = (readValue? lookup' state cs).isSome := by
  induction cs generalizing state with
  | nil => exact isSome_finish? lookup lookup' state
  | cons c rest ih =>
    have hnext := next_step? lookup lookup' state c
    simp only [readValue?]
    cases hstep : state.step? lookup c with
    | none =>
      rw [hstep, Option.map_none, eq_comm, Option.map_eq_none_iff] at hnext
      rw [hnext]
    | some out =>
      rw [hstep, Option.map_some, eq_comm, Option.map_eq_some_iff] at hnext
      obtain ⟨out', hstep', hstate⟩ := hnext
      rw [hstep']
      simp only [Option.isSome_map, hstate]
      exact ih out.2

theorem entry_none_iff (lookup lookup' : String → String) (line : List Char) :
    entry? lookup line = none ↔ entry? lookup' line = none := by
  unfold entry?
  split
  · rfl
  · rfl
  · cases hassignment : assignment? (Text.stripWhile Text.isBlank line) with
    | none => rfl
    | some assignment =>
      simp only [Option.bind_some]
      split
      · rfl
      · rw [value?, value?, Option.map_map, Option.map_map, Option.map_eq_none_iff,
          Option.map_eq_none_iff, ← Option.not_isSome_iff_eq_none, ← Option.not_isSome_iff_eq_none,
          isSome_readValue? lookup lookup']

theorem isMalformedLine_of_none {lookup : String → String} {line : List Char}
    (h : entry? lookup line = none) : IsMalformedLine line :=
  fun lookup' => (entry_none_iff lookup lookup' line).1 h

theorem entriesAfter?_eq_none_iff {process : Environment} {earlier : List Entry}
    {lines : List (List Char)} :
    entriesAfter? process earlier lines = none ↔ ∃ line ∈ lines, IsMalformedLine line := by
  induction lines generalizing earlier with
  | nil => simp [entriesAfter?]
  | cons line rest ih =>
    simp only [List.mem_cons, exists_eq_or_imp, entriesAfter?]
    cases hentry : entry? (valueOf process earlier) line with
    | none => simp [isMalformedLine_of_none hentry]
    | some entry =>
      have hformed : ¬ IsMalformedLine line := by
        intro hmalformed
        rw [hmalformed] at hentry
        cases hentry
      simp only [hformed, false_or]
      cases entry with
      | none => exact ih
      | some e => exact ih

/-- The only thing that keeps a text from being a dotenv file is a malformed line. -/
theorem entries?_eq_none_iff {process : Environment} {text : String} :
    entries? process text = none ↔ IsMalformed text := by
  unfold entries? IsMalformed
  cases hlines : logicalLines text with
  | none => simp
  | some lines => simp [entriesAfter?_eq_none_iff]

example : entries? (fun _ => none) "A=1\nB='2" = none := by decide +kernel

end Dotenv

/-! ## Sources without a file -/

/-- The world with the file at a path gone, if there is one. -/
def World.without (path : String) (w : World) : World :=
  if w.files.isFile path then { w with files := w.files.remove path } else w

theorem World.isFile_without (path : String) (w : World) :
    (w.without path).files.isFile path = false := by
  unfold without
  split
  · next hfile => exact Files.isFile_remove_self w.files path
  · next hfile => exact Bool.eq_false_iff.2 hfile

namespace FileSource

variable {s : FileSource} {w : World} {path : String}

theorem locate_remove
    (h : ∀ found, s.locate w = .ok found → ¬ w.files.Passes found (w.files.place path)) :
    s.locate { w with files := w.files.remove path } = s.locate w := by
  have hfind : (s.places w.home).find? (w.files.remove path).isFile
      = (s.places w.home).find? w.files.isFile := by
    -- What was no file before is none now, whether its path leads through the place or not.
    refine find?_eq_of_imp (fun place _ => Files.isFile_of_remove) fun found hfound => ?_
    have hlocate : s.locate w = .ok found := by rw [locate, hfound]
    rw [Files.isFile_remove (h found hlocate)]
    exact List.find?_some hfound
  have hhome : World.home { w with files := w.files.remove path } = w.home := rfl
  unfold locate
  rw [hhome, hfind]

theorem load_remove
    (h : ∀ found, s.locate w = .ok found → ¬ w.files.Passes found (w.files.place path)) :
    s.load { w with files := w.files.remove path } = s.load w := by
  have hremove := locate_remove h
  cases hlocate : s.locate w with
  | error e => rw [load_of_locate_error hlocate, load_of_locate_error (hremove.trans hlocate)]
  | ok found =>
    rw [load_of_locate hlocate, load_of_locate (hremove.trans hlocate),
      documentAt_congr (Files.text?_remove (h found hlocate))]

end FileSource

theorem DatabaseSource.load_remove {s : DatabaseSource} {w : World} {path : String}
    (h : s.checkedDriver = .ok .sqlite → ∀ found, Database.path? s.dsn = some found →
      ¬ w.files.Passes found (w.files.place path)) :
    s.load { w with files := w.files.remove path } = s.load w := by
  unfold load rows
  cases hdriver : s.checkedDriver with
  | error e => rfl
  | ok driver =>
    cases driver with
    | sqlite =>
      simp only [Except.ok_bind, Database.query, Database.fileRows?,
        Database.open?_remove (h hdriver)]
    | _ => rfl

namespace ConfigSource

/-- What the source reads lies at this place, or the path to it leads through or below it. -/
def Reads (w : World) (place : List String) : ConfigSource → Prop
  | file s => ∃ path, s.locate w = .ok path ∧ w.files.Passes path place
  | database s => s.checkedDriver = .ok .sqlite
      ∧ ∃ path, Database.path? s.dsn = some path ∧ w.files.Passes path place
  | _ => False

theorem load_remove {s : ConfigSource} {w : World} {path : String}
    (h : ¬ s.Reads w (w.files.place path)) :
    s.load { w with files := w.files.remove path } = s.load w := by
  cases s with
  | file s =>
    have hload := FileSource.load_remove (s := s) fun found hfound hpasses =>
      h ⟨found, hfound, hpasses⟩
    simp only [load, loadVia, hload]
  | database s =>
    have hload := DatabaseSource.load_remove (s := s) (w := w) fun hdriver found hfound hpasses =>
      h ⟨hdriver, found, hfound, hpasses⟩
    simp only [load, loadVia, hload]
  | _ => rfl

end ConfigSource

theorem PlannedSource.load_without {s : PlannedSource} {w : World} {path : String}
    (h : ¬ s.asConfig.Reads w (w.files.place path)) : s.load (w.without path) = s.load w := by
  unfold World.without
  split
  · rw [load_eq, load_eq, ConfigSource.load_remove h]
  · rfl

/-! ## The law -/

namespace Manager

/-- There is a dotenv file that can be read, and no line of it is malformed. -/
def HasEnvFile (m : Manager) (w : World) : Prop :=
  ∃ text, w.files.text? (m.envFilePath w) = some text ∧ ¬ Dotenv.IsMalformed text

variable {m : Manager} {w : World}

theorem exists_envFileEntries?_iff :
    (∃ entries, m.envFileEntries? w = some entries) ↔ m.HasEnvFile w := by
  unfold envFileEntries? HasEnvFile
  cases htext : w.files.text? (m.envFilePath w) with
  | none => simp
  | some text =>
    rw [← Option.isSome_iff_exists, Option.bind_some, ← Option.ne_none_iff_isSome]
    simp [Dotenv.entries?_eq_none_iff]

theorem envFileEntries?_of_not (h : ¬ m.HasEnvFile w) : m.envFileEntries? w = none := by
  cases hentries : m.envFileEntries? w with
  | none => rfl
  | some entries => exact absurd (exists_envFileEntries?_iff.1 ⟨entries, hentries⟩) h

theorem envFileLoaded_eq {s : Session} {summary : LoadSummary}
    (h : (s.init w).2.result = .ok summary) :
    summary.envFileLoaded = (s.manager.envFileEntries? w).isSome := by
  obtain ⟨d, -, rfl⟩ := Session.summary_of_ok h
  rfl

theorem init_congr {w' : World} (h : m.load w' = m.load w) (s : Session) (hs : s.manager = m) :
    s.init w' = s.init w := by
  unfold Session.init
  rw [hs, h]

theorem load_without (hnone : ¬ m.HasEnvFile w)
    (hbase : m.base (w.without (m.envFilePath w)) = m.base w)
    (hreads : ∀ d, (m.wiring w).decision = .ok d → ∀ p ∈ (d.plan.load w).started,
      ¬ p.asConfig.Reads w (w.files.place (m.envFilePath w))) :
    m.load (w.without (m.envFilePath w)) = m.load w := by
  have hentries := envFileEntries?_of_not hnone
  have hentries' : m.envFileEntries? (w.without (m.envFilePath w)) = none := by
    have hpath : m.envFilePath (w.without (m.envFilePath w)) = m.envFilePath w := by
      rw [envFilePath, hbase, envFilePath]
    unfold envFileEntries?
    rw [hpath]
    unfold World.without
    split
    · rw [Files.text?_remove_self]
      rfl
    · exact hentries
  have hwiring : m.wiring (w.without (m.envFilePath w)) = m.wiring w := by
    unfold wiring
    rw [var_environment_of_none hentries', var_environment_of_none hentries, hbase]
  refine load_congr (by rw [hentries', hentries]) (by rw [hwiring]) fun d hd => ?_
  exact Plan.load_congr fun p hp => PlannedSource.load_without (hreads d hd p hp)

/-- What becomes of a dotenv file. -/
structure ReadsEnvFile (m : Manager) (w : World) : Prop where
  bound : (m.wiring w).catalogue = Catalogue.bind (m.environment w).var
  /-- Without a usable file the defaults stand in for what the real environment does not set. -/
  unusable : ¬ m.HasEnvFile w →
    (∀ key, (m.environment w).var key = (m.base w key).or
        (List.lookup key [("CONFIG_LOCAL_NAME", "config"), ("SECRET_LOCAL_NAME", "secrets"),
          ("CONFIG_LOCAL_TYPE", "yaml"), ("SECRET_LOCAL_TYPE", "yaml")]))
      ∧ ∀ s : Session, s.manager = m → ∀ summary, (s.init w).2.result = .ok summary →
          summary.envFileLoaded = false
  /-- Loads are then those of the world where the file is gone, if the real environment does not
      depend on it and no source that is started reads it. -/
  absent : ¬ m.HasEnvFile w →
    (w.without (m.envFilePath w)).files.isFile (m.envFilePath w) = false
      ∧ (m.base (w.without (m.envFilePath w)) = m.base w →
        (∀ d, (m.wiring w).decision = .ok d → ∀ p ∈ (d.plan.load w).started,
          ¬ p.asConfig.Reads w (w.files.place (m.envFilePath w))) →
        ∀ s : Session, s.manager = m → s.init (w.without (m.envFilePath w)) = s.init w)
  /-- The assignments of a usable file stand in for what the real environment does not set, the last
      one of a variable, and nothing else does. -/
  usable : m.HasEnvFile w → ∃ entries, m.envFileEntries? w = some entries
    ∧ (∀ key, (m.environment w).var key = (m.base w key).or (entries.reverse.lookup key))
    ∧ ∀ s : Session, s.manager = m → ∀ summary, (s.init w).2.result = .ok summary →
        summary.envFileLoaded = true

/-- The dotenv file that the catalogue of the real environment names, or `.env` if it names none. -/
def boundEnvFile (m : Manager) (w : World) : String :=
  (Catalogue.bind (m.base w)).envFile.getD ".env"

theorem boundEnvFile_of_unset (h : m.base w "ENV_FILE" = none) : m.boundEnvFile w = ".env" := by
  have hread : (m.base w).read "ENV_FILE" = "" := by rw [Environment.read, h]
  rw [boundEnvFile, Catalogue.bind, hread]
  rfl

theorem boundEnvFile_of_set {v : String} (h : m.base w "ENV_FILE" = some v) :
    m.boundEnvFile w = if Text.trim v = "" then ".env" else Text.trim v := by
  have hread : (m.base w).read "ENV_FILE" = Text.trim v := by rw [Environment.read, h]
  rw [boundEnvFile, Catalogue.bind, hread]
  unfold Environment.nonEmpty
  by_cases hblank : Text.trim v = ""
  · simp [hblank]
  · simp [hblank]

theorem trim_default : Text.trim ".env" = ".env" := by
  decide +kernel

/-- How a load without a dotenv file of its own takes the variable that names one. -/
structure TakesName (m : Manager) (w : World) : Prop where
  unset : m.base w "ENV_FILE" = none → m.envFilePath w = ".env"
  /-- The value counts as it is, with the blanks at its ends and also if there is nothing else. -/
  set : ∀ v, m.base w "ENV_FILE" = some v → m.envFilePath w = v
  /-- The load is that of a manager which was given the file. -/
  load_eq : m.load w = load { m with envFile := some (m.envFilePath w) } w
  /-- It is the file that the catalogue names exactly if the value is not empty and no blanks are at
      its ends. -/
  bound_iff : m.envFilePath w = m.boundEnvFile w ↔
    ∀ v, m.base w "ENV_FILE" = some v → v ≠ "" ∧ Text.trim v = v

/-- **Names of dotenv files are taken as they are.** The catalogue trims them and skips blank ones, so
    the two agree on all names but blank ones and those with blanks at their ends. -/
theorem takes_name (h : m.envFile = none) (w : World) : m.TakesName w := by
  have hpath : m.envFilePath w = (m.base w "ENV_FILE").getD ".env" := by
    rw [envFilePath, h, Option.none_or]
  have hset : ∀ v, m.base w "ENV_FILE" = some v → m.envFilePath w = v := by
    intro v hv
    rw [hpath, hv, Option.getD_some]
  refine ⟨fun hunset => by rw [hpath, hunset, Option.getD_none], hset, rfl, ?_⟩
  cases hname : m.base w "ENV_FILE" with
  | none =>
    rw [hpath, hname, boundEnvFile_of_unset hname]
    simp
  | some v =>
    rw [hset v hname, boundEnvFile_of_set hname]
    simp only [Option.some.injEq, forall_eq']
    by_cases hblank : Text.trim v = ""
    · rw [if_pos hblank, hblank]
      constructor
      · rintro rfl
        rw [trim_default] at hblank
        exact absurd hblank (by decide)
      · rintro ⟨hne, hempty⟩
        exact absurd hempty.symm hne
    · rw [if_neg hblank]
      constructor
      · intro htrim
        refine ⟨?_, htrim.symm⟩
        rintro rfl
        exact hblank htrim.symm
      · rintro ⟨-, htrim⟩
        exact htrim.symm

/-- A plain name is taken as the catalogue has it. -/
theorem takes_name_plain :
    let m : Manager := { real := .injected [("ENV_FILE", "deploy/prod.env")] }
    m.envFile = none ∧ m.envFilePath {} = "deploy/prod.env" ∧ m.boundEnvFile {} = "deploy/prod.env"
      ∧ m.load {} = load { m with envFile := some "deploy/prod.env" } {} := by
  intro m
  have hnone : m.envFile = none := rfl
  have htakes := takes_name hnone {}
  have hpath := htakes.set "deploy/prod.env" (by decide +kernel)
  have hbound := htakes.bound_iff.2 fun v hv => by
    obtain rfl : "deploy/prod.env" = v := Option.some.inj hv
    decide +kernel
  exact ⟨hnone, hpath, hbound.symm.trans hpath, hpath ▸ htakes.load_eq⟩

/-- So a blank name hides the file `.env`, whose assignments the catalogue's name would have shown,
    and blanks around a name hide the file that it means. -/
theorem blank_name_hides_file :
    let w : World :=
      { files :=
        { nodes := [ ([".env"], .octets (Utf8.encode "CONFIG_LOCAL_NAME=app")),
            (["prod.env"], .octets (Utf8.encode "CONFIG_LOCAL_NAME=shop")) ] } }
    let m (name : String) : Manager := { real := .injected [("ENV_FILE", name)] }
    let shown (m : Manager) : Option String := (m.environment w).var "CONFIG_LOCAL_NAME"
    ((m "").boundEnvFile w = ".env" ∧ (m "").envFilePath w = "")
      ∧ (shown (m "") = some "config" ∧ shown { m "" with envFile := some ".env" } = some "app")
      ∧ ((m " prod.env ").boundEnvFile w = "prod.env" ∧ (m " prod.env ").envFilePath w = " prod.env ")
      ∧ shown (m " prod.env ") = some "config"
      ∧ shown { m " prod.env " with envFile := some "prod.env" } = some "shop" := by
  decide +kernel

end Manager

end LayeredSettings
