import LayeredSettings.Proofs.Outcome
import LayeredSettings.Proofs.Text
import LayeredSettings.Source.Choice
import LayeredSettings.Source.Provider

set_option autoImplicit false

/-! # Names of tables

The name of a table stands in a query as it is, so any text that is no plain name is refused before
a database is opened (`DatabaseSource.refuses_other_names`). -/

namespace LayeredSettings

/-! ## Plain names -/

namespace Database

/-- An identifier: an ASCII letter or an underscore, and behind it ASCII letters, ASCII digits and
    underscores only. -/
def Identifier (name : String) : Prop :=
  ∃ first rest, name.toList = first :: rest ∧ (first.isAlpha = true ∨ first = '_')
    ∧ ∀ c ∈ rest, c.isAlphanum = true ∨ c = '_'

/-- The name of a table: an identifier, or two with one dot between them. -/
def TableName (text : String) : Prop :=
  Identifier text
    ∨ ∃ schema table, Identifier schema ∧ Identifier table ∧ text = schema ++ "." ++ table

theorem isNameStart_iff {c : Char} : isNameStart c = true ↔ c.isAlpha = true ∨ c = '_' := by
  -- the library's letters are the capitals first
  have hupper : c.isUpper = ('A' ≤ c && c ≤ 'Z') := Bool.decide_and ..
  have hletter : Text.isLetter c = c.isAlpha := by
    show (_ || _) = (c.isUpper || c.isLower)
    rw [hupper]
    exact Bool.or_comm ..
  rw [isNameStart, hletter, Bool.or_eq_true, beq_iff_eq]

theorem isNameChar_iff {c : Char} : isNameChar c = true ↔ c.isAlphanum = true ∨ c = '_' := by
  have halphanum : c.isAlphanum = (c.isAlpha || c.isDigit) := rfl
  rw [isNameChar, halphanum, Text.isDigit_eq, Bool.or_eq_true, Bool.or_eq_true, isNameStart_iff]
  exact or_right_comm

theorem isIdentifier_iff {name : String} :
    isIdentifier name.toList = true ↔ Identifier name := by
  unfold Identifier
  cases name.toList with
  | nil => simp [isIdentifier]
  | cons first rest =>
    rw [isIdentifier, Bool.and_eq_true, List.all_eq_true, isNameStart_iff]
    simp only [isNameChar_iff]
    constructor
    · rintro ⟨hfirst, hrest⟩
      exact ⟨first, rest, rfl, hfirst, hrest⟩
    · rintro ⟨_, _, hcons, hfirst, hrest⟩
      obtain ⟨rfl, rfl⟩ := List.cons.inj hcons
      exact ⟨hfirst, hrest⟩

theorem Identifier.pieces_eq {name : String} (h : Identifier name) :
    Text.pieces (· == '.') name.toList = [name.toList] := by
  obtain ⟨first, rest, hname, hfirst, hrest⟩ := h
  have hdot : ('.' : Char).isAlphanum = false ∧ ('.' : Char).isAlpha = false := by decide
  refine Text.pieces_of_not fun c hc => ?_
  rw [beq_eq_false_iff_ne]
  rintro rfl
  rw [hname] at hc
  rcases List.mem_cons.1 hc with rfl | hc
  · simp [hdot] at hfirst
  · simpa [hdot] using hrest _ hc

/-- The texts that can stand in a query are the names of tables. -/
theorem isTableName_iff {text : String} : isTableName text = true ↔ TableName text := by
  constructor
  · intro h
    unfold isTableName at h
    split at h
    · next table hpieces =>
      rw [← Text.eq_of_pieces_eq_singleton hpieces] at h
      exact .inl (isIdentifier_iff.1 h)
    · next schema table hpieces =>
      rw [Bool.and_eq_true] at h
      obtain ⟨c, hc, htext⟩ := Text.exists_of_pieces_eq_pair hpieces
      refine .inr ⟨String.ofList schema, String.ofList table, ?_, ?_, ?_⟩
      · exact isIdentifier_iff.1 (by rw [String.toList_ofList]; exact h.1)
      · exact isIdentifier_iff.1 (by rw [String.toList_ofList]; exact h.2)
      · rw [← String.toList_inj, htext, eq_of_beq hc]
        simp
    · cases h
  · rintro (h | ⟨schema, table, hschema, htable, rfl⟩)
    · rw [isTableName, h.pieces_eq]
      exact isIdentifier_iff.2 h
    · have hlist : (schema ++ "." ++ table).toList = schema.toList ++ '.' :: table.toList := by
        simp
      rw [isTableName, hlist, Text.pieces_append_cons (by decide), hschema.pieces_eq,
        htable.pieces_eq]
      show (isIdentifier schema.toList && isIdentifier table.toList) = true
      rw [isIdentifier_iff.2 hschema, isIdentifier_iff.2 htable, Bool.and_self]

instance : DecidablePred TableName :=
  fun text => decidable_of_iff (isTableName text = true) isTableName_iff

/-- No second dot, no line end, no other digit or letter, and no digit first. -/
example : TableName "main.app_settings" ∧ ¬ TableName "a.b.c" ∧ ¬ TableName "settings\n"
    ∧ ¬ TableName "settings\u0662" ∧ ¬ TableName "sett\u0131ngs" ∧ ¬ TableName "1table" := by
  decide

theorem checkTableName_eq_ok_iff {text : String} :
    checkTableName text = .ok () ↔ TableName text := by
  rw [← isTableName_iff]
  unfold checkTableName
  split <;> simp_all

theorem checkTableName_of_not {text : String} (h : ¬ TableName text) :
    checkTableName text = .error (.invalidIdentifier text) := by
  rw [checkTableName, if_neg (mt isTableName_iff.1 h)]

end Database

/-! ## Sources -/

namespace DatabaseSource

open Database (TableName)

variable {s : DatabaseSource}

theorem checkedDriver_of_not {driver : Driver} (hdriver : Driver.ofDsn s.dsn = .ok driver)
    (h : ¬ TableName s.table) : s.checkedDriver = .error (.invalidIdentifier s.table) := by
  rw [checkedDriver, hdriver, Except.ok_bind, Database.checkTableName_of_not h]
  rfl

/-- A text that is no name is refused, or the data source name is. -/
theorem exists_checkedDriver_error (h : ¬ TableName s.table) : ∃ e, s.checkedDriver = .error e := by
  cases hdriver : Driver.ofDsn s.dsn with
  | ok driver => exact ⟨_, checkedDriver_of_not hdriver h⟩
  | error e => exact ⟨e, by rw [checkedDriver, hdriver]; rfl⟩

/-- What is refused is not looked up: no world is read or changed. -/
theorem rows_of_refused {e : Error} (h : s.checkedDriver = .error e) (w : World) :
    s.rows w = .error e ∧ s.worldAfter w = w := by
  constructor
  · rw [rows, h]
    rfl
  · rw [worldAfter, h]

theorem load_of_refused {e : Error} (h : s.checkedDriver = .error e) (w : World) :
    s.load w = .error e := by
  rw [load, (rows_of_refused h w).1]
  rfl

/-- **Other names are refused.** A text can stand as a table exactly if it is an identifier or two
    with a dot between them. With a driver that is supported any other text is refused in every
    world, and what was held before stays. Whatever the driver, such a text is looked up in no
    world, and no world is changed. -/
theorem refuses_other_names :
    (∀ text, Database.checkTableName text = .ok () ↔ TableName text)
      ∧ ∀ s : DatabaseSource, ¬ TableName s.table →
        (∀ driver, Driver.ofDsn s.dsn = .ok driver → ∀ w data,
          (SourceState.provider (ConfigSource.load w)).init ⟨.database s, data⟩
            = (⟨.database s, data⟩, .fail (.invalidIdentifier s.table)))
        ∧ ∃ e, ∀ w, s.rows w = .error e ∧ s.worldAfter w = w := by
  refine ⟨fun text => Database.checkTableName_eq_ok_iff, fun s hname => ⟨?_, ?_⟩⟩
  · intro driver hdriver w data
    have hload : ConfigSource.load w (.database s) = .fail (.invalidIdentifier s.table) := by
      have hrefused := checkedDriver_of_not hdriver hname
      rw [ConfigSource.load, ConfigSource.loadVia, load_of_refused hrefused]
      rfl
    have hresult : (ConfigSource.load w (.database s)).result
        = .error (.invalidIdentifier s.table) := by
      rw [hload]
      rfl
    rw [SourceState.init_of_error hresult data]
    simp only [hload, Outcome.fail]
  · obtain ⟨e, he⟩ := exists_checkedDriver_error hname
    exact ⟨e, rows_of_refused he⟩

/-- A line end behind the name of a table, in a database that may not be there. -/
theorem refuses_other_names_line_end :
    let s : DatabaseSource := ⟨"SQLite://settings.db", "settings\n", ["base"], none⟩
    (¬ TableName s.table ∧ Driver.ofDsn s.dsn = .ok .sqlite)
      ∧ ∀ w data, (SourceState.provider (ConfigSource.load w)).init ⟨.database s, data⟩
        = (⟨.database s, data⟩, .fail (.invalidIdentifier "settings\n")) := by
  intro s
  have hname : ¬ TableName s.table := by decide
  have hdriver : Driver.ofDsn s.dsn = .ok .sqlite := by decide +kernel
  exact ⟨⟨hname, hdriver⟩, (refuses_other_names.2 s hname).1 .sqlite hdriver⟩

end DatabaseSource

end LayeredSettings
