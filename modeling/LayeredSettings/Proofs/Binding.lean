import LayeredSettings.Proofs.VariableNames

set_option autoImplicit false

/-! # What the fields of a descriptor are bound to

Each field of a bound descriptor is what its documented variable says, or what the variable of the
pattern says where that one gives nothing, and no other variable has a say in it
(`Catalogue.binds_fields`). -/

namespace LayeredSettings

/-! ## Lists -/

namespace Environment

theorem items_eq (text : String) :
    items text = (((Text.pieces (· == ',') text.toList).map (Text.stripWhile Text.isBlank)).map
      String.ofList).filter (· != "") := by
  simp [items, Text.fieldsOn, Text.trim, Function.comp_def]

/-- Blanks at the ends of a list make no difference to its items. -/
theorem items_trim (text : String) : items (Text.trim text) = items text := by
  have hcomma : ∀ c, Text.isBlank c = true → (c == ',') = false := by
    intro c hc
    rw [beq_eq_false_iff_ne]
    rintro rfl
    cases hc
  rw [items_eq, items_eq, Text.trim, String.toList_ofList, Text.map_stripWhile_pieces hcomma]

/-- The items of a list are what its commas stand between, trimmed, and nothing of it is empty. -/
theorem items_joinWith {texts : List String} (hne : texts ≠ [])
    (hcommas : ∀ s ∈ texts, ',' ∉ s.toList) :
    items (Text.joinWith "," texts) = (texts.map Text.trim).filter (· != "") := by
  have hcomma : "," = String.singleton ',' := rfl
  rw [items, hcomma, Text.fieldsOn_joinWith hne hcommas]
end Environment

/-! ## Fields -/

/-- A field of a descriptor. -/
inductive Descriptor.Field where
  | name
  | format
  | address
  | paths
  | scopes
  | value
deriving DecidableEq, Repr

namespace Descriptor.Field

/-- What a field holds, a text or a list. -/
abbrev Content : Field → Type
  | name | format | address | value => String
  | paths | scopes => List String

/-- The field of a descriptor. -/
def get : (f : Field) → Descriptor → f.Content
  | name, d => d.name
  | format, d => d.format
  | address, d => d.address
  | paths, d => d.paths
  | scopes, d => d.scopes
  | value, d => d.value

/-- Whether the field is given. -/
def IsGiven : (f : Field) → f.Content → Prop
  | name, text | format, text | address, text | value, text => text ≠ ""
  | paths, list | scopes, list => list ≠ []

/-- The name of the field in variables. -/
def token : Field → String
  | name => "NAME"
  | format => "TYPE"
  | address => "ADDRESS"
  | paths => "PATH"
  | scopes => "PREFIX"
  | value => "VALUE"

/-- What a variable says about the field: a trimmed text, the items between its commas, or the literal
    document as it is. A variable that is not set says nothing. -/
def said (env : Environment) (key : String) : (f : Field) → f.Content
  | name | format | address => Text.trim ((env key).getD "")
  | paths | scopes => Environment.items (Text.trim ((env key).getD ""))
  | value => (env key).getD ""

/-- The documented variable of the field, for kinds that have a slot. The literal document has none. -/
def slotVariable? (kind : SourceKind) (target : Target) : Field → Option String
  | value => none
  | f => kind.slot?.map fun slot => target.token ++ "_" ++ slot ++ "_" ++ f.token

/-- The variable of the pattern for the field. -/
def patternVariable (kind : SourceKind) (target : Target) (f : Field) : String :=
  Text.upper kind.name ++ "_" ++ target.token ++ "_" ++ f.token

/-- The names of the variables that have a say in the field. -/
def keys (kind : SourceKind) (target : Target) (f : Field) : List String :=
  (f.slotVariable? kind target).toList ++ [f.patternVariable kind target]

/-- A variable that writes texts with commas between them lists these texts, trimmed and without those
    that are blank. -/
theorem said_list {env : Environment} {key : String} {texts : List String} (hne : texts ≠ [])
    (hcommas : ∀ s ∈ texts, ',' ∉ s.toList) (hkey : env key = some (Text.joinWith "," texts)) :
    paths.said env key = (texts.map Text.trim).filter (· != "")
      ∧ scopes.said env key = (texts.map Text.trim).filter (· != "") := by
  have hitems : Environment.items (Text.trim ((env key).getD ""))
      = (texts.map Text.trim).filter (· != "") := by
    rw [hkey, Option.getD_some, Environment.items_trim, Environment.items_joinWith hne hcommas]
  exact ⟨hitems, hitems⟩

/-! ## Filling gaps -/

variable {env env' : Environment} {kind : SourceKind} {target : Target} {f : Field}

theorem get_fillFrom_of_given {d other : Descriptor} (h : f.IsGiven (f.get d)) :
    f.get (d.fillFrom other) = f.get d := by
  cases f with
  | paths | scopes =>
    have hempty : ¬ (List.isEmpty _ = true) := fun hnil => h (List.isEmpty_iff.1 hnil)
    exact if_neg hempty
  | _ =>
    have hempty : ¬ ((_ == "") = true) := fun htext => h (beq_iff_eq.1 htext)
    exact if_neg hempty

theorem get_fillFrom_of_not_given {d other : Descriptor} (h : ¬ f.IsGiven (f.get d)) :
    f.get (d.fillFrom other) = f.get other := by
  cases f with
  | paths | scopes =>
    refine if_pos (List.isEmpty_iff.2 ?_)
    by_contra hlist
    exact h hlist
  | _ =>
    refine if_pos (beq_iff_eq.2 ?_)
    by_contra htext
    exact h htext

theorem read_eq (env : Environment) (key : String) :
    env.read key = Text.trim ((env key).getD "") := by
  unfold Environment.read
  cases env key <;> rfl

theorem said_congr {key : String} (h : env' key = env key) : f.said env' key = f.said env key := by
  cases f <;> simp only [said, h]

/-- All fields but the literal document are read from the variables of a descriptor. -/
theorem get_descriptorAt (hf : f ≠ value) (key : String → String) (document : String) :
    f.get (env.descriptorAt key document) = f.said env (key f.token) := by
  cases f with
  | value => exact absurd rfl hf
  | _ => simp only [get, Environment.descriptorAt, said, read_eq, token]

theorem get_patternDescriptor :
    f.get (env.patternDescriptor kind target) = f.said env (f.patternVariable kind target) := by
  rw [patternVariable, ← patternKey_eq]
  by_cases hf : f = value
  · subst hf
    rfl
  · exact get_descriptorAt hf _ _

theorem get_slotDescriptor_of_some {key : String} (h : f.slotVariable? kind target = some key) :
    f.get (env.slotDescriptor kind target) = f.said env key := by
  have hf : f ≠ value := by
    rintro rfl
    cases h
  obtain ⟨slot, hslot, rfl⟩ : ∃ slot, kind.slot? = some slot ∧ slotKey target slot f.token = key := by
    cases f with
    | value => exact absurd rfl hf
    | _ => exact Option.map_eq_some_iff.1 h
  unfold Environment.slotDescriptor
  rw [hslot]
  exact get_descriptorAt hf _ _

theorem get_slotDescriptor_of_none (h : f.slotVariable? kind target = none) :
    ¬ f.IsGiven (f.get (env.slotDescriptor kind target)) := by
  unfold Environment.slotDescriptor
  cases hslot : kind.slot? with
  | none => cases f <;> exact not_not.2 rfl
  | some slot =>
    cases f with
    | value => exact not_not.2 rfl
    | _ => simp [slotVariable?, hslot] at h

/-! ## The law -/

/-- What the content of a field may be. -/
structure IsBound (env : Environment) (kind : SourceKind) (target : Target) (f : Field)
    (content : f.Content) : Prop where
  /-- The documented variable comes first. -/
  documented : ∀ key, f.slotVariable? kind target = some key → f.IsGiven (f.said env key) →
    content = f.said env key
  /-- Where there is none, or where it gives nothing, the variable of the pattern decides. -/
  patterned : (∀ key, f.slotVariable? kind target = some key → ¬ f.IsGiven (f.said env key)) →
    content = f.said env (f.patternVariable kind target)

theorem isBound_descriptor (env : Environment) (kind : SourceKind) (target : Target) (f : Field) :
    f.IsBound env kind target (f.get (env.descriptor kind target)) where
  documented key hkey hgiven := by
    rw [← get_slotDescriptor_of_some hkey] at hgiven ⊢
    exact get_fillFrom_of_given hgiven
  patterned hblank := by
    have hslot : ¬ f.IsGiven (f.get (env.slotDescriptor kind target)) := by
      cases hkey : f.slotVariable? kind target with
      | none => exact get_slotDescriptor_of_none hkey
      | some key =>
        rw [get_slotDescriptor_of_some hkey]
        exact hblank key hkey
    rw [Environment.descriptor, get_fillFrom_of_not_given hslot, get_patternDescriptor]

/-- The variables of a field leave no choice of its content. -/
theorem IsBound.unique {content content' : f.Content} (h : f.IsBound env kind target content)
    (h' : f.IsBound env' kind target content')
    (agree : ∀ key ∈ f.keys kind target, env' key = env key) : content' = content := by
  have hslot : ∀ key, f.slotVariable? kind target = some key → f.said env' key = f.said env key := by
    intro key hkey
    exact said_congr (agree key (by simp [keys, hkey]))
  by_cases hgiven : ∃ key, f.slotVariable? kind target = some key ∧ f.IsGiven (f.said env key)
  · obtain ⟨key, hkey, hgiven⟩ := hgiven
    have hgiven' : f.IsGiven (f.said env' key) := by rwa [hslot key hkey]
    rw [h.documented key hkey hgiven, h'.documented key hkey hgiven', hslot key hkey]
  · have hblank : ∀ key, f.slotVariable? kind target = some key → ¬ f.IsGiven (f.said env key) :=
      fun key hkey hsaid => hgiven ⟨key, hkey, hsaid⟩
    have hblank' : ∀ key, f.slotVariable? kind target = some key →
        ¬ f.IsGiven (f.said env' key) := by
      intro key hkey
      rw [hslot key hkey]
      exact hblank key hkey
    rw [h.patterned hblank, h'.patterned hblank', said_congr (agree _ (by simp [keys]))]

theorem length_keys_le (kind : SourceKind) (target : Target) (f : Field) :
    (f.keys kind target).length ≤ 2 := by
  unfold keys
  cases f.slotVariable? kind target <;> simp

/-- What binding a field is like: two variables at most have a say in it, and no others. -/
structure IsBinding (kind : SourceKind) (target : Target) (f : Field)
    (bound : Environment → f.Content) : Prop where
  isBound : ∀ env, f.IsBound env kind target (bound env)
  few : (f.keys kind target).length ≤ 2
  alone : ∀ env env' : Environment, (∀ key ∈ f.keys kind target, env' key = env key) →
    bound env' = bound env

end Descriptor.Field

/-- A documented variable of commas and blanks gives no directories. -/
example :
    let env := Environment.ofMap
      [("CONFIG_LOCAL_PATH", " , ,"), ("LOCAL_FILE_CONFIG_PATH", "/etc/app, conf")]
    ((Catalogue.bind env).descriptor .file .config).paths = ["/etc/app", "conf"] := by
  decide +kernel

end LayeredSettings
