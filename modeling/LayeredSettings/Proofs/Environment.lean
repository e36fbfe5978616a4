import LayeredSettings.Manager

set_option autoImplicit false

/-! # What the environment of a load says

Whatever was written to a layered environment, its base comes first. `Manager.environment` is the
real environment with the assignments of the dotenv file behind it, or with the defaults where there
is no usable file. What the catalogue takes from an environment is what the variables say that it
reads: `Environment.descriptor_congr` and `Catalogue.bind_congr`. -/

namespace LayeredSettings

/-! ## Layers -/

theorem lookup_singleton {α : Type} (key other : String) (v : α) :
    [(key, v)].lookup other = if other = key then some v else none := by
  by_cases h : other = key
  · simp [h]
  · have hne : (other == key) = false := by simp [h]
    simp only [List.lookup_cons, hne, List.lookup_nil, if_neg h]

/-- In a map written entry by entry the last entry of a key stays. -/
theorem KeyMap.get?_insertAll_eq_lookup {α : Type} (entries : List (String × α)) (m : KeyMap α)
    (key : String) :
    get? key (insertAll entries m) = (entries.reverse.lookup key).or (get? key m) := by
  induction entries generalizing m with
  | nil => rfl
  | cons e rest ih =>
    obtain ⟨k, v⟩ := e
    have step : insertAll ((k, v) :: rest) m = insertAll rest (insert k v m) := rfl
    rw [step, ih, List.reverse_cons, List.lookup_append, lookup_singleton, Option.or_assoc]
    by_cases h : key = k
    · subst h
      rw [get?_insert_self, if_pos rfl, Option.some_or]
    · rw [get?_insert_of_ne v m (Ne.symm h), if_neg h, Option.none_or]

/-- The environment with entries standing in for what it does not set, the first one of a name. -/
def Environment.withDefaults (entries : List (String × String)) (env : Environment) : Environment :=
  fun key => (env key).or (entries.lookup key)

namespace LayeredEnvironment

theorem var_extend (entries : List (String × String)) (base : Environment) :
    (extend entries ⟨base, []⟩).var = base.withDefaults entries.reverse := by
  funext key
  show (base key).or (KeyMap.get? key (KeyMap.insertAll entries [])) = _
  rw [KeyMap.get?_insertAll_eq_lookup, KeyMap.get?, Option.or_none]
  rfl

theorem var_seed (key value : String) (env : LayeredEnvironment) :
    (env.seed key value).var = env.var.withDefaults [(key, value)] := by
  funext other
  unfold seed Environment.withDefaults
  rw [lookup_singleton]
  cases hset : env.var key with
  | some v =>
    by_cases h : other = key
    · rw [h, hset, Option.some_or]
    · rw [if_neg h, Option.or_none]
  | none =>
    obtain ⟨hbase, hoverlay⟩ := Option.or_eq_none_iff.1 hset
    by_cases h : other = key
    · rw [h, if_pos rfl, hset]
      simp only [var, hbase, KeyMap.get?_insert_self]
    · rw [if_neg h, Option.or_none]
      simp only [var, KeyMap.get?_insert_of_ne value env.overlay (Ne.symm h)]

theorem var_seedAll (entries : List (String × String)) (env : LayeredEnvironment) :
    (entries.foldl (fun env e => env.seed e.1 e.2) env).var = env.var.withDefaults entries := by
  induction entries generalizing env with
  | nil =>
    funext key
    simp [Environment.withDefaults]
  | cons e rest ih =>
    rw [List.foldl_cons, ih, var_seed]
    funext key
    have hsplit : (e :: rest).lookup key = ([e].lookup key).or (rest.lookup key) := by
      rw [← List.lookup_append, List.singleton_append]
    show ((env.var key).or ([e].lookup key)).or (rest.lookup key) = _
    rw [Option.or_assoc, ← hsplit]
    rfl

end LayeredEnvironment

namespace Manager

variable {m : Manager} {w : World}

theorem var_environment_of_some {entries : List Dotenv.Entry} (h : m.envFileEntries? w = some entries) :
    (m.environment w).var = (m.base w).withDefaults entries.reverse := by
  rw [environment, h]
  exact LayeredEnvironment.var_extend entries (m.base w)

theorem var_environment_of_none (h : m.envFileEntries? w = none) :
    (m.environment w).var = (m.base w).withDefaults fileDefaults := by
  rw [environment, h]
  show (seedDefaults ⟨m.base w, []⟩).var = _
  rw [seedDefaults, LayeredEnvironment.var_seedAll]
  have hbase : (LayeredEnvironment.mk (m.base w) []).var = m.base w := by
    funext key
    simp [LayeredEnvironment.var, KeyMap.get?]
  rw [hbase]

end Manager

/-! ## The binder -/

namespace Environment

variable {env env' : Environment}

theorem read_congr {key : String} (h : env key = env' key) : env.read key = env'.read key := by
  unfold read
  rw [h]

/-- The fields of a descriptor that variables give, but for the literal document. -/
def fields : List String :=
  ["NAME", "TYPE", "ADDRESS", "PATH", "PREFIX"]

theorem descriptorAt_congr {key : String → String} {value : String}
    (h : ∀ field ∈ fields, env (key field) = env' (key field)) :
    env.descriptorAt key value = env'.descriptorAt key value := by
  have hread : ∀ field ∈ fields, env.read (key field) = env'.read (key field) :=
    fun field hfield => read_congr (h field hfield)
  simp only [fields, List.forall_mem_cons] at hread
  obtain ⟨hname, hformat, haddress, hpaths, hscopes, -⟩ := hread
  simp only [descriptorAt, hname, hformat, haddress, hpaths, hscopes]

/-- The variables that give the descriptor of a kind on a target. -/
def descriptorVariables (kind : SourceKind) (target : Target) : List String :=
  (match kind.slot? with
    | some slot => fields.map (slotKey target slot)
    | none => [])
    ++ (fields ++ ["VALUE"]).map (patternKey kind target)

theorem descriptor_congr {kind : SourceKind} {target : Target}
    (h : ∀ key ∈ descriptorVariables kind target, env key = env' key) :
    env.descriptor kind target = env'.descriptor kind target := by
  have hpattern : ∀ field ∈ fields ++ ["VALUE"],
      env (patternKey kind target field) = env' (patternKey kind target field) :=
    fun field hfield => h _ (List.mem_append_right _ (List.mem_map_of_mem hfield))
  have hslots : env.slotDescriptor kind target = env'.slotDescriptor kind target := by
    unfold slotDescriptor
    cases hslot : kind.slot? with
    | none => rfl
    | some slot =>
      refine descriptorAt_congr fun field hfield => h _ (List.mem_append_left _ ?_)
      rw [hslot]
      exact List.mem_map_of_mem hfield
  have hpatterns : env.patternDescriptor kind target = env'.patternDescriptor kind target := by
    unfold patternDescriptor
    rw [hpattern "VALUE" (by simp)]
    exact descriptorAt_congr fun field hfield => hpattern field (List.mem_append_left _ hfield)
  rw [descriptor, descriptor, hslots, hpatterns]

end Environment

namespace Catalogue

/-- The variables of a catalogue that belong to no descriptor of a kind. -/
def ownVariables : List String :=
  [ "ENV_FILE", "USE_CONFIG", "USE_CONFIG_DYNAMIC_VALUES", "REMOTE_PROVIDER",
    "CONFIG_REMOTE_NAME", "CONFIG_REMOTE_TYPE", "CONFIG_REMOTE_ADDRESS", "CONFIG_REMOTE_PREFIX",
    "SECRET_REMOTE_NAME", "SECRET_REMOTE_TYPE", "SECRET_REMOTE_ADDRESS",
    "GSM_ENDPOINT", "GSM_ACCESS_TOKEN", "CONSUL_HTTP_TOKEN" ]

theorem bind_congr {env env' : Environment} (h : ∀ key ∈ ownVariables, env key = env' key) :
    bind env' = { bind env with descriptor := env'.descriptor } := by
  have hread : ∀ key ∈ ownVariables, env.read key = env'.read key :=
    fun key hkey => Environment.read_congr (h key hkey)
  simp only [ownVariables, List.forall_mem_cons] at hread
  simp only [bind, hread]

end Catalogue

end LayeredSettings
