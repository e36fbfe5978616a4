import LayeredSettings.Proofs.Text
import LayeredSettings.Source.SecretManager
import Mathlib.Data.List.Basic

set_option autoImplicit false

/-! # Names of secret versions

A resource is named by a path of names: a project, a secret and a version, each behind a keyword.
The keywords are looked for anywhere in the path, so two names are taken for keywords: no version is
added to a secret of the project `versions`, and a version of the secret `projects` is taken for a
whole path. All other names are put where they belong (`SecretManagerSource.resourceName_of_names`).
-/

namespace LayeredSettings.SecretManagerSource

/-! ## Paths of names -/

/-- A name in a path: some text without a slash. -/
def IsName (name : String) : Prop :=
  name ≠ "" ∧ '/' ∉ name.toList

instance : DecidablePred IsName :=
  fun name => inferInstanceAs (Decidable (name ≠ "" ∧ '/' ∉ name.toList))

/-- The path of names, with a slash between neighbours. -/
def path (names : List String) : String :=
  Text.joinWith (String.singleton '/') names

/-- So many slashes. -/
def slashes (n : Nat) : String :=
  String.ofList (List.replicate n '/')

theorem isSlash_of_mem_slashes {n : Nat} : ∀ c ∈ (slashes n).toList, (c == '/') = true := by
  intro c hc
  rw [slashes, String.toList_ofList] at hc
  simpa using List.eq_of_mem_replicate hc

theorem stripChar_slashes (before after : Nat) (text : String) :
    Text.stripChar '/' (slashes before ++ text ++ slashes after) = Text.stripChar '/' text := by
  rw [Text.stripChar, String.toList_append, String.toList_append,
    Text.stripWhile_padded isSlash_of_mem_slashes isSlash_of_mem_slashes, Text.stripChar]

theorem path_singleton (name : String) : path [name] = name :=
  rfl

theorem path_cons (name : String) {names : List String} (h : names ≠ []) :
    path (name :: names) = name ++ String.singleton '/' ++ path names := by
  show path ([name] ++ names) = path [name] ++ String.singleton '/' ++ path names
  exact Text.joinWith_append (by simp) h

theorem path_ne_empty {name : String} (h : IsName name) (names : List String) :
    (path (name :: names)).toList ≠ [] := by
  have hname : name.toList ≠ [] := by simpa using h.1
  by_cases hnames : names = []
  · subst hnames
    exact hname
  · rw [path_cons name hnames]
    simp [hname]

theorem not_slash_of_head? {names : List String} (h : ∀ n ∈ names, IsName n) :
    ∀ c, (path names).toList.head? = some c → (c == '/') = false := by
  intro c hc
  cases names with
  | nil => simp [path, Text.joinWith] at hc
  | cons name names =>
    obtain ⟨hne, hslash⟩ := h name (by simp)
    obtain ⟨d, more, hd⟩ := List.exists_cons_of_ne_nil (l := name.toList) (by simpa using hne)
    have hmem : c ∈ name.toList := by
      by_cases hnames : names = []
      · subst hnames
        exact List.mem_of_head? hc
      · rw [path_cons name hnames] at hc
        simp_all
    have hother : c ≠ '/' := fun heq => hslash (heq ▸ hmem)
    simpa using hother

theorem not_slash_of_getLast? {names : List String} (h : ∀ n ∈ names, IsName n) :
    ∀ c, (path names).toList.getLast? = some c → (c == '/') = false := by
  induction names with
  | nil =>
    intro c hc
    simp [path, Text.joinWith] at hc
  | cons name names ih =>
    intro c hc
    cases names with
    | nil =>
      have hmem : c ∈ name.toList := List.mem_of_getLast? hc
      have hother : c ≠ '/' := fun heq => (h name (by simp)).2 (heq ▸ hmem)
      simpa using hother
    | cons next names =>
      have hne := path_ne_empty (h next (by simp)) names
      rw [path_cons name (by simp), String.toList_append,
        List.getLast?_append_of_ne_nil _ hne] at hc
      exact ih (fun n hn => h n (by simp [hn])) c hc

/-- A path of names holds no slashes at its ends. -/
theorem stripChar_path_self {names : List String} (h : ∀ n ∈ names, IsName n) :
    Text.stripChar '/' (path names) = path names := by
  rw [Text.stripChar, Text.stripWhile_of_ends (not_slash_of_head? h) (not_slash_of_getLast? h),
    String.ofList_toList]

/-- Slashes around a path do not count. -/
theorem stripChar_path {names : List String} (h : ∀ n ∈ names, IsName n) (before after : Nat) :
    Text.stripChar '/' (slashes before ++ path names ++ slashes after) = path names := by
  rw [stripChar_slashes, stripChar_path_self h]

/-! ## Keywords -/

/-- A path is taken for a whole one if `projects` is its first name but not the only one. -/
theorem behind?_projects_path {name : String} {names : List String}
    (h : ∀ n ∈ name :: names, IsName n) :
    Text.behind? "projects/" (path (name :: names))
      = if name = "projects" ∧ names ≠ [] then some (path names) else none := by
  have hslash : ∀ n ∈ name :: names, '/' ∉ n.toList := fun n hn => (h n hn).2
  split
  · next hfull =>
    obtain ⟨rfl, hnames⟩ := hfull
    rw [Text.behind?_eq_some_iff, path_cons _ hnames]
    rfl
  · next hpart =>
    rw [Option.eq_none_iff_forall_ne_some]
    intro rest hrest
    have hfields : name :: names = "projects" :: Text.fieldsOn '/' rest :=
      Text.behind?_joinWith hslash (by decide) hrest
    obtain ⟨rfl, rfl⟩ := List.cons.inj hfields
    exact hpart ⟨rfl, Text.fieldsOn_ne_nil '/' rest⟩

/-- The latest version is added unless `versions` stands inside the path. -/
theorem resourceName_of_path {s : SecretManagerSource} {names : List String} (hne : names ≠ [])
    (h : ∀ n ∈ names, IsName n) (hresource : s.secretResource = path names) :
    s.resourceName
      = path (if "versions" ∈ names.tail.dropLast then names else names ++ ["versions", "latest"]) := by
  have hslash : ∀ n ∈ names, '/' ∉ n.toList := fun n hn => (h n hn).2
  have hversions : Text.contains "/versions/" (path names) = true ↔
      "versions" ∈ names.tail.dropLast := by
    have hkeyword : "/versions/" = String.singleton '/' ++ "versions" ++ String.singleton '/' := by
      decide
    rw [hkeyword]
    exact Text.contains_joinWith_iff hne hslash (by decide)
  unfold resourceName
  rw [hresource]
  by_cases hinside : "versions" ∈ names.tail.dropLast
  · rw [if_pos hinside, if_pos (hversions.2 hinside)]
  · have hlatest : String.singleton '/' ++ path ["versions", "latest"] = "/versions/latest" := by
      decide
    have hadded : path (names ++ ["versions", "latest"])
        = path names ++ String.singleton '/' ++ path ["versions", "latest"] :=
      Text.joinWith_append hne (by simp)
    rw [if_neg hinside, if_neg (mt hversions.1 hinside), hadded, String.append_assoc, hlatest]

/-- The name of a project: what is behind its keyword, or all of it, slashes around it left out. -/
def projectName (s : SecretManagerSource) : String :=
  let project := Text.stripChar '/' s.project
  (Text.behind? "projects/" project).getD project

theorem projectName_eq {s : SecretManagerSource} {p : String} (hp : IsName p) {before after : Nat}
    (h : s.project = slashes before ++ p ++ slashes after
      ∨ s.project = slashes before ++ ("projects/" ++ p) ++ slashes after) :
    s.projectName = p := by
  rcases h with h | h
  · have hnames : ∀ n ∈ [p], IsName n := by simpa using hp
    have hstrip : Text.stripChar '/' s.project = path [p] := by
      rw [h]
      exact stripChar_path hnames before after
    have hbehind : Text.behind? "projects/" (path [p]) = none := by
      rw [behind?_projects_path hnames, if_neg (by simp)]
    simp only [projectName, hstrip, hbehind, Option.getD_none]
    exact path_singleton p
  · have hnames : ∀ n ∈ ["projects", p], IsName n := by simp [hp]; decide
    have hpath : "projects/" ++ p = path ["projects", p] := by
      rw [path_cons "projects" (by simp)]
      rfl
    have hstrip : Text.stripChar '/' s.project = path ["projects", p] := by
      rw [h, hpath]
      exact stripChar_path hnames before after
    have hbehind : Text.behind? "projects/" (path ["projects", p]) = some (path [p]) := by
      rw [behind?_projects_path hnames, if_pos ⟨rfl, by simp⟩]
    simp only [projectName, hstrip, hbehind, Option.getD_some]
    exact path_singleton p

/-- The path of a secret is put behind its project unless it is taken for a whole path. -/
theorem secretResource_eq {s : SecretManagerSource} {name : String} {names : List String}
    (h : ∀ n ∈ name :: names, IsName n)
    (hsecret : Text.stripChar '/' s.secret = path (name :: names)) :
    s.secretResource
      = path (if name = "projects" ∧ names ≠ [] then name :: names
          else "projects" :: s.projectName :: "secrets" :: name :: names) := by
  have hwhole : s.secretResource
      = if (Text.behind? "projects/" (path (name :: names))).isSome then path (name :: names)
        else "projects/" ++ s.projectName ++ "/secrets/" ++ path (name :: names) := by
    rw [← hsecret]
    rfl
  rw [hwhole, behind?_projects_path h]
  by_cases hfull : name = "projects" ∧ names ≠ []
  · rw [if_pos hfull, if_pos hfull]
    rfl
  · rw [if_neg hfull, if_neg hfull, path_cons "projects" (by simp), path_cons s.projectName (by simp),
      path_cons "secrets" (by simp), ← String.toList_inj]
    simp

/-! ## The law of names -/

/-- **The law of names.** A version of a secret of a project is named by the path that says so, the
    latest one if no version is given, and slashes around the project do not count. Two names are
    not told from keywords: of the project `versions` the latest version is not asked for, and a
    version of the secret `projects` leaves out the project. -/
theorem resourceName_of_names {p n v : String} (hp : IsName p) (hn : IsName n) (hv : IsName v)
    {s : SecretManagerSource} {before after : Nat}
    (h : s.project = slashes before ++ p ++ slashes after
      ∨ s.project = slashes before ++ ("projects/" ++ p) ++ slashes after) :
    (s.secret = n → s.resourceName =
        if p = "versions" then "projects/versions/secrets/" ++ n
        else "projects/" ++ p ++ "/secrets/" ++ n ++ "/versions/latest")
      ∧ (s.secret = n ++ "/versions/" ++ v → s.resourceName =
        if n = "projects" then "projects/versions/" ++ v
        else "projects/" ++ p ++ "/secrets/" ++ n ++ "/versions/" ++ v) := by
  have hproject := projectName_eq hp h
  have hkeywords : IsName "projects" ∧ IsName "secrets" ∧ IsName "versions" := by decide
  constructor
  · intro hsecret
    have hnames : ∀ m ∈ [n], IsName m := by simpa using hn
    have hstrip : Text.stripChar '/' s.secret = path [n] := by
      have hself := stripChar_path_self hnames
      rw [path_singleton] at hself ⊢
      rw [hsecret, hself]
    have hresource : s.secretResource = path ["projects", p, "secrets", n] := by
      rw [secretResource_eq hnames hstrip, if_neg (by simp), hproject]
    have hinside : "versions" ∈ ["projects", p, "secrets", n].tail.dropLast ↔ p = "versions" := by
      simp [eq_comm]
    rw [resourceName_of_path (by simp) (by simp [hkeywords, hp, hn]) hresource]
    by_cases hversions : p = "versions"
    · subst hversions
      rw [if_pos (hinside.2 rfl), if_pos rfl, ← String.toList_inj]
      simp [path, Text.joinWith]
    · rw [if_neg (mt hinside.1 hversions), if_neg hversions, ← String.toList_inj]
      simp [path, Text.joinWith]
  · intro hsecret
    have hnames : ∀ m ∈ [n, "versions", v], IsName m := by simp [hkeywords, hn, hv]
    have hpath : n ++ "/versions/" ++ v = path [n, "versions", v] := by
      rw [← String.toList_inj]
      simp [path, Text.joinWith]
    have hstrip : Text.stripChar '/' s.secret = path [n, "versions", v] := by
      rw [hsecret, hpath, stripChar_path_self hnames]
    have hresource := secretResource_eq hnames hstrip
    by_cases hprojects : n = "projects"
    · subst hprojects
      rw [if_pos ⟨rfl, by simp⟩] at hresource
      rw [resourceName_of_path (by simp) hnames hresource, if_pos (by simp), if_pos rfl,
        ← String.toList_inj]
      simp [path, Text.joinWith]
    · rw [if_neg fun hfull => hprojects hfull.1, hproject] at hresource
      rw [resourceName_of_path (by simp) (by simp [hkeywords, hp, hn, hv]) hresource,
        if_pos (by simp), if_neg hprojects, ← String.toList_inj]
      simp [path, Text.joinWith]

/-- A secret and its third version, the project with slashes around it. -/
theorem resourceName_of_names_demo :
    let latest : SecretManagerSource := ⟨"/demo//", "settings", .yaml, none, none⟩
    let third : SecretManagerSource := ⟨"//projects/demo/", "settings/versions/3", .yaml, none, none⟩
    (IsName "demo" ∧ IsName "settings" ∧ IsName "3")
      ∧ latest.project = slashes 1 ++ "demo" ++ slashes 2
      ∧ third.project = slashes 2 ++ ("projects/" ++ "demo") ++ slashes 1
      ∧ latest.resourceName = "projects/demo/secrets/settings/versions/latest"
      ∧ third.resourceName = "projects/demo/secrets/settings/versions/3" := by
  intro latest third
  have hdemo : IsName "demo" := by decide
  have hsettings : IsName "settings" := by decide
  have hthree : IsName "3" := by decide
  have hlatest : latest.project = slashes 1 ++ "demo" ++ slashes 2 := by decide
  have hthird : third.project = slashes 2 ++ ("projects/" ++ "demo") ++ slashes 1 := by decide
  refine ⟨⟨hdemo, hsettings, hthree⟩, hlatest, hthird, ?_, ?_⟩
  · rw [(resourceName_of_names hdemo hsettings hthree (.inl hlatest)).1 rfl]
    decide
  · rw [(resourceName_of_names hdemo hsettings hthree (.inr hthird)).2 (by decide)]
    decide

/-- So not every name is put where it belongs: the latest version of a secret of the project
    `versions` and the third version of the secret `projects` are named by other paths. -/
theorem resourceName_of_keywords :
    let latest : SecretManagerSource := ⟨"versions", "settings", .yaml, none, none⟩
    let third : SecretManagerSource := ⟨"demo", "projects/versions/3", .yaml, none, none⟩
    (IsName "versions" ∧ IsName "projects")
      ∧ latest.resourceName ≠ "projects/versions/secrets/settings/versions/latest"
      ∧ third.resourceName ≠ "projects/demo/secrets/projects/versions/3" := by
  decide +kernel

end LayeredSettings.SecretManagerSource
