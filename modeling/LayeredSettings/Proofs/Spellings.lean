import LayeredSettings.Proofs.ResourceNames
import LayeredSettings.Source.Choice
import LayeredSettings.Source.Provider

set_option autoImplicit false

/-! # Spellings of remote sources

A remote source can be written in several ways: with more slashes at the ends of its texts, or with
the full name of a resource in place of a project and a secret. Slashes do not count
(`ConfigSource.slashes_do_not_count`), and a full name stands for itself in every project
(`SecretManagerSource.full_name_stays`). -/

namespace LayeredSettings

open SecretManagerSource (slashes isSlash_of_mem_slashes stripChar_slashes)

/-! ## Sources that read alike -/

/-- No initialisation tells the sources apart: whatever is held before, the same requests are sent,
    the same is reported, and the same is held in the end. -/
def SourceState.ReadsAlike {σ : Type} (load : σ → Outcome Tree) (s t : σ) : Prop :=
  ∀ data, (provider load).requests ⟨t, data⟩ = (provider load).requests ⟨s, data⟩
    ∧ (provider load).report ⟨t, data⟩ = (provider load).report ⟨s, data⟩
    ∧ (provider load).held ⟨t, data⟩ = (provider load).held ⟨s, data⟩

theorem SourceState.readsAlike_of_load_eq {σ : Type} {load : σ → Outcome Tree} {s t : σ}
    (h : load t = load s) : ReadsAlike load s t := by
  intro data
  simp only [requests_eq, report_eq, held_eq, h, and_self]

/-! ## Key-value stores -/

namespace KeyValueSource

variable {s t : KeyValueSource}

/-- A store is read by its protocol, format and token, its address as it is used and its key. -/
theorem loadVia_congr (protocol : t.protocol = s.protocol) (format : t.format = s.format)
    (token : t.token = s.token) (base : t.base = s.base) (key : t.key = s.key) (send : Transport) :
    t.loadVia send = s.loadVia send := by
  have hrequest : t.request = s.request := by
    funext p
    cases p with
    | consul => simp only [request, base, key, token]
    | etcd3 => simp only [request, base, key, token]
  have hdocument : t.document = s.document := by
    have hfirst : t.firstDocument = s.firstDocument := by
      funext body
      simp only [firstDocument, protocol, key]
    funext p r
    simp only [document, hfirst, protocol, key]
  have htree : t.treeOf = s.treeOf := by
    funext p r
    simp only [treeOf, label, hdocument, format, protocol, key]
  simp only [loadVia, protocol, hrequest, htree]

/-- The same store, with slashes added at the end of its address and in front of its key. -/
structure AddsSlashes (s t : KeyValueSource) : Prop where
  protocol : t.protocol = s.protocol
  format : t.format = s.format
  token : t.token = s.token
  address : ∃ n, t.address = s.address ++ slashes n
  path : ∃ n, t.path = slashes n ++ s.path

theorem AddsSlashes.base_eq (h : s.AddsSlashes t) : t.base = s.base := by
  obtain ⟨n, haddress⟩ := h.address
  have htrimmed : Text.dropTrailing '/' t.address = Text.dropTrailing '/' s.address := by
    rw [haddress, Text.dropTrailing, String.toList_append,
      Text.dropTailWhile_append isSlash_of_mem_slashes, Text.dropTrailing]
  rw [base, base, htrimmed]

theorem AddsSlashes.key_eq (h : s.AddsSlashes t) : t.key = s.key := by
  obtain ⟨n, hpath⟩ := h.path
  rw [key, key, hpath, Text.dropLeading, String.toList_append,
    List.dropWhile_append_of_pos isSlash_of_mem_slashes, Text.dropLeading]

end KeyValueSource

/-! ## Secrets -/

namespace SecretManagerSource

variable {s t : SecretManagerSource}

/-- A secret is read by its format and token, its endpoint as it is used and its resource name. -/
theorem loadVia_congr (format : t.format = s.format) (token : t.token = s.token)
    (base : t.base = s.base) (resource : t.resourceName = s.resourceName) (send : Transport) :
    t.loadVia send = s.loadVia send := by
  have hrequest : t.request = s.request := by
    simp only [request, base, resource, token]
  have hpayload : t.payload = s.payload := by
    funext r
    simp only [payload, resource]
  have hdocument : t.document = s.document := by
    funext payload
    simp only [document, resource]
  have htree : t.treeOf = s.treeOf := by
    funext r
    simp only [treeOf, hpayload, hdocument, format, resource]
  simp only [loadVia, hrequest, htree]

/-- The same secret, with slashes added at the end of its endpoint and around its project and its
    own text. Where no endpoint is given, the default one counts. -/
structure AddsSlashes (s t : SecretManagerSource) : Prop where
  format : t.format = s.format
  token : t.token = s.token
  endpoint : ∃ n, t.endpoint.getD defaultEndpoint = s.endpoint.getD defaultEndpoint ++ slashes n
  secret : ∃ m n, t.secret = slashes m ++ s.secret ++ slashes n
  project : ∃ m n, t.project = slashes m ++ s.project ++ slashes n

theorem base_eq (s : SecretManagerSource) :
    s.base = Text.dropTrailing '/' (s.endpoint.getD defaultEndpoint) := by
  unfold base
  cases s.endpoint with
  | some endpoint => rfl
  | none =>
    show defaultEndpoint = Text.dropTrailing '/' defaultEndpoint
    decide

theorem AddsSlashes.base_eq (h : s.AddsSlashes t) : t.base = s.base := by
  obtain ⟨n, hendpoint⟩ := h.endpoint
  rw [SecretManagerSource.base_eq, hendpoint, Text.dropTrailing, String.toList_append,
    Text.dropTailWhile_append isSlash_of_mem_slashes, ← Text.dropTrailing,
    ← SecretManagerSource.base_eq]

theorem AddsSlashes.resourceName_eq (h : s.AddsSlashes t) : t.resourceName = s.resourceName := by
  obtain ⟨m, n, hsecret⟩ := h.secret
  obtain ⟨m', n', hproject⟩ := h.project
  have hresource : t.secretResource = s.secretResource := by
    simp only [secretResource, hsecret, hproject, stripChar_slashes]
  simp only [resourceName, hresource]

end SecretManagerSource

/-! ## Slashes -/

namespace ConfigSource

/-- The same remote source, with slashes added where they are cut. -/
inductive AddsSlashes : ConfigSource → ConfigSource → Prop where
  | keyValue {s t : KeyValueSource} (h : s.AddsSlashes t) : AddsSlashes (.keyValue s) (.keyValue t)
  | secretManager {s t : SecretManagerSource} (h : s.AddsSlashes t) :
    AddsSlashes (.secretManager s) (.secretManager t)

/-- **Slashes do not count.** In every world the same requests are sent for a remote source with
    slashes added to its texts, the same is reported and the same settings are held. -/
theorem slashes_do_not_count {s t : ConfigSource} (h : s.AddsSlashes t) (w : World) :
    SourceState.ReadsAlike (load w) s t := by
  refine SourceState.readsAlike_of_load_eq ?_
  cases h with
  | @keyValue s t h =>
    exact KeyValueSource.loadVia_congr h.protocol h.format h.token h.base_eq h.key_eq w.network.send
  | @secretManager s t h =>
    exact SecretManagerSource.loadVia_congr h.format h.token h.base_eq h.resourceName_eq
      w.network.send

/-- A store and a secret that are served, each with more slashes in its texts. -/
theorem slashes_do_not_count_served :
    let store (address path : String) : ConfigSource :=
      .keyValue ⟨"consul", address, path, .yaml, none⟩
    let secret (project name endpoint : String) : ConfigSource :=
      .secretManager ⟨project, name, .yaml, some endpoint, none⟩
    let served : List Exchange :=
      [ ⟨"GET", "http://store:8500/v1/kv/app?raw", .status 200 (Utf8.encode "a: 1")⟩,
        ⟨"GET", "http://vault/v1/projects/demo/secrets/app/versions/latest:access",
          .status 200 (Utf8.encode
            "\x7b\"payload\":\x7b\"data\":\"YTogMQ==\",\"dataCrc32c\":\"2994366965\"\x7d\x7d")⟩ ]
    let w : World := { network := .serving served }
    let P := SourceState.provider (load w)
    ((store "store:8500" "app").AddsSlashes (store "store:8500///" "//app")
        ∧ (secret "demo" "app" "http://vault").AddsSlashes
          (secret "/demo//" "//app/" "http://vault/"))
      ∧ P.held (.fresh (store "store:8500///" "//app")) = [("a", .ofInt 1)]
      ∧ P.held (.fresh (secret "/demo//" "//app/" "http://vault/")) = [("a", .ofInt 1)] := by
  intro store secret served w P
  have hstore : (store "store:8500" "app").AddsSlashes (store "store:8500///" "//app") :=
    .keyValue ⟨rfl, rfl, rfl, ⟨3, by decide⟩, ⟨2, by decide⟩⟩
  have hsecret : (secret "demo" "app" "http://vault").AddsSlashes
      (secret "/demo//" "//app/" "http://vault/") :=
    .secretManager ⟨rfl, rfl, ⟨1, by decide⟩, ⟨2, 1, by decide⟩, ⟨1, 2, by decide⟩⟩
  refine ⟨⟨hstore, hsecret⟩, ?_, ?_⟩
  · exact (slashes_do_not_count hstore w []).2.2.trans (by decide +kernel)
  · exact (slashes_do_not_count hsecret w []).2.2.trans (by decide +kernel)

end ConfigSource

/-! ## Full names -/

namespace SecretManagerSource

variable {s t : SecretManagerSource}

/-- A full resource name: it starts with a project, names a version and ends in no slash. -/
structure IsFullName (name : String) : Prop where
  starts : ∃ rest, name = "projects/" ++ rest
  versioned : ∃ front back, name = front ++ "/versions/" ++ back
  ends : ∀ c, name.toList.getLast? = some c → (c == '/') = false

/-- The resource of a secret starts with a project and ends as the secret does. -/
theorem secretResource_ends (s : SecretManagerSource) :
    (∃ rest, s.secretResource = "projects/" ++ rest)
      ∧ ∃ front, s.secretResource = front ++ Text.stripChar '/' s.secret := by
  unfold secretResource
  dsimp only
  split
  · next hwhole =>
    obtain ⟨rest, hrest⟩ := Option.isSome_iff_exists.1 hwhole
    exact ⟨⟨rest, Text.behind?_eq_some_iff.1 hrest⟩, "", by simp⟩
  · refine ⟨⟨s.projectName ++ "/secrets/" ++ Text.stripChar '/' s.secret, ?_⟩, _, rfl⟩
    simp only [String.append_assoc]
    rfl

theorem getLast?_secretResource (hsecret : ∃ c ∈ s.secret.toList, c ≠ '/') :
    ∃ c, s.secretResource.toList.getLast? = some c ∧ (c == '/') = false := by
  obtain ⟨-, front, hfront⟩ := s.secretResource_ends
  -- Not all of the secret is slashes, so something of it is left.
  have hne : Text.stripWhile (· == '/') s.secret.toList ≠ [] := by
    rw [Ne, Text.stripWhile_eq_nil_iff]
    intro hall
    obtain ⟨c, hc, hother⟩ := hsecret
    exact hother (by simpa using hall c hc)
  obtain ⟨c, hc⟩ : ∃ c, (Text.stripWhile (· == '/') s.secret.toList).getLast? = some c :=
    ⟨_, List.getLast?_eq_some_getLast hne⟩
  refine ⟨c, ?_, ?_⟩
  · rw [hfront, String.toList_append, Text.stripChar, String.toList_ofList,
      List.getLast?_append_of_ne_nil _ hne, hc]
  · have hother := Text.not_of_getLast?_stripWhile hc
    exact hother

theorem isFullName_resourceName (hsecret : ∃ c ∈ s.secret.toList, c ≠ '/') :
    IsFullName s.resourceName := by
  obtain ⟨⟨rest, hrest⟩, -⟩ := s.secretResource_ends
  obtain ⟨last, hlast, hother⟩ := getLast?_secretResource hsecret
  unfold resourceName
  dsimp only
  split
  · next hversions =>
    refine ⟨⟨rest, hrest⟩, Text.contains_eq_true_iff.1 hversions, ?_⟩
    intro c hc
    obtain rfl := Option.some.inj (hlast.symm.trans hc)
    exact hother
  · refine ⟨⟨rest ++ "/versions/latest", ?_⟩, ⟨s.secretResource, "latest", ?_⟩, ?_⟩
    · rw [hrest, String.append_assoc]
    · rw [String.append_assoc]
      rfl
    · intro c hc
      have htail : "/versions/latest".toList.getLast? = some 't' := by decide
      rw [String.toList_append, List.getLast?_append, htail, Option.some_or] at hc
      obtain rfl := Option.some.inj hc
      decide

/-- A full name is taken as it is, whatever the project. -/
theorem IsFullName.resourceName_eq {name : String} (h : IsFullName name) {m n : Nat}
    (hsecret : s.secret = slashes m ++ name ++ slashes n) : s.resourceName = name := by
  obtain ⟨rest, hrest⟩ := h.starts
  have hhead : ∀ c, name.toList.head? = some c → (c == '/') = false := by
    intro c hc
    rw [hrest, String.toList_append] at hc
    have hp : 'p' = c := by simpa using hc
    rw [← hp]
    decide
  have hstrip : Text.stripChar '/' s.secret = name := by
    rw [hsecret, stripChar_slashes, Text.stripChar, Text.stripWhile_of_ends hhead h.ends,
      String.ofList_toList]
  have hresource : s.secretResource = name := by
    have hbehind : Text.behind? "projects/" name = some rest := Text.behind?_eq_some_iff.2 hrest
    simp only [secretResource, hstrip, hbehind, Option.isSome_some, if_true]
  rw [resourceName, hresource, if_pos (Text.contains_eq_true_iff.2 h.versioned)]

/-- **A full name stays.** The resource name of a secret that is not made of slashes only names a
    version. A secret that is written by this name, perhaps between slashes, has it again in every
    project, and in every world it is read as the first one is. -/
theorem full_name_stays (hsecret : ∃ c ∈ s.secret.toList, c ≠ '/') {m n : Nat}
    (hname : t.secret = slashes m ++ s.resourceName ++ slashes n) :
    (∃ front back, s.resourceName = front ++ "/versions/" ++ back)
      ∧ t.resourceName = s.resourceName
      ∧ (t.endpoint = s.endpoint → t.token = s.token → t.format = s.format →
        t.request = s.request
          ∧ ∀ w, SourceState.ReadsAlike (ConfigSource.load w) (.secretManager s)
              (.secretManager t)) := by
  have hfull := isFullName_resourceName hsecret
  have hresource := hfull.resourceName_eq hname
  refine ⟨hfull.versioned, hresource, ?_⟩
  intro endpoint token format
  have hbase : t.base = s.base := by rw [base, base, endpoint]
  refine ⟨?_, fun w => SourceState.readsAlike_of_load_eq ?_⟩
  · simp only [request, hbase, hresource, token]
  · exact loadVia_congr format token hbase hresource w.network.send

/-- A secret of a project that is named like a keyword, and its full name between slashes. -/
theorem full_name_stays_between_slashes :
    let s : SecretManagerSource := ⟨"versions", "settings", .yaml, none, none⟩
    let t : SecretManagerSource :=
      ⟨"demo", "//projects/versions/secrets/settings/", .yaml, none, none⟩
    ((∃ c ∈ s.secret.toList, c ≠ '/') ∧ t.secret = slashes 2 ++ s.resourceName ++ slashes 1)
      ∧ t.resourceName = s.resourceName
      ∧ t.request = s.request
      ∧ ∀ w, SourceState.ReadsAlike (ConfigSource.load w) (.secretManager s)
          (.secretManager t) := by
  intro s t
  have hsecret : ∃ c ∈ s.secret.toList, c ≠ '/' := ⟨'s', by decide, by decide⟩
  have hname : t.secret = slashes 2 ++ s.resourceName ++ slashes 1 := by decide +kernel
  obtain ⟨-, hresource, hread⟩ := full_name_stays hsecret hname
  exact ⟨⟨hsecret, hname⟩, hresource, hread rfl rfl rfl⟩

/-- A secret of slashes only has a name that ends in a slash, and such a name does not stay. -/
example :
    let s : SecretManagerSource := ⟨"demo/versions/3", "//", .yaml, none, none⟩
    SecretManagerSource.resourceName { s with secret := s.resourceName } ≠ s.resourceName := by
  decide +kernel

end SecretManagerSource

end LayeredSettings
