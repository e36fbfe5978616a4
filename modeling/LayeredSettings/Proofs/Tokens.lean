import LayeredSettings.Proofs.Addresses
import LayeredSettings.Proofs.Requests
import LayeredSettings.Proofs.Spellings

set_option autoImplicit false

/-! # Tokens stay in their headers

A token of a remote source is written into one header of its requests and read nowhere else. So on a
network that answers by what is asked for, two choices of tokens that can be sent lead to the same
plan up to the tokens, the same trees or the same error, and requests that differ in these headers
only (`Wiring.tokens_only_in_headers`). What else is sent of an authorization is the user that the
address of a source may name, and it stands in front of the token. -/

namespace LayeredSettings

variable {α β σ : Type}

/-! ## Outcomes that are alike -/

/-- The outcomes have the same result, and their requests are related one by one. -/
structure Outcome.Alike (R : Request → Request → Prop) (x y : Outcome α) : Prop where
  result : y.result = x.result
  requests : List.Forall₂ R x.requests y.requests

namespace Outcome.Alike

variable {R : Request → Request → Prop} {x y : Outcome α}

theorem bind {f g : α → Outcome β} (h : x.Alike R y) (hf : ∀ a, (f a).Alike R (g a)) :
    (x >>= f).Alike R (y >>= g) := by
  show (x.bind f).Alike R (y.bind g)
  cases hx : x.result with
  | error e =>
    rw [bind_of_error hx, bind_of_error (h.result.trans hx)]
    exact ⟨rfl, h.requests⟩
  | ok a =>
    rw [bind_of_ok hx, bind_of_ok (h.result.trans hx)]
    exact ⟨(hf a).result, List.rel_append h.requests (hf a).requests⟩

theorem of_ofExcept (x : Except Error α) : (ofExcept x).Alike R (ofExcept x) :=
  ⟨rfl, .nil⟩

theorem map (h : x.Alike R y) (f : α → β) : (f <$> x).Alike R (f <$> y) :=
  h.bind fun a => of_ofExcept (.ok (f a))

/-- Steps that are alike one by one are alike as a walk over a list. -/
theorem mapM {f : σ → Outcome β} {k k' : σ → σ} (h : ∀ s, (f (k s)).Alike R (f (k' s)))
    (l : List σ) : ((l.map k).mapM f).Alike R ((l.map k').mapM f) := by
  induction l with
  | nil => exact of_ofExcept (.ok [])
  | cons s rest ih =>
    rw [List.map_cons, List.map_cons, List.mapM_cons, List.mapM_cons]
    exact (h s).bind fun b => ih.map (b :: ·)

end Outcome.Alike

/-! ## Sources with tokens -/

/-- The tokens of remote sources. -/
structure Tokens where
  secret : Option String
  keyValue : Option String

/-- Both tokens may stand in a header. -/
def Tokens.AreSendable (t : Tokens) : Prop :=
  t.secret.all isHeaderText = true ∧ t.keyValue.all isHeaderText = true

/-- The source with its token. -/
def ConfigSource.withTokens (t : Tokens) : ConfigSource → ConfigSource
  | secretManager s => .secretManager { s with token := t.secret }
  | keyValue s => .keyValue { s with token := t.keyValue }
  | s => s

/-- The source with its token. -/
def SecretSource.withTokens (t : Tokens) : SecretSource → SecretSource
  | secretManager s => .secretManager { s with token := t.secret }
  | keyValue s => .keyValue { s with token := t.keyValue }
  | s => s

/-- The source with its token. -/
def PlannedSource.withTokens (t : Tokens) : PlannedSource → PlannedSource
  | config s => .config (s.withTokens t)
  | secret s => .secret (s.withTokens t)

/-- The plan with tokens for its sources. -/
def Plan.withTokens (t : Tokens) (p : Plan) : Plan :=
  ⟨p.configs.map (ConfigSource.withTokens t), p.secrets.map (SecretSource.withTokens t)⟩

/-- The decision with tokens for the sources of its plan. -/
def Decision.withTokens (t : Tokens) (d : Decision) : Decision :=
  { d with plan := d.plan.withTokens t }

variable {t t' : Tokens}

theorem SecretSource.toConfig_withTokens (t : Tokens) (s : SecretSource) :
    (s.withTokens t).toConfig = s.toConfig.withTokens t := by
  cases s <;> rfl

theorem PlannedSource.asConfig_withTokens (t : Tokens) (s : PlannedSource) :
    (s.withTokens t).asConfig = s.asConfig.withTokens t := by
  cases s with
  | config s => rfl
  | secret s => exact s.toConfig_withTokens t

theorem PlannedSource.describe_withTokens (t : Tokens) (s : PlannedSource) :
    (s.withTokens t).describe = s.describe := by
  rcases s with s | s <;> cases s <;> rfl

theorem ConfigSource.withTokens_withTokens (t t' : Tokens) (s : ConfigSource) :
    (s.withTokens t).withTokens t' = s.withTokens t' := by
  cases s <;> rfl

theorem SecretSource.withTokens_withTokens (t t' : Tokens) (s : SecretSource) :
    (s.withTokens t).withTokens t' = s.withTokens t' := by
  cases s <;> rfl

/-- A choice of tokens leaves no trace of an earlier one. -/
theorem Plan.withTokens_withTokens (t t' : Tokens) (p : Plan) :
    (p.withTokens t).withTokens t' = p.withTokens t' := by
  simp [withTokens, Function.comp_def, ConfigSource.withTokens_withTokens,
    SecretSource.withTokens_withTokens]

theorem Plan.sources_withTokens (t : Tokens) (p : Plan) :
    (p.withTokens t).sources = p.sources.map (PlannedSource.withTokens t) := by
  simp [sources, withTokens, PlannedSource.withTokens, Function.comp_def]

/-! ## Planning with tokens -/

/-- The catalogue with other tokens. -/
def Catalogue.withTokens (t : Tokens) (c : Catalogue) : Catalogue :=
  { c with connection :=
    { c.connection with secretToken := t.secret, keyValueToken := t.keyValue } }

/-- The wiring with other tokens. -/
def Wiring.withTokens (t : Tokens) (w : Wiring) : Wiring :=
  { w with catalogue := w.catalogue.withTokens t }

theorem ConfigSource.ofDescriptor_withTokens (t : Tokens) (kind : SourceKind) (d : Descriptor)
    (c : Catalogue) :
    ofDescriptor kind d (c.withTokens t) = (ofDescriptor kind d c).map (withTokens t) := by
  cases kind with
  | secretManager =>
    simp only [ofDescriptor, Descriptor.secretManager, Except.map_map]
    rfl
  | keyValue =>
    simp only [ofDescriptor, Descriptor.keyValue, Except.map_map]
    rfl
  | _ =>
    simp only [ofDescriptor, Except.map_map]
    rfl

theorem SecretSource.ofDescriptor_withTokens (t : Tokens) (kind : SecretKind) (d : Descriptor)
    (c : Catalogue) :
    ofDescriptor kind d (c.withTokens t) = (ofDescriptor kind d c).map (withTokens t) := by
  cases kind with
  | secretManager =>
    simp only [ofDescriptor, Descriptor.secretManager, Except.map_map]
    rfl
  | keyValue =>
    simp only [ofDescriptor, Descriptor.keyValue, Except.map_map]
    rfl
  | _ =>
    simp only [ofDescriptor, Except.map_map]
    rfl

namespace Wiring

variable {w : Wiring}

theorem config?_withTokens (t : Tokens) (w : Wiring) (kind : SourceKind) :
    (w.withTokens t).config? kind
      = (w.config? kind).map (Option.map (ConfigSource.withTokens t)) := by
  have hdescriptor : (w.withTokens t).descriptor kind .config = w.descriptor kind .config := rfl
  have hcatalogue : (w.withTokens t).catalogue = w.catalogue.withTokens t := rfl
  unfold config?
  simp only [hdescriptor, hcatalogue, ConfigSource.ofDescriptor_withTokens]
  split
  · rw [Except.map_map, Except.map_map]
    rfl
  · rfl

theorem secret?_withTokens (t : Tokens) (w : Wiring) (kind : SourceKind) :
    (w.withTokens t).secret? kind
      = (w.secret? kind).map (Option.map (SecretSource.withTokens t)) := by
  have hdescriptor : (w.withTokens t).descriptor kind .secret = w.descriptor kind .secret := rfl
  have hcatalogue : (w.withTokens t).catalogue = w.catalogue.withTokens t := rfl
  unfold secret?
  simp only [hdescriptor, hcatalogue, SecretSource.ofDescriptor_withTokens]
  split
  · rfl
  · split
    · rw [Except.map_map, Except.map_map]
      rfl
    · rfl

theorem planKinds_withTokens (t : Tokens) (w : Wiring) (kinds : List SourceKind) :
    (w.withTokens t).planKinds kinds = (w.planKinds kinds).map (Plan.withTokens t) := by
  induction kinds with
  | nil => rfl
  | cons kind rest ih =>
    rw [planKinds, planKinds, config?_withTokens, secret?_withTokens, ih]
    cases w.config? kind with
    | error e => rfl
    | ok config =>
      cases w.secret? kind with
      | error e => rfl
      | ok secret =>
        cases w.planKinds rest with
        | error e => rfl
        | ok lower =>
          have hplan : (⟨(config.map (ConfigSource.withTokens t)).toList ++ (lower.withTokens t).configs,
                (secret.map (SecretSource.withTokens t)).toList ++ (lower.withTokens t).secrets⟩ : Plan)
              = Plan.withTokens t ⟨config.toList ++ lower.configs, secret.toList ++ lower.secrets⟩ := by
            cases config <;> cases secret <;> simp [Plan.withTokens]
          exact congrArg Except.ok hplan

theorem planLocalFiles_withTokens (t : Tokens) (w : Wiring) :
    (w.withTokens t).planLocalFiles = w.planLocalFiles.map (Plan.withTokens t) := by
  have hfile : (w.withTokens t).localFile = w.localFile := rfl
  unfold planLocalFiles
  rw [hfile]
  cases w.localFile .config with
  | error e => rfl
  | ok config => cases w.localFile .secret <;> rfl

theorem planRemotePair_withTokens (t : Tokens) (w : Wiring) :
    (w.withTokens t).planRemotePair = w.planRemotePair.map (Plan.withTokens t) := by
  have hcheck : checkPair (w.withTokens t).catalogue = checkPair w.catalogue := rfl
  have hprovider : (w.withTokens t).catalogue.remoteProvider = w.catalogue.remoteProvider := rfl
  have hconfig : (w.withTokens t).catalogue.legacyConfig = w.catalogue.legacyConfig := rfl
  have hsecret : (w.withTokens t).catalogue.legacySecret = w.catalogue.legacySecret := rfl
  have hcatalogue : (w.withTokens t).catalogue = w.catalogue.withTokens t := rfl
  unfold planRemotePair
  simp only [hcheck, hprovider, hconfig, hsecret]
  rw [hcatalogue, ConfigSource.ofDescriptor_withTokens, SecretSource.ofDescriptor_withTokens]
  cases checkPair w.catalogue with
  | error e => rfl
  | ok u =>
    cases ConfigSource.ofDescriptor (pairKinds w.catalogue.remoteProvider).1 w.catalogue.legacyConfig
        w.catalogue with
    | error e => rfl
    | ok config =>
      cases SecretSource.ofDescriptor (pairKinds w.catalogue.remoteProvider).2
        w.catalogue.legacySecret w.catalogue <;> rfl

theorem decision_withTokens (t : Tokens) (w : Wiring) :
    (w.withTokens t).decision = w.decision.map (Decision.withTokens t) := by
  have hfiles : ∀ ignored, (w.withTokens t).decideLocalFiles ignored
      = (w.decideLocalFiles ignored).map (Decision.withTokens t) := by
    intro ignored
    rw [decideLocalFiles, decideLocalFiles, planLocalFiles_withTokens]
    cases w.planLocalFiles <;> rfl
  have hmode : (w.withTokens t).catalogue.loadMode = w.catalogue.loadMode := rfl
  rw [decision_eq, decision_eq, hmode]
  cases w.catalogue.loadMode with
  | error e => rfl
  | ok mode =>
    cases mode with
    | localFiles => exact hfiles []
    | remotePair =>
      rw [Except.ok_bind, Except.ok_bind, decisionFor, decisionFor, planRemotePair_withTokens]
      cases w.planRemotePair <;> rfl
    | dynamic =>
      have htext : (w.withTokens t).catalogue.dynamicValues = w.catalogue.dynamicValues := rfl
      rw [Except.ok_bind, Except.ok_bind, decisionFor, decisionFor, decideRecipe, decideRecipe, htext]
      split
      · exact hfiles _
      · rw [planRecipe, planKinds_withTokens, planRecipe]
        cases w.planKinds (Recipe.ofText w.catalogue.dynamicValues).kinds <;> rfl

end Wiring

/-! ## Loading with tokens -/

/-- The requests are the same but for the tokens in their headers. -/
structure Request.SameApart (r r' : Request) : Prop where
  method : r'.method = r.method
  url : r'.url = r.url
  body : r'.body = r.body

theorem isHeaderText_append (s t : String) :
    isHeaderText (s ++ t) = (isHeaderText s && isHeaderText t) := by
  simp [isHeaderText]

theorem Request.SameApart.sentTo {r r' : Request} (h : r.SameApart r') (url : Url) :
    (r.sentTo url).SameApart (r'.sentTo url) :=
  ⟨h.method, rfl, h.body⟩

namespace Network

/-- What is answered depends on the method, the address and the body of a request. -/
def IgnoresHeaders (network : Network) : Prop :=
  ∀ r r' : Request, r.SameApart r' → network.answer? r' = network.answer? r

theorem ignoresHeaders_serving (exchanges : List Exchange) :
    (serving exchanges).IgnoresHeaders := by
  intro r r' h
  simp only [serving, h.method, h.url]

/-- Requests that can be sent and differ in tokens only come to the same. -/
theorem IgnoresHeaders.alike_send {network : Network} (h : network.IgnoresHeaders)
    {r r' : Request} (hsame : r.SameApart r') (hr : r.hasSendableHeaders = true)
    (hr' : r'.hasSendableHeaders = true) :
    (network.send r).Alike Request.SameApart (network.send r') := by
  unfold send
  rw [hsame.url]
  cases Url.ofText? network.names r.url with
  | none => exact .of_ofExcept (.error .http)
  | some url =>
    simp only [hr, hr', if_true, h _ _ (hsame.sentTo url)]
    cases network.answer? (r.sentTo url) with
    | none => exact .of_ofExcept (.error .http)
    | some answer => exact ⟨rfl, .cons (hsame.sentTo url) .nil⟩

end Network

namespace SecretManagerSource

theorem hasSendableHeaders_request {s : SecretManagerSource}
    (h : s.token.all isHeaderText = true) : s.request.hasSendableHeaders = true := by
  have hbearer : isHeaderText "Bearer " = true := by decide
  cases htoken : s.token with
  | none => simp [request, Request.hasSendableHeaders, htoken]
  | some token =>
    rw [htoken, Option.all_some] at h
    simp [request, Request.hasSendableHeaders, htoken, isHeaderText_append, hbearer, h]

theorem alike_loadVia {network : Network} (answers : network.IgnoresHeaders)
    (s : SecretManagerSource) {token token' : Option String}
    (h : token.all isHeaderText = true) (h' : token'.all isHeaderText = true) :
    (loadVia network.send { s with token := token }).Alike Request.SameApart
      (loadVia network.send { s with token := token' }) := by
  have hsame : (request { s with token := token }).SameApart (request { s with token := token' }) :=
    ⟨rfl, rfl, rfl⟩
  have htree : treeOf { s with token := token' } = treeOf { s with token := token } := rfl
  have hsend := answers.alike_send hsame (hasSendableHeaders_request h) (hasSendableHeaders_request h')
  unfold loadVia
  rw [htree]
  exact hsend.bind fun r => .of_ofExcept _

end SecretManagerSource

namespace KeyValueSource

theorem hasSendableHeaders_request {s : KeyValueSource}
    (h : s.token.all isHeaderText = true) (p : Protocol) :
    (s.request p).hasSendableHeaders = true := by
  cases htoken : s.token with
  | none => cases p <;> simp [request, Request.hasSendableHeaders, htoken]
  | some token =>
    rw [htoken, Option.all_some] at h
    cases p <;> simp [request, Request.hasSendableHeaders, htoken, h]

theorem alike_loadVia {network : Network} (answers : network.IgnoresHeaders) (s : KeyValueSource)
    {token token' : Option String} (h : token.all isHeaderText = true)
    (h' : token'.all isHeaderText = true) :
    (loadVia network.send { s with token := token }).Alike Request.SameApart
      (loadVia network.send { s with token := token' }) := by
  have hsame : ∀ p, (request { s with token := token } p).SameApart
      (request { s with token := token' } p) := by
    intro p
    cases p <;> exact ⟨rfl, rfl, rfl⟩
  have htree : treeOf { s with token := token' } = treeOf { s with token := token } := rfl
  cases hp : Protocol.ofName s.protocol with
  | error e =>
    rw [loadVia_of_error (s := { s with token := token }) hp,
      loadVia_of_error (s := { s with token := token' }) hp]
    exact .of_ofExcept (.error e)
  | ok p =>
    rw [loadVia_of_ok (s := { s with token := token }) hp,
      loadVia_of_ok (s := { s with token := token' }) hp, htree]
    have hsend := answers.alike_send (hsame p) (hasSendableHeaders_request h p)
      (hasSendableHeaders_request h' p)
    exact hsend.bind fun r => .of_ofExcept _

end KeyValueSource

theorem ConfigSource.alike_load {w : World} (answers : w.network.IgnoresHeaders)
    (ht : t.AreSendable) (ht' : t'.AreSendable) (s : ConfigSource) :
    ((s.withTokens t).load w).Alike Request.SameApart ((s.withTokens t').load w) := by
  cases s with
  | secretManager s => exact s.alike_loadVia answers ht.1 ht'.1
  | keyValue s => exact s.alike_loadVia answers ht.2 ht'.2
  | stringVar s => exact .of_ofExcept s.load
  | file s => exact .of_ofExcept ((s.load w).map LoadedFile.tree)
  | database s => exact .of_ofExcept (s.load w)

/-- The second plan is the first one with these tokens, and loads of the two are alike. -/
structure Plan.LoadsAlike (w : World) (t' : Tokens) (p p' : Plan) : Prop where
  plan : p' = p.withTokens t'
  sources : p'.sources.map PlannedSource.describe = p.sources.map PlannedSource.describe
  result : (p'.load w).outcome.result = (p.load w).outcome.result
  requests : List.Forall₂ Request.SameApart (p.load w).outcome.requests (p'.load w).outcome.requests

theorem Plan.loadsAlike_withTokens {w : World} (answers : w.network.IgnoresHeaders)
    (ht : t.AreSendable) (ht' : t'.AreSendable) (p : Plan) :
    (p.withTokens t).LoadsAlike w t' (p.withTokens t') := by
  have halike : ((p.withTokens t).load w).outcome.Alike Request.SameApart
      ((p.withTokens t').load w).outcome := by
    rw [outcome_load, outcome_load, sources_withTokens, sources_withTokens]
    refine (Outcome.Alike.mapM (fun s => ?_) p.sources).map mergeTrees
    rw [PlannedSource.load_eq, PlannedSource.load_eq, PlannedSource.asConfig_withTokens,
      PlannedSource.asConfig_withTokens]
    exact s.asConfig.alike_load answers ht ht'
  refine ⟨(p.withTokens_withTokens t t').symm, ?_, halike.result, halike.requests⟩
  simp only [sources_withTokens, List.map_map, Function.comp_def, PlannedSource.describe_withTokens]

/-! ## Headers -/

theorem KeyValueSource.notMem_base {s : KeyValueSource} {c : Char} (hc : c ∉ "http://".toList)
    (h : c ∉ s.address.toList) : c ∉ s.base.toList := by
  unfold base
  dsimp only
  split
  · exact Text.notMem_dropTrailing h
  · rw [String.toList_append, List.mem_append, not_or]
    exact ⟨hc, Text.notMem_dropTrailing h⟩

theorem SecretManagerSource.notMem_base {s : SecretManagerSource} {c : Char}
    (h : c ∉ (s.endpoint.getD defaultEndpoint).toList) : c ∉ s.base.toList := by
  rw [base_eq]
  exact Text.notMem_dropTrailing h

/-- The address of a request names no user unless there is an at sign in the address of its source. -/
theorem Url.basic?_of_notMem_base {names : HostNames} {base root back : String} {d : Char}
    {url : Url} (hurl : ofText? names (base ++ root ++ back) = some url)
    (hroot : root = "/v1/" ∨ root = "/v3/") (hback : back.toList.getLast? = some d)
    (hd : isCut d = false) (hat : '@' ∉ base.toList) : url.authority.basic? = none := by
  have hfront : '@' ∉ (base ++ root).toList := by
    rcases hroot with rfl | rfl <;> simp [hat]
  rcases hroot with rfl | rfl
  · have hsplit : (base ++ "/v1/").toList = (base.toList ++ ['/', 'v']) ++ ['1', '/'] := by simp
    exact basic?_eq_none hurl hsplit rfl (by decide) rfl hback hd hfront
  · have hsplit : (base ++ "/v3/").toList = (base.toList ++ ['/', 'v']) ++ ['3', '/'] := by simp
    exact basic?_eq_none hurl hsplit rfl (by decide) rfl hback hd hfront

theorem SecretManagerSource.basic?_eq_none {names : HostNames} {s : SecretManagerSource} {url : Url}
    (hurl : Url.ofText? names s.request.url = some url)
    (hat : '@' ∉ (s.endpoint.getD defaultEndpoint).toList) : url.authority.basic? = none := by
  have hsplit : s.request.url = s.base ++ "/v1/" ++ (s.resourceName ++ ":access") := by
    simp [request, String.append_assoc]
  have hlast : (s.resourceName ++ ":access").toList.getLast? = some 's' :=
    Text.getLast?_append (by decide) s.resourceName
  rw [hsplit] at hurl
  exact Url.basic?_of_notMem_base hurl (.inl rfl) hlast rfl (s.notMem_base hat)

theorem KeyValueSource.basic?_eq_none {names : HostNames} {s : KeyValueSource} {p : Protocol}
    {url : Url} (hurl : Url.ofText? names (s.request p).url = some url)
    (hat : '@' ∉ s.address.toList) : url.authority.basic? = none := by
  have hbase : '@' ∉ s.base.toList := s.notMem_base (by decide) hat
  cases p with
  | consul =>
    have hsplit : (s.request .consul).url = s.base ++ "/v1/" ++ ("kv/" ++ s.key ++ "?raw") := by
      rw [← String.toList_inj]
      simp [request]
    have hlast : ("kv/" ++ s.key ++ "?raw").toList.getLast? = some 'w' :=
      Text.getLast?_append (by decide) ("kv/" ++ s.key)
    rw [hsplit] at hurl
    exact Url.basic?_of_notMem_base hurl (.inl rfl) hlast rfl hbase
  | etcd3 =>
    have hsplit : (s.request .etcd3).url = s.base ++ "/v3/" ++ "kv/range" := by
      rw [← String.toList_inj]
      simp [request]
    have hlast : "kv/range".toList.getLast? = some 'e' := by decide
    rw [hsplit] at hurl
    exact Url.basic?_of_notMem_base hurl (.inr rfl) hlast rfl hbase

namespace ConfigSource

/-- The address that a source is served at; none for one that is not served over HTTP. -/
def address? : ConfigSource → Option String
  | secretManager s => some (s.endpoint.getD SecretManagerSource.defaultEndpoint)
  | keyValue s => some s.address
  | _ => none

/-- The value that is sent for the user of the address of a source. -/
def user? (names : HostNames) (s : ConfigSource) : Option String :=
  s.request?.bind fun asked =>
    (Url.ofText? names asked.url).bind fun url => url.authority.basic?

/-- The request carries the tokens as requests of this source do, behind a user of its address. -/
def Signs (user : Option String) (t : Tokens) (r : Request) : ConfigSource → Prop
  | secretManager _ =>
    r.authorization = user.toList ++ (t.secret.map ("Bearer " ++ ·)).toList ∧ r.consulToken = none
  | keyValue s =>
    Protocol.ofName s.protocol = .ok .consul
        ∧ r.consulToken = t.keyValue ∧ r.authorization = user.toList
      ∨ Protocol.ofName s.protocol = .ok .etcd3
        ∧ r.authorization = user.toList ++ t.keyValue.toList ∧ r.consulToken = none
  | _ => False

theorem signs_of_sends {names : HostNames} {s : ConfigSource} {r : Request}
    (h : (s.withTokens t).Sends names r) :
    (s.withTokens t).Signs ((s.withTokens t).user? names) t r := by
  obtain ⟨asked, hasked, url, hurl, rfl⟩ := h
  have huser : (s.withTokens t).user? names = url.authority.basic? := by
    simp [user?, hasked, hurl]
  rw [huser]
  cases s with
  | secretManager s =>
    obtain rfl := Option.some.inj hasked
    exact ⟨rfl, rfl⟩
  | keyValue s =>
    simp only [withTokens, request?, Option.map_eq_some_iff] at hasked
    obtain ⟨p, hp, rfl⟩ := hasked
    cases hname : Protocol.ofName s.protocol with
    | error e =>
      rw [hname] at hp
      cases hp
    | ok p' =>
      rw [hname] at hp
      obtain rfl := Option.some.inj hp
      cases p' with
      | consul => exact .inl ⟨hname, rfl, List.append_nil _⟩
      | etcd3 => exact .inr ⟨hname, rfl, rfl⟩
  | stringVar s => cases hasked
  | file s => cases hasked
  | database s => cases hasked

/-- Only an address with an at sign names a user. -/
theorem user?_eq_none {s : ConfigSource} {address : String} (h : s.address? = some address)
    (hat : '@' ∉ address.toList) (names : HostNames) : s.user? names = none := by
  rw [user?, Option.bind_eq_none_iff]
  intro asked hasked
  rw [Option.bind_eq_none_iff]
  intro url hurl
  cases s with
  | secretManager s =>
    obtain rfl := Option.some.inj hasked
    obtain rfl := Option.some.inj h
    exact SecretManagerSource.basic?_eq_none hurl hat
  | keyValue s =>
    obtain rfl := Option.some.inj h
    simp only [request?, Option.map_eq_some_iff] at hasked
    obtain ⟨p, -, rfl⟩ := hasked
    exact KeyValueSource.basic?_eq_none hurl hat
  | stringVar s => cases hasked
  | file s => cases hasked
  | database s => cases hasked

end ConfigSource

theorem Plan.signs_withTokens {p : Plan} {w : World} {s : PlannedSource}
    (hs : s ∈ (p.withTokens t).sources) {r : Request} (hr : r ∈ (s.load w).requests) :
    s.asConfig.Signs (s.asConfig.user? w.network.names) t r := by
  rw [sources_withTokens] at hs
  obtain ⟨s, -, rfl⟩ := List.mem_map.1 hs
  have hsends : (s.withTokens t).Sends w.network.names r := by
    rcases (s.withTokens t).at_most_one w with hnone | ⟨asked, hsends, hone⟩
    · rw [hnone] at hr
      cases hr
    · rw [hone] at hr
      rw [List.mem_singleton.1 hr]
      exact hsends
  unfold PlannedSource.Sends at hsends
  rw [PlannedSource.asConfig_withTokens] at hsends ⊢
  exact ConfigSource.signs_of_sends hsends

/-! ## The law -/

/-- Both steps fail with the same error, or both give results that are related. -/
inductive StepsAlike (R : α → α → Prop) : Except Error α → Except Error α → Prop where
  | error (e : Error) : StepsAlike R (.error e) (.error e)
  | ok {a b : α} (h : R a b) : StepsAlike R (.ok a) (.ok b)

theorem stepsAlike_map {R : β → β → Prop} {f g : α → β} (h : ∀ a, R (f a) (g a))
    (x : Except Error α) : StepsAlike R (x.map f) (x.map g) := by
  cases x with
  | error e => exact .error e
  | ok a => exact .ok (h a)

namespace Wiring

/-- The plan is one that planning gives. -/
inductive Plans (w : Wiring) (p : Plan) : Prop where
  | localFiles (h : w.planLocalFiles = .ok p)
  | remotePair (h : w.planRemotePair = .ok p)
  | recipe (r : Recipe) (h : w.planRecipe r = .ok p)
  | decision (d : Decision) (h : w.decision = .ok d) (plan : d.plan = p)

/-- What tokens do to planning and loading. -/
structure HidesTokens (w : Wiring) (world : World) (t t' : Tokens) : Prop where
  localFiles : StepsAlike (Plan.LoadsAlike world t') (w.withTokens t).planLocalFiles
    (w.withTokens t').planLocalFiles
  remotePair : StepsAlike (Plan.LoadsAlike world t') (w.withTokens t).planRemotePair
    (w.withTokens t').planRemotePair
  recipe : ∀ r, StepsAlike (Plan.LoadsAlike world t') ((w.withTokens t).planRecipe r)
    ((w.withTokens t').planRecipe r)
  decision : StepsAlike
    (fun d d' => d'.mode = d.mode ∧ d'.ignored = d.ignored ∧ d.plan.LoadsAlike world t' d'.plan)
    (w.withTokens t).decision (w.withTokens t').decision
  /-- The requests of a load are those of its started sources, and each source signs its own. -/
  signed : ∀ p, (w.withTokens t).Plans p →
    (p.load world).started <+: p.sources
      ∧ (p.load world).outcome.requests
          = (p.load world).started.flatMap (fun s => (s.load world).requests)
      ∧ ∀ s ∈ p.sources, ∀ r ∈ (s.load world).requests,
          s.asConfig.Signs (s.asConfig.user? world.network.names) t r
  /-- A source sends no user unless there is an at sign in its address. -/
  users : ∀ s : ConfigSource, ∀ address, s.address? = some address → '@' ∉ address.toList →
    s.user? world.network.names = none

theorem Plans.exists_withTokens {w : Wiring} {p : Plan} (h : (w.withTokens t).Plans p) :
    ∃ p₀ : Plan, p = p₀.withTokens t := by
  cases h with
  | localFiles h =>
    rw [planLocalFiles_withTokens] at h
    obtain ⟨p₀, -, rfl⟩ := Except.map_eq_ok_iff.1 h
    exact ⟨p₀, rfl⟩
  | remotePair h =>
    rw [planRemotePair_withTokens] at h
    obtain ⟨p₀, -, rfl⟩ := Except.map_eq_ok_iff.1 h
    exact ⟨p₀, rfl⟩
  | recipe r h =>
    rw [planRecipe, planKinds_withTokens] at h
    obtain ⟨p₀, -, rfl⟩ := Except.map_eq_ok_iff.1 h
    exact ⟨p₀, rfl⟩
  | decision d h plan =>
    rw [decision_withTokens] at h
    obtain ⟨d₀, -, rfl⟩ := Except.map_eq_ok_iff.1 h
    exact ⟨d₀.plan, plan.symm⟩

end Wiring

end LayeredSettings
