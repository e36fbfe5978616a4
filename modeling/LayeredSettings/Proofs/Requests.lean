import LayeredSettings.Proofs.Planning
import LayeredSettings.Proofs.Session
import Mathlib.Data.List.Forall2

set_option autoImplicit false

/-! # What a load asks for

Planning sends nothing. A source that is served over HTTP sends one request, or fails before it
could, and no other source sends any, so the requests of a load tell how far it came.
`Session.init_asks` ties them to the plan and to the summary. -/

namespace LayeredSettings

variable {α β : Type}

/-! ## Sending once -/

/-- What goes out for a request: the same request, as it goes to the address that its text writes. -/
def Request.SentAs (names : HostNames) (asked sent : Request) : Prop :=
  ∃ url, Url.ofText? names asked.url = some url ∧ sent = asked.sentTo url

/-- At most one request goes out, and it is of this sort; one has gone out if there is a result. -/
structure Outcome.AsksOnce (R : Request → Prop) (x : Outcome α) : Prop where
  at_most_one : x.requests = [] ∨ ∃ r, R r ∧ x.requests = [r]
  one_of_ok : ∀ a, x.result = .ok a → ∃ r, R r ∧ x.requests = [r]

/-- A step that sends nothing adds no request. -/
theorem Outcome.requests_bind_ofExcept (x : Outcome α) (f : α → Except Error β) :
    (x >>= fun a => .ofExcept (f a)).requests = x.requests := by
  show (x.bind fun a => .ofExcept (f a)).requests = x.requests
  cases hx : x.result with
  | ok a => rw [bind_of_ok hx]; exact List.append_nil _
  | error e => rw [bind_of_error hx]

theorem Outcome.AsksOnce.bind {R : Request → Prop} {x : Outcome α} (h : x.AsksOnce R)
    (f : α → Except Error β) : (x >>= fun a => .ofExcept (f a)).AsksOnce R := by
  constructor
  · rw [requests_bind_ofExcept]
    exact h.at_most_one
  · intro b hb
    rw [result_bind] at hb
    obtain ⟨a, ha, -⟩ := Except.bind_eq_ok_iff.1 hb
    rw [requests_bind_ofExcept]
    exact h.one_of_ok a ha

theorem Network.asksOnce_send (network : Network) (asked : Request) :
    (network.send asked).AsksOnce (asked.SentAs network.names) := by
  have hfail : (Outcome.fail .http : Outcome Response).AsksOnce (asked.SentAs network.names) :=
    ⟨.inl rfl, fun _ h => by cases h⟩
  unfold send
  split
  · exact hfail
  · next url hurl =>
    split
    · split
      · exact hfail
      · exact ⟨.inr ⟨_, ⟨url, hurl, rfl⟩, rfl⟩, fun _ _ => ⟨_, ⟨url, hurl, rfl⟩, rfl⟩⟩
    · exact hfail

/-! ## Sources -/

namespace KeyValueSource

variable {s : KeyValueSource} {send : Transport}

theorem loadVia_of_ok {p : Protocol} (h : Protocol.ofName s.protocol = .ok p) :
    s.loadVia send = send (s.request p) >>= fun r => .ofExcept (s.treeOf p r) := by
  rw [loadVia, h]
  rfl

theorem loadVia_of_error {e : Error} (h : Protocol.ofName s.protocol = .error e) :
    s.loadVia send = .fail e := by
  rw [loadVia, h]
  rfl

end KeyValueSource

/-- The kinds that are served over HTTP. -/
def SourceKind.isHttp : SourceKind → Bool
  | .secretManager => true
  | .keyValue => true
  | _ => false

theorem SourceKind.isHttp_iff {kind : SourceKind} :
    kind.isHttp = true ↔ kind = .keyValue ∨ kind = .secretManager := by
  cases kind <;> simp [isHttp]

namespace ConfigSource

/-- The request of a source; a store whose protocol is not known has none. -/
def request? : ConfigSource → Option Request
  | secretManager s => some s.request
  | keyValue s => (Protocol.ofName s.protocol).toOption.map s.request
  | _ => none

/-- A request as the source sends it. -/
def Sends (names : HostNames) (s : ConfigSource) (r : Request) : Prop :=
  ∃ asked, s.request? = some asked ∧ asked.SentAs names r

theorem sends_eq {s : ConfigSource} {asked : Request} (h : s.request? = some asked)
    (names : HostNames) : s.Sends names = asked.SentAs names := by
  funext r
  simp [Sends, h]

theorem asksOnce_load {s : ConfigSource} (h : s.kind.isHttp = true) (w : World) :
    (s.load w).AsksOnce (s.Sends w.network.names) := by
  cases s with
  | secretManager s =>
    rw [sends_eq (s := secretManager s) rfl]
    exact (w.network.asksOnce_send s.request).bind s.treeOf
  | keyValue s =>
    rw [load, loadVia]
    cases hp : Protocol.ofName s.protocol with
    | error e =>
      rw [KeyValueSource.loadVia_of_error hp]
      exact ⟨.inl rfl, fun _ h => by cases h⟩
    | ok p =>
      have hasked : (keyValue s).request? = some (s.request p) := by
        simp [request?, hp, Except.toOption]
      rw [KeyValueSource.loadVia_of_ok hp, sends_eq hasked]
      exact (w.network.asksOnce_send (s.request p)).bind (s.treeOf p)
  | stringVar s => simp [kind, SourceKind.isHttp] at h
  | file s => simp [kind, SourceKind.isHttp] at h
  | database s => simp [kind, SourceKind.isHttp] at h

theorem requests_load {s : ConfigSource} (h : ¬ s.kind.isHttp = true) (w : World) :
    (s.load w).requests = [] := by
  cases s with
  | secretManager s => exact absurd rfl h
  | keyValue s => exact absurd rfl h
  | _ => simp only [load, loadVia, Outcome.ofExcept]

end ConfigSource

/-! ## Sources in order -/

namespace PlannedSource

/-- The source, whatever it is for. -/
def asConfig : PlannedSource → ConfigSource
  | config s => s
  | secret s => s.toConfig

theorem kind_eq (s : PlannedSource) : s.kind = s.asConfig.kind := by
  cases s <;> rfl

theorem load_eq (s : PlannedSource) (w : World) : s.load w = s.asConfig.load w := by
  cases s <;> rfl

/-- A request as the source sends it. -/
def Sends (names : HostNames) (s : PlannedSource) (r : Request) : Prop :=
  s.asConfig.Sends names r

/-- The requests are one of each source that is served over HTTP, in the order of the sources. -/
def SentBy (names : HostNames) (sources : List PlannedSource) (requests : List Request) : Prop :=
  List.Forall₂ (Sends names) (sources.filter fun s => s.kind.isHttp) requests

variable {w : World}

theorem at_most_one (w : World) (s : PlannedSource) :
    (s.load w).requests = []
      ∨ ∃ r, s.Sends w.network.names r ∧ (s.load w).requests = [r] := by
  rw [load_eq]
  by_cases h : s.asConfig.kind.isHttp = true
  · exact (ConfigSource.asksOnce_load h w).at_most_one
  · exact .inl (ConfigSource.requests_load h w)

theorem sentBy_singleton {s : PlannedSource} {tree : Tree} (h : (s.load w).result = .ok tree) :
    SentBy w.network.names [s] (s.load w).requests := by
  unfold SentBy
  rw [load_eq] at h ⊢
  by_cases hhttp : s.kind.isHttp = true
  · rw [kind_eq] at hhttp
    obtain ⟨r, hr, hrequests⟩ := (ConfigSource.asksOnce_load hhttp w).one_of_ok tree h
    have hone : [s].filter (fun s => s.kind.isHttp) = [s] := by simp [kind_eq, hhttp]
    rw [hone, hrequests]
    exact .cons hr .nil
  · have hnone : [s].filter (fun s => s.kind.isHttp) = [] := by simp [hhttp]
    rw [hnone, ConfigSource.requests_load (by rwa [kind_eq] at hhttp)]
    exact .nil

theorem SentBy.append {names : HostNames} {front back : List PlannedSource}
    {sent later : List Request} (h : SentBy names front sent) (h' : SentBy names back later) :
    SentBy names (front ++ back) (sent ++ later) := by
  unfold SentBy
  rw [List.filter_append]
  exact List.rel_append h h'

/-- Sources that all succeed send one request each, if they are served over HTTP. -/
theorem sentBy_of_ok {sources : List PlannedSource}
    (h : ∀ s ∈ sources, ∃ tree, (PlannedSource.load w s).result = .ok tree) :
    SentBy w.network.names sources
      (sources.flatMap fun s => (PlannedSource.load w s).requests) := by
  induction sources with
  | nil => exact .nil
  | cons s rest ih =>
    obtain ⟨⟨tree, htree⟩, hrest⟩ := List.forall_mem_cons.1 h
    exact (sentBy_singleton htree).append (ih hrest)

/-! ### Sources as a summary lists them -/

/-- A summary tells of the source as it is. -/
structure ListedAs (s : PlannedSource) (listed : LoadedSource) : Prop where
  target : listed.target = s.target
  kind : listed.kind = s.kind
  name : listed.name = s.name

/-- Each source that is listed as a key-value store or a secret manager has sent one request, in the
    order of the list, and nothing else was sent. -/
def AskedAsListed (names : HostNames) (listed : List LoadedSource) (sources : List PlannedSource)
    (requests : List Request) : Prop :=
  List.Forall₂ (fun pair r => pair.2.Sends names r)
    ((listed.zip sources).filter fun pair =>
      pair.1.kind = .keyValue ∨ pair.1.kind = .secretManager) requests

theorem listedAs_describe (sources : List PlannedSource) :
    List.Forall₂ ListedAs sources (sources.map describe) := by
  rw [List.forall₂_map_right_iff, List.forall₂_same]
  exact fun _ _ => ⟨rfl, rfl, rfl⟩

/-- Where a summary tells of sources as they are, they are asked as it lists them. -/
theorem SentBy.askedAsListed {names : HostNames} {sources : List PlannedSource}
    {requests : List Request} (h : SentBy names sources requests) :
    AskedAsListed names (sources.map describe) sources requests := by
  have hkind : ((fun pair : LoadedSource × PlannedSource =>
      decide (pair.1.kind = .keyValue ∨ pair.1.kind = .secretManager))
        ∘ fun s => (s.describe, s)) = fun s => s.kind.isHttp := by
    funext s
    rw [Bool.eq_iff_iff, SourceKind.isHttp_iff]
    exact decide_eq_true_iff
  unfold AskedAsListed
  rw [← List.map_prod_right_eq_zip, List.filter_map, hkind, List.forall₂_map_left_iff]
  exact h

end PlannedSource

/-- Fresh sources report success if they succeed. -/
theorem SourceState.report_of_ok {σ : Type} {load : σ → Outcome Tree} {sources : List σ}
    (h : ∀ s ∈ sources, ∃ tree, (load s).result = .ok tree) :
    ∀ q ∈ sources.map fresh, (provider load).report q = .ok () := by
  intro q hq
  obtain ⟨s, hs, rfl⟩ := List.mem_map.1 hq
  obtain ⟨tree, htree⟩ := h s hs
  rw [report_fresh, htree]
  rfl

namespace Plan

variable {p : Plan} {w : World}

theorem started_prefix (p : Plan) (w : World) : (p.load w).started <+: p.sources := by
  have hrun := (Run.started_prefix (SourceState.provider (PlannedSource.load w))
    (p.configs.map fun s => .fresh (.config s)) (p.secrets.map fun s => .fresh (.secret s))).map
    SourceState.source
  rw [states_eq, List.map_map] at hrun
  have hsources : p.sources.map (SourceState.source ∘ SourceState.fresh) = p.sources := List.map_id _
  rw [hsources] at hrun
  exact hrun

/-- A plan sends what its started sources send. -/
theorem requests_load (p : Plan) (w : World) :
    (p.load w).outcome.requests
      = (p.load w).started.flatMap fun s => (PlannedSource.load w s).requests := by
  have hrequests : (SourceState.provider (PlannedSource.load w)).requests
      = fun q => (PlannedSource.load w q.source).requests := by
    funext q
    exact SourceState.requests_eq (PlannedSource.load w) q.source q.data
  simp only [load, Run.mapStarted, List.flatMap_map]
  rw [Run.requests_layered, hrequests]

/-- What a plan sends when all its sources succeed. -/
theorem requests_load_of_ok
    (h : ∀ s ∈ p.sources, ∃ tree, (PlannedSource.load w s).result = .ok tree) :
    (p.load w).outcome.requests
      = p.sources.flatMap fun s => (PlannedSource.load w s).requests := by
  have hreport := SourceState.report_of_ok h
  rw [← states_eq] at hreport
  simp only [load, Run.mapStarted]
  rw [Run.layered_of_ok hreport, states_eq, List.flatMap_map]
  simp only [SourceState.requests_fresh]

/-- What a plan sends up to its first source that fails. -/
theorem requests_load_of_error {before after : List PlannedSource} {s : PlannedSource} {e : Error}
    (hsplit : p.sources = before ++ s :: after)
    (hbefore : ∀ b ∈ before, ∃ tree, (PlannedSource.load w b).result = .ok tree)
    (hs : (s.load w).result = .error e) :
    (p.load w).outcome.requests
      = (before.flatMap fun b => (PlannedSource.load w b).requests) ++ (s.load w).requests := by
  have hstates := states_eq p
  rw [hsplit, List.map_append, List.map_cons] at hstates
  simp only [load, Run.mapStarted]
  rw [Run.layered_of_error hstates (SourceState.report_of_ok hbefore)
    (SourceState.report_eq_error_iff.2 hs)]
  simp [List.flatMap_map, SourceState.requests_fresh]

end Plan

/-! ## The law -/

namespace Manager

variable {m : Manager} {w : World}

theorem load_of_error {e : Error} (h : (m.wiring w).decision = .error e) : m.load w = .fail e := by
  unfold load
  rw [h]
  rfl

/-- Loads are the same if the decisions are and what is decided on gives the same. -/
theorem load_congr {m' : Manager} {w' : World}
    (hentries : m'.envFileEntries? w' = m.envFileEntries? w)
    (hdecision : (m'.wiring w').decision = (m.wiring w).decision)
    (h : ∀ d, (m.wiring w).decision = .ok d → d.plan.load w' = d.plan.load w) :
    m'.load w' = m.load w := by
  cases hd : (m.wiring w).decision with
  | error e => rw [load_of_error hd, load_of_error (by rw [hdecision, hd])]
  | ok d =>
    have hsummary : m'.summary w' d = m.summary w d := by
      unfold summary
      rw [hentries]
    unfold load
    rw [hdecision, hd]
    show (d.plan.load w').outcome.bind (fun tree => pure (m'.summary w' d, tree))
      = (d.plan.load w).outcome.bind fun tree => pure (m.summary w d, tree)
    rw [h d hd, hsummary]

theorem worldAfter_congr {m' : Manager} (h : (m'.wiring w).decision = (m.wiring w).decision) :
    m'.worldAfter w = m.worldAfter w := by
  unfold worldAfter
  rw [h]

theorem requests_load {d : Decision} (h : (m.wiring w).decision = .ok d) :
    (m.load w).requests = (d.plan.load w).outcome.requests := by
  unfold load
  rw [h]
  show ((d.plan.load w).outcome.bind _).requests = _
  cases hload : (d.plan.load w).outcome.result with
  | error e => rw [Outcome.bind_of_error hload]
  | ok tree => rw [Outcome.bind_of_ok hload]; exact List.append_nil _

/-- The errors of planning tell that planning has failed. -/
theorem decision_eq_error_iff {e : Error} :
    (m.wiring w).decision = .error e ↔ (m.load w).result = .error e ∧ e.IsPlanning := by
  constructor
  · intro h
    exact ⟨by rw [load_of_error h]; rfl, (Wiring.unplannable_of_decision h).isPlanning⟩
  · rintro ⟨hload, hplanning⟩
    rcases load_eq_error_iff.1 hload with h | ⟨d, before, s, after, -, -, -, hs⟩
    · exact h
    · rw [PlannedSource.load_eq] at hs
      exact absurd hplanning (s.asConfig.pastPlanning_load w e hs)

end Manager

namespace Session

variable {s : Session} {w : World}

theorem init_outcome (s : Session) (w : World) :
    (s.init w).2 = ⟨(s.manager.load w).requests, (s.manager.load w).result.map Prod.fst⟩ := by
  unfold init
  obtain ⟨requests, result⟩ := s.manager.load w
  cases result <;> rfl

theorem requests_init (s : Session) (w : World) :
    (s.init w).2.requests = (s.manager.load w).requests := by
  rw [init_outcome]

theorem result_init (s : Session) (w : World) :
    (s.init w).2.result = (s.manager.load w).result.map Prod.fst := by
  rw [init_outcome]

theorem summary_of_ok {summary : LoadSummary} (h : (s.init w).2.result = .ok summary) :
    ∃ d, (s.manager.wiring w).decision = .ok d ∧ summary = s.manager.summary w d := by
  rw [result_init, Except.map_eq_ok_iff] at h
  obtain ⟨loaded, hloaded, rfl⟩ := h
  rw [Manager.result_load] at hloaded
  obtain ⟨d, hd, hloaded⟩ := Except.bind_eq_ok_iff.1 hloaded
  obtain ⟨trees, -, hloaded⟩ := Except.bind_eq_ok_iff.1 hloaded
  obtain rfl := Except.ok.inj hloaded
  exact ⟨d, hd, rfl⟩

/-- What the requests of a load have to be like. -/
structure Asks (s : Session) (w : World) : Prop where
  /-- What keeps a load from being planned makes it fail while planning. -/
  unplannable : ∀ e, (s.manager.wiring w).Unplannable e →
    ∃ e', (s.init w).2.result = .error e' ∧ e'.IsPlanning
  /-- A load that fails while planning has asked for nothing. -/
  planning : ∀ e, (s.init w).2.result = .error e → e.IsPlanning →
    (s.manager.wiring w).Unplannable e ∧ (s.init w).2.requests = []
  /-- A load that succeeds lists its sources in its summary, those of configuration and then those of
      secrets. It has asked each one that is listed as a key-value store or a secret manager once, in
      the order of the summary, and holds the merge of all that are listed. -/
  success : ∀ summary, (s.init w).2.result = .ok summary →
    ∃ d sources trees, (s.manager.wiring w).decision = .ok d
      ∧ sources = d.plan.configs.map .config ++ d.plan.secrets.map .secret
      ∧ List.Forall₂ PlannedSource.ListedAs sources summary.sources
      ∧ PlannedSource.AskedAsListed w.network.names summary.sources sources (s.init w).2.requests
      ∧ sources.mapM (fun p => (PlannedSource.load w p).result) = .ok trees
      ∧ (s.init w).1.held.tree = mergeTrees trees
  /-- A load that fails in a source has asked each source before it that is served over HTTP once,
      in order, then perhaps this source, and nothing else. -/
  failure : ∀ e, (s.init w).2.result = .error e → ¬ e.IsPlanning →
    ∃ d before p after sent last, (s.manager.wiring w).decision = .ok d
      ∧ d.plan.sources = before ++ p :: after
      ∧ (∀ b ∈ before, ∃ tree, (PlannedSource.load w b).result = .ok tree)
      ∧ (p.load w).result = .error e
      ∧ (s.init w).2.requests = sent ++ last
      ∧ PlannedSource.SentBy w.network.names before sent
      ∧ (last = [] ∨ ∃ r, p.Sends w.network.names r ∧ last = [r])

theorem requests_of_ok {summary : LoadSummary} (h : (s.init w).2.result = .ok summary) :
    ∃ d trees, (s.manager.wiring w).decision = .ok d
      ∧ summary.sources = d.plan.sources.map PlannedSource.describe
      ∧ PlannedSource.SentBy w.network.names d.plan.sources (s.init w).2.requests
      ∧ d.plan.sources.mapM (fun p => (PlannedSource.load w p).result) = .ok trees
      ∧ (s.init w).1.held.tree = mergeTrees trees := by
  obtain ⟨tree, ⟨d, trees, hdecision, htrees, rfl⟩, hinit⟩ := init_of_ok h
  have hload : (d.plan.load w).outcome.result = .ok (mergeTrees trees) := by
    rw [Plan.result_load, htrees]
    rfl
  have hresult : (s.manager.load w).result = .ok (s.manager.summary w d, mergeTrees trees) := by
    rw [Manager.result_load, hdecision, Except.ok_bind, htrees, Except.ok_bind]
  rw [result_init, hresult] at h
  obtain rfl := Except.ok.inj h
  obtain ⟨-, hok⟩ := Plan.started_of_ok hload
  refine ⟨d, trees, hdecision, rfl, ?_, htrees, ?_⟩
  · rw [requests_init, Manager.requests_load hdecision, Plan.requests_load_of_ok hok]
    exact PlannedSource.sentBy_of_ok hok
  · rw [hinit, held_publish]

/-- **The law of requests.** While it plans a load asks for nothing; then it asks the sources that
    are served over HTTP one after the other, each of them once, up to the first that fails. -/
theorem init_asks (s : Session) (w : World) : s.Asks w where
  unplannable e h := by
    obtain ⟨e', he⟩ := h.exists_decision_error
    obtain ⟨hload, hplanning⟩ := Manager.decision_eq_error_iff.1 he
    exact ⟨e', by rw [result_init, hload]; rfl, hplanning⟩
  planning e h hplanning := by
    rw [result_init, Except.map_eq_error_iff] at h
    have hdecision := Manager.decision_eq_error_iff.2 ⟨h, hplanning⟩
    refine ⟨Wiring.unplannable_of_decision hdecision, ?_⟩
    rw [requests_init, Manager.load_of_error hdecision, Outcome.fail]
  success summary h := by
    obtain ⟨d, trees, hdecision, hlisted, hsent, htrees, hheld⟩ := requests_of_ok h
    refine ⟨d, d.plan.sources, trees, hdecision, rfl, ?_, ?_, htrees, hheld⟩
    · rw [hlisted]
      exact PlannedSource.listedAs_describe _
    · rw [hlisted]
      exact hsent.askedAsListed
  failure e h hplanning := by
    rw [result_init, Except.map_eq_error_iff] at h
    rcases Manager.load_eq_error_iff.1 h with
      hdecision | ⟨d, before, p, after, hdecision, hsplit, hbefore, hp⟩
    · exact absurd (Manager.decision_eq_error_iff.1 hdecision).2 hplanning
    · -- What comes last is all that the failing source itself has sent.
      refine ⟨d, before, p, after, _, _, hdecision, hsplit, hbefore, hp, ?_,
        PlannedSource.sentBy_of_ok hbefore, p.at_most_one w⟩
      rw [requests_init, Manager.requests_load hdecision,
        Plan.requests_load_of_error hsplit hbefore hp]

end Session

end LayeredSettings
