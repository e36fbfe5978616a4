import LayeredSettings.Proofs.Merge

set_option autoImplicit false

/-! # What a plan gives

A plan gives the trees of its sources laid over each other (`Plan.result_load`), and a load that
succeeds leaves the world as it was (`Plan.worldAfter_of_ok`). -/

namespace LayeredSettings

/-! ## Sources in order -/

theorem Run.outcome_bind {π α β : Type} (r : Run π α) (f : α → Run π β) :
    (r.bind f).outcome = r.outcome >>= fun a => (f a).outcome := by
  show (r.bind f).outcome = r.outcome.bind fun a => (f a).outcome
  unfold Run.bind
  split <;> rfl

namespace SourceState

variable {σ : Type}

theorem outcome_initOne (load : σ → Outcome Tree) (s : σ) :
    (Run.initOne (provider load) (fresh s)).outcome = (fun tree => ⟨s, tree⟩) <$> load s := by
  show _ = (load s).bind fun tree => Outcome.ofExcept (.ok (SourceState.mk s tree))
  cases h : (load s).result with
  | ok tree =>
    rw [Outcome.bind_of_ok h]
    simp [Run.initOne, provider, init, fresh, h, Outcome.ofExcept, Except.map]
  | error e =>
    rw [Outcome.bind_of_error h]
    simp [Run.initOne, provider, init, fresh, h, Except.map]

/-- Initialising fresh sources in order comes to loading them in order. -/
theorem outcome_initAll (load : σ → Outcome Tree) (sources : List σ) :
    (fun states => states.map SourceState.data)
        <$> (Run.initAll (provider load) (sources.map fresh)).outcome
      = sources.mapM load := by
  induction sources with
  | nil => rfl
  | cons s rest ih =>
    rw [List.mapM_cons, ← ih, List.map_cons, Run.initAll_cons, Run.outcome_bind, outcome_initOne]
    simp only [Run.outcome_bind, map_eq_pure_bind, bind_assoc, pure_bind]
    rfl

end SourceState

theorem Run.fold_eq_mergeTrees {π : Type} (P : Provider π) (providers : List π) :
    Run.fold P [] providers = mergeTrees (providers.map P.data) := by
  unfold Run.fold mergeTrees
  rw [List.foldl_map]

namespace Plan

/-- The sources of a plan before they are initialised. -/
theorem states_eq (p : Plan) :
    (p.configs.map fun s => SourceState.fresh (PlannedSource.config s))
        ++ (p.secrets.map fun s => SourceState.fresh (PlannedSource.secret s))
      = p.sources.map SourceState.fresh := by
  simp [sources, Function.comp_def]

/-- Loading a plan comes to loading its sources in order, all from the same world. -/
theorem outcome_load (p : Plan) (w : World) :
    (p.load w).outcome = mergeTrees <$> p.sources.mapM (PlannedSource.load w) := by
  unfold load Run.mapStarted
  rw [Run.layered_eq, states_eq, ← SourceState.outcome_initAll]
  simp only [Run.outcome_bind, map_eq_pure_bind, bind_assoc, pure_bind, Run.fold_eq_mergeTrees]
  rfl

/-- A plan gives the trees of its sources laid over each other. -/
theorem result_load (p : Plan) (w : World) :
    (p.load w).outcome.result
      = (p.sources.mapM fun s => (PlannedSource.load w s).result).map mergeTrees := by
  rw [outcome_load, Outcome.result_map, Outcome.result_mapM]

end Plan

/-- Two worlds that look the same to all sources of a plan that are started give the same load. -/
theorem Plan.load_congr {p : Plan} {w w' : World}
    (h : ∀ s ∈ (p.load w).started, PlannedSource.load w' s = PlannedSource.load w s) :
    p.load w' = p.load w := by
  unfold load
  congr 1
  refine Run.layered_congr rfl fun q hq => ?_
  have hload : PlannedSource.load w' q.source = PlannedSource.load w q.source :=
    h q.source (List.mem_map_of_mem hq)
  show SourceState.init (PlannedSource.load w') q = SourceState.init (PlannedSource.load w) q
  simp only [SourceState.init, hload]

/-! ## The trace in the world

The only change that a load makes is a database file that was missing. The source that made it finds
no table, so a load that succeeds has changed nothing, and no source reads a world that another
source has changed. -/

theorem Database.filesAfter_of_ok {files : Files} {servers : Servers} {dsn table : String}
    {scopes : List String} {rows : List Row}
    (h : query files servers .sqlite dsn table scopes = .ok rows) :
    filesAfter files dsn = files := by
  cases hplace : newPlace? files dsn with
  | none => simp only [filesAfter, hplace]
  | some place =>
    -- A database that is made has no table, so there is nothing to select from.
    have hopen : (open? files dsn).bind (fun tables => table? tables table) = none := by
      unfold open?
      split
      · rfl
      · simp [table?]
      · simp [hplace, table?]
    simp only [query, fileRows?, hopen] at h
    cases h

theorem DatabaseSource.worldAfter_of_ok {s : DatabaseSource} {w : World} {tree : Tree}
    (h : s.load w = .ok tree) : s.worldAfter w = w := by
  obtain ⟨rows, hrows, -⟩ := Except.bind_eq_ok_iff.1 h
  obtain ⟨driver, hdriver, hquery⟩ := Except.bind_eq_ok_iff.1 hrows
  cases driver with
  | sqlite => simp only [worldAfter, hdriver, Database.filesAfter_of_ok hquery]
  | _ => simp only [worldAfter, hdriver]

theorem PlannedSource.worldAfter_of_ok {s : PlannedSource} {w : World} {tree : Tree}
    (h : (s.load w).result = .ok tree) : s.worldAfter w = w := by
  cases s with
  | secret s => simp only [worldAfter]
  | config s =>
    cases s with
    | database s =>
      have hload : s.load w = .ok tree := by
        simpa only [load, ConfigSource.load, ConfigSource.loadVia, Outcome.ofExcept] using h
      simp only [worldAfter, ConfigSource.worldAfter, DatabaseSource.worldAfter_of_ok hload]
    | _ => simp only [worldAfter, ConfigSource.worldAfter]

namespace Plan

theorem started_of_ok {p : Plan} {w : World} {tree : Tree}
    (h : (p.load w).outcome.result = .ok tree) :
    (p.load w).started = p.sources
      ∧ ∀ s ∈ p.sources, ∃ tree, (PlannedSource.load w s).result = .ok tree := by
  simp only [load, Run.mapStarted] at h ⊢
  -- A first failure would be the result of the load.
  rcases Run.all_ok_or_first_error (SourceState.provider (PlannedSource.load w))
      (p.sources.map SourceState.fresh) with hall | ⟨before, q, after, e, hsplit, hbefore, hq⟩
  · rw [← states_eq] at hall
    rw [Run.layered_of_ok hall, states_eq]
    constructor
    · simp [Function.comp_def, SourceState.fresh]
    · intro s hs
      have hreport := hall (.fresh s) (by rw [states_eq]; exact List.mem_map_of_mem hs)
      rw [SourceState.report_fresh] at hreport
      obtain ⟨tree, htree, -⟩ := Except.map_eq_ok_iff.1 hreport
      exact ⟨tree, htree⟩
  · rw [← states_eq] at hsplit
    rw [Run.layered_of_error hsplit hbefore hq] at h
    cases h

/-- A load that succeeds leaves no trace. -/
theorem worldAfter_of_ok {p : Plan} {w : World} {tree : Tree}
    (h : (p.load w).outcome.result = .ok tree) : p.worldAfter w = w := by
  have fixed : ∀ sources : List PlannedSource,
      (∀ s ∈ sources, s.worldAfter w = w) → sources.foldl PlannedSource.worldAfter w = w := by
    intro sources hsources
    induction sources with
    | nil => rfl
    | cons s rest ih =>
      rw [List.foldl_cons, hsources s (by simp)]
      exact ih fun t ht => hsources t (by simp [ht])
  obtain ⟨hstarted, hok⟩ := started_of_ok h
  unfold worldAfter
  rw [hstarted]
  refine fixed p.sources fun s hs => ?_
  obtain ⟨tree, htree⟩ := hok s hs
  exact PlannedSource.worldAfter_of_ok htree

end Plan

namespace PlannedSource

/-- The trees of sources that are loaded in turn, each in the world that the one before it left. -/
def treesInTurn (w : World) : List PlannedSource → Except Error (List Tree)
  | [] => .ok []
  | s :: rest => do
    let tree ← (s.load w).result
    let others ← treesInTurn (s.worldAfter w) rest
    .ok (tree :: others)

/-- All sources that are loaded in turn see the world as it was at first. -/
theorem treesInTurn_eq (w : World) (sources : List PlannedSource) :
    treesInTurn w sources = sources.mapM fun s => (PlannedSource.load w s).result := by
  induction sources with
  | nil => rfl
  | cons s rest ih =>
    have hcons : treesInTurn w (s :: rest) = (s.load w).result >>= fun tree =>
        treesInTurn (s.worldAfter w) rest >>= fun others => .ok (tree :: others) := rfl
    rw [List.mapM_cons, ← ih, hcons]
    cases hload : (s.load w).result with
    | error e => rfl
    | ok tree =>
      rw [worldAfter_of_ok hload]
      rfl

end PlannedSource

end LayeredSettings
