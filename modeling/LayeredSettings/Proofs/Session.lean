import LayeredSettings.Proofs.Plan
import LayeredSettings.Session

set_option autoImplicit false

/-! # What a session holds

A session holds the complete merge of its latest load that succeeded. Loads that fail change nothing,
what a handle shows never changes, and the policy stays that of the manager. `Stage.settled_run` says so
of every run of loads and changes of the world. -/

namespace LayeredSettings

/-! ## One load -/

namespace Manager

/-- A tree is the complete merge of a world: the environment decides on a plan, and the trees of all
    its sources are laid over each other. -/
def Merges (m : Manager) (w : World) (tree : Tree) : Prop :=
  ∃ d trees, (m.wiring w).decision = .ok d
    ∧ d.plan.sources.mapM (fun s => (PlannedSource.load w s).result) = .ok trees
    ∧ tree = mergeTrees trees

/-- A load fails with an error: that of planning, or that of the first source that fails. -/
def Fails (m : Manager) (w : World) (e : Error) : Prop :=
  (m.wiring w).decision = .error e
    ∨ ∃ d before s after, (m.wiring w).decision = .ok d
      ∧ d.plan.sources = before ++ s :: after
      ∧ (∀ b ∈ before, ∃ tree, (PlannedSource.load w b).result = .ok tree)
      ∧ (PlannedSource.load w s).result = .error e

theorem result_load (m : Manager) (w : World) :
    (m.load w).result = (m.wiring w).decision >>= fun d =>
      (d.plan.sources.mapM fun s => (PlannedSource.load w s).result) >>= fun trees =>
        .ok (m.summary w d, mergeTrees trees) := by
  simp only [load, Outcome.result_bind, Plan.result_load]
  cases (m.wiring w).decision with
  | error e => rfl
  | ok d =>
    show ((d.plan.sources.mapM fun s => (PlannedSource.load w s).result).map mergeTrees >>=
        fun tree => .ok (m.summary w d, tree))
      = (d.plan.sources.mapM fun s => (PlannedSource.load w s).result) >>=
        fun trees => .ok (m.summary w d, mergeTrees trees)
    cases d.plan.sources.mapM fun s => (PlannedSource.load w s).result <;> rfl

theorem merges_of_ok {m : Manager} {w : World} {summary : LoadSummary} {tree : Tree}
    (h : (m.load w).result = .ok (summary, tree)) : m.Merges w tree := by
  rw [result_load] at h
  obtain ⟨d, hd, h⟩ := Except.bind_eq_ok_iff.1 h
  obtain ⟨trees, htrees, h⟩ := Except.bind_eq_ok_iff.1 h
  obtain ⟨-, rfl⟩ := Prod.mk.inj (Except.ok.inj h)
  exact ⟨d, trees, hd, htrees, rfl⟩

/-- A world has at most one complete merge. -/
theorem Merges.unique {m : Manager} {w : World} {tree tree' : Tree} (h : m.Merges w tree)
    (h' : m.Merges w tree') : tree = tree' := by
  obtain ⟨d, trees, hd, htrees, rfl⟩ := h
  obtain ⟨d', trees', hd', htrees', rfl⟩ := h'
  obtain rfl := Except.ok.inj (hd.symm.trans hd')
  obtain rfl := Except.ok.inj (htrees.symm.trans htrees')
  rfl

theorem load_eq_error_iff {m : Manager} {w : World} {e : Error} :
    (m.load w).result = .error e ↔ m.Fails w e := by
  rw [result_load, Except.bind_eq_error_iff]
  constructor
  · rintro (h | ⟨d, hd, h⟩)
    · exact .inl h
    · rcases Except.bind_eq_error_iff.1 h with h | ⟨trees, -, h⟩
      · obtain ⟨before, s, after, hsplit, hbefore, hs⟩ := Except.mapM_eq_error_iff.1 h
        exact .inr ⟨d, before, s, after, hd, hsplit, hbefore, hs⟩
      · cases h
  · rintro (h | ⟨d, before, s, after, hd, hsplit, hbefore, hs⟩)
    · exact .inl h
    · have hfirst := Except.mapM_eq_error_iff.2 ⟨before, s, after, hsplit, hbefore, hs⟩
      exact .inr ⟨d, hd, Except.bind_eq_error_iff.2 (.inl hfirst)⟩

end Manager

namespace Session

variable {s : Session} {w : World}

@[simp]
theorem held_publish (s : Session) (settings : Settings) : (s.publish settings).held = settings := by
  simp [held, publish]

theorem view?_handle (s : Session) : s.view? s.handle = some s.held := by
  unfold view? handle held
  simp [s.current_lt]

/-- Loads either publish the merged settings or leave the session as it is. -/
theorem init_cases (s : Session) (w : World) :
    (∃ summary tree, (s.init w).2.result = .ok summary ∧ s.manager.Merges w tree
        ∧ (s.init w).1 = s.publish ⟨tree, s.manager.policy⟩)
      ∨ ∃ e, (s.init w).2.result = .error e ∧ s.manager.Fails w e ∧ (s.init w).1 = s := by
  have hmerges : ∀ summary tree, (s.manager.load w).result = .ok (summary, tree) →
      s.manager.Merges w tree := fun _ _ h => Manager.merges_of_ok h
  have hfails : ∀ e, (s.manager.load w).result = .error e → s.manager.Fails w e :=
    fun _ h => Manager.load_eq_error_iff.1 h
  unfold init
  generalize s.manager.load w = loaded at hmerges hfails ⊢
  obtain ⟨requests, result⟩ := loaded
  cases result with
  | ok loaded =>
    obtain ⟨summary, tree⟩ := loaded
    exact .inl ⟨summary, tree, rfl, hmerges summary tree rfl, rfl⟩
  | error e => exact .inr ⟨e, rfl, hfails e rfl, rfl⟩

theorem init_of_ok {summary : LoadSummary} (h : (s.init w).2.result = .ok summary) :
    ∃ tree, s.manager.Merges w tree ∧ (s.init w).1 = s.publish ⟨tree, s.manager.policy⟩ := by
  rcases init_cases s w with ⟨_, tree, -, htree, hs⟩ | ⟨e, he, -⟩
  · exact ⟨tree, htree, hs⟩
  · rw [he] at h
    cases h

theorem init_of_error {e : Error} (h : (s.init w).2.result = .error e) :
    s.manager.Fails w e ∧ (s.init w).1 = s := by
  rcases init_cases s w with ⟨summary, _, hok, -⟩ | ⟨e', he', hfails, hs⟩
  · rw [hok] at h
    cases h
  · rw [he'] at h
    obtain rfl := Except.error.inj h
    exact ⟨hfails, hs⟩

/-- A session that another one has become: the same manager, and every published cell as it was. -/
structure Extends (s t : Session) : Prop where
  manager : t.manager = s.manager
  cells : s.cells <+: t.cells

theorem Extends.refl (s : Session) : s.Extends s :=
  ⟨rfl, List.prefix_rfl⟩

theorem Extends.trans {s t u : Session} (h : s.Extends t) (h' : t.Extends u) : s.Extends u :=
  ⟨h'.manager.trans h.manager, h.cells.trans h'.cells⟩

/-- What a handle shows is what it will show. -/
theorem Extends.view? {s t : Session} (h : s.Extends t) {handle : Handle} {settings : Settings}
    (hview : s.view? handle = some settings) : t.view? handle = some settings := by
  obtain ⟨later, hcells⟩ := h.cells
  unfold Session.view? at hview ⊢
  obtain ⟨hlt, -⟩ := List.getElem?_eq_some_iff.1 hview
  rw [← hcells, List.getElem?_append_left hlt, hview]

theorem extends_init (s : Session) (w : World) : s.Extends (s.init w).1 := by
  rcases init_cases s w with ⟨summary, tree, -, -, hs⟩ | ⟨e, -, -, hs⟩
  · rw [hs]
    exact ⟨rfl, List.prefix_append _ _⟩
  · rw [hs]
    exact .refl s

/-- All published settings have the policy of the manager. -/
def KeepsPolicy (s : Session) : Prop :=
  ∀ settings ∈ s.cells, settings.policy = s.manager.policy

theorem KeepsPolicy.held {s : Session} (h : s.KeepsPolicy) : s.held.policy = s.manager.policy :=
  h s.held (List.get_mem _ _)

theorem keepsPolicy_start (m : Manager) : (start m).KeepsPolicy := by
  intro settings h
  rw [List.mem_singleton.1 h]
  rfl

theorem KeepsPolicy.init {s : Session} (h : s.KeepsPolicy) (w : World) :
    (s.init w).1.KeepsPolicy := by
  rcases init_cases s w with ⟨summary, tree, -, -, hs⟩ | ⟨e, -, -, hs⟩
  · rw [hs]
    intro settings hmem
    rcases List.mem_append.1 hmem with hmem | hmem
    · exact h settings hmem
    · rw [List.mem_singleton.1 hmem]
      rfl
  · rw [hs]
    exact h

end Session

/-! ## Runs -/

-- What a load does is said by `init_cases`; no proof about runs opens the load itself.
seal Session.init

/-- A load of a run: the world that it read, and what it reported. -/
structure Attempt where
  world : World
  report : Except Error LoadSummary

/-- The load succeeded. -/
def Attempt.Succeeded (a : Attempt) : Prop :=
  ∃ summary, a.report = .ok summary

namespace Stage

/-- The load that an event is, if it is one. -/
def attempt? (st : Stage) : Event → Option Attempt
  | .change _ => none
  | .init => some ⟨st.world, (st.session.init st.world).2.result⟩

/-- The loads of a run, in order. -/
def attempts (st : Stage) : List Event → List Attempt
  | [] => []
  | e :: rest => (st.attempt? e).toList ++ (st.step e).attempts rest

theorem step_change (st : Stage) (w : World) : st.step (.change w) = ⟨st.session, w⟩ := by
  simp only [step]

theorem step_init (st : Stage) :
    st.step .init
      = ⟨(st.session.init st.world).1, st.session.manager.worldAfter st.world⟩ := by
  simp only [step]

theorem run_cons (st : Stage) (e : Event) (rest : List Event) :
    st.run (e :: rest) = (st.step e).run rest :=
  rfl

theorem run_append (st : Stage) (front back : List Event) :
    st.run (front ++ back) = (st.run front).run back :=
  List.foldl_append

theorem extends_step (st : Stage) (e : Event) : st.session.Extends (st.step e).session := by
  cases e with
  | change w =>
    rw [step_change]
    exact .refl _
  | init =>
    rw [step_init]
    exact st.session.extends_init st.world

theorem extends_run (st : Stage) (events : List Event) :
    st.session.Extends (st.run events).session := by
  induction events generalizing st with
  | nil => exact .refl _
  | cons e rest ih => exact (st.extends_step e).trans (ih (st.step e))

theorem keepsPolicy_run {st : Stage} (h : st.session.KeepsPolicy) (events : List Event) :
    (st.run events).session.KeepsPolicy := by
  induction events generalizing st with
  | nil => exact h
  | cons e rest ih =>
    rw [run_cons]
    cases e with
    | change w =>
      rw [step_change]
      exact ih h
    | init =>
      rw [step_init]
      exact ih (h.init st.world)

/-- A run without a load that succeeds leaves the session as it is. -/
theorem session_run_of_failed {st : Stage} {events : List Event}
    (h : ∀ a ∈ st.attempts events, ¬ a.Succeeded) : (st.run events).session = st.session := by
  -- A failed load may leave a trace in the world, so only the session is the same.
  induction events generalizing st with
  | nil => rfl
  | cons e rest ih =>
    have hrest : ∀ a ∈ (st.step e).attempts rest, ¬ a.Succeeded := fun a ha =>
      h a (List.mem_append_right _ ha)
    rw [run_cons, ih hrest]
    cases e with
    | change w => rw [step_change]
    | init =>
      rw [step_init]
      cases hreport : (st.session.init st.world).2.result with
      | error e => exact (Session.init_of_error hreport).2
      | ok summary =>
        exact absurd ⟨summary, hreport⟩ (h ⟨st.world, _⟩ (List.mem_append_left _ (by simp [attempt?])))

/-- A load of a run is an event of it. -/
theorem split_of_attempts {st : Stage} {events : List Event} {earlier later : List Attempt}
    {a : Attempt} (h : st.attempts events = earlier ++ a :: later) :
    ∃ front back, events = front ++ .init :: back
      ∧ a.world = (st.run front).world
      ∧ a.report = ((st.run front).session.init a.world).2.result
      ∧ ((st.run front).step .init).attempts back = later := by
  induction events generalizing st earlier with
  | nil => simp [attempts] at h
  | cons e rest ih =>
    rw [attempts] at h
    cases e with
    | change w =>
      obtain ⟨front, back, rfl, hworld, hreport, hlater⟩ := ih h
      exact ⟨.change w :: front, back, rfl, hworld, hreport, hlater⟩
    | init =>
      cases earlier with
      | nil =>
        obtain ⟨rfl, hlater⟩ := List.cons.inj h
        exact ⟨[], rest, rfl, rfl, rfl, hlater⟩
      | cons b earlier =>
        obtain ⟨-, hrest⟩ := List.cons.inj h
        obtain ⟨front, back, rfl, hworld, hreport, hlater⟩ := ih hrest
        exact ⟨.init :: front, back, rfl, hworld, hreport, hlater⟩

/-- The latest load that succeeds decides on what is held. -/
theorem merges_held {st : Stage} {events : List Event} {earlier later : List Attempt} {a : Attempt}
    (h : st.attempts events = earlier ++ a :: later) (ha : a.Succeeded)
    (hlater : ∀ b ∈ later, ¬ b.Succeeded) :
    st.session.manager.Merges a.world (st.run events).session.held.tree := by
  obtain ⟨front, back, rfl, hworld, hreport, hback⟩ := split_of_attempts h
  obtain ⟨summary, hsummary⟩ := ha
  rw [hreport, hworld] at hsummary
  obtain ⟨tree, hmerges, hinit⟩ := Session.init_of_ok hsummary
  have hmanager := (st.extends_run front).manager
  -- Behind the load nothing succeeds, so what it published is still held.
  have hkept : ((st.run front).step .init).run back = st.run (front ++ .init :: back) := by
    rw [run_append, run_cons]
  rw [← hkept, session_run_of_failed (by rw [hback]; exact hlater), step_init, hinit,
    Session.held_publish, hworld, ← hmanager]
  exact hmerges

/-! ## The law -/

/-- What a session is like after a run of loads and changes of the world. -/
structure Settled (m : Manager) (w : World) (events : List Event) (s : Session) : Prop where
  /-- The policy is that of the manager. -/
  policy : s.held.policy = m.policy
  /-- Nothing is held until a load succeeds. -/
  empty : (∀ a ∈ (start m w).attempts events, ¬ a.Succeeded) → s.held.tree = []
  /-- The latest load that succeeded decides on what is held, from the world that it read. -/
  latest : ∀ earlier a later, (start m w).attempts events = earlier ++ a :: later →
    a.Succeeded → (∀ b ∈ later, ¬ b.Succeeded) → m.Merges a.world s.held.tree
  /-- One more load succeeds with a complete merge, or it fails and changes nothing. -/
  next : ∀ w',
    (∃ summary, (s.init w').2.result = .ok summary ∧ m.Merges w' (s.init w').1.held.tree)
      ∨ ∃ e, (s.init w').2.result = .error e ∧ m.Fails w' e ∧ (s.init w').1 = s
  /-- A handle taken on the way shows what was held then. -/
  handles : ∀ front back, events = front ++ back →
    s.view? ((start m w).run front).session.handle = some ((start m w).run front).session.held

/-- **The law of sessions.** After any run, whatever happened to the world in between, a session
    holds the complete merge of its latest load that succeeded, or nothing. -/
theorem settled_run (m : Manager) (w : World) (events : List Event) :
    Settled m w events ((start m w).run events).session := by
  have hmanager : ((start m w).run events).session.manager = m :=
    ((start m w).extends_run events).manager
  refine ⟨?_, ?_, ?_, ?_, ?_⟩
  · have hpolicy : ((start m w).run events).session.KeepsPolicy :=
      keepsPolicy_run (Session.keepsPolicy_start m) events
    rw [hpolicy.held, hmanager]
  · intro h
    rw [session_run_of_failed h]
    rfl
  · intro earlier a later h ha hlater
    have hmerges := merges_held h ha hlater
    have hstart : (start m w).session.manager = m := rfl
    rw [hstart] at hmerges
    exact hmerges
  · intro w'
    rcases Session.init_cases ((start m w).run events).session w' with
      ⟨summary, tree, hok, hmerges, hinit⟩ | ⟨e, he, hfails, hinit⟩
    · rw [hmanager] at hmerges
      refine .inl ⟨summary, hok, ?_⟩
      rw [hinit, Session.held_publish]
      exact hmerges
    · rw [hmanager] at hfails
      exact .inr ⟨e, he, hfails, hinit⟩
  · rintro front back rfl
    rw [run_append]
    exact (extends_run _ back).view? (Session.view?_handle _)

end Stage

end LayeredSettings
