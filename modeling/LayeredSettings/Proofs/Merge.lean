import Mathlib.Data.List.Basic
import LayeredSettings.Proofs.Ordered

set_option autoImplicit false

/-! # The law of merging

A run initialises a list of providers strictly in order and stops at the first failure. If there is
none, each top-level key of the merged tree has its whole value from the last provider that holds
it. The main statement is `Run.layered_merges`. -/

namespace LayeredSettings

/-! ## Runs as a monad -/

namespace Run

variable {π α β γ : Type}

theorem bind_of_ok {r : Run π α} {a : α} (h : r.outcome.result = .ok a) (f : α → Run π β) :
    r.bind f = ⟨r.started ++ (f a).started,
      r.outcome.requests ++ (f a).outcome.requests, (f a).outcome.result⟩ := by
  simp only [bind, h, Outcome.bind_of_ok h]

theorem bind_of_error {r : Run π α} {e : Error} (h : r.outcome.result = .error e)
    (f : α → Run π β) : r.bind f = ⟨r.started, r.outcome.requests, .error e⟩ := by
  simp only [bind, h, Outcome.bind_of_error h]

theorem pure_bind (a : α) (f : α → Run π β) : (Run.pure a).bind f = f a := by
  rw [bind_of_ok rfl]
  rfl

theorem bind_assoc (r : Run π α) (f : α → Run π β) (g : β → Run π γ) :
    (r.bind f).bind g = r.bind fun a => (f a).bind g := by
  cases hr : r.outcome.result with
  | error e => rw [bind_of_error hr, bind_of_error hr, bind_of_error rfl]
  | ok a =>
    rw [bind_of_ok hr, bind_of_ok hr]
    cases hf : (f a).outcome.result with
    | error e => rw [bind_of_error rfl, bind_of_error hf]
    | ok b =>
      rw [bind_of_ok rfl, bind_of_ok hf]
      simp only [List.append_assoc]

end Run

/-! ## Initialising providers -/

namespace Run

variable {π : Type} {P : Provider π}

theorem initAll_cons (P : Provider π) (p : π) (rest : List π) :
    initAll P (p :: rest)
      = (initOne P p).bind fun first =>
          (initAll P rest).bind fun others => Run.pure (first :: others) :=
  rfl

theorem initOne_of_ok {p : π} (h : P.report p = .ok ()) :
    initOne P p = ⟨[p], P.requests p, .ok (P.after p)⟩ := by
  simp only [Provider.report] at h
  simp only [initOne, h, Provider.requests, Provider.after, Except.map]

theorem initOne_of_error {p : π} {e : Error} (h : P.report p = .error e) :
    initOne P p = ⟨[p], P.requests p, .error e⟩ := by
  simp only [Provider.report] at h
  simp only [initOne, h, Provider.requests, Except.map]

/-- Initialising two lists in turn is initialising the longer list. -/
theorem initAll_append (P : Provider π) (front back : List π) :
    initAll P (front ++ back)
      = (initAll P front).bind fun lower =>
          (initAll P back).bind fun upper => Run.pure (lower ++ upper) := by
  induction front with
  | nil =>
    have unit : ∀ r : Run π (List π), r.bind (fun upper => Run.pure ([] ++ upper)) = r := by
      intro r
      cases hr : r.outcome.result with
      | ok a =>
        rw [bind_of_ok hr]
        simp [Run.pure, Outcome.ofExcept, ← hr]
      | error e =>
        rw [bind_of_error hr, ← hr]
    rw [List.nil_append]
    exact (unit _).symm
  | cons p rest ih =>
    rw [List.cons_append, initAll_cons, initAll_cons, ih]
    simp only [bind_assoc, pure_bind, List.cons_append]

/-- The run of two layers is one pass over all providers. -/
theorem layered_eq (P : Provider π) (configs secrets : List π) :
    layered P configs secrets
      = (initAll P (configs ++ secrets)).bind fun all => Run.pure (fold P [] all) := by
  have unfolded : layered P configs secrets
      = (initAll P configs).bind fun lower =>
          (initAll P secrets).bind fun upper => Run.pure (fold P (fold P [] lower) upper) := rfl
  rw [unfolded, initAll_append]
  simp only [bind_assoc, pure_bind, fold, List.foldl_append]

/-! ## The trace -/

theorem initAll_of_ok {providers : List π} (h : ∀ p ∈ providers, P.report p = .ok ()) :
    initAll P providers
      = ⟨providers, providers.flatMap P.requests, .ok (providers.map P.after)⟩ := by
  induction providers with
  | nil => rfl
  | cons p rest ih =>
    rw [initAll_cons, initOne_of_ok (h p (by simp)), ih fun q hq => h q (by simp [hq]),
      bind_of_ok rfl, bind_of_ok rfl]
    simp [Run.pure, Outcome.ofExcept]

theorem initAll_of_error {before after : List π} {p : π} {e : Error}
    (hbefore : ∀ b ∈ before, P.report b = .ok ()) (hp : P.report p = .error e) :
    initAll P (before ++ p :: after)
      = ⟨before ++ [p], (before ++ [p]).flatMap P.requests, .error e⟩ := by
  have stop : initAll P (p :: after) = ⟨[p], P.requests p, .error e⟩ := by
    rw [initAll_cons, initOne_of_error hp]
    exact bind_of_error rfl _
  rw [initAll_append, initAll_of_ok hbefore, stop, bind_of_ok rfl, bind_of_error rfl]
  simp

/-- A list of providers succeeds as a whole, or it has a first failure. -/
theorem all_ok_or_first_error (P : Provider π) (providers : List π) :
    (∀ p ∈ providers, P.report p = .ok ()) ∨
      ∃ before p after e, providers = before ++ p :: after
        ∧ (∀ b ∈ before, P.report b = .ok ()) ∧ P.report p = .error e := by
  induction providers with
  | nil => left; simp
  | cons p rest ih =>
    cases hp : P.report p with
    | error e => right; exact ⟨[], p, rest, e, rfl, by simp, hp⟩
    | ok u =>
      rcases ih with hrest | ⟨before, q, after, e, rfl, hbefore, hq⟩
      · left
        intro q hq
        rcases List.mem_cons.1 hq with rfl | hq
        · exact hp
        · exact hrest q hq
      · right
        refine ⟨p :: before, q, after, e, rfl, fun b hb => ?_, hq⟩
        rcases List.mem_cons.1 hb with rfl | hb
        · exact hp
        · exact hbefore b hb

/-! ## The tree -/

theorem get?_fold {providers : List π} (h : ∀ p ∈ providers, KeyMap.Ordered (P.data p))
    (tree : Tree) (key : String) :
    KeyMap.get? key (fold P tree providers)
      = (providers.reverse.findSome? fun p => KeyMap.get? key (P.data p)).or
          (KeyMap.get? key tree) := by
  -- The first provider is laid over the tree before the others, so the tree changes on the way.
  induction providers generalizing tree with
  | nil => rfl
  | cons p rest ih =>
    have step : fold P tree (p :: rest) = fold P (overlay tree (P.data p)) rest := rfl
    have hp : KeyMap.Ordered (P.data p) := h p (by simp)
    rw [step, ih (fun q hq => h q (by simp [hq])), overlay, KeyMap.get?_insertAll hp,
      List.reverse_cons, List.findSome?_append]
    simp only [List.findSome?_cons, List.findSome?_nil, Option.or_assoc]
    cases KeyMap.get? key (P.data p) <;> rfl

theorem ordered_fold (P : Provider π) {tree : Tree} (h : KeyMap.Ordered tree)
    (providers : List π) : KeyMap.Ordered (fold P tree providers) := by
  induction providers generalizing tree with
  | nil => exact h
  | cons p rest ih => exact ih (h.insertAll _)

theorem get?_fold_after {providers : List π} (h : ∀ p ∈ providers, KeyMap.Ordered (P.held p))
    (key : String) :
    KeyMap.get? key (fold P [] (providers.map P.after))
      = providers.reverse.findSome? fun p => KeyMap.get? key (P.held p) := by
  have hdata : ∀ q ∈ providers.map P.after, KeyMap.Ordered (P.data q) := by
    intro q hq
    obtain ⟨p, hp, rfl⟩ := List.mem_map.1 hq
    exact h p hp
  rw [get?_fold hdata, KeyMap.get?, Option.or_none, ← List.map_reverse, List.findSome?_map]
  rfl

/-- The last provider that holds a key decides on its value. -/
theorem get?_fold_eq_some_iff {providers : List π}
    (h : ∀ p ∈ providers, KeyMap.Ordered (P.held p)) (key : String) (v : Value) :
    KeyMap.get? key (fold P [] (providers.map P.after)) = some v ↔
      ∃ before p after, providers = before ++ p :: after
        ∧ KeyMap.get? key (P.held p) = some v
        ∧ ∀ q ∈ after, KeyMap.get? key (P.held q) = none := by
  rw [get?_fold_after h, List.findSome?_eq_some_iff]
  -- The search runs through the reversed list, so what it passes stands behind the holder.
  constructor
  · rintro ⟨later, p, earlier, hsplit, hp, hlater⟩
    refine ⟨earlier.reverse, p, later.reverse, ?_, hp, fun q hq => hlater q (List.mem_reverse.1 hq)⟩
    rw [← List.reverse_reverse providers, hsplit]
    simp
  · rintro ⟨before, p, after, rfl, hp, hafter⟩
    refine ⟨after.reverse, p, before.reverse, by simp, hp, fun q hq => ?_⟩
    exact hafter q (List.mem_reverse.1 hq)

theorem get?_fold_isSome_iff {providers : List π}
    (h : ∀ p ∈ providers, KeyMap.Ordered (P.held p)) (key : String) :
    (∃ v, KeyMap.get? key (fold P [] (providers.map P.after)) = some v) ↔
      ∃ p ∈ providers, ∃ v, KeyMap.get? key (P.held p) = some v := by
  rw [get?_fold_after h, ← Option.isSome_iff_exists, List.findSome?_isSome_iff]
  simp only [List.mem_reverse, Option.isSome_iff_exists]

/-! ## The law -/

/-- What a run that merges the settings of providers has to be like. -/
structure Merges (P : Provider π) (providers : List π) (run : Run π Tree) : Prop where
  /-- Providers are started in order, each of them at most once. -/
  started_prefix : run.started <+: providers
  /-- Nothing is sent but what the started providers send. -/
  requests_eq : run.outcome.requests = run.started.flatMap P.requests
  /-- The run ends with the first provider that fails, and with its error. -/
  error_iff : ∀ e, run.outcome.result = .error e ↔
    ∃ before p after, providers = before ++ p :: after
      ∧ (∀ b ∈ before, P.report b = .ok ()) ∧ P.report p = .error e
      ∧ run.started = before ++ [p]
  /-- The run succeeds if all providers do, and then it has started all of them. -/
  ok_iff : (∃ tree, run.outcome.result = .ok tree) ↔
    (∀ p ∈ providers, P.report p = .ok ()) ∧ run.started = providers
  /-- The merged tree has each key once, in order. -/
  ordered : ∀ tree, run.outcome.result = .ok tree → KeyMap.Ordered tree
  /-- The keys of the merged tree are those of the providers. -/
  holds_iff : ∀ tree, run.outcome.result = .ok tree → ∀ key,
    (∃ v, KeyMap.get? key tree = some v) ↔
      ∃ p ∈ providers, ∃ v, KeyMap.get? key (P.held p) = some v
  /-- A key has its whole value from the last provider that holds it. -/
  value_iff : ∀ tree, run.outcome.result = .ok tree → ∀ key v,
    KeyMap.get? key tree = some v ↔
      ∃ before p after, providers = before ++ p :: after
        ∧ KeyMap.get? key (P.held p) = some v
        ∧ ∀ q ∈ after, KeyMap.get? key (P.held q) = none

theorem layered_of_ok {configs secrets : List π}
    (h : ∀ p ∈ configs ++ secrets, P.report p = .ok ()) :
    layered P configs secrets
      = ⟨configs ++ secrets, (configs ++ secrets).flatMap P.requests,
          .ok (fold P [] ((configs ++ secrets).map P.after))⟩ := by
  rw [layered_eq, initAll_of_ok h, bind_of_ok rfl]
  simp [Run.pure, Outcome.ofExcept]

theorem layered_of_error {configs secrets before after : List π} {p : π} {e : Error}
    (hsplit : configs ++ secrets = before ++ p :: after)
    (hbefore : ∀ b ∈ before, P.report b = .ok ()) (hp : P.report p = .error e) :
    layered P configs secrets
      = ⟨before ++ [p], (before ++ [p]).flatMap P.requests, .error e⟩ := by
  rw [layered_eq, hsplit, initAll_of_error hbefore hp]
  exact bind_of_error rfl _

theorem started_prefix (P : Provider π) (configs secrets : List π) :
    (layered P configs secrets).started <+: configs ++ secrets := by
  rcases all_ok_or_first_error P (configs ++ secrets) with
    hall | ⟨before, p, after, e, hsplit, hbefore, hp⟩
  · exact ⟨[], by rw [layered_of_ok hall, List.append_nil]⟩
  · exact ⟨after, by rw [layered_of_error hsplit hbefore hp, hsplit]; simp⟩

/-- Nothing is sent but what the started providers send. -/
theorem requests_layered (P : Provider π) (configs secrets : List π) :
    (layered P configs secrets).outcome.requests
      = (layered P configs secrets).started.flatMap P.requests := by
  rcases all_ok_or_first_error P (configs ++ secrets) with
    hall | ⟨before, p, after, e, hsplit, hbefore, hp⟩
  · rw [layered_of_ok hall]
  · rw [layered_of_error hsplit hbefore hp]

/-- Only the providers that are started matter to a run. -/
theorem layered_congr {P' : Provider π} {configs secrets : List π} (hdata : P'.data = P.data)
    (h : ∀ p ∈ (layered P configs secrets).started, P'.init p = P.init p) :
    layered P' configs secrets = layered P configs secrets := by
  have hreport : ∀ p, P'.init p = P.init p → P'.report p = P.report p := by
    intro p hp
    rw [Provider.report, hp, Provider.report]
  have hrequests : ∀ p, P'.init p = P.init p → P'.requests p = P.requests p := by
    intro p hp
    rw [Provider.requests, hp, Provider.requests]
  have hafter : ∀ p, P'.init p = P.init p → P'.after p = P.after p := by
    intro p hp
    rw [Provider.after, hp, Provider.after]
  rcases all_ok_or_first_error P (configs ++ secrets) with
    hall | ⟨before, p, after, e, hsplit, hbefore, hp⟩
  · rw [layered_of_ok hall] at h ⊢
    have hall' : ∀ p ∈ configs ++ secrets, P'.report p = .ok () := fun p hp => by
      rw [hreport p (h p hp), hall p hp]
    rw [layered_of_ok hall', List.flatMap_congr fun p hp => hrequests p (h p hp),
      List.map_congr_left fun p hp => hafter p (h p hp)]
    simp only [fold, hdata]
  · rw [layered_of_error hsplit hbefore hp] at h ⊢
    have hbefore' : ∀ b ∈ before, P'.report b = .ok () := fun b hb => by
      rw [hreport b (h b (List.mem_append_left _ hb)), hbefore b hb]
    have hp' : P'.report p = .error e := by
      rw [hreport p (h p (List.mem_append_right _ (List.mem_singleton_self p))), hp]
    rw [layered_of_error hsplit hbefore' hp', List.flatMap_congr fun b hb => hrequests b (h b hb)]

theorem merges_of_ok {providers : List π} {run : Run π Tree}
    (hrun : run = ⟨providers, providers.flatMap P.requests,
      .ok (fold P [] (providers.map P.after))⟩)
    (hall : ∀ p ∈ providers, P.report p = .ok ())
    (ordered : ∀ p ∈ providers, KeyMap.Ordered (P.held p)) : Merges P providers run := by
  have htree : ∀ tree, run.outcome.result = .ok tree →
      tree = fold P [] (providers.map P.after) := by
    intro tree h
    rw [hrun] at h
    exact (Except.ok.inj h).symm
  refine ⟨?_, ?_, ?_, ?_, ?_, ?_, ?_⟩
  · exact ⟨[], by rw [hrun, List.append_nil]⟩
  · rw [hrun]
  · intro e
    constructor
    · intro h
      rw [hrun] at h
      cases h
    · rintro ⟨before, p, after, hsplit, -, hp, -⟩
      rw [hall p (by simp [hsplit])] at hp
      cases hp
  · rw [hrun]
    exact ⟨fun _ => ⟨hall, rfl⟩, fun _ => ⟨_, rfl⟩⟩
  · intro tree h
    rw [htree tree h]
    exact ordered_fold P KeyMap.ordered_nil _
  · intro tree h key
    rw [htree tree h]
    exact get?_fold_isSome_iff ordered key
  · intro tree h key v
    rw [htree tree h]
    exact get?_fold_eq_some_iff ordered key v

theorem merges_of_error {before after : List π} {p : π} {e : Error} {run : Run π Tree}
    (hrun : run = ⟨before ++ [p], (before ++ [p]).flatMap P.requests, .error e⟩)
    (hbefore : ∀ b ∈ before, P.report b = .ok ()) (hp : P.report p = .error e) :
    Merges P (before ++ p :: after) run := by
  have hfails : ∀ tree, run.outcome.result ≠ .ok tree := by
    intro tree h
    rw [hrun] at h
    cases h
  refine ⟨?_, ?_, ?_, ?_, ?_, ?_, ?_⟩
  · rw [hrun]
    exact ⟨after, by simp⟩
  · rw [hrun]
  · intro e'
    constructor
    · intro h
      rw [hrun] at h
      obtain rfl := Except.error.inj h
      exact ⟨before, p, after, rfl, hbefore, hp, by rw [hrun]⟩
    · rintro ⟨before', p', after', hsplit, hbefore', hp', -⟩
      -- Both splits describe the one run over these providers, so the errors are the same.
      have hone : initAll P (before ++ p :: after) = _ := initAll_of_error hbefore hp
      rw [hsplit, initAll_of_error hbefore' hp'] at hone
      have herror : (Except.error e' : Except Error (List π)) = .error e :=
        congrArg (fun r => r.outcome.result) hone
      rw [hrun, Except.error.inj herror]
  · constructor
    · rintro ⟨tree, h⟩
      exact absurd h (hfails tree)
    · rintro ⟨hall, -⟩
      rw [hall p (by simp)] at hp
      cases hp
  · exact fun tree h => absurd h (hfails tree)
  · exact fun tree h => absurd h (hfails tree)
  · exact fun tree h => absurd h (hfails tree)

/-- A run over two layers of providers merges their concatenation. -/
theorem merges_layered {configs secrets : List π}
    (ordered : ∀ p ∈ configs ++ secrets, KeyMap.Ordered (P.held p)) :
    Merges P (configs ++ secrets) (layered P configs secrets) := by
  rcases all_ok_or_first_error P (configs ++ secrets) with
    hall | ⟨before, p, after, e, hsplit, hbefore, hp⟩
  · exact merges_of_ok (layered_of_ok hall) hall ordered
  · have hrun := layered_of_error hsplit hbefore hp
    rw [hsplit]
    exact merges_of_error hrun hbefore hp

/-- **The law of merging.** Providers are initialised one after the other, those of configuration
    first, up to the first failure; if there is none, the last provider that holds a key decides on
    its value. So the run depends on the concatenated list alone, and a key that some secret
    provider holds has its value from one of them. What a provider holds is a map: each key once, in
    order. -/
theorem layered_merges (P : Provider π) (configs secrets : List π)
    (ordered : ∀ p ∈ configs ++ secrets, KeyMap.Ordered (P.held p)) :
    Merges P (configs ++ secrets) (layered P configs secrets)
      ∧ (∀ configs' secrets', configs' ++ secrets' = configs ++ secrets →
          layered P configs' secrets' = layered P configs secrets)
      ∧ (∀ tree, (layered P configs secrets).outcome.result = .ok tree → ∀ key,
          (∃ s ∈ secrets, ∃ v, KeyMap.get? key (P.held s) = some v) →
          ∃ s ∈ secrets, ∃ v, KeyMap.get? key (P.held s) = some v
            ∧ KeyMap.get? key tree = some v) := by
  have law := merges_layered ordered
  refine ⟨law, ?_, ?_⟩
  · intro configs' secrets' h
    rw [layered_eq, layered_eq, h]
  · rintro tree htree key ⟨s, hs, v, hv⟩
    obtain ⟨u, hu⟩ := (law.holds_iff tree htree key).2 ⟨s, by simp [hs], v, hv⟩
    obtain ⟨before, p, after, hsplit, hp, hafter⟩ := (law.value_iff tree htree key u).1 hu
    -- The holder that decides is not before `s`, so it is no provider of configuration.
    have hmem : p ∈ secrets := by
      rcases List.append_eq_append_iff.1 hsplit with ⟨mid, hmid, hsec⟩ | ⟨mid, hmid, hsec⟩
      · rw [hsec]
        simp
      · cases mid with
        | nil =>
          rw [List.nil_append] at hsec
          rw [← hsec]
          simp
        | cons q mid =>
          simp only [List.cons_append, List.cons.injEq] at hsec
          have hs' : s ∈ after := by
            rw [hsec.2]
            simp [hs]
          rw [hafter s hs'] at hv
          cases hv
    exact ⟨p, hmem, u, hp, hu⟩

/-- The law for a string variable of configuration under one of secrets. -/
theorem layered_merges_stringVars :
    let P := SourceState.provider (PlannedSource.load {})
    let config : StringVar := ⟨"LOCAL_FILE_CONFIG_VALUE", "a: 1\nb: 2", .yaml⟩
    let secret : StringVar := ⟨"LOCAL_FILE_SECRET_VALUE", "b: 3", .yaml⟩
    let configs := [SourceState.fresh (.config (.stringVar config))]
    let secrets := [SourceState.fresh (.secret (.stringVar secret))]
    (∀ p ∈ configs ++ secrets, KeyMap.Ordered (P.held p))
      ∧ Merges P (configs ++ secrets) (layered P configs secrets) := by
  intro P config secret configs secrets
  have ordered : ∀ p ∈ configs ++ secrets, KeyMap.Ordered (P.held p) := by
    have held : ∀ s, KeyMap.Ordered (P.held (.fresh s)) :=
      SourceState.ordered_held fun _ _ h => (PlannedSource.ordered_of_load h).keys
    intro p hp
    rcases List.mem_append.1 hp with hp | hp
    · rw [List.mem_singleton.1 hp]
      exact held _
    · rw [List.mem_singleton.1 hp]
      exact held _
  exact ⟨ordered, (layered_merges P configs secrets ordered).1⟩

end Run

end LayeredSettings
