import LayeredSettings.Proofs.Search
import LayeredSettings.World.Network

set_option autoImplicit false

/-! # Steps that may fail

What a sequence of steps gives, in terms of what its steps give. -/

namespace LayeredSettings

variable {α β : Type}

theorem Except.ok_bind {ε : Type} (a : α) (f : α → Except ε β) : Except.ok a >>= f = f a :=
  rfl

theorem Except.bind_eq_ok_iff {ε : Type} {x : Except ε α} {f : α → Except ε β} {b : β} :
    x >>= f = .ok b ↔ ∃ a, x = .ok a ∧ f a = .ok b := by
  cases x with
  | ok a =>
    constructor
    · intro h
      exact ⟨a, rfl, h⟩
    · rintro ⟨a', ha, h⟩
      obtain rfl := Except.ok.inj ha
      exact h
  | error e =>
    constructor
    · intro h
      cases h
    · rintro ⟨a, ha, -⟩
      cases ha

theorem Except.bind_eq_error_iff {ε : Type} {x : Except ε α} {f : α → Except ε β} {e : ε} :
    x >>= f = .error e ↔ x = .error e ∨ ∃ a, x = .ok a ∧ f a = .error e := by
  cases x with
  | ok a =>
    constructor
    · intro h
      exact .inr ⟨a, rfl, h⟩
    · rintro (h | ⟨a', ha, h⟩)
      · cases h
      · obtain rfl := Except.ok.inj ha
        exact h
  | error e' =>
    constructor
    · intro h
      obtain rfl := Except.error.inj h
      exact .inl rfl
    · rintro (h | ⟨a, ha, -⟩)
      · obtain rfl := Except.error.inj h
        rfl
      · cases ha

/-- A second step that fails alike whatever the first one gives. -/
theorem Except.bind_eq_error_iff_of_forall {ε : Type} {x : Except ε α} {f : α → Except ε β} {e : ε}
    {Q : Prop} (h : ∀ a, f a = .error e ↔ Q) :
    x >>= f = .error e ↔ x = .error e ∨ (∃ a, x = .ok a) ∧ Q := by
  rw [Except.bind_eq_error_iff]
  simp only [h, exists_and_right]

theorem Except.bind_ok_eq_error_iff {ε : Type} {x : Except ε α} {f : α → β} {e : ε} :
    (x >>= fun a => .ok (f a)) = .error e ↔ x = .error e := by
  rw [Except.bind_eq_error_iff]
  simp

/-- A step that has one way to fail gives a result unless it fails so. -/
theorem Except.exists_ok_iff_not {ε : Type} {x : Except ε α} {P : Prop} {cause : ε}
    (h : ∀ {e}, x = .error e ↔ P ∧ e = cause) : (∃ a, x = .ok a) ↔ ¬ P := by
  cases x with
  | ok a =>
    have hP : ¬ P := fun hP => by cases h.2 ⟨hP, rfl⟩
    simp [hP]
  | error e => simp [(h.1 rfl).1]

theorem Except.map_eq_ok_iff {ε : Type} {x : Except ε α} {f : α → β} {b : β} :
    x.map f = .ok b ↔ ∃ a, x = .ok a ∧ f a = b := by
  cases x with
  | ok a => simp [Except.map]
  | error e => simp [Except.map]

theorem Except.map_eq_error_iff {ε : Type} {x : Except ε α} {f : α → β} {e : ε} :
    x.map f = .error e ↔ x = .error e := by
  cases x with
  | ok a => simp [Except.map]
  | error e' => simp [Except.map]

theorem Except.map_map {ε γ : Type} (x : Except ε α) (f : α → β) (g : β → γ) :
    (x.map f).map g = x.map fun a => g (f a) := by
  cases x <;> rfl

theorem Except.exists_map_eq_ok_iff {ε : Type} {x : Except ε α} {f : α → β} :
    (∃ b, x.map f = .ok b) ↔ ∃ a, x = .ok a := by
  cases x with
  | ok a => simp [Except.map]
  | error e => simp [Except.map]

theorem Except.mapM_cons_eq_error_iff {ε : Type} {f : α → Except ε β} {x : α} {rest : List α}
    {e : ε} :
    (x :: rest).mapM f = .error e ↔
      f x = .error e ∨ (∃ y, f x = .ok y) ∧ rest.mapM f = .error e := by
  rw [List.mapM_cons]
  exact Except.bind_eq_error_iff_of_forall fun _ => Except.bind_ok_eq_error_iff

/-- A walk over a list fails with the first step that fails. -/
theorem Except.mapM_eq_error_iff {ε : Type} {f : α → Except ε β} {xs : List α} {e : ε} :
    xs.mapM f = .error e ↔
      ∃ before x after, xs = before ++ x :: after
        ∧ (∀ b ∈ before, ∃ y, f b = .ok y) ∧ f x = .error e := by
  induction xs with
  | nil => simp [pure, Except.pure]
  | cons x rest ih => rw [Except.mapM_cons_eq_error_iff, ih, exists_first_cons_iff]

namespace Outcome

theorem bind_of_ok {x : Outcome α} {a : α} (h : x.result = .ok a) (f : α → Outcome β) :
    x.bind f = ⟨x.requests ++ (f a).requests, (f a).result⟩ := by
  simp only [bind, h]

theorem bind_of_error {x : Outcome α} {e : Error} (h : x.result = .error e) (f : α → Outcome β) :
    x.bind f = ⟨x.requests, .error e⟩ := by
  simp only [bind, h]

theorem result_ofExcept (x : Except Error α) : (ofExcept x).result = x :=
  rfl

theorem ofExcept_ok_bind (a : α) (f : α → Outcome β) : ofExcept (.ok a) >>= f = f a := by
  show (ofExcept (.ok a)).bind f = f a
  rw [bind_of_ok rfl]
  rfl

theorem bind_ofExcept_ok (x : Outcome α) : (x >>= fun a => ofExcept (.ok a)) = x := by
  show (x.bind fun a => ofExcept (.ok a)) = x
  cases h : x.result with
  | ok a =>
    rw [bind_of_ok h]
    simp [ofExcept, ← h]
  | error e => rw [bind_of_error h, ← h]

theorem bind_assoc {γ : Type} (x : Outcome α) (f : α → Outcome β) (g : β → Outcome γ) :
    x >>= f >>= g = x >>= fun a => f a >>= g := by
  show (x.bind f).bind g = x.bind fun a => (f a).bind g
  cases hx : x.result with
  | error e => rw [bind_of_error hx, bind_of_error hx, bind_of_error rfl]
  | ok a =>
    rw [bind_of_ok hx, bind_of_ok hx]
    cases hf : (f a).result with
    | error e => rw [bind_of_error rfl, bind_of_error hf]
    | ok b =>
      rw [bind_of_ok rfl, bind_of_ok hf]
      simp only [List.append_assoc]

instance : LawfulMonad Outcome :=
  LawfulMonad.mk' Outcome bind_ofExcept_ok ofExcept_ok_bind bind_assoc

/-- The result of steps does not depend on the requests that they send. -/
theorem result_bind (x : Outcome α) (f : α → Outcome β) :
    (x >>= f).result = x.result >>= fun a => (f a).result := by
  cases h : x.result with
  | ok a =>
    show (x.bind f).result = (f a).result
    rw [bind_of_ok h]
  | error e =>
    show (x.bind f).result = .error e
    rw [bind_of_error h]

theorem result_map (f : α → β) (x : Outcome α) : (f <$> x).result = x.result.map f := by
  show (x >>= fun a => ofExcept (.ok (f a))).result = _
  rw [result_bind]
  cases x.result <;> rfl

theorem result_mapM (f : α → Outcome β) (l : List α) :
    (l.mapM f).result = l.mapM fun a => (f a).result := by
  induction l with
  | nil => rfl
  | cons a rest ih =>
    rw [List.mapM_cons, List.mapM_cons, result_bind, ← ih]
    congr 1
    funext b
    rw [result_bind]
    rfl

end Outcome

end LayeredSettings
