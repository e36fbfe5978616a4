set_option autoImplicit false

/-! # The first and the last element that matter

What decides is often the first element of a list that has a property, or the last one that the
elements behind it leave alone. Both are found element by element. -/

namespace LayeredSettings

variable {α : Type} {P N : α → Prop} {x : α} {xs : List α}

/-- The first element that matters is the head, or the head does not matter. -/
theorem exists_first_cons_iff :
    (∃ before y after, x :: xs = before ++ y :: after ∧ (∀ z ∈ before, N z) ∧ P y) ↔
      P x ∨ N x ∧ ∃ before y after, xs = before ++ y :: after ∧ (∀ z ∈ before, N z) ∧ P y := by
  constructor
  · rintro ⟨before, y, after, hsplit, hbefore, hy⟩
    cases before with
    | nil =>
      obtain ⟨rfl, -⟩ := List.cons.inj hsplit
      exact .inl hy
    | cons z before =>
      obtain ⟨rfl, rfl⟩ := List.cons.inj hsplit
      obtain ⟨hx, hbefore⟩ := List.forall_mem_cons.1 hbefore
      exact .inr ⟨hx, before, y, after, rfl, hbefore, hy⟩
  · rintro (hx | ⟨hx, before, y, after, rfl, hbefore, hy⟩)
    · exact ⟨[], x, xs, rfl, by simp, hx⟩
    · exact ⟨x :: before, y, after, rfl, List.forall_mem_cons.2 ⟨hx, hbefore⟩, hy⟩

/-- If an element matters, there is a first one. -/
theorem exists_first_of_mem (hx : x ∈ xs) (h : P x) :
    ∃ before y after, xs = before ++ y :: after ∧ (∀ z ∈ before, ¬ P z) ∧ P y := by
  induction xs with
  | nil => cases hx
  | cons y rest ih =>
    rw [exists_first_cons_iff]
    by_cases hy : P y
    · exact .inl hy
    · rcases List.mem_cons.1 hx with rfl | hx
      · exact absurd h hy
      · exact .inr ⟨hy, ih hx⟩

/-- The last element that matters is the one at the end, or the one at the end does not matter. -/
theorem exists_last_concat_iff :
    (∃ before y after, xs ++ [x] = before ++ y :: after ∧ P y ∧ ∀ z ∈ after, N z) ↔
      P x ∨ N x ∧ ∃ before y after, xs = before ++ y :: after ∧ P y ∧ ∀ z ∈ after, N z := by
  constructor
  · rintro ⟨before, y, after, hsplit, hy, hafter⟩
    rcases List.eq_nil_or_concat after with rfl | ⟨after, z, rfl⟩
    · obtain ⟨-, hx⟩ := List.append_inj' hsplit rfl
      obtain rfl := List.singleton_inj.1 hx
      exact .inl hy
    · rw [List.concat_eq_append, ← List.cons_append, ← List.append_assoc] at hsplit
      obtain ⟨hxs, hx⟩ := List.append_inj' hsplit rfl
      obtain rfl := List.singleton_inj.1 hx
      exact .inr ⟨hafter x (by simp), before, y, after, hxs, hy, fun z hz => hafter z (by simp [hz])⟩
  · rintro (hx | ⟨hx, before, y, after, rfl, hy, hafter⟩)
    · exact ⟨xs, x, [], rfl, hx, by simp⟩
    · refine ⟨before, y, after ++ [x], by simp, hy, fun z hz => ?_⟩
      rcases List.mem_append.1 hz with hz | hz
      · exact hafter z hz
      · rw [List.mem_singleton.1 hz]
        exact hx

/-- A search for less gives the same if what was found still counts. -/
theorem find?_eq_of_imp {p q : α → Bool} (less : ∀ y ∈ xs, q y = true → p y = true)
    (found : ∀ y, xs.find? p = some y → q y = true) : xs.find? q = xs.find? p := by
  induction xs with
  | nil => rfl
  | cons x rest ih =>
    obtain ⟨hx, hrest⟩ := List.forall_mem_cons.1 less
    by_cases hp : p x = true
    · rw [List.find?_cons_of_pos hp] at found ⊢
      rw [List.find?_cons_of_pos (found x rfl)]
    · rw [List.find?_cons_of_neg hp] at found ⊢
      rw [List.find?_cons_of_neg fun hq => hp (hx hq)]
      exact ih hrest found

end LayeredSettings
