set_option autoImplicit false

/-! # Maps in key order

A `KeyMap` lists its entries by strictly increasing key, keys compared character by character; this
is also the order of their UTF-8 bytes. `insert` keeps the order and replaces the value of a key
that is already there. -/

namespace LayeredSettings

/-- Entries by increasing key, each key once. -/
abbrev KeyMap (α : Type) := List (String × α)

namespace KeyMap

variable {α β : Type}

/-- The entry under a key. -/
def get? (key : String) : KeyMap α → Option α
  | [] => none
  | (k, v) :: rest => if k = key then some v else get? key rest

/-- The map with `value` under `key`. -/
def insert (key : String) (value : α) : KeyMap α → KeyMap α
  | [] => [(key, value)]
  | (k, v) :: rest =>
    if key < k then (key, value) :: (k, v) :: rest
    else if key = k then (key, value) :: rest
    else (k, v) :: insert key value rest

/-- The map with every entry of a list inserted in turn, so that the last one of a key stays. -/
def insertAll (entries : List (String × α)) (m : KeyMap α) : KeyMap α :=
  entries.foldl (fun acc e => insert e.1 e.2 acc) m

/-- The map that a list of entries describes, the last entry of a key winning. -/
def ofEntries (entries : List (String × α)) : KeyMap α :=
  insertAll entries []

/-- The keys in order. -/
def keys (m : KeyMap α) : List String :=
  m.map Prod.fst

/-- The map with every value replaced by its image. -/
def mapValues (f : α → β) (m : KeyMap α) : KeyMap β :=
  m.map fun e => (e.1, f e.2)

/-- Strictly increasing keys. -/
def Ordered (m : KeyMap α) : Prop :=
  (keys m).Pairwise (· < ·)

/-! ## What `insert` does -/

@[simp]
theorem get?_insert_self (key : String) (value : α) (m : KeyMap α) :
    get? key (insert key value m) = some value := by
  induction m with
  | nil => simp [insert, get?]
  | cons e rest ih =>
    obtain ⟨k, v⟩ := e
    by_cases hlt : key < k
    · simp [insert, get?, hlt]
    · by_cases heq : key = k
      · simp [insert, get?, heq]
      · simp [insert, get?, hlt, heq, Ne.symm heq, ih]

theorem get?_insert_of_ne {key other : String} (value : α) (m : KeyMap α) (h : key ≠ other) :
    get? other (insert key value m) = get? other m := by
  induction m with
  | nil => simp [insert, get?, h]
  | cons e rest ih =>
    obtain ⟨k, v⟩ := e
    by_cases hlt : key < k
    · simp [insert, get?, hlt, h]
    · by_cases heq : key = k
      · subst heq
        simp [insert, get?, h]
      · simp [insert, get?, hlt, heq, ih]

theorem mem_keys_insert {key other : String} {value : α} {m : KeyMap α} :
    other ∈ keys (insert key value m) ↔ other = key ∨ other ∈ keys m := by
  induction m with
  | nil => simp [insert, keys]
  | cons e rest ih =>
    obtain ⟨k, v⟩ := e
    by_cases hlt : key < k
    · simp [insert, keys, hlt]
    · by_cases heq : key = k
      · subst heq
        simp [insert, keys]
      · have step :
            keys (insert key value ((k, v) :: rest)) = k :: keys (insert key value rest) := by
          simp [insert, keys, hlt, heq]
        rw [step, List.mem_cons, ih]
        simp only [keys, List.map_cons, List.mem_cons]
        grind

theorem mem_insert {key : String} {value : α} {m : KeyMap α} {e : String × α}
    (h : e ∈ insert key value m) : e = (key, value) ∨ e ∈ m := by
  induction m with
  | nil => simpa [insert] using h
  | cons first rest ih =>
    obtain ⟨k, v⟩ := first
    unfold insert at h
    split at h
    · simpa using h
    · split at h
      · rcases List.mem_cons.1 h with rfl | h
        · simp
        · simp [h]
      · rcases List.mem_cons.1 h with rfl | h
        · simp
        · rcases ih h with rfl | h
          · simp
          · simp [h]

theorem ordered_nil : Ordered ([] : KeyMap α) :=
  List.Pairwise.nil

theorem ordered_cons {key : String} {value : α} {m : KeyMap α} :
    Ordered ((key, value) :: m) ↔ (∀ other ∈ keys m, key < other) ∧ Ordered m :=
  List.pairwise_cons

/-- Inserting keeps the keys in order. -/
theorem Ordered.insert {m : KeyMap α} (hm : Ordered m) (key : String) (value : α) :
    Ordered (KeyMap.insert key value m) := by
  induction m with
  | nil => exact ordered_cons.2 ⟨by simp [keys], ordered_nil⟩
  | cons e rest ih =>
    obtain ⟨k, v⟩ := e
    obtain ⟨hk, hrest⟩ := ordered_cons.1 hm
    unfold KeyMap.insert
    split
    · next hlt =>
      refine ordered_cons.2 ⟨fun other h => ?_, hm⟩
      rcases List.mem_cons.1 h with rfl | h
      · exact hlt
      · exact String.lt_trans hlt (hk other h)
    · next hlt =>
      split
      · next heq => exact ordered_cons.2 ⟨heq ▸ hk, hrest⟩
      · next heq =>
        refine ordered_cons.2 ⟨fun other h => ?_, ih hrest⟩
        rcases mem_keys_insert.1 h with rfl | h
        · grind
        · exact hk other h

theorem Ordered.insertAll {m : KeyMap α} (hm : Ordered m) (entries : List (String × α)) :
    Ordered (KeyMap.insertAll entries m) := by
  induction entries generalizing m with
  | nil => exact hm
  | cons e rest ih => exact ih (hm.insert e.1 e.2)

theorem ordered_ofEntries (entries : List (String × α)) : Ordered (ofEntries entries) :=
  ordered_nil.insertAll entries

theorem mem_keys_insertAll {entries : List (String × α)} {m : KeyMap α} {key : String} :
    key ∈ keys (insertAll entries m) ↔ key ∈ entries.map Prod.fst ∨ key ∈ keys m := by
  induction entries generalizing m with
  | nil => simp [insertAll]
  | cons e rest ih =>
    have step : insertAll (e :: rest) m = insertAll rest (insert e.1 e.2 m) := rfl
    rw [step, ih, mem_keys_insert, List.map_cons, List.mem_cons, or_left_comm, or_assoc]

theorem mem_keys_ofEntries {entries : List (String × α)} {key : String} :
    key ∈ keys (ofEntries entries) ↔ key ∈ entries.map Prod.fst := by
  rw [ofEntries, mem_keys_insertAll]
  simp [keys]

theorem ofEntries_append (entries more : List (String × α)) :
    ofEntries (entries ++ more) = insertAll more (ofEntries entries) :=
  List.foldl_append

/-! ## Looking up -/

theorem get?_eq_none_iff {key : String} {m : KeyMap α} : get? key m = none ↔ key ∉ keys m := by
  induction m with
  | nil => simp [get?, keys]
  | cons e rest ih =>
    obtain ⟨k, v⟩ := e
    by_cases h : k = key
    · simp [get?, keys, h]
    · simp only [keys] at ih
      simp [get?, keys, h, Ne.symm h, ih]

theorem mem_of_get? {key : String} {value : α} {m : KeyMap α} (h : get? key m = some value) :
    (key, value) ∈ m := by
  induction m with
  | nil => simp [get?] at h
  | cons e rest ih =>
    obtain ⟨k, v⟩ := e
    unfold get? at h
    split at h
    · next heq =>
      obtain rfl := Option.some.inj h
      simp [heq]
    · simp [ih h]

/-- In a map with every key once, a later entry does not hide an earlier one. -/
theorem get?_insertAll {entries : KeyMap α} (h : Ordered entries) (m : KeyMap α) (key : String) :
    get? key (insertAll entries m) = (get? key entries).or (get? key m) := by
  induction entries generalizing m with
  | nil => rfl
  | cons e rest ih =>
    obtain ⟨k, v⟩ := e
    obtain ⟨hk, hrest⟩ := ordered_cons.1 h
    have step : insertAll ((k, v) :: rest) m = insertAll rest (insert k v m) := rfl
    rw [step, ih hrest]
    by_cases heq : k = key
    · subst heq
      have absent : get? k rest = none :=
        get?_eq_none_iff.2 fun hmem => String.lt_irrefl k (hk k hmem)
      rw [absent, get?_insert_self]
      simp [get?]
    · rw [get?_insert_of_ne v m heq]
      simp [get?, heq]

end KeyMap

end LayeredSettings
