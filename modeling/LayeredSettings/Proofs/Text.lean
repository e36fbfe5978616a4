import Mathlib.Data.List.TakeWhile
import LayeredSettings.Text.Ascii
import LayeredSettings.Text.Blank
import LayeredSettings.Text.Integer
import LayeredSettings.Text.Template

set_option autoImplicit false

/-! # Laws of texts

The runs between separators are the maximal ones (`runs_eq_iff`), fields that are joined are the
fields between the separators again (`fieldsOn_joinWith`), and case does not move separators
(`fieldsOn_lower`). A text without blanks is trimmed already and one of blanks only is trimmed to
nothing, and a run of decimal digits is read as its value (`natOfDigits?_ten`). A field between two
separators occurs in a joined text exactly if it is one of its inner fields
(`contains_joinWith_iff`). -/

namespace LayeredSettings.Text

variable {α : Type} {p : α → Bool}

/-! ## Pieces -/

theorem pieces_ne_nil (p : α → Bool) (l : List α) : pieces p l ≠ [] := by
  cases l with
  | nil => simp [pieces]
  | cons c rest =>
    unfold pieces
    split
    · simp
    · split <;> simp

theorem pieces_cons_separator {c : α} (hc : p c = true) (rest : List α) :
    pieces p (c :: rest) = [] :: pieces p rest := by
  rw [pieces, if_pos hc]

/-- What is no separator starts the first piece of what follows. -/
theorem pieces_cons_of_not {c : α} (hc : p c = false) (rest : List α) :
    ∃ piece more, pieces p rest = piece :: more ∧ pieces p (c :: rest) = (c :: piece) :: more := by
  obtain ⟨piece, more, hrest⟩ := List.exists_cons_of_ne_nil (pieces_ne_nil p rest)
  refine ⟨piece, more, hrest, ?_⟩
  rw [pieces, hc, hrest]
  rfl

/-- A separator parts the pieces in front of it from those behind it. -/
theorem pieces_append_cons {c : α} (hc : p c = true) (front back : List α) :
    pieces p (front ++ c :: back) = pieces p front ++ pieces p back := by
  induction front with
  | nil => exact pieces_cons_separator hc back
  | cons d front ih =>
    rw [List.cons_append]
    cases hd : p d with
    | true => rw [pieces_cons_separator hd, pieces_cons_separator hd, ih, List.cons_append]
    | false =>
      obtain ⟨piece, more, hfront, hpieces⟩ := pieces_cons_of_not hd front
      rw [hpieces, pieces, hd, ih, hfront]
      rfl

theorem pieces_of_not {l : List α} (h : ∀ c ∈ l, p c = false) : pieces p l = [l] := by
  induction l with
  | nil => rfl
  | cons c rest ih =>
    rw [pieces, h c (by simp), ih fun d hd => h d (by simp [hd])]
    rfl

/-- The first piece is all of the list, or a separator stands behind it. -/
theorem of_pieces_eq_cons {l first : List α} {more : List (List α)}
    (h : pieces p l = first :: more) :
    (more = [] ∧ l = first) ∨
      ∃ c rest, p c = true ∧ l = first ++ c :: rest ∧ pieces p rest = more := by
  induction l generalizing first with
  | nil =>
    obtain ⟨rfl, rfl⟩ := List.cons.inj h
    exact .inl ⟨rfl, rfl⟩
  | cons c rest ih =>
    cases hc : p c with
    | true =>
      rw [pieces_cons_separator hc] at h
      obtain ⟨rfl, hmore⟩ := List.cons.inj h
      exact .inr ⟨c, rest, hc, rfl, hmore⟩
    | false =>
      obtain ⟨piece, others, hrest, hwhole⟩ := pieces_cons_of_not hc rest
      rw [hwhole] at h
      obtain ⟨rfl, rfl⟩ := List.cons.inj h
      rcases ih hrest with ⟨hmore, rfl⟩ | ⟨d, back, hd, rfl, hmore⟩
      · exact .inl ⟨hmore, rfl⟩
      · exact .inr ⟨d, back, hd, rfl, hmore⟩

theorem eq_of_pieces_eq_singleton {l piece : List α} (h : pieces p l = [piece]) : l = piece := by
  rcases of_pieces_eq_cons h with ⟨-, hl⟩ | ⟨_, rest, -, -, hnil⟩
  · exact hl
  · exact absurd hnil (pieces_ne_nil p rest)

theorem exists_of_pieces_eq_pair {l first second : List α} (h : pieces p l = [first, second]) :
    ∃ c, p c = true ∧ l = first ++ c :: second := by
  rcases of_pieces_eq_cons h with ⟨hnil, -⟩ | ⟨c, rest, hc, hl, hmore⟩
  · cases hnil
  · exact ⟨c, hc, by rw [hl, eq_of_pieces_eq_singleton hmore]⟩

/-- What holds no separator goes to the last piece of what it is put behind. -/
theorem pieces_append_of_not {tail : List α} (h : ∀ c ∈ tail, p c = false) (l : List α) :
    ∃ front last, pieces p l = front ++ [last] ∧ pieces p (l ++ tail) = front ++ [last ++ tail] := by
  induction l with
  | nil => exact ⟨[], [], rfl, pieces_of_not h⟩
  | cons c rest ih =>
    obtain ⟨front, last, hrest, happend⟩ := ih
    rw [List.cons_append]
    cases hc : p c with
    | true =>
      rw [pieces_cons_separator hc, pieces_cons_separator hc, hrest, happend]
      exact ⟨[] :: front, last, rfl, rfl⟩
    | false =>
      rw [pieces, pieces, hc, hrest, happend]
      cases front with
      | nil => exact ⟨[], c :: last, rfl, rfl⟩
      | cons first front => exact ⟨(c :: first) :: front, last, rfl, rfl⟩

theorem not_of_mem_pieces {l piece : List α} (h : piece ∈ pieces p l) :
    ∀ c ∈ piece, p c = false := by
  induction l generalizing piece with
  | nil =>
    obtain rfl := List.mem_singleton.1 h
    simp
  | cons c rest ih =>
    cases hc : p c with
    | true =>
      rw [pieces_cons_separator hc] at h
      rcases List.mem_cons.1 h with rfl | h
      · simp
      · exact ih h
    | false =>
      obtain ⟨first, more, hrest, hpieces⟩ := pieces_cons_of_not hc rest
      rw [hpieces] at h
      rcases List.mem_cons.1 h with rfl | h
      · exact List.forall_mem_cons.2 ⟨hc, ih (by simp [hrest])⟩
      · exact ih (by simp [hrest, h])

/-- What moves no separators moves only what is between them. -/
theorem pieces_map {f : α → α} (hf : ∀ c, p (f c) = p c) (l : List α) :
    pieces p (l.map f) = (pieces p l).map (List.map f) := by
  induction l with
  | nil => rfl
  | cons c rest ih =>
    rw [List.map_cons, pieces, pieces, hf, ih]
    cases pieces p rest <;> cases p c <;> rfl

/-! ## Runs -/

/-- The maximal runs of elements that are no separators: between any two of them stands at least one
    separator. -/
inductive MaximalRuns (p : α → Bool) : List α → List (List α) → Prop where
  | nil : MaximalRuns p [] []
  | separator {c : α} {rest : List α} {runs : List (List α)} (hc : p c = true)
    (more : MaximalRuns p rest runs) : MaximalRuns p (c :: rest) runs
  | run {run rest : List α} {runs : List (List α)} (nonempty : run ≠ [])
    (inside : ∀ c ∈ run, p c = false) (ends : ∀ c, rest.head? = some c → p c = true)
    (more : MaximalRuns p rest runs) : MaximalRuns p (run ++ rest) (run :: runs)

theorem exists_maximalRuns (p : α → Bool) (l : List α) : ∃ runs, MaximalRuns p l runs := by
  induction l with
  | nil => exact ⟨[], .nil⟩
  | cons c rest ih =>
    obtain ⟨runs, hruns⟩ := ih
    cases hc : p c with
    | true => exact ⟨runs, .separator hc hruns⟩
    | false =>
      -- The element starts a run of its own, or it belongs to the run that starts behind it.
      have hsingle : ∀ d ∈ [c], p d = false := by simpa using hc
      have alone : ∀ {back : List α}, MaximalRuns p back runs →
          (∀ d, back.head? = some d → p d = true) → MaximalRuns p (c :: back) ([c] :: runs) :=
        fun hback ends => .run (by simp) hsingle ends hback
      cases hruns with
      | nil => exact ⟨[[c]], alone .nil (by simp)⟩
      | separator hd more => exact ⟨[c] :: runs, alone (.separator hd more) (by simpa using hd)⟩
      | @run run back runs nonempty inside ends more =>
        refine ⟨(c :: run) :: runs, ?_⟩
        have hinside : ∀ d ∈ c :: run, p d = false := by simpa [hc] using inside
        exact .run (by simp) hinside ends more

theorem pieces_append_separator {run : List α} {c : α} (h : ∀ d ∈ run, p d = false)
    (hc : p c = true) (rest : List α) : pieces p (run ++ c :: rest) = run :: pieces p rest := by
  rw [pieces_append_cons hc, pieces_of_not h]
  rfl

theorem runs_cons_separator {c : α} (hc : p c = true) (rest : List α) :
    runs p (c :: rest) = runs p rest := by
  simp [runs, pieces, hc]

theorem runs_of_not {run : List α} (nonempty : run ≠ []) (h : ∀ c ∈ run, p c = false) :
    runs p run = [run] := by
  simp [runs, pieces_of_not h, nonempty]

theorem runs_append_separator {run : List α} {c : α} (nonempty : run ≠ [])
    (h : ∀ d ∈ run, p d = false) (hc : p c = true) (rest : List α) :
    runs p (run ++ c :: rest) = run :: runs p (c :: rest) := by
  rw [runs_cons_separator hc]
  simp [runs, pieces_append_separator h hc, nonempty]

theorem runs_of_maximalRuns {l : List α} {rs : List (List α)} (h : MaximalRuns p l rs) :
    runs p l = rs := by
  induction h with
  | nil => rfl
  | separator hc _ ih => rw [runs_cons_separator hc, ih]
  | @run run rest rs nonempty inside ends _ ih =>
    cases rest with
    | nil =>
      rw [List.append_nil, runs_of_not nonempty inside, ← ih]
      rfl
    | cons c rest => rw [runs_append_separator nonempty inside (ends c rfl), ih]

/-- The runs of a list are its maximal runs, and there are no others. -/
theorem runs_eq_iff {l : List α} {rs : List (List α)} : runs p l = rs ↔ MaximalRuns p l rs := by
  constructor
  · rintro rfl
    obtain ⟨rs, hrs⟩ := exists_maximalRuns p l
    rw [runs_of_maximalRuns hrs]
    exact hrs
  · exact runs_of_maximalRuns

theorem MaximalRuns.inside {l : List α} {rs : List (List α)} (h : MaximalRuns p l rs) :
    ∀ run ∈ rs, ∀ c ∈ run, p c = false := by
  induction h with
  | nil => simp
  | separator _ _ ih => exact ih
  | run _ inside _ _ ih => exact List.forall_mem_cons.2 ⟨inside, ih⟩

theorem MaximalRuns.length_le {l : List α} {rs : List (List α)} (h : MaximalRuns p l rs) :
    rs.length ≤ l.length := by
  induction h with
  | nil => exact Nat.le_refl 0
  | separator _ _ ih => exact Nat.le_succ_of_le ih
  | run nonempty _ _ _ ih =>
    have hrun := List.length_pos_iff.2 nonempty
    rw [List.length_cons, List.length_append]
    omega

/-- Separators in front of a list leave its runs as they are. -/
theorem MaximalRuns.append_separators {sep l : List α} {rs : List (List α)}
    (hsep : ∀ c ∈ sep, p c = true) (h : MaximalRuns p l rs) : MaximalRuns p (sep ++ l) rs := by
  induction sep with
  | nil => exact h
  | cons c sep ih =>
    obtain ⟨hc, hsep⟩ := List.forall_mem_cons.1 hsep
    exact .separator hc (ih hsep)

/-- Texts one after the other, with separators between neighbours. -/
inductive Parted (p : Char → Bool) : List String → String → Prop where
  | nil : Parted p [] ""
  | single (t : String) : Parted p [t] t
  | cons (t : String) {u sep text : String} {rest : List String} (nonempty : sep ≠ "")
    (separators : ∀ c ∈ sep.toList, p c = true) (more : Parted p (u :: rest) text) :
    Parted p (t :: u :: rest) (t ++ sep ++ text)

/-- Texts without separators that are parted by some are the runs of the whole text. -/
theorem Parted.maximalRuns {p : Char → Bool} {texts : List String} {text : String}
    (h : Parted p texts text) (htexts : ∀ t ∈ texts, t ≠ "" ∧ ∀ c ∈ t.toList, p c = false) :
    MaximalRuns p text.toList (texts.map String.toList) := by
  induction h with
  | nil => exact .nil
  | single t =>
    obtain ⟨htext, inside⟩ := htexts t (by simp)
    have hrun : MaximalRuns p (t.toList ++ []) [t.toList] :=
      .run (by simpa using htext) inside (by simp) .nil
    simpa using hrun
  | @cons t u sep text rest nonempty separators more ih =>
    obtain ⟨⟨htext, inside⟩, hrest⟩ := List.forall_mem_cons.1 htexts
    rw [String.toList_append, String.toList_append, List.append_assoc, List.map_cons]
    refine .run (by simpa using htext) inside ?_ ((ih hrest).append_separators separators)
    intro c hc
    obtain ⟨d, others, hd⟩ := List.exists_cons_of_ne_nil (l := sep.toList) (by simpa using nonempty)
    rw [hd] at hc separators
    obtain rfl : d = c := by simpa using hc
    exact separators d (by simp)

theorem parted_joinWith {p : Char → Bool} {sep : String} (hne : sep ≠ "")
    (hsep : ∀ c ∈ sep.toList, p c = true) (texts : List String) :
    Parted p texts (joinWith sep texts) := by
  induction texts with
  | nil => exact .nil
  | cons t rest ih =>
    cases rest with
    | nil => exact .single t
    | cons u rest => exact .cons t hne hsep ih

/-- Texts without separators that are joined by some are the runs of the joined text. -/
theorem maximalRuns_joinWith {p : Char → Bool} {sep : String} {texts : List String}
    (hne : sep ≠ "") (hsep : ∀ c ∈ sep.toList, p c = true)
    (htexts : ∀ t ∈ texts, t ≠ "" ∧ ∀ c ∈ t.toList, p c = false) :
    MaximalRuns p (joinWith sep texts).toList (texts.map String.toList) :=
  (parted_joinWith hne hsep texts).maximalRuns htexts

/-! ## Heads -/

/-- The longest head is all that stands in front of the first element that stops it. -/
theorem takeWhile_append_cons {front : List α} {c : α} (hfront : ∀ d ∈ front, p d = true)
    (hc : p c = false) (back : List α) : (front ++ c :: back).takeWhile p = front := by
  rw [List.takeWhile_append_of_pos hfront, List.takeWhile_cons, hc, if_neg (by simp),
    List.append_nil]

theorem not_of_dropWhile_eq_cons {l rest : List α} {c : α} (h : l.dropWhile p = c :: rest) :
    p c = false := by
  have hhead := List.head?_dropWhile_not p l
  rw [h] at hhead
  simpa using hhead

/-- A list in which something stops a head is parted by the first such thing. -/
theorem exists_stop {l : List α} {c : α} (hmem : c ∈ l) (hc : p c = false) :
    ∃ front d back, l = front ++ d :: back ∧ (∀ e ∈ front, p e = true) ∧ p d = false := by
  have hne : l.dropWhile p ≠ [] := by
    intro hnil
    rw [List.dropWhile_eq_nil_iff.1 hnil c hmem] at hc
    cases hc
  obtain ⟨d, back, hdrop⟩ := List.exists_cons_of_ne_nil hne
  refine ⟨l.takeWhile p, d, back, ?_, fun e he => List.mem_takeWhile_imp he,
    not_of_dropWhile_eq_cons hdrop⟩
  rw [← hdrop, List.takeWhile_append_dropWhile]

/-! ## Cutting ends -/

theorem dropTailWhile_eq_nil_iff {l : List α} :
    dropTailWhile p l = [] ↔ ∀ c ∈ l, p c = true := by
  unfold dropTailWhile
  rw [List.reverse_eq_nil_iff, List.dropWhile_eq_nil_iff]
  simp only [List.mem_reverse]

theorem stripWhile_eq_nil_iff {l : List α} : stripWhile p l = [] ↔ ∀ c ∈ l, p c = true := by
  unfold stripWhile
  rw [dropTailWhile_eq_nil_iff]
  constructor
  · intro h
    -- What is left after the leading blanks starts with no blank, so nothing is left.
    have hnil : l.dropWhile p = [] := by
      cases hrest : l.dropWhile p with
      | nil => rfl
      | cons c rest =>
        have hhead := not_of_dropWhile_eq_cons hrest
        rw [h c (by simp [hrest])] at hhead
        cases hhead
    exact List.dropWhile_eq_nil_iff.1 hnil
  · intro h c hc
    exact h c ((List.dropWhile_sublist p).mem hc)

theorem not_of_getLast?_stripWhile {l : List α} {c : α}
    (h : (stripWhile p l).getLast? = some c) : p c = false := by
  rw [stripWhile, dropTailWhile, List.getLast?_reverse] at h
  obtain ⟨rest, hrest⟩ := List.head?_eq_some_iff.1 h
  exact not_of_dropWhile_eq_cons hrest

theorem dropTailWhile_append {back : List α} (hback : ∀ c ∈ back, p c = true) (l : List α) :
    dropTailWhile p (l ++ back) = dropTailWhile p l := by
  have hreverse : ∀ c ∈ back.reverse, p c = true := fun c hc => hback c (List.mem_reverse.1 hc)
  rw [dropTailWhile, List.reverse_append, List.dropWhile_append_of_pos hreverse, dropTailWhile]

/-- What is cut anyway makes no difference around a text. -/
theorem stripWhile_padded {front back : List α} (hfront : ∀ c ∈ front, p c = true)
    (hback : ∀ c ∈ back, p c = true) (l : List α) :
    stripWhile p (front ++ l ++ back) = stripWhile p l := by
  rw [stripWhile, List.append_assoc, List.dropWhile_append_of_pos hfront, List.dropWhile_append]
  split
  · next hempty =>
    rw [List.isEmpty_iff] at hempty
    rw [stripWhile, hempty, List.dropWhile_eq_nil_iff.2 hback]
  · rw [dropTailWhile_append hback, stripWhile]

theorem dropTailWhile_sublist (p : α → Bool) (l : List α) : (dropTailWhile p l).Sublist l := by
  simpa [dropTailWhile] using (List.dropWhile_sublist (l := l.reverse) p).reverse

theorem dropWhile_append_of_not {front : List α} {c : α} (hlast : front.getLast? = some c)
    (hc : p c = false) (back : List α) : (front ++ back).dropWhile p = front.dropWhile p ++ back := by
  rw [List.dropWhile_append, if_neg]
  rw [List.isEmpty_iff, List.dropWhile_eq_nil_iff]
  intro hall
  rw [hall c (List.mem_of_getLast? hlast)] at hc
  cases hc

theorem dropTailWhile_of_not {l : List α} {c : α} (hlast : l.getLast? = some c)
    (hc : p c = false) : dropTailWhile p l = l := by
  obtain ⟨front, rfl⟩ := List.getLast?_eq_some_iff.1 hlast
  rw [dropTailWhile, List.reverse_append, List.reverse_singleton, List.singleton_append,
    List.dropWhile_cons, hc, if_neg (by simp), List.reverse_cons, List.reverse_reverse]

theorem getLast?_dropWhile {l : List α} {c : α} (hlast : l.getLast? = some c) (hc : p c = false) :
    (l.dropWhile p).getLast? = some c := by
  obtain ⟨front, rfl⟩ := List.getLast?_eq_some_iff.1 hlast
  rw [List.dropWhile_append]
  split <;> simp [hc]

/-- From a text that no such thing ends, only its head is cut. -/
theorem stripWhile_of_not {l : List α} {c : α} (hlast : l.getLast? = some c) (hc : p c = false) :
    stripWhile p l = l.dropWhile p :=
  dropTailWhile_of_not (getLast?_dropWhile hlast hc) hc

/-- Nothing is cut from a text that no such thing starts or ends. -/
theorem stripWhile_of_ends {l : List α} (hhead : ∀ c, l.head? = some c → p c = false)
    (hlast : ∀ c, l.getLast? = some c → p c = false) : stripWhile p l = l := by
  cases l with
  | nil => rfl
  | cons c rest =>
    have hend : (c :: rest).getLast? = some ((c :: rest).getLast (by simp)) :=
      List.getLast?_eq_some_getLast (by simp)
    rw [stripWhile_of_not hend (hlast _ hend), List.dropWhile_cons, hhead c rfl, if_neg (by simp)]

theorem trim_of_not_blank {l : List Char} (h : ∀ c ∈ l, isBlank c = false) :
    trim (String.ofList l) = String.ofList l := by
  have hself : stripWhile isBlank l = l :=
    stripWhile_of_ends (fun c hc => h c (List.mem_of_head? hc))
      fun c hc => h c (List.mem_of_getLast? hc)
  rw [trim, String.toList_ofList, hself]

/-- What is cut is all that stands around a text that no such thing starts or ends. -/
theorem stripWhile_append {front l back : List α} (hfront : ∀ c ∈ front, p c = true)
    (hback : ∀ c ∈ back, p c = true) (hhead : ∀ c, l.head? = some c → p c = false)
    (hlast : ∀ c, l.getLast? = some c → p c = false) : stripWhile p (front ++ l ++ back) = l := by
  rw [stripWhile_padded hfront hback, stripWhile_of_ends hhead hlast]

/-- Nothing is cut where two texts meet. -/
theorem stripWhile_append_of_not {front back : List α} {c d : α} (hfront : front.getLast? = some c)
    (hc : p c = false) (hback : back.getLast? = some d) (hd : p d = false) :
    stripWhile p (front ++ back) = stripWhile p front ++ back := by
  have hwhole : (front ++ back).getLast? = some d := by
    rw [List.getLast?_append, hback, Option.some_or]
  rw [stripWhile_of_not hwhole hd, stripWhile_of_not hfront hc, dropWhile_append_of_not hfront hc]

/-- What is stripped is what satisfies `p` at both ends. -/
theorem exists_eq_append_stripWhile (p : α → Bool) (l : List α) :
    ∃ front back, l = front ++ stripWhile p l ++ back ∧ (∀ c ∈ front, p c = true)
      ∧ ∀ c ∈ back, p c = true := by
  let rest := l.dropWhile p
  refine ⟨l.takeWhile p, (rest.reverse.takeWhile p).reverse, ?_, fun c hc => List.mem_takeWhile_imp hc,
    fun c hc => List.mem_takeWhile_imp (List.mem_reverse.1 hc)⟩
  have hrest : stripWhile p l ++ (rest.reverse.takeWhile p).reverse = rest := by
    rw [stripWhile, dropTailWhile, ← List.reverse_append, List.takeWhile_append_dropWhile,
      List.reverse_reverse]
  rw [List.append_assoc, hrest, List.takeWhile_append_dropWhile]

/-- What is stripped from the pieces may be stripped from the whole before. -/
theorem map_stripWhile_pieces {q : α → Bool} (h : ∀ c, q c = true → p c = false) (l : List α) :
    (pieces p (stripWhile q l)).map (stripWhile q) = (pieces p l).map (stripWhile q) := by
  have hfront : ∀ front m : List α, (∀ c ∈ front, q c = true) →
      (pieces p (front ++ m)).map (stripWhile q) = (pieces p m).map (stripWhile q) := by
    intro front m hblank
    induction front with
    | nil => rfl
    | cons c front ih =>
      obtain ⟨hc, hrest⟩ := List.forall_mem_cons.1 hblank
      obtain ⟨piece, more, hpieces, hwhole⟩ := pieces_cons_of_not (h c hc) (front ++ m)
      have hpiece : stripWhile q (c :: piece) = stripWhile q piece := by
        have hblank : ∀ d ∈ [c], q d = true := by simpa using hc
        simpa using stripWhile_padded hblank (by simp : ∀ d ∈ [], q d = true) piece
      rw [List.cons_append, hwhole, List.map_cons, hpiece, ← ih hrest, hpieces, List.map_cons]
  obtain ⟨front, back, hl, hfrontBlank, hbackBlank⟩ := exists_eq_append_stripWhile q l
  obtain ⟨firsts, last, hpieces, hwhole⟩ :=
    pieces_append_of_not (fun c hc => h c (hbackBlank c hc)) (stripWhile q l)
  have hlast : stripWhile q (last ++ back) = stripWhile q last := by
    simpa using stripWhile_padded (by simp : ∀ c ∈ [], q c = true) hbackBlank last
  have hback : (pieces p l).map (stripWhile q)
      = (pieces p (stripWhile q l ++ back)).map (stripWhile q) := by
    have hdropped := hfront front (stripWhile q l ++ back) hfrontBlank
    rwa [← List.append_assoc, ← hl] at hdropped
  rw [hback, hwhole, hpieces, List.map_append, List.map_append, List.map_singleton,
    List.map_singleton, hlast]

theorem notMem_dropTrailing {c d : Char} {s : String} (h : c ∉ s.toList) :
    c ∉ (dropTrailing d s).toList := by
  rw [dropTrailing, String.toList_ofList]
  exact mt (dropTailWhile_sublist _ _).mem h

theorem getLast?_append {t : String} {c : Char} (h : t.toList.getLast? = some c) (s : String) :
    (s ++ t).toList.getLast? = some c := by
  rw [String.toList_append, List.getLast?_append, h, Option.some_or]

theorem trim_eq_empty_iff {s : String} : trim s = "" ↔ ∀ c ∈ s.toList, isBlank c = true := by
  rw [← stripWhile_eq_nil_iff, trim]
  constructor
  · intro h
    have hlist := congrArg String.toList h
    simpa using hlist
  · intro h
    rw [h]

/-! ## ASCII case -/

/-- Lower case takes letters to letters and leaves all else alone. -/
theorem isLetter_lowerChar (c : Char) : isLetter (lowerChar c) = isLetter c := by
  unfold lowerChar
  split
  · next h =>
    have hlow : 'A'.toNat ≤ c.toNat := h.1
    have hhigh : c.toNat ≤ 'Z'.toNat := h.2
    have hA : 'A'.toNat = 65 := rfl
    have hZ : 'Z'.toNat = 90 := rfl
    have ha : 'a'.toNat = 97 := rfl
    have hz : 'z'.toNat = 122 := rfl
    have hvalid : (c.toNat + 32).isValidChar := by
      left
      omega
    have hcode : (Char.ofNat (c.toNat + 32)).toNat = c.toNat + 32 := by
      rw [Char.ofNat, dif_pos hvalid]
      rfl
    have hsmall : 'a' ≤ Char.ofNat (c.toNat + 32) ∧ Char.ofNat (c.toNat + 32) ≤ 'z' := by
      constructor
      · show 'a'.toNat ≤ (Char.ofNat (c.toNat + 32)).toNat
        omega
      · show (Char.ofNat (c.toNat + 32)).toNat ≤ 'z'.toNat
        omega
    simp [isLetter, h, hsmall]
  · rfl

theorem lowerChar_of_not_letter {c : Char} (hc : isLetter c = false) : lowerChar c = c := by
  have hcapital : ¬ ('A' ≤ c ∧ c ≤ 'Z') := by
    rintro ⟨hlow, hhigh⟩
    simp [isLetter, hlow, hhigh] at hc
  rw [lowerChar, if_neg hcapital]

theorem lowerChar_eq_iff {c d : Char} (hd : isLetter d = false) : lowerChar c = d ↔ c = d := by
  constructor
  · intro h
    have hc : isLetter c = false := by rw [← isLetter_lowerChar, h, hd]
    rw [← lowerChar_of_not_letter hc, h]
  · rintro rfl
    exact lowerChar_of_not_letter hd

/-- What has no letters is no word, in any case. -/
theorem ofList_lowerChar_ne {cs : List Char} (h : ∀ c ∈ cs, isLetter c = false) {word : String}
    (hword : ∃ c ∈ word.toList, isLetter c = true) : String.ofList (cs.map lowerChar) ≠ word := by
  rintro rfl
  obtain ⟨c, hc, hletter⟩ := hword
  rw [String.toList_ofList, List.mem_map] at hc
  obtain ⟨d, hd, rfl⟩ := hc
  rw [isLetter_lowerChar, h d hd] at hletter
  cases hletter

theorem toList_lower (s : String) : (lower s).toList = s.toList.map lowerChar := by
  simp [lower]

theorem mem_lower_iff {c : Char} (hc : isLetter c = false) {s : String} :
    c ∈ (lower s).toList ↔ c ∈ s.toList := by
  rw [toList_lower, List.mem_map]
  simp only [lowerChar_eq_iff hc, exists_eq_right]

theorem sameIgnoringCase_iff {s t : String} :
    sameIgnoringCase s t = true ↔ lower s = lower t :=
  beq_iff_eq

theorem sameIgnoringCase_refl (s : String) : sameIgnoringCase s s = true :=
  sameIgnoringCase_iff.2 rfl

/-- What is no letter is in both of two texts that differ in case only, or in none of them. -/
theorem mem_iff_of_sameIgnoringCase {c : Char} (hc : isLetter c = false) {s t : String}
    (h : sameIgnoringCase s t = true) : c ∈ s.toList ↔ c ∈ t.toList := by
  rw [← mem_lower_iff hc, sameIgnoringCase_iff.1 h, mem_lower_iff hc]

/-! ## Fields -/

theorem fieldsOn_ne_nil (c : Char) (s : String) : fieldsOn c s ≠ [] := by
  simpa [fieldsOn] using pieces_ne_nil (· == c) s.toList

theorem fieldsOn_of_notMem {c : Char} {s : String} (h : c ∉ s.toList) : fieldsOn c s = [s] := by
  have hother : ∀ d ∈ s.toList, (d == c) = false := by
    intro d hd
    have hne : d ≠ c := fun heq => h (heq ▸ hd)
    simpa using hne
  simp [fieldsOn, pieces_of_not hother]

theorem notMem_of_mem_fieldsOn {c : Char} {s field : String} (h : field ∈ fieldsOn c s) :
    c ∉ field.toList := by
  obtain ⟨piece, hpiece, rfl⟩ := List.mem_map.1 h
  intro hc
  rw [String.toList_ofList] at hc
  simpa using not_of_mem_pieces hpiece c hc

theorem fieldsOn_append (c : Char) (s t : String) :
    fieldsOn c (s ++ String.singleton c ++ t) = fieldsOn c s ++ fieldsOn c t := by
  have hlist : (s ++ String.singleton c ++ t).toList = s.toList ++ c :: t.toList := by simp
  unfold fieldsOn
  rw [hlist, pieces_append_cons (by simp), List.map_append]

/-- What holds no separator goes to the last field. -/
theorem fieldsOn_append_of_notMem {c : Char} {t : String} (h : c ∉ t.toList) (s : String) :
    ∃ front last, fieldsOn c s = front ++ [last] ∧ fieldsOn c (s ++ t) = front ++ [last ++ t] := by
  have hother : ∀ d ∈ t.toList, (d == c) = false := by
    intro d hd
    have hne : d ≠ c := fun heq => h (heq ▸ hd)
    simpa using hne
  obtain ⟨front, last, hpieces, happend⟩ := pieces_append_of_not hother s.toList
  refine ⟨front.map String.ofList, String.ofList last, ?_, ?_⟩
  · simp [fieldsOn, hpieces]
  · simp [fieldsOn, happend, String.ofList_append]

/-- Fields that are joined and parted again are the same fields. -/
theorem fieldsOn_joinWith {c : Char} {fields : List String} (hne : fields ≠ [])
    (h : ∀ s ∈ fields, c ∉ s.toList) :
    fieldsOn c (joinWith (String.singleton c) fields) = fields := by
  induction fields with
  | nil => exact absurd rfl hne
  | cons s rest ih =>
    obtain ⟨hs, hrest⟩ := List.forall_mem_cons.1 h
    cases rest with
    | nil => exact fieldsOn_of_notMem hs
    | cons t rest =>
      have hjoin : joinWith (String.singleton c) (s :: t :: rest)
          = s ++ String.singleton c ++ joinWith (String.singleton c) (t :: rest) := rfl
      rw [hjoin, fieldsOn_append, fieldsOn_of_notMem hs, ih (by simp) hrest]
      rfl

theorem joinWith_append {sep : String} {texts others : List String} (ht : texts ≠ [])
    (ho : others ≠ []) :
    joinWith sep (texts ++ others) = joinWith sep texts ++ sep ++ joinWith sep others := by
  obtain ⟨u, others, rfl⟩ := List.exists_cons_of_ne_nil ho
  induction texts with
  | nil => exact absurd rfl ht
  | cons t rest ih =>
    cases rest with
    | nil => rfl
    | cons t' rest =>
      show t ++ sep ++ joinWith sep (t' :: rest ++ u :: others) = _
      rw [ih (by simp)]
      show _ = t ++ sep ++ joinWith sep (t' :: rest) ++ sep ++ joinWith sep (u :: others)
      simp only [String.append_assoc]

/-- Case does not matter to where the fields are. -/
theorem fieldsOn_lower {c : Char} (hc : isLetter c = false) (s : String) :
    fieldsOn c (lower s) = (fieldsOn c s).map lower := by
  have hsep : ∀ d : Char, (lowerChar d == c) = (d == c) := by
    intro d
    rw [Bool.eq_iff_iff, beq_iff_eq, beq_iff_eq, lowerChar_eq_iff hc]
  unfold fieldsOn
  rw [toList_lower, pieces_map hsep, List.map_map, List.map_map]
  refine List.map_congr_left fun piece _ => ?_
  simp [lower]

/-! ## Occurrences -/

theorem occursIn_eq_true_iff {pattern l : List Char} : occursIn pattern l = true ↔ pattern <:+: l := by
  induction l with
  | nil => simp [occursIn]
  | cons c rest ih =>
    rw [occursIn, Bool.or_eq_true, ih, List.isPrefixOf_iff_prefix, List.infix_cons_iff]

theorem contains_eq_true_iff {pattern s : String} :
    contains pattern s = true ↔ ∃ front back, s = front ++ pattern ++ back := by
  rw [contains, occursIn_eq_true_iff]
  constructor
  · rintro ⟨front, back, h⟩
    refine ⟨String.ofList front, String.ofList back, ?_⟩
    rw [← String.toList_inj]
    simp [← h]
  · rintro ⟨front, back, rfl⟩
    exact ⟨front.toList, back.toList, by simp⟩

theorem behind?_eq_some_iff {start s rest : String} :
    behind? start s = some rest ↔ s = start ++ rest := by
  unfold behind?
  rw [← String.toList_inj, String.toList_append]
  constructor
  · intro h
    split at h
    · next hstart =>
      obtain ⟨tail, htail⟩ := List.isPrefixOf_iff_prefix.1 hstart
      rw [← htail, List.drop_left, Option.some.injEq] at h
      rw [← htail, ← h, String.toList_ofList]
    · cases h
  · intro h
    rw [if_pos (List.isPrefixOf_iff_prefix.2 ⟨_, h.symm⟩), h, List.drop_left, String.ofList_toList]

section Joined

variable {c : Char} {fields : List String} {v : String}

/-- What a separator follows at the start of joined fields is the first of several. -/
theorem behind?_joinWith (h : ∀ s ∈ fields, c ∉ s.toList) (hv : c ∉ v.toList) {rest : String} :
    behind? (v ++ String.singleton c) (joinWith (String.singleton c) fields) = some rest →
      fields = v :: fieldsOn c rest := by
  intro hrest
  rw [behind?_eq_some_iff] at hrest
  have hne : fields ≠ [] := by
    rintro rfl
    have hempty := congrArg String.toList hrest
    simp [joinWith] at hempty
  rw [← fieldsOn_joinWith hne h, hrest, fieldsOn_append, fieldsOn_of_notMem hv, List.singleton_append]

/-- What stands between separators in joined fields is a field between the first and the last. -/
theorem contains_joinWith_iff (hne : fields ≠ []) (h : ∀ s ∈ fields, c ∉ s.toList)
    (hv : c ∉ v.toList) :
    contains (String.singleton c ++ v ++ String.singleton c) (joinWith (String.singleton c) fields)
        = true ↔
      v ∈ fields.tail.dropLast := by
  rw [contains_eq_true_iff]
  constructor
  · rintro ⟨front, back, hsplit⟩
    have hfields : fields = fieldsOn c front ++ v :: fieldsOn c back := by
      have hparted : joinWith (String.singleton c) fields
          = front ++ String.singleton c ++ (v ++ String.singleton c ++ back) := by
        rw [hsplit]
        simp only [String.append_assoc]
      rw [← fieldsOn_joinWith hne h, hparted, fieldsOn_append, fieldsOn_append,
        fieldsOn_of_notMem hv, List.singleton_append]
    obtain ⟨first, more, hfront⟩ := List.exists_cons_of_ne_nil (fieldsOn_ne_nil c front)
    rw [hfields, hfront, List.cons_append, List.tail_cons,
      List.dropLast_append_of_ne_nil (by simp), List.dropLast_cons_of_ne_nil (fieldsOn_ne_nil c back)]
    simp
  · intro hmem
    obtain ⟨first, more, rfl⟩ := List.exists_cons_of_ne_nil hne
    rw [List.tail_cons] at hmem
    have hmore : more ≠ [] := by
      rintro rfl
      cases hmem
    obtain ⟨before, behind, hsplit⟩ := List.append_of_mem hmem
    obtain ⟨last, hlast⟩ : ∃ last, more.dropLast ++ [last] = more :=
      ⟨_, List.dropLast_concat_getLast hmore⟩
    have hfields : first :: more = (first :: before) ++ ([v] ++ (behind ++ [last])) := by
      rw [← hlast, hsplit]
      simp
    refine ⟨joinWith (String.singleton c) (first :: before),
      joinWith (String.singleton c) (behind ++ [last]), ?_⟩
    rw [hfields, joinWith_append (by simp) (by simp), joinWith_append (by simp) (by simp)]
    simp only [joinWith, String.append_assoc]

end Joined

/-! ## Replacing one character -/

theorem replaceFrom_singleton (c d : Char) (l : List Char) :
    replaceFrom [c] [d] 0 l = l.map fun x => if x = c then d else x := by
  induction l with
  | nil => rfl
  | cons x rest ih =>
    rw [replaceFrom, List.map_cons]
    by_cases hx : x = c
    · have hstarts : [c].isPrefixOf (x :: rest) = true := by simp [List.isPrefixOf, hx]
      rw [if_pos hstarts, if_pos hx]
      exact congrArg (d :: ·) ih
    · have hstarts : [c].isPrefixOf (x :: rest) = false := by simp [List.isPrefixOf, Ne.symm hx]
      rw [hstarts, if_neg (by simp), if_neg hx, ih]

/-! ## Classes of characters -/

section Classes

variable {c : Char}

theorem toNat_of_isDigit (h : isDigit c = true) : 0x30 ≤ c.toNat ∧ c.toNat ≤ 0x39 := by
  have hrange : '0' ≤ c ∧ c ≤ '9' := by simpa [isDigit] using h
  exact ⟨hrange.1, hrange.2⟩

theorem toNat_of_isLetter (h : isLetter c = true) :
    (0x61 ≤ c.toNat ∧ c.toNat ≤ 0x7A) ∨ (0x41 ≤ c.toNat ∧ c.toNat ≤ 0x5A) := by
  have hrange : ('a' ≤ c ∧ c ≤ 'z') ∨ ('A' ≤ c ∧ c ≤ 'Z') := by simpa [isLetter] using h
  exact hrange.imp (fun hsmall => ⟨hsmall.1, hsmall.2⟩) fun hcapital => ⟨hcapital.1, hcapital.2⟩

theorem not_isBlank_of_isDigit (h : isDigit c = true) : isBlank c = false := by
  have hrange := toNat_of_isDigit h
  simp [isBlank]
  omega

theorem not_isBlank_of_isLetter (h : isLetter c = true) : isBlank c = false := by
  have hrange := toNat_of_isLetter h
  simp [isBlank]
  omega

theorem not_isLetter_of_isDigit (h : isDigit c = true) : isLetter c = false := by
  by_contra hletter
  rw [Bool.not_eq_false] at hletter
  have hdigit := toNat_of_isDigit h
  have hrange := toNat_of_isLetter hletter
  omega

theorem ne_of_isDigit {d : Char} (h : isDigit c = true) (hd : isDigit d = false) : c ≠ d := by
  rintro rfl
  rw [h] at hd
  cases hd

end Classes

/-! ## Digits -/

theorem digitValue?_ten {c : Char} (h : isDigit c = true) :
    digitValue? 10 c = some (c.toNat - '0'.toNat) := by
  have hvalue : c.toNat - '0'.toNat < 10 := by
    have hrange := toNat_of_isDigit h
    have hzero : '0'.toNat = 0x30 := rfl
    omega
  unfold digitValue?
  rw [if_pos h, Option.filter_some, if_pos (decide_eq_true hvalue)]

/-- A run of decimal digits is read as its value. -/
theorem natOfDigits?_ten {digits : List Char} (hne : digits ≠ [])
    (h : ∀ c ∈ digits, isDigit c = true) : natOfDigits? 10 digits = some (decimalValue digits) := by
  have hfold : ∀ (l : List Char) (n : Nat), (∀ c ∈ l, isDigit c = true) →
      l.foldlM (fun n c => (digitValue? 10 c).map (n * 10 + ·)) n
        = some (l.foldl (fun n c => n * 10 + (c.toNat - '0'.toNat)) n) := by
    intro l
    induction l with
    | nil => exact fun _ _ => rfl
    | cons c rest ih =>
      intro n hl
      rw [List.foldlM_cons, digitValue?_ten (hl c (by simp))]
      exact ih _ fun d hd => hl d (by simp [hd])
  have hempty : digits.isEmpty = false := by simpa using hne
  rw [natOfDigits?, hempty]
  exact hfold digits 0 h

theorem decimalValue_eq_ofDigitChars (digits : List Char) :
    decimalValue digits = Nat.ofDigitChars 10 digits 0 := by
  simp only [decimalValue, Nat.ofDigitChars, Nat.mul_comm]

theorem isDigit_eq (c : Char) : isDigit c = c.isDigit :=
  rfl

/-- A number is the value of the digits that write it. -/
theorem decimalValue_toString (n : Nat) : decimalValue (toString n).toList = n := by
  rw [decimalValue_eq_ofDigitChars, Nat.toString_eq_ofList_toDigits, String.toList_ofList,
    Nat.ofDigitChars_ten_toDigits]

theorem isDigit_of_mem_toString {n : Nat} {c : Char} (h : c ∈ (toString n).toList) :
    isDigit c = true := by
  rw [Nat.toString_eq_ofList_toDigits, String.toList_ofList] at h
  rw [isDigit_eq]
  exact Nat.isDigit_of_mem_toDigits (by decide) (by decide) h

theorem toList_toString_ne_nil (n : Nat) : (toString n).toList ≠ [] := by
  rw [Nat.toString_eq_ofList_toDigits, String.toList_ofList]
  exact Nat.toDigits_ne_nil

end LayeredSettings.Text
