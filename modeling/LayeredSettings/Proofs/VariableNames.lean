import Mathlib.Data.Sum.Basic
import LayeredSettings.Proofs.Environment
import LayeredSettings.Proofs.Text

set_option autoImplicit false

/-! # Names of variables do not collide

A name of the pattern has its parts in their places, and a place that a part itself writes is not
filled (`patternKey_eq`). The words in front of the field are prefix free, so the name tells its kind,
its target and its field whatever text the field is (`patternKey_tells_parts`). A variable of the
pattern thus has a say in the descriptor of one kind on one target only (`Catalogue.bind_apart`). -/

namespace LayeredSettings

/-! ## Filling the pattern -/

namespace Text

/-- What is passed over is not written. -/
theorem replaceFrom_skip (pattern replacement front rest : List Char) :
    replaceFrom pattern replacement front.length (front ++ rest)
      = replaceFrom pattern replacement 0 rest := by
  induction front with
  | nil => rfl
  | cons c front ih => exact ih

/-- A part that the pattern cannot start in stays as it is. -/
theorem replaceFrom_append_of_notMem {c : Char} {pattern front : List Char} (h : c ∉ front)
    (replacement rest : List Char) :
    replaceFrom (c :: pattern) replacement 0 (front ++ rest)
      = front ++ replaceFrom (c :: pattern) replacement 0 rest := by
  induction front with
  | nil => rfl
  | cons d front ih =>
    rw [List.mem_cons, not_or] at h
    obtain ⟨hne, hfront⟩ := h
    have hstarts : (c :: pattern).isPrefixOf (d :: (front ++ rest)) = false := by
      simp [List.isPrefixOf, hne]
    rw [List.cons_append, replaceFrom, hstarts, if_neg (by simp), ih hfront, List.cons_append]

/-- An occurrence of the pattern is written as the replacement. -/
theorem replaceFrom_append_pattern (c : Char) (pattern replacement rest : List Char) :
    replaceFrom (c :: pattern) replacement 0 ((c :: pattern) ++ rest)
      = replacement ++ replaceFrom (c :: pattern) replacement 0 rest := by
  have hstarts : (c :: pattern).isPrefixOf (c :: (pattern ++ rest)) = true := by
    simp [List.isPrefixOf]
  rw [List.cons_append, replaceFrom, if_pos hstarts, List.length_cons, Nat.add_sub_cancel,
    replaceFrom_skip]

/-- A text without the pattern stays as it is. -/
theorem replaceFrom_of_not_occursIn {pattern text : List Char} (h : occursIn pattern text = false)
    (replacement : List Char) : replaceFrom pattern replacement 0 text = text := by
  induction text with
  | nil => rfl
  | cons c rest ih =>
    rw [occursIn, Bool.or_eq_false_iff] at h
    obtain ⟨hhere, hrest⟩ := h
    rw [replaceFrom, hhere, if_neg (by simp), ih hrest]

/-- The one place of a text is filled, whatever fills it. -/
theorem replace_place {place front back : String} {c : Char} {rest : List Char}
    (hplace : place.toList = c :: rest) (hfront : c ∉ front.toList)
    (hback : contains place back = false) (s : String) :
    replace place s (front ++ place ++ back) = front ++ s ++ back := by
  have hbehind : replaceFrom (c :: rest) s.toList 0 back.toList = back.toList := by
    rw [← hplace]
    exact replaceFrom_of_not_occursIn hback s.toList
  rw [replace, String.toList_append, String.toList_append, hplace, List.append_assoc,
    replaceFrom_append_of_notMem hfront, replaceFrom_append_pattern, hbehind,
    ← String.toList_append, ← String.toList_append, String.ofList_toList, String.append_assoc]

end Text

theorem SourceKind.mem_all (kind : SourceKind) : kind ∈ all := by
  cases kind <;> decide

theorem Target.mem_all (target : Target) : target ∈ all := by
  cases target <;> decide

/-- No place of the pattern can begin in what is written for a kind or a target. -/
theorem brace_notMem_words (kind : SourceKind) (target : Target) :
    '{' ∉ (Text.upper kind.name).toList ∧ '{' ∉ target.token.toList := by
  have hkinds : ∀ kind ∈ SourceKind.all, '{' ∉ (Text.upper kind.name).toList := by
    decide +kernel
  have htargets : ∀ target ∈ Target.all, '{' ∉ target.token.toList := by
    decide +kernel
  exact ⟨hkinds kind kind.mem_all, htargets target target.mem_all⟩

/-- The name of a variable has the kind, the target and the field in their places, whatever is written
    in the field. -/
theorem patternKey_eq (kind : SourceKind) (target : Target) (context : String) :
    patternKey kind target context
      = Text.upper kind.name ++ "_" ++ target.token ++ "_" ++ context := by
  obtain ⟨hkind, htarget⟩ := brace_notMem_words kind target
  have hpattern : keyPattern
      = "" ++ "\x7bkind\x7d" ++ ("_" ++ "\x7btarget\x7d" ++ ("_" ++ "\x7bcontext\x7d")) := by
    decide +kernel
  have hfirst : Text.replace "\x7bkind\x7d" (Text.upper kind.name) keyPattern
      = Text.upper kind.name ++ "_" ++ "\x7btarget\x7d" ++ ("_" ++ "\x7bcontext\x7d") := by
    rw [hpattern, Text.replace_place rfl (by simp) (by decide +kernel)]
    simp only [String.empty_append, String.append_assoc]
  have hsecond : Text.replace "\x7btarget\x7d" target.token
      (Text.upper kind.name ++ "_" ++ "\x7btarget\x7d" ++ ("_" ++ "\x7bcontext\x7d"))
        = Text.upper kind.name ++ "_" ++ target.token ++ "_" ++ "\x7bcontext\x7d" ++ "" := by
    have hfront : '{' ∉ (Text.upper kind.name ++ "_").toList := by
      simp [String.toList_append, hkind]
    rw [Text.replace_place rfl hfront (by decide +kernel)]
    simp only [String.append_empty, String.append_assoc]
  -- the field is written last, so no place in it is looked for
  have hfront : '{' ∉ (Text.upper kind.name ++ "_" ++ target.token ++ "_").toList := by
    simp [String.toList_append, hkind, htarget]
  rw [patternKey, hfirst, hsecond, Text.replace_place rfl hfront (by decide +kernel),
    String.append_empty]

/-! ## Words that tell where they end -/

namespace Text

variable {ι κ : Type}

/-- A text that a word of the family starts tells which word that is, and what stands behind it. -/
def PrefixFree (word : ι → String) : Prop :=
  ∀ i j s t, word i ++ s = word j ++ t → i = j ∧ s = t

/-- It is enough that no word of the family starts another one. -/
theorem prefixFree_of_starts {word : ι → String}
    (h : ∀ i j, (word i).toList <+: (word j).toList → i = j) : PrefixFree word := by
  intro i j s t htext
  have hlist : (word i).toList ++ s.toList = (word j).toList ++ t.toList := by
    rw [← String.toList_append, htext, String.toList_append]
  -- both words start one text, so one of them starts the other
  have hi : (word i).toList <+: (word j).toList ++ t.toList := ⟨s.toList, hlist⟩
  have hj : (word j).toList <+: (word j).toList ++ t.toList := ⟨t.toList, rfl⟩
  have hword : i = j := by
    rcases List.prefix_or_prefix_of_prefix hi hj with hstarts | hstarts
    · exact h i j hstarts
    · exact (h j i hstarts).symm
  subst hword
  exact ⟨rfl, String.toList_inj.1 (List.append_cancel_left hlist)⟩

/-- A part of a prefix free family is prefix free. -/
theorem PrefixFree.comp {word : ι → String} (h : PrefixFree word) {f : κ → ι}
    (hf : Function.Injective f) : PrefixFree fun k => word (f k) := by
  intro k l s t htext
  obtain ⟨hword, hrest⟩ := h _ _ s t htext
  exact ⟨hf hword, hrest⟩

/-- One word may stand behind all words of the family. -/
theorem PrefixFree.append_word {word : ι → String} (h : PrefixFree word) (last : String) :
    PrefixFree fun i => word i ++ last := by
  intro i j s t htext
  rw [String.append_assoc, String.append_assoc] at htext
  obtain ⟨hword, hrest⟩ := h i j _ _ htext
  exact ⟨hword, (String.append_right_inj last).1 hrest⟩

/-- A word of one family and then a word of another. -/
theorem PrefixFree.append {first : ι → String} {second : κ → String} (hfirst : PrefixFree first)
    (hsecond : PrefixFree second) : PrefixFree fun p : ι × κ => first p.1 ++ second p.2 := by
  rintro ⟨i, k⟩ ⟨j, l⟩ s t htext
  rw [String.append_assoc, String.append_assoc] at htext
  obtain ⟨rfl, hrest⟩ := hfirst i j _ _ htext
  obtain ⟨rfl, hend⟩ := hsecond k l s t hrest
  exact ⟨rfl, hend⟩

end Text

/-! ## What the pattern names -/

/-- The words that variables of descriptors begin with: a kind in the pattern, a target in the
    documented ones. -/
def firstWord : SourceKind ⊕ Target → String
  | .inl kind => Text.upper kind.name
  | .inr target => target.token

theorem prefixFree_firstWord : Text.PrefixFree firstWord := by
  let words : List (SourceKind ⊕ Target) := SourceKind.all.map .inl ++ Target.all.map .inr
  have hall : ∀ i, i ∈ words := by
    rintro (kind | target)
    · exact List.mem_append_left _ (List.mem_map_of_mem kind.mem_all)
    · exact List.mem_append_right _ (List.mem_map_of_mem target.mem_all)
  -- all words at once, so that each is spelt out once and not for each pair
  have hstarts : ∀ i ∈ words, ∀ j ∈ words,
      (firstWord i).toList <+: (firstWord j).toList → i = j := by
    decide +kernel
  exact Text.prefixFree_of_starts fun i j => hstarts i (hall i) j (hall j)

theorem SourceKind.prefixFree_name :
    Text.PrefixFree fun kind : SourceKind => Text.upper kind.name :=
  (prefixFree_firstWord.comp Sum.inl_injective :)

theorem Target.prefixFree_token : Text.PrefixFree Target.token :=
  (prefixFree_firstWord.comp Sum.inr_injective :)

/-- What stands in front of the field in a variable of the pattern. -/
def patternFront (cell : SourceKind × Target) : String :=
  Text.upper cell.1.name ++ "_" ++ (cell.2.token ++ "_")

theorem patternKey_eq_front (kind : SourceKind) (target : Target) (context : String) :
    patternKey kind target context = patternFront (kind, target) ++ context := by
  rw [patternKey_eq, patternFront]
  simp only [String.append_assoc]

theorem prefixFree_patternFront : Text.PrefixFree patternFront := by
  have hkind := SourceKind.prefixFree_name.append_word "_"
  have htarget := Target.prefixFree_token.append_word "_"
  exact (hkind.append htarget :)

/-- **Names of variables do not collide.** A variable of the pattern is spelt by the kind in capitals,
    the target and the field with underscores between them, whatever text the field is, and no other
    kind, target or field has the same variable. -/
theorem patternKey_tells_parts :
    (∀ kind target context, patternKey kind target context
        = Text.joinWith "_" [Text.upper kind.name, target.token, context])
      ∧ ∀ kind kind' target target' context context',
        patternKey kind target context = patternKey kind' target' context'
          ↔ kind = kind' ∧ target = target' ∧ context = context' := by
  refine ⟨fun kind target context => ?_, fun kind kind' target target' context context' => ?_⟩
  · rw [patternKey_eq]
    simp only [Text.joinWith, String.append_assoc]
  · constructor
    · intro hkey
      rw [patternKey_eq_front, patternKey_eq_front] at hkey
      obtain ⟨hcell, hcontext⟩ := prefixFree_patternFront _ _ _ _ hkey
      obtain ⟨hkind, htarget⟩ := Prod.mk.inj hcell
      exact ⟨hkind, htarget, hcontext⟩
    · rintro ⟨rfl, rfl, rfl⟩
      rfl

/-- Places that the field writes stay, and a kind with the word of a target in its name is no other
    kind on that target. -/
example :
    patternKey .keyValue .config "\x7bkind\x7d_\x7bcontext\x7d"
        = "REMOTE_KV_CONFIG_\x7bkind\x7d_\x7bcontext\x7d"
      ∧ patternKey .secretManager .config "SECRET_NAME"
        = "REMOTE_SECRET_MANAGER_CONFIG_SECRET_NAME" := by
  decide +kernel

/-! ## What a variable of the pattern steers -/

variable {kind kind' : SourceKind} {target target' : Target} {context : String}

/-- The documented variables begin with a target, those of the pattern with a kind. -/
theorem slotKey_ne_patternKey (slot field : String) :
    slotKey target' slot field ≠ patternKey kind target context := by
  intro hkey
  have hwords : firstWord (.inr target') ++ ("_" ++ slot ++ "_" ++ field)
      = firstWord (.inl kind) ++ ("_" ++ target.token ++ "_" ++ context) := by
    rw [slotKey, patternKey_eq] at hkey
    simpa only [firstWord, String.append_assoc] using hkey
  cases (prefixFree_firstWord _ _ _ _ hwords).1

/-- No other variable of the catalogue begins with a kind. -/
theorem Catalogue.patternKey_notMem_ownVariables :
    patternKey kind target context ∉ ownVariables := by
  intro hmem
  have hstarts : ∀ kind ∈ SourceKind.all, ∀ key ∈ ownVariables,
      ¬ (Text.upper kind.name).toList <+: key.toList := by
    decide +kernel
  refine hstarts kind kind.mem_all _ hmem ?_
  rw [patternKey_eq]
  simp only [String.append_assoc, String.toList_append, List.prefix_append]

namespace Environment

/-- A variable of the pattern is read for no other kind or target. -/
theorem cell_of_mem_descriptorVariables
    (h : patternKey kind target context ∈ descriptorVariables kind' target') :
    kind' = kind ∧ target' = target := by
  rcases List.mem_append.1 h with hslot | hpattern
  · cases hslotName : kind'.slot? with
    | none => simp [hslotName] at hslot
    | some slot =>
      rw [hslotName] at hslot
      obtain ⟨field, -, hkey⟩ := List.mem_map.1 hslot
      exact absurd hkey (slotKey_ne_patternKey slot field)
  · obtain ⟨field, -, hkey⟩ := List.mem_map.1 hpattern
    rw [patternKey_eq_front, patternKey_eq_front] at hkey
    exact Prod.mk.inj (prefixFree_patternFront _ _ _ _ hkey).1

end Environment

/-- Environments that differ in a variable of the pattern at most say
    the same of a load but for the descriptor of one kind on one target. -/
theorem Catalogue.bind_apart {env env' : Environment}
    (h : ∀ key, key ≠ patternKey kind target context → env key = env' key) :
    bind env' = { bind env with
      descriptor := fun kind' target' =>
        if kind' = kind ∧ target' = target then env'.descriptor kind target
        else env.descriptor kind' target' } := by
  have hown : ∀ key ∈ ownVariables, env key = env' key := by
    intro key hkey
    refine h key fun hpattern => ?_
    rw [hpattern] at hkey
    exact patternKey_notMem_ownVariables hkey
  have hdescriptor : env'.descriptor = fun kind' target' =>
      if kind' = kind ∧ target' = target then env'.descriptor kind target
      else env.descriptor kind' target' := by
    funext kind' target'
    by_cases hcell : kind' = kind ∧ target' = target
    · rw [if_pos hcell, hcell.1, hcell.2]
    · rw [if_neg hcell]
      refine (Environment.descriptor_congr fun key hkey => h key fun hpattern => ?_).symm
      rw [hpattern] at hkey
      exact hcell (Environment.cell_of_mem_descriptorVariables hkey)
  rw [bind_congr hown]
  exact congrArg (fun descriptor => { bind env with descriptor }) hdescriptor

end LayeredSettings
