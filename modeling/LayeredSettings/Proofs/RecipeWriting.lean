import LayeredSettings.Proofs.Recipe
import Mathlib.Data.List.Basic
import Mathlib.Data.List.Nodup

set_option autoImplicit false

/-! # Recipes written back

An entry is written as a token of its own: the name of its kind, a colon and its position. A recipe
is settled by which entries it has, since the merge order tells them all apart. So the tokens of its
entries, in whatever order they are written, are read as the same recipe, and the order of tokens
matters only where a position is left out or a kind comes twice (`Recipe.written_back`). -/

namespace LayeredSettings

/-- The token of an entry. -/
def RecipeEntry.token (e : RecipeEntry) : String :=
  e.kind.name ++ ":" ++ toString e.precedence

namespace SourceKind

theorem speltBy_name (kind : SourceKind) : kind.SpeltBy kind.name.toList := by
  unfold SpeltBy
  cases kind <;> decide

theorem not_isSeparator_of_mem_name {kind : SourceKind} :
    ∀ c ∈ kind.name.toList, Recipe.isSeparator c = false := by
  cases kind <;> simp [SourceKind.name, Recipe.isSeparator, Text.isBlank]

end SourceKind

namespace Recipe

/-! ## The token of an entry -/

theorem toList_token (e : RecipeEntry) :
    e.token.toList = e.kind.name.toList ++ ':' :: (toString e.precedence).toList := by
  simp [RecipeEntry.token]

theorem not_isSeparator_of_isDigit {c : Char} (h : Text.isDigit c = true) :
    isSeparator c = false := by
  simp [isSeparator, Text.not_isBlank_of_isDigit h, Text.ne_of_isDigit (d := ',') h rfl]

theorem token_ne_empty_and_inside (e : RecipeEntry) :
    e.token ≠ "" ∧ ∀ c ∈ e.token.toList, isSeparator c = false := by
  constructor
  · intro h
    have hlist := congrArg String.toList h
    simp [toList_token] at hlist
  · intro c hc
    rw [toList_token, List.mem_append, List.mem_cons] at hc
    rcases hc with hc | rfl | hc
    · exact SourceKind.not_isSeparator_of_mem_name c hc
    · decide
    · exact not_isSeparator_of_isDigit (Text.isDigit_of_mem_toString hc)

/-- What is behind the colon of a token is its position. -/
theorem describes_placed_iff {name digits : List Char} {kind : SourceKind} {place? : Option Nat} :
    Describes (name ++ ':' :: digits) kind place? ↔
      kind.SpeltBy name ∧ digits ≠ [] ∧ (∀ c ∈ digits, Text.isDigit c = true)
        ∧ Text.decimalValue digits < Word.unsigned64
        ∧ place? = some (Text.decimalValue digits) := by
  constructor
  · intro h
    generalize htext : name ++ ':' :: digits = text at h
    cases h with
    | name spelt => exact absurd (by simp [← htext]) spelt.colon_notMem
    | @placed shown place _ spelt some_digit all_digits fits =>
      have hplace : ':' ∉ place := fun h => absurd (all_digits ':' h) (by decide)
      obtain ⟨rfl, -, rfl⟩ := (List.append_cons_inj_of_notMem spelt.colon_notMem hplace).1 htext.symm
      exact ⟨spelt, some_digit, all_digits, fits, rfl⟩
  · rintro ⟨spelt, some_digit, all_digits, fits, rfl⟩
    exact .placed spelt some_digit all_digits fits

/-- The token of an entry describes the kind of the entry, with its position, and nothing else. -/
theorem describes_token_iff {e : RecipeEntry} {kind : SourceKind} {place? : Option Nat} :
    Describes e.token.toList kind place? ↔
      e.precedence < Word.unsigned64 ∧ kind = e.kind ∧ place? = some e.precedence := by
  have hspelt := e.kind.speltBy_name
  rw [toList_token, describes_placed_iff, Text.decimalValue_toString]
  constructor
  · rintro ⟨hkind, -, -, fits, hplace⟩
    exact ⟨fits, hkind.unique hspelt, hplace⟩
  · rintro ⟨fits, rfl, hplace⟩
    exact ⟨hspelt, Text.toList_toString_ne_nil _, fun _ => Text.isDigit_of_mem_toString, fits, hplace⟩

theorem isFor_token_iff {e : RecipeEntry} (fits : e.precedence < Word.unsigned64)
    {kind : SourceKind} : IsFor kind e.token ↔ kind = e.kind := by
  simp only [IsFor, describes_token_iff, fits, true_and, exists_and_left, exists_eq, and_true]

/-! ## Positions of 64 bits -/

theorem length_tokens_le (text : String) : (tokens text).length ≤ text.length := by
  have hruns := (Text.runs_eq_iff (p := isSeparator) (l := text.toList).1 rfl).length_le
  rw [String.length_toList] at hruns
  simpa [tokens] using hruns

/-- Tokens are numbered with 64 bits unless there are too many of them. -/
theorem precedence_lt {text : String} (short : text.length < Word.unsigned64) {e : RecipeEntry}
    (he : e ∈ (ofText text).entries) : e.precedence < Word.unsigned64 := by
  obtain ⟨front, token, back, place?, hsplit, -, hdescribes, hprecedence⟩ :=
    ((ofText_reads text).2.mem_iff e).1 he
  rw [hprecedence]
  generalize token.toList = chars at hdescribes
  cases hdescribes with
  | placed _ _ _ fits => exact fits
  | name _ =>
    have hlength := length_tokens_le text
    rw [hsplit, List.length_append, List.length_cons] at hlength
    show 1 + front.length < Word.unsigned64
    omega

/-! ## Entries settle a recipe -/

instance : Std.Irrefl Before where
  irrefl e h := by
    unfold Before at h
    omega

/-- The merge order leaves no choice: entries stand in one order only. -/
theorem eq_of_mem_iff {entries others : List RecipeEntry} (h : entries.Pairwise Before)
    (hothers : others.Pairwise Before) (same : ∀ e, e ∈ entries ↔ e ∈ others) :
    entries = others := by
  have hperm := (List.perm_ext_iff_of_nodup h.nodup hothers.nodup).2 same
  refine List.Perm.eq_of_pairwise (fun a b _ _ hab hba => ?_) h hothers hperm
  unfold Before at hab hba
  omega

/-- Tokens of which each one that is understood gives its position, and no two are for one kind. -/
structure PlacedApart (tokens : List String) : Prop where
  placed : ∀ t ∈ tokens, ∀ kind place?, Describes t.toList kind place? → place?.isSome = true
  apart : tokens.Pairwise fun t u => ∀ kind, ¬ (IsFor kind t ∧ IsFor kind u)

theorem PlacedApart.perm {ts us : List String} (h : PlacedApart ts) (hperm : ts.Perm us) :
    PlacedApart us where
  placed t ht := h.placed t (hperm.mem_iff.2 ht)
  apart := (hperm.pairwise_iff fun hne kind hboth => hne kind hboth.symm).1 h.apart

/-- Where no token depends on its number and no kind comes twice, every token counts. -/
theorem PlacedApart.isFirst_iff {ts : List String} (h : PlacedApart ts) {number : Nat}
    {e : RecipeEntry} :
    IsFirst number ts e ↔ ∃ t ∈ ts, Describes t.toList e.kind (some e.precedence) := by
  constructor
  · rintro ⟨front, token, back, place?, rfl, -, hdescribes, hprecedence⟩
    have hmem : token ∈ front ++ token :: back := by simp
    obtain ⟨n, rfl⟩ := Option.isSome_iff_exists.1 (h.placed token hmem _ _ hdescribes)
    obtain rfl : e.precedence = n := hprecedence
    exact ⟨token, hmem, hdescribes⟩
  · rintro ⟨token, hmem, hdescribes⟩
    obtain ⟨front, back, rfl⟩ := List.append_of_mem hmem
    refine ⟨front, token, back, _, rfl, fun t ht hkind => ?_, hdescribes, rfl⟩
    have hapart := (List.pairwise_append.1 h.apart).2.2 t ht token (by simp)
    exact hapart e.kind ⟨hkind, _, hdescribes⟩

theorem placedApart_tokens {entries : List RecipeEntry}
    (fits : ∀ e ∈ entries, e.precedence < Word.unsigned64)
    (hnodup : (entries.map RecipeEntry.kind).Nodup) :
    PlacedApart (entries.map RecipeEntry.token) := by
  constructor
  · intro t ht kind place? hdescribes
    obtain ⟨e, -, rfl⟩ := List.mem_map.1 ht
    obtain ⟨-, -, rfl⟩ := describes_token_iff.1 hdescribes
    rfl
  · rw [List.pairwise_map]
    refine (List.pairwise_map.1 hnodup).imp_of_mem fun {d e} hd he hne kind hboth => ?_
    rw [isFor_token_iff (fits d hd), isFor_token_iff (fits e he)] at hboth
    exact hne (hboth.1.symm.trans hboth.2)

/-! ## Written tokens -/

theorem entries_eq_of_perm {text other : String} (h : PlacedApart (tokens text))
    (hperm : (tokens text).Perm (tokens other)) : (ofText other).entries = (ofText text).entries := by
  obtain ⟨-, hreads⟩ := ofText_reads text
  obtain ⟨-, hother⟩ := ofText_reads other
  refine eq_of_mem_iff hother.pairwise hreads.pairwise fun e => ?_
  rw [hother.mem_iff, hreads.mem_iff, (h.perm hperm).isFirst_iff, h.isFirst_iff]
  simp only [hperm.mem_iff]

theorem ignored_perm {text other : String} (hperm : (tokens text).Perm (tokens other)) :
    (ofText other).ignored.Perm (ofText text).ignored := by
  rw [(ofText_reads other).2.ignored_eq, (ofText_reads text).2.ignored_eq]
  exact hperm.symm.filter _

theorem tokens_of_maximalRuns {text : String} {ts : List String}
    (h : Text.MaximalRuns isSeparator text.toList (ts.map String.toList)) : tokens text = ts := by
  rw [tokens, Text.runs_of_maximalRuns h, List.map_map]
  simp [Function.comp_def]

/-- The tokens of entries are read as these entries, each kind of which comes once. -/
theorem ofText_of_tokens {written : String} {order entries : List RecipeEntry}
    (fits : ∀ e ∈ order, e.precedence < Word.unsigned64)
    (hnodup : (order.map RecipeEntry.kind).Nodup) (hsorted : entries.Pairwise Before)
    (hperm : order.Perm entries) (htokens : tokens written = order.map RecipeEntry.token) :
    ofText written = ⟨entries, []⟩ := by
  obtain ⟨-, hreads⟩ := ofText_reads written
  have hentries : (ofText written).entries = entries := by
    refine eq_of_mem_iff hreads.pairwise hsorted fun e => ?_
    rw [hreads.mem_iff, htokens, (placedApart_tokens fits hnodup).isFirst_iff, ← hperm.mem_iff]
    constructor
    · rintro ⟨t, ht, hdescribes⟩
      obtain ⟨d, hd, rfl⟩ := List.mem_map.1 ht
      obtain ⟨-, hkind, hplace⟩ := describes_token_iff.1 hdescribes
      obtain rfl : e = d := by
        cases e
        cases d
        simp_all
      exact hd
    · intro he
      exact ⟨e.token, List.mem_map_of_mem he, describes_token_iff.2 ⟨fits e he, rfl, rfl⟩⟩
  have hignored : (ofText written).ignored = [] := by
    rw [hreads.ignored_eq, htokens, List.filter_eq_nil_iff]
    intro t ht
    obtain ⟨e, he, rfl⟩ := List.mem_map.1 ht
    have hvalid : IsValid e.token := ⟨e.kind, (isFor_token_iff (fits e he)).2 rfl⟩
    simp [hvalid]
  cases hrecipe : ofText written
  simp_all

/-- **Recipes are written back.** The tokens of the entries that a text writes, in any order and with
    any commas and blanks between them, are read as these entries, and none of them is put aside; a
    text of `2 ^ 64` characters might number its tokens beyond the positions that can be written. So
    texts with the same tokens, each with a position and each for a kind of its own, write the same
    entries. -/
theorem written_back :
    (∀ (text written : String) (order : List RecipeEntry), text.length < Word.unsigned64 →
        order.Perm (ofText text).entries →
        Text.MaximalRuns isSeparator written.toList (order.map fun e => e.token.toList) →
        ofText written = ⟨(ofText text).entries, []⟩)
      ∧ (∀ (text sep : String) (order : List RecipeEntry), text.length < Word.unsigned64 →
        order.Perm (ofText text).entries → sep ≠ "" → (∀ c ∈ sep.toList, isSeparator c = true) →
        ofText (Text.joinWith sep (order.map RecipeEntry.token)) = ⟨(ofText text).entries, []⟩)
      ∧ ∀ text other : String, PlacedApart (tokens text) → (tokens text).Perm (tokens other) →
        (ofText other).entries = (ofText text).entries
          ∧ (ofText other).ignored.Perm (ofText text).ignored := by
  have hwritten : ∀ (text written : String) (order : List RecipeEntry),
      text.length < Word.unsigned64 → order.Perm (ofText text).entries →
      tokens written = order.map RecipeEntry.token →
      ofText written = ⟨(ofText text).entries, []⟩ := by
    intro text written order short hperm htokens
    obtain ⟨-, hreads⟩ := ofText_reads text
    have fits : ∀ e ∈ order, e.precedence < Word.unsigned64 :=
      fun e he => precedence_lt short (hperm.mem_iff.1 he)
    have hnodup := (hperm.map RecipeEntry.kind).nodup_iff.2 hreads.nodup
    exact ofText_of_tokens fits hnodup hreads.pairwise hperm htokens
  refine ⟨?_, ?_, ?_⟩
  · intro text written order short hperm hruns
    refine hwritten text written order short hperm (tokens_of_maximalRuns ?_)
    rw [List.map_map]
    exact hruns
  · intro text sep order short hperm hne hsep
    refine hwritten text _ order short hperm (tokens_of_maximalRuns ?_)
    refine Text.maximalRuns_joinWith hne hsep fun t ht => ?_
    obtain ⟨e, -, rfl⟩ := List.mem_map.1 ht
    exact token_ne_empty_and_inside e
  · intro text other hplaced hperm
    exact ⟨entries_eq_of_perm hplaced hperm, ignored_perm hperm⟩

/-- Two kinds, the first without a position, written back in the order of the text. -/
theorem written_back_of_two_kinds :
    let text := "remote_kv local_file:0"
    let order : List RecipeEntry := [⟨.keyValue, 1⟩, ⟨.file, 0⟩]
    (text.length < Word.unsigned64 ∧ order.Perm (ofText text).entries)
      ∧ ofText "remote_kv:1,\tlocal_file:0" = ⟨(ofText text).entries, []⟩
      ∧ ofText "remote_kv:1, local_file:0" = ⟨(ofText text).entries, []⟩
      ∧ PlacedApart (tokens "remote_kv:1 local_file:0")
      ∧ (ofText "local_file:0,remote_kv:1").entries = (ofText "remote_kv:1 local_file:0").entries := by
  intro text order
  have short : text.length < Word.unsigned64 := by decide
  have hperm : order.Perm (ofText text).entries := by
    have hread : (addAll {} 1 (tokens text)).entries = order := by decide +kernel
    exact hread ▸ (List.mergeSort_perm _ RecipeEntry.le).symm
  have hruns : Text.MaximalRuns isSeparator "remote_kv:1,\tlocal_file:0".toList
      (order.map fun e => e.token.toList) := Text.runs_eq_iff.1 (by decide +kernel)
  have hplaced : PlacedApart (tokens "remote_kv:1 local_file:0") := by
    have htokens : tokens "remote_kv:1 local_file:0" = order.map RecipeEntry.token := by
      decide +kernel
    rw [htokens]
    exact placedApart_tokens (by decide) (by decide)
  refine ⟨⟨short, hperm⟩, ?_, ?_, hplaced, ?_⟩
  · exact written_back.1 text _ order short hperm hruns
  · have hsep : ∀ c ∈ ", ".toList, isSeparator c = true := by simp [isSeparator, Text.isBlank]
    exact written_back.2.1 text ", " order short hperm (by decide) hsep
  · exact (written_back.2.2 _ _ hplaced (by decide +kernel)).1

end Recipe

end LayeredSettings
