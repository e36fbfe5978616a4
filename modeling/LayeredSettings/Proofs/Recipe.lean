import LayeredSettings.Proofs.Text
import LayeredSettings.Recipe

set_option autoImplicit false

/-! # What a recipe lists

A token describes a kind if it spells the kind's name, alone or with a colon and digits behind it.
Reading a text keeps the first description of each kind, puts aside the tokens that describe
nothing, and never fails. `Recipe.ofText_reads` states this of every text. -/

namespace LayeredSettings

/-! ## Spelling a kind -/

namespace SourceKind

/-- How a character of a name may be spelt: in lower case, and a dash reads as an underscore. -/
def spelt (c : Char) : Char :=
  if Text.lowerChar c = '-' then '_' else Text.lowerChar c

/-- The text spells the name of the kind. -/
def SpeltBy (kind : SourceKind) (text : List Char) : Prop :=
  text.map spelt = kind.name.toList

theorem rank_injective {a b : SourceKind} (h : a.rank = b.rank) : a = b := by
  revert h
  cases a <;> cases b <;> decide

theorem find?_name_eq_some_iff {name : String} {kind : SourceKind} :
    all.find? (fun k => k.name == name) = some kind ↔ kind.name = name := by
  constructor
  · intro h
    simpa using List.find?_some h
  · rintro rfl
    cases kind <;> rfl

/-- A text without blanks names the kind that it spells. -/
theorem ofName?_eq_some_iff {text : List Char} (hblank : ∀ c ∈ text, Text.isBlank c = false)
    {kind : SourceKind} : ofName? (String.ofList text) = some kind ↔ kind.SpeltBy text := by
  have hspelt : Text.replace "-" "_" (Text.lower (String.ofList text))
      = String.ofList (text.map spelt) := by
    have hreplace := Text.replaceFrom_singleton '-' '_' (text.map Text.lowerChar)
    rw [List.map_map] at hreplace
    simp only [Text.replace, Text.lower, String.toList_ofList]
    exact congrArg String.ofList hreplace
  unfold ofName? SpeltBy
  rw [Text.trim_of_not_blank hblank, hspelt, find?_name_eq_some_iff, ← String.toList_inj,
    String.toList_ofList, eq_comm]

theorem SpeltBy.colon_notMem {kind : SourceKind} {text : List Char} (h : kind.SpeltBy text) :
    ':' ∉ text := by
  intro hmem
  have hname : spelt ':' ∈ kind.name.toList := h ▸ List.mem_map_of_mem hmem
  revert hname
  cases kind <;> decide

/-- A text spells one kind at most. -/
theorem SpeltBy.unique {a b : SourceKind} {text : List Char} (ha : a.SpeltBy text)
    (hb : b.SpeltBy text) : a = b := by
  have hname : a.name.toList = b.name.toList := ha.symm.trans hb
  revert hname
  cases a <;> cases b <;> decide

end SourceKind

namespace Recipe

/-! ## Tokens -/

/-- A token describes a kind, perhaps with a position: digits that write a number of 64 bits. -/
inductive Describes : List Char → SourceKind → Option Nat → Prop where
  | name {name : List Char} {kind : SourceKind} (spelt : kind.SpeltBy name) :
    Describes name kind none
  | placed {name digits : List Char} {kind : SourceKind} (spelt : kind.SpeltBy name)
    (some_digit : digits ≠ []) (all_digits : ∀ c ∈ digits, Text.isDigit c = true)
    (fits : Text.decimalValue digits < Word.unsigned64) :
    Describes (name ++ ':' :: digits) kind (some (Text.decimalValue digits))

/-- A token of a kind. -/
def IsFor (kind : SourceKind) (token : String) : Prop :=
  ∃ place?, Describes token.toList kind place?

/-- A token that is understood. -/
def IsValid (token : String) : Prop :=
  ∃ kind, IsFor kind token

theorem position?_eq_some_iff {digits : List Char} {n : Nat} :
    position? digits = some n ↔
      digits ≠ [] ∧ (∀ c ∈ digits, Text.isDigit c = true) ∧ Text.decimalValue digits < Word.unsigned64
        ∧ n = Text.decimalValue digits := by
  unfold position?
  by_cases hall : digits.all Text.isDigit
  · have hdigits : ∀ c ∈ digits, Text.isDigit c = true := List.all_eq_true.1 hall
    rw [if_pos hall]
    by_cases hne : digits = []
    · subst hne
      simp [Text.natOfDigits?]
    · rw [Text.natOfDigits?_ten hne hdigits, Option.filter_eq_some_iff, Option.some.injEq]
      constructor
      · rintro ⟨rfl, hfits⟩
        exact ⟨hne, hdigits, of_decide_eq_true hfits, rfl⟩
      · rintro ⟨-, -, hfits, rfl⟩
        exact ⟨rfl, decide_eq_true hfits⟩
  · have hdigits : ¬ ∀ c ∈ digits, Text.isDigit c = true := fun h => hall (List.all_eq_true.2 h)
    simp [hall, hdigits]

theorem takeWhile_name {name : List Char} (hcolon : ':' ∉ name) (rest : List Char) :
    (name ++ rest).takeWhile (· != ':') = name ++ rest.takeWhile (· != ':') := by
  refine List.takeWhile_append_of_pos fun c hc => ?_
  have hne : c ≠ ':' := fun h => hcolon (h ▸ hc)
  simpa using hne

/-- A token without a colon is a name. -/
theorem entry?_name {name : List Char} (hcolon : ':' ∉ name) (number : Nat) :
    entry? number (String.ofList name)
      = (SourceKind.ofName? (String.ofList name)).map fun kind => ⟨kind, number⟩ := by
  have htake : name.takeWhile (· != ':') = name := by simpa using takeWhile_name hcolon []
  unfold entry?
  simp only [String.toList_ofList, htake, List.drop_length]
  cases SourceKind.ofName? (String.ofList name) <;> rfl

/-- A token with a colon is a name and a position behind the first of them. -/
theorem entry?_placed {name : List Char} (hcolon : ':' ∉ name) (digits : List Char)
    (number : Nat) :
    entry? number (String.ofList (name ++ ':' :: digits))
      = (SourceKind.ofName? (String.ofList name)).bind fun kind =>
          (position? digits).map fun n => ⟨kind, n⟩ := by
  have htake : (name ++ ':' :: digits).takeWhile (· != ':') = name := by
    simpa using takeWhile_name hcolon (':' :: digits)
  unfold entry?
  simp only [String.toList_ofList, htake, List.drop_left]
  cases SourceKind.ofName? (String.ofList name) <;> rfl

/-- A token without blanks has an entry if it describes a kind; its number counts only where it
    gives no position. -/
theorem entry?_eq_some_iff {token : String} (hblank : ∀ c ∈ token.toList, Text.isBlank c = false)
    {number : Nat} {e : RecipeEntry} :
    entry? number token = some e ↔
      ∃ place?, Describes token.toList e.kind place? ∧ e.precedence = place?.getD number := by
  obtain ⟨text, rfl⟩ : ∃ text, token = String.ofList text := ⟨token.toList, by simp⟩
  rw [String.toList_ofList] at hblank ⊢
  constructor
  · intro h
    by_cases hcolon : ':' ∈ text
    · obtain ⟨name, digits, rfl, hname⟩ := List.eq_append_cons_of_mem hcolon
      rw [entry?_placed hname, Option.bind_eq_some_iff] at h
      obtain ⟨kind, hkind, h⟩ := h
      obtain ⟨n, hn, rfl⟩ := Option.map_eq_some_iff.1 h
      obtain ⟨hne, hdigits, hfits, rfl⟩ := position?_eq_some_iff.1 hn
      have hspelt := (SourceKind.ofName?_eq_some_iff fun c hc => hblank c (by simp [hc])).1 hkind
      exact ⟨_, .placed hspelt hne hdigits hfits, rfl⟩
    · rw [entry?_name hcolon] at h
      obtain ⟨kind, hkind, rfl⟩ := Option.map_eq_some_iff.1 h
      exact ⟨none, .name ((SourceKind.ofName?_eq_some_iff hblank).1 hkind), rfl⟩
  · obtain ⟨kind, precedence⟩ := e
    rintro ⟨place?, hdescribes, hprecedence⟩
    simp only at hdescribes hprecedence
    subst hprecedence
    cases hdescribes with
    | name hspelt =>
      rw [entry?_name hspelt.colon_notMem, (SourceKind.ofName?_eq_some_iff hblank).2 hspelt]
      rfl
    | placed hspelt hne hdigits hfits =>
      have hkind := (SourceKind.ofName?_eq_some_iff fun c hc => hblank c (by simp [hc])).2 hspelt
      rw [entry?_placed hspelt.colon_notMem, hkind,
        position?_eq_some_iff.2 ⟨hne, hdigits, hfits, rfl⟩]
      rfl

theorem isFor_iff {token : String} (hblank : ∀ c ∈ token.toList, Text.isBlank c = false)
    (number : Nat) {kind : SourceKind} :
    IsFor kind token ↔ ∃ e, entry? number token = some e ∧ e.kind = kind := by
  constructor
  · rintro ⟨place?, h⟩
    exact ⟨⟨kind, place?.getD number⟩, (entry?_eq_some_iff hblank).2 ⟨place?, h, rfl⟩, rfl⟩
  · rintro ⟨e, he, rfl⟩
    obtain ⟨place?, h, -⟩ := (entry?_eq_some_iff hblank).1 he
    exact ⟨place?, h⟩

/-! ## Reading tokens in order -/

/-- The kinds of the entries that were read so far. -/
abbrev listed (r : Recipe) : List SourceKind :=
  r.entries.map RecipeEntry.kind

theorem mem_entries_add {r : Recipe} {number : Nat} {token : String} {e : RecipeEntry} :
    e ∈ (r.add number token).entries ↔
      e ∈ r.entries ∨ entry? number token = some e ∧ e.kind ∉ r.listed := by
  unfold add
  cases entry? number token with
  | none => simp
  | some found =>
    have hany : (r.entries.any fun other => other.kind == found.kind) = true ↔
        found.kind ∈ r.listed := by simp
    by_cases hlisted : found.kind ∈ r.listed
    · simp only [if_pos (hany.2 hlisted), Option.some.injEq]
      constructor
      · exact .inl
      · rintro (h | ⟨rfl, hnew⟩)
        · exact h
        · exact absurd hlisted hnew
    · simp only [if_neg (mt hany.1 hlisted), Option.some.injEq, List.mem_append,
        List.mem_singleton]
      constructor
      · rintro (h | rfl)
        · exact .inl h
        · exact .inr ⟨rfl, hlisted⟩
      · rintro (h | ⟨rfl, -⟩)
        · exact .inl h
        · exact .inr rfl

theorem mem_listed_add {r : Recipe} {number : Nat} {token : String}
    (hblank : ∀ c ∈ token.toList, Text.isBlank c = false) {kind : SourceKind} :
    kind ∈ (r.add number token).listed ↔ kind ∈ r.listed ∨ IsFor kind token := by
  rw [isFor_iff hblank number]
  simp only [listed, List.mem_map, mem_entries_add]
  constructor
  · rintro ⟨e, he | ⟨he, -⟩, rfl⟩
    · exact .inl ⟨e, he, rfl⟩
    · exact .inr ⟨e, he, rfl⟩
  · rintro (⟨e, he, rfl⟩ | ⟨e, he, rfl⟩)
    · exact ⟨e, .inl he, rfl⟩
    · by_cases hlisted : ∃ other ∈ r.entries, other.kind = e.kind
      · obtain ⟨other, hother, hkind⟩ := hlisted
        exact ⟨other, .inl hother, hkind⟩
      · exact ⟨e, .inr ⟨he, hlisted⟩, rfl⟩

theorem nodup_listed_add {r : Recipe} (h : r.listed.Nodup) (number : Nat) (token : String) :
    (r.add number token).listed.Nodup := by
  unfold add
  cases entry? number token with
  | none => exact h
  | some found =>
    simp only
    split
    · exact h
    · next hnew =>
      have hfound : found.kind ∉ r.listed := by simpa using hnew
      simp only [listed, List.map_append, List.map_cons, List.map_nil]
      refine List.nodup_append.2 ⟨h, by simp, fun kind hkind other hother => ?_⟩
      rw [List.mem_singleton.1 hother]
      exact fun heq => hfound (heq ▸ hkind)

theorem ignored_add (r : Recipe) (number : Nat) (token : String) :
    (r.add number token).ignored
      = r.ignored ++ if entry? number token = none then [token] else [] := by
  unfold add
  cases entry? number token with
  | none => rfl
  | some found =>
    simp only
    split <;> simp

-- What reading one token does is said above; the laws of a whole run do not open it again.
seal add

theorem addAll_nil (r : Recipe) (number : Nat) : addAll r number [] = r :=
  rfl

theorem addAll_cons (r : Recipe) (number : Nat) (token : String) (rest : List String) :
    addAll r number (token :: rest) = addAll (r.add number token) (number + 1) rest :=
  rfl

/-- The entry of the first token of its kind: the tokens are numbered from `number` on, and a token
    without position stands at its number. -/
def IsFirst (number : Nat) (tokens : List String) (e : RecipeEntry) : Prop :=
  ∃ front token back place?, tokens = front ++ token :: back ∧ (∀ t ∈ front, ¬ IsFor e.kind t)
    ∧ Describes token.toList e.kind place?
    ∧ e.precedence = place?.getD (number + front.length)

theorem isFirst_cons_iff {number : Nat} {token : String} {rest : List String} {e : RecipeEntry} :
    IsFirst number (token :: rest) e ↔
      (∃ place?, Describes token.toList e.kind place? ∧ e.precedence = place?.getD number)
        ∨ ¬ IsFor e.kind token ∧ IsFirst (number + 1) rest e := by
  constructor
  · rintro ⟨front, found, back, place?, hsplit, hfront, hdescribes, hprecedence⟩
    cases front with
    | nil =>
      obtain ⟨rfl, -⟩ := List.cons.inj hsplit
      exact .inl ⟨place?, hdescribes, hprecedence⟩
    | cons t front =>
      obtain ⟨rfl, rfl⟩ := List.cons.inj hsplit
      refine .inr ⟨hfront token (by simp), front, found, back, place?, rfl,
        fun t ht => hfront t (by simp [ht]), hdescribes, ?_⟩
      rw [hprecedence, List.length_cons, Nat.add_right_comm, Nat.add_assoc]
  · rintro (⟨place?, hdescribes, hprecedence⟩ | ⟨htoken, front, found, back, place?, rfl, hfront,
      hdescribes, hprecedence⟩)
    · exact ⟨[], token, rest, place?, rfl, by simp, hdescribes, hprecedence⟩
    · refine ⟨token :: front, found, back, place?, rfl, ?_, hdescribes, ?_⟩
      · exact List.forall_mem_cons.2 ⟨htoken, hfront⟩
      · rw [hprecedence, List.length_cons, Nat.add_right_comm, Nat.add_assoc]

/-- The entries that are read are those of the first tokens of their kinds. -/
theorem mem_entries_addAll {r : Recipe} {number : Nat} {tokens : List String}
    (hblank : ∀ t ∈ tokens, ∀ c ∈ t.toList, Text.isBlank c = false) {e : RecipeEntry} :
    e ∈ (addAll r number tokens).entries ↔
      e ∈ r.entries ∨ e.kind ∉ r.listed ∧ IsFirst number tokens e := by
  induction tokens generalizing r number with
  | nil => simp [addAll_nil, IsFirst]
  | cons token rest ih =>
    have htoken := hblank token (by simp)
    rw [addAll_cons, ih fun t ht => hblank t (by simp [ht]), mem_entries_add,
      mem_listed_add htoken, entry?_eq_some_iff htoken, isFirst_cons_iff]
    by_cases hlisted : e.kind ∈ r.listed
    · simp [hlisted]
    · simp [hlisted, or_assoc]

theorem nodup_listed_addAll {r : Recipe} (h : r.listed.Nodup) (number : Nat)
    (tokens : List String) : (addAll r number tokens).listed.Nodup := by
  induction tokens generalizing r number with
  | nil => exact h
  | cons token rest ih => exact ih (nodup_listed_add h number token) (number + 1)

theorem mem_listed_addAll {r : Recipe} {number : Nat} {tokens : List String}
    (hblank : ∀ t ∈ tokens, ∀ c ∈ t.toList, Text.isBlank c = false) {kind : SourceKind} :
    kind ∈ (addAll r number tokens).listed ↔ kind ∈ r.listed ∨ ∃ t ∈ tokens, IsFor kind t := by
  induction tokens generalizing r number with
  | nil => simp [addAll_nil]
  | cons token rest ih =>
    rw [addAll_cons, ih fun t ht => hblank t (by simp [ht]), mem_listed_add (hblank token (by simp))]
    simp [or_assoc]

open Classical in
/-- Tokens that describe nothing are put aside, in order. -/
theorem ignored_addAll {r : Recipe} {number : Nat} {tokens : List String}
    (hblank : ∀ t ∈ tokens, ∀ c ∈ t.toList, Text.isBlank c = false) :
    (addAll r number tokens).ignored
      = r.ignored ++ tokens.filter fun t => decide (¬ IsValid t) := by
  induction tokens generalizing r number with
  | nil => simp [addAll_nil]
  | cons token rest ih =>
    have htoken : IsValid token ↔ entry? number token ≠ none := by
      unfold IsValid
      simp only [isFor_iff (hblank token (by simp)) number]
      cases entry? number token <;> simp
    rw [addAll_cons, ih fun t ht => hblank t (by simp [ht]), ignored_add, List.append_assoc]
    by_cases hvalid : IsValid token
    · simp [htoken.1 hvalid, hvalid]
    · have hnone : entry? number token = none := not_not.1 (mt htoken.2 hvalid)
      simp [hnone, hvalid]

/-! ## The merge order -/

/-- An entry stands before another one: by position, and for equal positions by the rank of its
    kind. -/
def Before (a b : RecipeEntry) : Prop :=
  a.precedence < b.precedence ∨ a.precedence = b.precedence ∧ a.kind.rank < b.kind.rank

theorem le_iff (a b : RecipeEntry) :
    RecipeEntry.le a b = true ↔
      a.precedence < b.precedence ∨ a.precedence = b.precedence ∧ a.kind.rank ≤ b.kind.rank := by
  simp [RecipeEntry.le]

theorem pairwise_before {entries : List RecipeEntry} (h : (entries.map RecipeEntry.kind).Nodup) :
    (entries.mergeSort RecipeEntry.le).Pairwise Before := by
  have hsorted : (entries.mergeSort RecipeEntry.le).Pairwise fun a b => RecipeEntry.le a b = true := by
    refine List.pairwise_mergeSort (fun a b c hab hbc => ?_) (fun a b => ?_) entries
    · rw [le_iff] at *
      omega
    · rw [Bool.or_eq_true, le_iff, le_iff]
      omega
  have hkinds : (entries.mergeSort RecipeEntry.le).Pairwise fun a b => a.kind ≠ b.kind := by
    have hperm := (List.mergeSort_perm entries RecipeEntry.le).map RecipeEntry.kind
    exact List.pairwise_map.1 (hperm.nodup_iff.2 h)
  -- Two entries of different kinds cannot share both position and rank.
  refine (hsorted.and hkinds).imp fun {a b} hab => ?_
  obtain ⟨hle, hkind⟩ := hab
  have hrank : a.kind.rank ≠ b.kind.rank := mt SourceKind.rank_injective hkind
  have hle := (le_iff a b).1 hle
  unfold Before
  omega

/-! ## The law -/

open Classical in
/-- What a recipe has to be like that is read from tokens. -/
structure Reads (tokens : List String) (r : Recipe) : Prop where
  /-- The tokens that describe nothing are put aside as they are, in order. -/
  ignored_eq : r.ignored = tokens.filter fun t => decide (¬ IsValid t)
  /-- Exactly the kinds are listed that some token describes. -/
  listed_iff : ∀ kind, kind ∈ r.listed ↔ ∃ t ∈ tokens, IsFor kind t
  /-- No kind is listed twice. -/
  nodup : r.listed.Nodup
  /-- An entry has the position of the first token of its kind, or else the number of this token. -/
  mem_iff : ∀ e, e ∈ r.entries ↔ IsFirst 1 tokens e
  /-- The entries stand in merge order. -/
  pairwise : r.entries.Pairwise Before

theorem tokens_not_blank (text : String) :
    ∀ t ∈ tokens text, ∀ c ∈ t.toList, Text.isBlank c = false := by
  intro t ht c hc
  obtain ⟨run, hrun, rfl⟩ := List.mem_map.1 ht
  rw [String.toList_ofList] at hc
  have hseparator := (Text.runs_eq_iff.1 rfl).inside run hrun c hc
  unfold isSeparator at hseparator
  exact (Bool.or_eq_false_iff.1 hseparator).2

/-- **The law of recipes.** The tokens of a text are the longest runs without a comma or blank, and
    every text is read as the recipe that they write. -/
theorem ofText_reads (text : String) :
    Text.MaximalRuns isSeparator text.toList ((tokens text).map String.toList)
      ∧ Reads (tokens text) (ofText text) := by
  have hruns : (tokens text).map String.toList = Text.runs isSeparator text.toList := by
    simp [tokens, Function.comp_def]
  refine ⟨Text.runs_eq_iff.1 hruns.symm, ?_⟩
  have hblank := tokens_not_blank text
  -- Sorting keeps the entries that were read, each of them once.
  have hperm : (ofText text).entries.Perm (addAll {} 1 (tokens text)).entries :=
    List.mergeSort_perm _ RecipeEntry.le
  have hlisted := hperm.map RecipeEntry.kind
  have hnodup : (addAll {} 1 (tokens text)).listed.Nodup :=
    nodup_listed_addAll (r := {}) List.nodup_nil 1 (tokens text)
  refine ⟨?_, ?_, ?_, ?_, ?_⟩
  · exact (ignored_addAll hblank).trans (List.nil_append _)
  · intro kind
    exact hlisted.mem_iff.trans ((mem_listed_addAll hblank).trans (by simp))
  · exact hlisted.nodup_iff.2 hnodup
  · intro e
    exact hperm.mem_iff.trans ((mem_entries_addAll hblank).trans (by simp))
  · exact pairwise_before hnodup

end Recipe

end LayeredSettings
