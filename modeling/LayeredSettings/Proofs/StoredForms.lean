import LayeredSettings.Proofs.Fallback
import LayeredSettings.Proofs.Integers

set_option autoImplicit false

/-! # Forms of stored values

An integer is read the same from a number and from its decimal text, and a list of words from a list
and from a text that holds them. No date notation takes in the text of an integer
(`Coercion.timeOfText?_toString`): all of them need something else behind its first digits. The main
statement is `Settings.reads_forms`. -/

namespace LayeredSettings

/-! ## Integers are no dates -/

namespace Time

variable {α β : Type} {cs : List Char}

namespace Scan

theorem bind_of_none {a : Scan α} (h : a cs = none) (f : α → Scan β) : (a >>= f) cs = none := by
  show (a cs).bind _ = none
  rw [h, Option.bind_none]

theorem bind_of_some {a : Scan α} {x : α} {rest : List Char} (h : a cs = some (x, rest))
    (f : α → Scan β) : (a >>= f) cs = f x rest := by
  show (a cs).bind _ = _
  rw [h, Option.bind_some]

theorem char_eq_none {c : Char} (h : cs.head? ≠ some c) : char c cs = none := by
  refine bind_of_none ?_ _
  unfold one
  split
  · next d rest =>
    rw [List.head?_cons, ne_eq, Option.some.injEq] at h
    rw [if_neg (by simpa using h)]
  · rfl

theorem digits_eq_none_or (count : Nat) (cs : List Char) :
    digits count cs = none ∨ ∃ n, digits count cs = some (n, cs.drop count) := by
  by_cases h : (cs.take count).length = count ∧ (cs.take count).all Text.isDigit = true
  · exact .inr ⟨_, if_pos h⟩
  · exact .inl (if_neg h)

/-- No word that starts with a letter is read where none stands. -/
theorem word_eq_none {words : List (String × α)}
    (hwords : ∀ w ∈ words, ∃ d more, w.1.toList = d :: more ∧ Text.isLetter d = true)
    (h : ∀ c, cs.head? = some c → Text.isLetter c = false) : word words cs = none := by
  rw [word, Option.map_eq_none_iff, List.find?_eq_none]
  intro w hw hstarts
  obtain ⟨d, more, hword, hd⟩ := hwords w hw
  have hlength : w.1.length = more.length + 1 := by
    rw [← String.length_toList, hword, List.length_cons]
  rw [hword, hlength, beq_iff_eq] at hstarts
  cases cs with
  | nil => cases hstarts
  | cons c rest =>
    rw [List.take_succ_cons, List.map_cons, List.map_cons] at hstarts
    have hletter : Text.isLetter c = true := by
      rw [← Text.isLetter_lowerChar, (List.cons.inj hstarts).1, Text.isLetter_lowerChar, hd]
    rw [h c rfl] at hletter
    cases hletter

theorem whole_of_none {a : Scan α} (h : a cs = none) : whole a cs = none := by
  rw [whole, h]

end Scan

/-- A dash has to follow the year. -/
theorem InternetDate.timestamp?_eq_none (h : (cs.drop 4).head? ≠ some '-') :
    InternetDate.timestamp? cs = none := by
  have hdate : InternetDate.date cs = none := by
    rcases Scan.digits_eq_none_or 4 cs with hyear | ⟨year, hyear⟩
    · exact Scan.bind_of_none hyear _
    · exact (Scan.bind_of_some hyear _).trans (Scan.bind_of_none (Scan.char_eq_none h) _)
  have hparts : InternetDate.parts cs = none := Scan.bind_of_none hdate _
  rw [InternetDate.timestamp?, Scan.whole_of_none hparts, Option.bind_none]

namespace MailDate

/-- What integers are written with. -/
def IsIntegerChar (c : Char) : Prop :=
  Text.isDigit c = true ∨ c = '-'

/-- No blank or comment starts with a character of an integer. -/
theorem afterFiller?_eq_none (h : ∀ c ∈ cs, IsIntegerChar c) : afterFiller? cs = none := by
  cases cs with
  | nil => rfl
  | cons c rest =>
    have hc : ∀ d, Text.isDigit d = false → d ≠ '-' → c ≠ d := by
      rintro d hd hminus rfl
      rcases h c (by simp) with hdigit | rfl
      · rw [hd] at hdigit
        cases hdigit
      · exact hminus rfl
    have hfold : isFoldBlank c = false := by
      simp [isFoldBlank, hc ' ' rfl (by decide), hc '\t' rfl (by decide)]
    unfold afterFiller? afterFold?
    split
    · next heq => exact absurd (List.cons.inj heq).1 (hc '(' rfl (by decide))
    · split
      · next heq => exact absurd (List.cons.inj heq).1 (hc '\r' rfl (by decide))
      · next heq =>
        obtain ⟨rfl, rfl⟩ := List.cons.inj heq
        rw [hfold, if_neg (by simp)]
      · rfl

theorem fillers_of_integerChars (h : ∀ c ∈ cs, IsIntegerChar c) : fillers cs = some ((), cs) := by
  unfold fillers
  cases cs with
  | nil => rfl
  | cons c rest => rw [List.length_cons, afterFillers, afterFiller?_eq_none h]

theorem filler_eq_none (h : ∀ c ∈ cs, IsIntegerChar c) : filler cs = none := by
  rw [filler, afterFiller?_eq_none h, Option.map_none]

/-- No name of a day starts with a character of an integer. -/
theorem weekday_of_integerChars (h : ∀ c ∈ cs, IsIntegerChar c) : weekday cs = some ((), cs) := by
  have hword : Scan.word weekdays cs = none := by
    refine Scan.word_eq_none (by simp [weekdays, Text.isLetter]) fun c hc => ?_
    rcases h c (List.mem_of_head? hc) with hdigit | rfl
    · exact Text.not_isLetter_of_isDigit hdigit
    · rfl
  have hnone : Scan.optional (Scan.word weekdays) cs = some (none, cs) := by
    rw [Scan.optional, Scan.orElse, Scan.bind_of_none hword]
    rfl
  rw [weekday, Scan.bind_of_some hnone]
  rfl

theorem day_eq_none_or (cs : List Char) : day cs = none ∨ ∃ d n, day cs = some (d, cs.drop n) := by
  unfold day Scan.orElse
  rcases Scan.digits_eq_none_or 2 cs with htwo | ⟨d, htwo⟩
  · rw [htwo]
    exact (Scan.digits_eq_none_or 1 cs).imp_right fun ⟨d, hone⟩ => ⟨d, 1, hone⟩
  · rw [htwo]
    exact .inr ⟨d, 2, rfl⟩

/-- Something else has to stand behind the day. -/
theorem timestamp?_eq_none (h : ∀ c ∈ cs, IsIntegerChar c) : timestamp? cs = none := by
  have hbehind : ∀ f : Nat → Unit → Scan Date, (day >>= fun d => filler >>= f d) cs = none := by
    intro f
    rcases day_eq_none_or cs with hday | ⟨d, n, hday⟩
    · exact Scan.bind_of_none hday _
    · have hfiller : filler (cs.drop n) = none :=
        filler_eq_none fun c hc => h c (List.mem_of_mem_drop hc)
      exact (Scan.bind_of_some hday _).trans (Scan.bind_of_none hfiller _)
  have hdate : date cs = none :=
    (Scan.bind_of_some (fillers_of_integerChars h) _).trans
      ((Scan.bind_of_some (weekday_of_integerChars h) _).trans (hbehind _))
  have hparts : parts cs = none := Scan.bind_of_none hdate _
  rw [timestamp?, Scan.whole_of_none hparts, Option.bind_none]

end MailDate

end Time

/-! ## Forms of integers -/

/-- What stores an integer: the number, or its decimal text, perhaps with blanks around it. -/
inductive IntegerForm (n : Int) : Value → Prop where
  | number : IntegerForm n (.ofInt n)
  | text {s : String} (padded : Text.Padded Text.isBlank (toString n) s) : IntegerForm n (.text s)

namespace Coercion

theorem trim_of_integer {n : Int} {s : String} (h : Text.Padded Text.isBlank (toString n) s) :
    Text.trim s = toString n :=
  Text.trim_of_padded h fun _ hc => Text.not_isBlank_of_mem_toString hc

/-- The text of an integer is read as Unix seconds, since it writes no date. -/
theorem timeOfText?_toString (n : Int) :
    timeOfText? (toString n) = (Text.signed64? (toString n)).bind Timestamp.ofUnix? := by
  have hdash : ((toString n).toList.drop 4).head? ≠ some '-' := by
    intro hhead
    have hmem : '-' ∈ (toString n).toList.tail.drop 3 := by
      rw [List.drop_tail]
      exact List.mem_of_head? hhead
    exact Text.minus_notMem_tail n (List.mem_of_mem_drop hmem)
  rw [timeOfText?, Time.InternetDate.timestamp?_eq_none hdash,
    Time.MailDate.timestamp?_eq_none fun c hc => Text.isDigit_or_minus hc]
  rfl

section Signed

variable {n : Int} (hlow : -2 ^ 63 ≤ n) (hhigh : n < 2 ^ 63) {v : Value} (h : IntegerForm n v)
include hlow hhigh

theorem isSigned64_of_range : Text.isSigned64 n = true := by
  simp only [Text.isSigned64, Word.signed64, Bool.and_eq_true, decide_eq_true_eq]
  omega

include h

theorem read_int : int.read v = some n := by
  have hrange := isSigned64_of_range hlow hhigh
  cases h with
  | number =>
    unfold int Value.ofInt
    dsimp only
    rw [wholeOf, Number.signed64?, if_pos hrange, Option.getD_some]
  | text padded =>
    unfold int
    dsimp only
    rw [trim_of_integer padded, Text.signed64?_toString, if_pos hrange]

theorem readTime_eq : readTime v = Timestamp.ofUnix? n := by
  have hrange := isSigned64_of_range hlow hhigh
  cases h with
  | number => rw [Value.ofInt, readTime, Number.signed64?, if_pos hrange, Option.bind_some]
  | text padded =>
    rw [readTime, trim_of_integer padded, timeOfText?_toString, Text.signed64?_toString,
      if_pos hrange, Option.bind_some]

end Signed

theorem read_duration {n : Nat} (hn : n < 2 ^ 64) {v : Value} (h : IntegerForm n v) :
    duration.read v = some ⟨n⟩ := by
  have hrange : n < Word.unsigned64 := hn
  cases h with
  | number =>
    have hnumber : (Number.whole n).unsigned64? = some n := by
      rw [Number.unsigned64?_eq_some_iff]
      exact ⟨rfl, hrange⟩
    unfold duration Value.ofInt
    dsimp only
    rw [durationOfNumber?, hnumber]
  | text padded =>
    unfold duration
    dsimp only
    rw [trim_of_integer padded, durationOfText?, Text.toString_natCast, Text.unsigned64?_toString,
      if_pos hrange]

end Coercion

/-! ## Forms of lists of words -/

/-- What stores a list of words: the list of them, or a text in which blanks part them. -/
inductive WordsForm (words : List String) : Value → Prop where
  | list : WordsForm words (.list (words.map .text))
  | text {s : String} (parted : Text.Parted Text.isBlank words s) : WordsForm words (.text s)

theorem Coercion.read_texts {words : List String}
    (hwords : ∀ word ∈ words, word ≠ "" ∧ ∀ c ∈ word.toList, Text.isBlank c = false) {v : Value}
    (h : WordsForm words v) : texts.read v = some words := by
  cases h with
  | list =>
    show some ((words.map Value.text).filterMap readText) = some words
    have hread : readText ∘ Value.text = some := rfl
    rw [List.filterMap_map, hread, List.filterMap_some]
  | @text s parted =>
    have hruns := Text.runs_of_maximalRuns (parted.maximalRuns hwords)
    unfold texts
    dsimp only
    rw [Text.words, hruns, List.map_map]
    simp

/-! ## Getters -/

namespace Settings

/-- What the getters give for the forms that are stored under a key. -/
structure ReadsForms (s : Settings) (key : String) : Prop where
  /-- An integer is read as it is, and as the same timestamp, from each of its forms. -/
  integer : ∀ n : Int, -2 ^ 63 ≤ n → n < 2 ^ 63 → ∀ v, IntegerForm n v → s.get? key = some v →
    s.read .int key = n ∧ s.time? key = Timestamp.ofUnix? n
  /-- The text of a stored integer is its decimal text. -/
  decimal : ∀ n : Int, s.get? key = some (.ofInt n) → s.read .text key = toString n
  /-- An integer without a sign is read as so many nanoseconds. -/
  nanoseconds : ∀ n : Nat, n < 2 ^ 64 → ∀ v, IntegerForm n v → s.get? key = some v →
    s.read .duration key = ⟨n⟩
  /-- Words are read from each of their forms. -/
  words : ∀ words : List String,
    (∀ word ∈ words, word ≠ "" ∧ ∀ c ∈ word.toList, Text.isBlank c = false) →
    ∀ v, WordsForm words v → s.get? key = some v → s.read .texts key = words

theorem read_of_get? {α : Type} {s : Settings} {key : String} {c : Coercion α} {v : Value} {x : α}
    (hget : s.get? key = some v) (hread : c.read v = some x) : s.read c key = x :=
  read_of_some (by rw [read?, hget, Option.bind_some, hread])

/-- **Texts are read as what they write.** -/
theorem reads_forms (s : Settings) (key : String) : s.ReadsForms key where
  integer n hlow hhigh v hform hget := by
    refine ⟨read_of_get? hget (Coercion.read_int hlow hhigh hform), ?_⟩
    rw [time?, hget, Option.bind_some, Coercion.readTime_eq hlow hhigh hform]
  decimal n hget := read_of_get? hget rfl
  nanoseconds n hn v hform hget := read_of_get? hget (Coercion.read_duration hn hform)
  words words hwords v hform hget := read_of_get? hget (Coercion.read_texts hwords hform)

/-- Seconds between blanks, the most nanoseconds as a text, and words parted by a wide blank and a
    line end. -/
theorem reads_forms_of_texts :
    let s : Settings :=
      { tree :=
          [ ("hosts", .text "a\u3000b1\nc"), ("limit", .text "18446744073709551615"),
            ("since", .text "\t-62135596800 ") ] }
    s.read .int "since" = -62135596800 ∧ s.time? "since" = some ⟨-62135596800, 0, 0⟩
      ∧ s.read .duration "limit" = ⟨18446744073709551615⟩
      ∧ s.read .texts "hosts" = ["a", "b1", "c"] := by
  intro s
  have since : IntegerForm (-62135596800) (.text "\t-62135596800 ") :=
    .text ⟨['\t'], [' '], by simp [Text.isBlank], by simp [Text.isBlank], by decide +kernel⟩
  have limit : IntegerForm (18446744073709551615 : Nat) (.text "18446744073709551615") :=
    .text ⟨[], [], by simp, by simp, by decide +kernel⟩
  have hosts : WordsForm ["a", "b1", "c"] (.text "a\u3000b1\nc") :=
    .text (@Text.Parted.cons _ "a" "b1" "\u3000" _ ["c"] (by decide) (by simp [Text.isBlank])
      (@Text.Parted.cons _ "b1" "c" "\n" _ [] (by decide) (by simp [Text.isBlank]) (.single "c")))
  have hwords : ∀ word ∈ ["a", "b1", "c"], word ≠ "" ∧ ∀ c ∈ word.toList, Text.isBlank c = false :=
    by simp [Text.isBlank]
  have hsince :=
    (reads_forms s "since").integer _ (by decide) (by decide) _ since (by decide +kernel)
  exact ⟨hsince.1, hsince.2.trans (by decide),
    (reads_forms s "limit").nanoseconds _ (by decide) _ limit (by decide +kernel),
    (reads_forms s "hosts").words _ hwords _ hosts (by decide +kernel)⟩

end Settings

end LayeredSettings
