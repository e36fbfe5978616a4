import LayeredSettings.Proofs.Outcome
import LayeredSettings.Source.Provider
import LayeredSettings.Source.SecretManager

set_option autoImplicit false

/-! # Secrets are verified before they are read

An initialisation succeeds only on an answer whose payload declares the checksum of its own octets,
and it tells of corruption exactly if that is what is missing. The main statement is
`SecretManagerSource.init_law`. -/

namespace LayeredSettings

/-! ## Declared checksums -/

namespace SecretPayload

/-- A payload declares a checksum: it holds a number of the unsigned 64-bit range, or a text that
    writes one between blanks. -/
def Declares (p : SecretPayload) (sum : Nat) : Prop :=
  (p.checksum = some (.number (.whole sum)) ∧ sum < Word.unsigned64)
    ∨ ∃ s, p.checksum = some (.text s) ∧ Text.unsigned64? (Text.trim s) = some sum

theorem expectedChecksum?_eq_some_iff {p : SecretPayload} {sum : Nat} :
    expectedChecksum? p.checksum = some sum ↔ p.Declares sum := by
  unfold expectedChecksum? Declares
  cases hc : p.checksum with
  | none => simp
  | some v =>
    cases v with
    | text s => simp
    | number n => simp [Number.unsigned64?_eq_some_iff]
    | _ => simp

end SecretPayload

/-! ## Corruption -/

/-- An error that tells of damaged data. -/
def Error.IsCorruption (e : Error) : Prop :=
  ∃ resource reason, e = .dataCorruption resource reason

/-- A step that fails because data is damaged. -/
def FindsCorruption {α : Type} (x : Except Error α) : Prop :=
  ∃ e, x = .error e ∧ e.IsCorruption

theorem findsCorruption_bind_iff {α β : Type} {x : Except Error α} {f : α → Except Error β} :
    FindsCorruption (x >>= f) ↔ FindsCorruption x ∨ ∃ a, x = .ok a ∧ FindsCorruption (f a) := by
  unfold FindsCorruption
  constructor
  · rintro ⟨e, he, hcorrupt⟩
    rcases Except.bind_eq_error_iff.1 he with hx | ⟨a, ha, hf⟩
    · exact .inl ⟨e, hx, hcorrupt⟩
    · exact .inr ⟨a, ha, e, hf, hcorrupt⟩
  · rintro (⟨e, hx, hcorrupt⟩ | ⟨a, ha, e, hf, hcorrupt⟩)
    · exact ⟨e, Except.bind_eq_error_iff.2 (.inl hx), hcorrupt⟩
    · exact ⟨e, Except.bind_eq_error_iff.2 (.inr ⟨a, ha, hf⟩), hcorrupt⟩

theorem not_findsCorruption_tree {f : Format} {text source : String} :
    ¬ FindsCorruption (f.tree text source) := by
  rintro ⟨e, he, resource, reason, rfl⟩
  obtain ⟨fault, -, hparse⟩ := Format.tree_eq_error_iff.1 he
  cases hparse

/-- Octets are taken with the checksum that they have, and are damaged with any other. -/
theorem verifyChecksum_iff (resource : String) (octets : List UInt8) (p : SecretPayload) :
    (verifyChecksum resource octets p.checksum = .ok () ↔ p.Declares (Crc32c.checksum octets))
      ∧ (FindsCorruption (verifyChecksum resource octets p.checksum) ↔
          ¬ p.Declares (Crc32c.checksum octets)) := by
  rw [← SecretPayload.expectedChecksum?_eq_some_iff]
  unfold verifyChecksum FindsCorruption
  cases SecretPayload.expectedChecksum? p.checksum with
  | none =>
    refine ⟨by simp, fun _ => by simp, fun _ => ⟨_, rfl, _, _, rfl⟩⟩
  | some expected =>
    by_cases h : Crc32c.checksum octets = expected
    · simp [h]
    · simp only [if_neg h]
      refine ⟨by simp [Ne.symm h], fun _ => by simp [Ne.symm h], fun _ => ⟨_, rfl, _, _, rfl⟩⟩

/-! ## Answers -/

namespace Answer

/-- An answer of success whose body reads as an access response, with a payload or without. -/
def Carries (a : Answer) (payload : Option SecretPayload) : Prop :=
  ∃ code body, a = .status code body ∧ 200 ≤ code ∧ code < 300
    ∧ SecretPayload.ofBody? (Response.ofStatus code body).body = some payload

/-- An answer delivers settings: its payload holds the octets of a document in base64, declares the
    checksum of these octets, and the document is a map, or null for none. -/
def Delivers (a : Answer) (f : Format) (tree : Tree) : Prop :=
  ∃ payload octets text, a.Carries (some payload)
    ∧ Base64.decode? payload.data = some octets
    ∧ payload.Declares (Crc32c.checksum octets)
    ∧ Utf8.decode? octets = some text
    ∧ (f.value? text = some (.map tree) ∨ f.value? text = some .null ∧ tree = [])

/-- An answer is damaged: it reads well but has no payload, or its payload reads well but does not
    declare the checksum of its octets. -/
def IsDamaged (a : Answer) : Prop :=
  a.Carries none
    ∨ ∃ payload octets, a.Carries (some payload)
        ∧ Base64.decode? payload.data = some octets
        ∧ ¬ payload.Declares (Crc32c.checksum octets)

end Answer

namespace SecretManagerSource

variable {s : SecretManagerSource}

theorem payload_iff (s : SecretManagerSource) (r : Response) :
    (∀ p, s.payload r = .ok p ↔
        r.isSuccess = true ∧ SecretPayload.ofBody? r.body = some (some p))
      ∧ (FindsCorruption (s.payload r) ↔
          r.isSuccess = true ∧ SecretPayload.ofBody? r.body = some none) := by
  unfold payload FindsCorruption
  cases hsuccess : r.isSuccess with
  | false => simp [Error.IsCorruption]
  | true =>
    cases SecretPayload.ofBody? r.body with
    | none => simp [Error.IsCorruption]
    | some found => cases found <;> simp [Error.IsCorruption]

theorem document_iff (s : SecretManagerSource) (p : SecretPayload) :
    (∀ text, s.document p = .ok text ↔
        ∃ octets, Base64.decode? p.data = some octets
          ∧ p.Declares (Crc32c.checksum octets) ∧ Utf8.decode? octets = some text)
      ∧ (FindsCorruption (s.document p) ↔
          ∃ octets, Base64.decode? p.data = some octets
            ∧ ¬ p.Declares (Crc32c.checksum octets)) := by
  unfold document
  cases hdata : Base64.decode? p.data with
  | none => simp [FindsCorruption, Error.IsCorruption]
  | some octets =>
    obtain ⟨hverified, hdamaged⟩ := verifyChecksum_iff s.resourceName octets p
    simp only [Option.some.injEq, exists_eq_left']
    constructor
    · intro text
      rw [Except.bind_eq_ok_iff, ← hverified]
      cases Utf8.decode? octets with
      | none => simp
      | some found =>
        constructor
        · rintro ⟨_, hsum, htext⟩
          exact ⟨hsum, congrArg some (Except.ok.inj htext)⟩
        · rintro ⟨hsum, htext⟩
          exact ⟨(), hsum, congrArg Except.ok (Option.some.inj htext)⟩
    · rw [findsCorruption_bind_iff, hdamaged]
      cases Utf8.decode? octets with
      | none => simp [FindsCorruption, Error.IsCorruption]
      | some found => simp [FindsCorruption]

theorem treeOf_iff (s : SecretManagerSource) (r : Response) :
    (∀ tree, s.treeOf r = .ok tree ↔
        ∃ p octets text, (r.isSuccess = true ∧ SecretPayload.ofBody? r.body = some (some p))
          ∧ Base64.decode? p.data = some octets ∧ p.Declares (Crc32c.checksum octets)
          ∧ Utf8.decode? octets = some text ∧ s.format.read text = .ok tree)
      ∧ (FindsCorruption (s.treeOf r) ↔
          (r.isSuccess = true ∧ SecretPayload.ofBody? r.body = some none)
            ∨ ∃ p octets, (r.isSuccess = true ∧ SecretPayload.ofBody? r.body = some (some p))
                ∧ Base64.decode? p.data = some octets
                ∧ ¬ p.Declares (Crc32c.checksum octets)) := by
  obtain ⟨hpayload, hnone⟩ := s.payload_iff r
  constructor
  · intro tree
    constructor
    · intro h
      obtain ⟨p, hp, h⟩ := Except.bind_eq_ok_iff.1 h
      obtain ⟨text, htext, h⟩ := Except.bind_eq_ok_iff.1 h
      obtain ⟨octets, hdata, hsum, hutf8⟩ := ((s.document_iff p).1 text).1 htext
      exact ⟨p, octets, text, (hpayload p).1 hp, hdata, hsum, hutf8, Format.tree_eq_ok_iff.1 h⟩
    · rintro ⟨p, octets, text, hp, hdata, hsum, hutf8, hread⟩
      have htext := ((s.document_iff p).1 text).2 ⟨octets, hdata, hsum, hutf8⟩
      exact Except.bind_eq_ok_iff.2 ⟨p, (hpayload p).2 hp,
        Except.bind_eq_ok_iff.2 ⟨text, htext, Format.tree_eq_ok_iff.2 hread⟩⟩
  · unfold treeOf
    rw [findsCorruption_bind_iff, hnone]
    refine or_congr_right (exists_congr fun p => ?_)
    rw [findsCorruption_bind_iff, (s.document_iff p).2, hpayload p]
    constructor
    · rintro ⟨hp, ⟨octets, hdata, hsum⟩ | ⟨text, -, hparse⟩⟩
      · exact ⟨octets, hp, hdata, hsum⟩
      · exact absurd hparse not_findsCorruption_tree
    · rintro ⟨octets, hp, hdata, hsum⟩
      exact ⟨hp, .inl ⟨octets, hdata, hsum⟩⟩

/-! ## The law -/

theorem carries_iff {a : Answer} {payload : Option SecretPayload} :
    a.Carries payload ↔
      ∃ r, a.received = .ok r ∧ r.isSuccess = true
        ∧ SecretPayload.ofBody? r.body = some payload := by
  unfold Answer.Carries
  cases a with
  | dropped => simp [Answer.received]
  | status code body =>
    constructor
    · rintro ⟨_, _, hstatus, hlo, hhi, hbody⟩
      obtain ⟨rfl, rfl⟩ := Answer.status.inj hstatus
      exact ⟨_, rfl, by simp [Response.isSuccess, Response.ofStatus, hlo, hhi], hbody⟩
    · rintro ⟨r, hr, hsuccess, hbody⟩
      obtain rfl := Except.ok.inj hr
      simp only [Response.isSuccess, Response.ofStatus, Bool.and_eq_true] at hsuccess
      exact ⟨code, body, rfl, of_decide_eq_true hsuccess.1, of_decide_eq_true hsuccess.2, hbody⟩

/-- What reading an answer gives. -/
theorem received_iff (s : SecretManagerSource) (a : Answer) :
    (∀ tree, a.received >>= s.treeOf = .ok tree ↔ a.Delivers s.format tree)
      ∧ (FindsCorruption (a.received >>= s.treeOf) ↔ a.IsDamaged) := by
  constructor
  · intro tree
    rw [Except.bind_eq_ok_iff]
    constructor
    · rintro ⟨r, hr, htree⟩
      obtain ⟨p, octets, text, hp, hdata, hsum, hutf8, hread⟩ := ((s.treeOf_iff r).1 tree).1 htree
      exact ⟨p, octets, text, carries_iff.2 ⟨r, hr, hp⟩, hdata, hsum, hutf8,
        Format.read_eq_ok_iff.1 hread⟩
    · rintro ⟨p, octets, text, hcarries, hdata, hsum, hutf8, hread⟩
      obtain ⟨r, hr, hp⟩ := carries_iff.1 hcarries
      exact ⟨r, hr, ((s.treeOf_iff r).1 tree).2 ⟨p, octets, text, hp, hdata, hsum, hutf8,
        Format.read_eq_ok_iff.2 hread⟩⟩
  · -- A connection that is dropped is no corruption, so the response decides.
    have hreceived : ¬ FindsCorruption a.received := by
      rintro ⟨e, he, resource, reason, rfl⟩
      cases a with
      | dropped => cases Except.error.inj he
      | status code body => cases he
    rw [findsCorruption_bind_iff]
    constructor
    · rintro (h | ⟨r, hr, h⟩)
      · exact absurd h hreceived
      · rcases (s.treeOf_iff r).2.1 h with hnone | ⟨p, octets, hp, hdata, hsum⟩
        · exact .inl (carries_iff.2 ⟨r, hr, hnone⟩)
        · exact .inr ⟨p, octets, carries_iff.2 ⟨r, hr, hp⟩, hdata, hsum⟩
    · rintro (hcarries | ⟨p, octets, hcarries, hdata, hsum⟩)
      · obtain ⟨r, hr, hnone⟩ := carries_iff.1 hcarries
        exact .inr ⟨r, hr, (s.treeOf_iff r).2.2 (.inl hnone)⟩
      · obtain ⟨r, hr, hp⟩ := carries_iff.1 hcarries
        exact .inr ⟨r, hr, (s.treeOf_iff r).2.2 (.inr ⟨p, octets, hp, hdata, hsum⟩)⟩

/-- **The law of secrets.** Whatever a server answers, a fresh source holds settings exactly if the
    answer delivers them. It tells of corruption exactly if the answer is damaged, and after any
    failure it holds nothing. -/
theorem init_law (s : SecretManagerSource) (send : Transport) (a : Answer)
    (answered : (send s.request).result = a.received) :
    let P := SourceState.provider (loadVia send)
    (∀ tree, P.report (.fresh s) = .ok () ∧ P.held (.fresh s) = tree ↔ a.Delivers s.format tree)
      ∧ (FindsCorruption (P.report (.fresh s)) ↔ a.IsDamaged)
      ∧ (∀ e, P.report (.fresh s) = .error e → P.held (.fresh s) = []) := by
  intro P
  have hload : (loadVia send s).result = a.received >>= s.treeOf := by
    rw [loadVia, Outcome.result_bind, answered]
    simp only [Outcome.result_ofExcept]
  have hreport : FindsCorruption (P.report (.fresh s)) ↔
      FindsCorruption (a.received >>= s.treeOf) := by
    unfold FindsCorruption
    simp only [P, SourceState.report_eq_error_iff, hload]
  refine ⟨?_, ?_, ?_⟩
  · intro tree
    rw [SourceState.report_and_held_iff, hload]
    exact (s.received_iff a).1 tree
  · rw [hreport]
    exact (s.received_iff a).2
  · intro e he
    exact SourceState.held_of_error (SourceState.report_eq_error_iff.1 he)

/-- The law where the document `a: 1` is answered with its checksum. -/
theorem init_law_yaml :
    let s : SecretManagerSource := ⟨"demo", "settings", .yaml, none, none⟩
    let a : Answer := .status 200 (Utf8.encode
      "\x7b\"payload\":\x7b\"data\":\"YTogMQ==\",\"dataCrc32c\":\"2994366965\"\x7d\x7d")
    let send : Transport := fun r => ⟨[r], a.received⟩
    let P := SourceState.provider (loadVia send)
    (send s.request).result = a.received
      ∧ P.report (.fresh s) = .ok () ∧ P.held (.fresh s) = [("a", .ofInt 1)] := by
  intro s a send P
  have delivers : a.Delivers .yaml [("a", .ofInt 1)] := by
    refine ⟨⟨"YTogMQ==", some (.text "2994366965")⟩, Utf8.encode "a: 1", "a: 1", ?_, ?_, ?_, ?_, ?_⟩
    · exact ⟨200, _, rfl, by decide, by decide, by decide +kernel⟩
    · decide +kernel
    · exact .inr ⟨"2994366965", rfl, by decide +kernel⟩
    · decide +kernel
    · exact .inl (by decide +kernel)
  exact ⟨rfl, ((init_law s send a rfl).1 _).2 delivers⟩

end SecretManagerSource

end LayeredSettings
