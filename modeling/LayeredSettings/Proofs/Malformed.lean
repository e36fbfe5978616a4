import LayeredSettings.Proofs.Documents

set_option autoImplicit false

/-! # Octets that are no text

Files, range answers and secrets are decoded strictly: octets that encode no text are refused there,
and nothing of them is held. A store that answers with the document as it is decodes it loosely, and
so reads a text that nobody wrote, with replacement characters in it. `ConfigSource.malformed_read`
states both. -/

namespace LayeredSettings

/-- No text has these octets. -/
def Malformed (octets : List UInt8) : Prop :=
  ∀ text, Utf8.encode text ≠ octets

/-! ## What each source makes of octets -/

/-- A file whose octets are no text cannot be read. -/
theorem FileSource.load_of_malformed {s : FileSource} {w : World} {path : String} {node : FileNode}
    {octets : List UInt8} (located : s.locate w = .ok path)
    (found : w.files.resolve? path = some node) (content : node.content? = some octets)
    (malformed : Malformed octets) : s.load w = .error (.fileRead path) := by
  have htext : w.files.text? path = none := by
    unfold Files.text?
    rw [found]
    simpa [content] using Utf8.decode?_eq_none_iff.2 malformed
  rw [load_of_locate located, documentAt_of_text?_eq_none htext]
  rfl

theorem KeyValueSource.treeOf_etcd3_of_malformed (s : KeyValueSource) {r : Response}
    {octets : List UInt8} {others : List String} (success : r.isSuccess = true)
    (stored : RangeAnswer.ofBody? r.body = some (Base64.encode octets :: others))
    (malformed : Malformed octets) : s.treeOf .etcd3 r = .error .decode := by
  rw [treeOf, s.document_etcd3 success stored, Utf8.decode?_eq_none_iff.2 malformed]
  rfl

/-- The checksum is right, so it is the decoding that refuses a secret whose octets are no text. -/
theorem SecretManagerSource.treeOf_of_malformed (s : SecretManagerSource) {r : Response}
    {payload : SecretPayload} {octets : List UInt8} (success : r.isSuccess = true)
    (stored : SecretPayload.ofBody? r.body = some (some payload))
    (data : payload.data = Base64.encode octets)
    (checksum : payload.Declares (Crc32c.checksum octets)) (malformed : Malformed octets) :
    s.treeOf r = .error .decode := by
  have hpayload : s.payload r = .ok payload := ((s.payload_iff r).1 payload).2 ⟨success, stored⟩
  have hverified := (verifyChecksum_iff s.resourceName octets payload).1.2 checksum
  have hnone := Utf8.decode?_eq_none_iff.2 malformed
  have hdoc : s.document payload = .error .decode := by
    unfold document
    rw [data, Base64.decode?_encode]
    simp only [hverified, Except.ok_bind, hnone]
  rw [treeOf, hpayload, Except.ok_bind, hdoc]
  rfl

/-! ## Sources of octets -/

namespace ConfigSource

/-- A source that octets reach: they are the content of the located file, or the server succeeds and
    answers with them in the way of its protocol, with their checksum where it sends one. -/
inductive Holds (send : Transport) (w : World) (octets : List UInt8) : ConfigSource → Prop where
  | file {s : FileSource} {path : String} {node : FileNode} (located : s.locate w = .ok path)
    (found : w.files.resolve? path = some node) (content : node.content? = some octets) :
    Holds send w octets (.file s)
  | consul {s : KeyValueSource} {r : Response} (protocol : Protocol.ofName s.protocol = .ok .consul)
    (answered : (send (s.request .consul)).result = .ok r) (success : r.isSuccess = true)
    (body : r.body = octets) :
    Holds send w octets (.keyValue s)
  | etcd3 {s : KeyValueSource} {r : Response} {others : List String}
    (protocol : Protocol.ofName s.protocol = .ok .etcd3)
    (answered : (send (s.request .etcd3)).result = .ok r) (success : r.isSuccess = true)
    (stored : RangeAnswer.ofBody? r.body = some (Base64.encode octets :: others)) :
    Holds send w octets (.keyValue s)
  | secretManager {s : SecretManagerSource} {r : Response} {payload : SecretPayload}
    (answered : (send s.request).result = .ok r) (success : r.isSuccess = true)
    (stored : SecretPayload.ofBody? r.body = some (some payload))
    (data : payload.data = Base64.encode octets)
    (checksum : payload.Declares (Crc32c.checksum octets)) :
    Holds send w octets (.secretManager s)

/-- The store whose answer is decoded loosely, if the source is one. -/
def loose? : ConfigSource → Option KeyValueSource
  | keyValue s => if Protocol.ofName s.protocol = .ok .consul then some s else none
  | _ => none

variable {send : Transport} {w : World} {octets : List UInt8} {s : ConfigSource}

/-- Every source of octets that are no text refuses them, but for a store that decodes loosely. -/
theorem Holds.result_of_malformed (h : Holds send w octets s) (malformed : Malformed octets)
    (strict : s.loose? = none) :
    ∃ e, (s.loadVia send w).result = .error e ∧ (e = .decode ∨ ∃ path, e = .fileRead path) := by
  cases h with
  | @file s path node located found content =>
    refine ⟨.fileRead path, ?_, .inr ⟨path, rfl⟩⟩
    rw [loadVia, FileSource.load_of_malformed located found content malformed]
    rfl
  | consul protocol _ _ _ => simp [loose?, protocol] at strict
  | @etcd3 s r others protocol answered success stored =>
    refine ⟨.decode, ?_, .inl rfl⟩
    exact (KeyValueSource.result_loadVia protocol answered).trans
      (s.treeOf_etcd3_of_malformed success stored malformed)
  | @secretManager s r payload answered success stored data checksum =>
    refine ⟨.decode, ?_, .inl rfl⟩
    exact (SecretManagerSource.result_loadVia answered).trans
      (s.treeOf_of_malformed success stored data checksum malformed)

theorem Holds.result_of_loose (h : Holds send w octets s) {kv : KeyValueSource}
    (loose : s.loose? = some kv) :
    (s.loadVia send w).result = kv.format.tree (Utf8.decodeLossy octets) kv.label := by
  cases h with
  | file _ _ _ => simp [loose?] at loose
  | @consul s r protocol answered success body =>
    obtain rfl : s = kv := by simpa [loose?, protocol] using loose
    subst body
    exact (KeyValueSource.result_loadVia protocol answered).trans (s.treeOf_consul_eq success)
  | etcd3 protocol _ _ _ => simp [loose?, protocol] at loose
  | secretManager _ _ _ _ _ => simp [loose?] at loose

/-- **Octets that are no text.** A source that such octets reach fails and holds nothing, whatever
    its format, unless it is a store that answers with the document as it is: that one reads the
    text of lossy decoding instead, in which replacement characters stand for what was malformed. -/
theorem malformed_read (send : Transport) (w : World) (octets : List UInt8) (s : ConfigSource)
    (reached : Holds send w octets s) (malformed : Malformed octets) :
    let P := SourceState.provider (loadVia send w)
    (s.loose? = none → P.held (.fresh s) = [] ∧ ∃ e, P.report (.fresh s) = .error e
        ∧ (e = .decode ∨ ∃ path, e = .fileRead path))
      ∧ ∀ kv, s.loose? = some kv →
        (s.loadVia send w).result = kv.format.tree (Utf8.decodeLossy octets) kv.label
          ∧ '\ufffd' ∈ (Utf8.decodeLossy octets).toList := by
  intro P
  constructor
  · intro strict
    obtain ⟨e, hfails, hcause⟩ := reached.result_of_malformed malformed strict
    exact ⟨SourceState.held_of_error hfails, e, SourceState.report_eq_error_iff.2 hfails, hcause⟩
  · intro kv loose
    exact ⟨reached.result_of_loose loose, Utf8.replacement_mem_decodeLossy malformed⟩

/-- The octets of `a: ` and one more that starts no character, in a file, a range answer and a
    secret. -/
theorem malformed_read_of_lone_octet :
    let octets : List UInt8 := [0x61, 0x3A, 0x20, 0xFF]
    let w : World := { files := { nodes := [(["settings.yaml"], .octets octets)] } }
    let range := Utf8.encode "\x7b\"kvs\":[\x7b\"value\":\"YTog/w==\"\x7d]\x7d"
    let access := Utf8.encode
      "\x7b\"payload\":\x7b\"data\":\"YTog/w==\",\"dataCrc32c\":3717197846\x7d\x7d"
    let send : Transport := fun r => ⟨[r],
      if r.body.isSome then (Answer.status 200 range).received
      else (Answer.status 200 access).received⟩
    let sources : List ConfigSource :=
      [ .file ⟨"settings", .yaml, []⟩,
        .keyValue ⟨"etcd3", "store:2379", "app/settings", .yaml, none⟩,
        .secretManager ⟨"demo", "settings", .yaml, none, none⟩ ]
    let P := SourceState.provider (loadVia send w)
    Malformed octets ∧ (∀ s ∈ sources, Holds send w octets s ∧ s.loose? = none)
      ∧ ∀ s ∈ sources, P.held (.fresh s) = [] ∧ ∃ e, P.report (.fresh s) = .error e := by
  intro octets w range access send sources P
  have malformed : Malformed octets := Utf8.decode?_eq_none_iff.1 (by decide +kernel)
  have reached : ∀ s ∈ sources, Holds send w octets s ∧ s.loose? = none := by
    intro s hs
    simp only [sources, List.mem_cons, List.not_mem_nil, or_false] at hs
    rcases hs with rfl | rfl | rfl
    · have located : FileSource.locate ⟨"settings", .yaml, []⟩ w = .ok "./settings.yaml" := by rfl
      have found : w.files.resolve? "./settings.yaml" = some (.octets octets) := by decide +kernel
      exact ⟨.file located found rfl, rfl⟩
    · have stored : RangeAnswer.ofBody? range = some [Base64.encode octets] := by decide +kernel
      have protocol : Protocol.ofName "etcd3" = .ok .etcd3 := by rfl
      exact ⟨.etcd3 (r := ⟨200, range⟩) protocol rfl rfl stored, by decide +kernel⟩
    · let payload : SecretPayload := ⟨"YTog/w==", some (.ofInt 3717197846)⟩
      have stored : SecretPayload.ofBody? access = some (some payload) := by decide +kernel
      have checksum : payload.Declares (Crc32c.checksum octets) :=
        .inl ⟨by decide +kernel, by decide +kernel⟩
      exact ⟨.secretManager (r := ⟨200, access⟩) rfl rfl stored (by decide +kernel) checksum, rfl⟩
  refine ⟨malformed, reached, fun s hs => ?_⟩
  obtain ⟨hholds, strict⟩ := reached s hs
  obtain ⟨hheld, e, hreport, -⟩ := (malformed_read send w octets s hholds malformed).1 strict
  exact ⟨hheld, e, hreport⟩

/-- So not every source refuses them: from a store that answers with them as they are, the setting
    `a` is held as the replacement character. -/
theorem malformed_held_loosely :
    let octets : List UInt8 := [0x61, 0x3A, 0x20, 0xFF]
    let send : Transport := fun r => ⟨[r], (Answer.status 200 octets).received⟩
    let s : ConfigSource := .keyValue ⟨"consul", "store:8500", "app/settings", .yaml, none⟩
    let P := SourceState.provider (loadVia send {})
    (Malformed octets ∧ Holds send {} octets s)
      ∧ ¬ ((∃ e, P.report (.fresh s) = .error e) ∧ P.held (.fresh s) = [])
      ∧ P.report (.fresh s) = .ok () ∧ P.held (.fresh s) = [("a", .text "\ufffd")] := by
  intro octets send s P
  have malformed : Malformed octets := Utf8.decode?_eq_none_iff.1 (by decide +kernel)
  have protocol : Protocol.ofName "consul" = .ok .consul := by rfl
  have reached : Holds send {} octets s := .consul (r := ⟨200, octets⟩) protocol rfl rfl rfl
  have hread : Format.read .yaml (Utf8.decodeLossy octets) = .ok [("a", .text "\ufffd")] :=
    Format.read_eq_ok_iff.2 (.inl (by decide +kernel))
  have loose : s.loose? = some ⟨"consul", "store:8500", "app/settings", .yaml, none⟩ := by
    decide +kernel
  have hloads : P.report (.fresh s) = .ok () ∧ P.held (.fresh s) = [("a", .text "\ufffd")] := by
    rw [SourceState.report_and_held_iff, reached.result_of_loose loose]
    exact Format.tree_eq_ok_iff.2 hread
  refine ⟨⟨malformed, reached⟩, ?_, hloads⟩
  rintro ⟨⟨e, he⟩, -⟩
  rw [hloads.1] at he
  cases he

end ConfigSource

end LayeredSettings
