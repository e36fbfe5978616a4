import LayeredSettings.Proofs.Base64
import LayeredSettings.Proofs.FileTrees
import LayeredSettings.Proofs.SecretManager
import LayeredSettings.Proofs.Utf8
import LayeredSettings.Source.Choice

set_option autoImplicit false

/-! # One document, many sources

However a document reaches a source - as a text, in a file, as the body of an answer or in base64
inside one - the same text is read. So all sources of a document hold the same settings, or they
fail for the same reason (`ConfigSource.documents_agree`). -/

namespace LayeredSettings

/-! ## Files -/

namespace Files

/-- A file of the octets of a text reads as this text. -/
theorem text?_of_resolve? {files : Files} {path : String} {node : FileNode} {doc : String}
    (hnode : files.resolve? path = some node) (hcontent : node.content? = some (Utf8.encode doc)) :
    files.text? path = some doc := by
  unfold text?
  rw [hnode]
  simp [hcontent, Utf8.decode?_encode]

end Files

theorem FileSource.tree_of_load {s : FileSource} {w : World} {path doc : String}
    (located : s.locate w = .ok path) (htext : w.files.text? path = some doc) :
    (s.load w).map LoadedFile.tree = s.format.tree doc path := by
  rw [load_of_locate located, documentAt_of_text? htext]
  cases s.format.tree doc path with
  | ok tree => rfl
  | error e => rfl

/-! ## Answers -/

/-- The answer of status 200 with a body. -/
theorem received_ok (body : List UInt8) : (Answer.status 200 body).received = .ok ⟨200, body⟩ :=
  rfl

namespace KeyValueSource

theorem result_loadVia {s : KeyValueSource} {send : Transport} {p : Protocol} {r : Response}
    (protocol : Protocol.ofName s.protocol = .ok p)
    (answered : (send (s.request p)).result = .ok r) : (loadVia send s).result = s.treeOf p r := by
  rw [loadVia, Outcome.result_bind, Outcome.result_ofExcept, protocol, Except.ok_bind,
    Outcome.result_bind, answered, Except.ok_bind, Outcome.result_ofExcept]

/-- A store that answers with the document as it is reads the text of lossy decoding. -/
theorem treeOf_consul_eq (s : KeyValueSource) {r : Response} (success : r.isSuccess = true) :
    s.treeOf .consul r = s.format.tree (Utf8.decodeLossy r.body) s.label := by
  have hdoc : s.document .consul r = .ok (Utf8.decodeLossy r.body) := by
    simp [document, success]
  rw [treeOf, hdoc, Except.ok_bind]

/-- A document that is answered as it is. -/
theorem treeOf_consul (s : KeyValueSource) (doc : String) :
    s.treeOf .consul ⟨200, Utf8.encode doc⟩ = s.format.tree doc s.label := by
  rw [s.treeOf_consul_eq rfl, Utf8.decodeLossy_encode]

/-- The document of a range answer is the text of its octets, if they are one. -/
theorem document_etcd3 (s : KeyValueSource) {r : Response} {octets : List UInt8}
    {others : List String} (success : r.isSuccess = true)
    (stored : RangeAnswer.ofBody? r.body = some (Base64.encode octets :: others)) :
    s.document .etcd3 r = (Utf8.decode? octets).elim (.error .decode) .ok := by
  simp only [document, success, firstDocument, stored, Base64.decode?_encode, Option.bind_some]
  cases Utf8.decode? octets <;> rfl

/-- A document that is answered in base64. -/
theorem treeOf_etcd3 (s : KeyValueSource) {doc : String} {body : List UInt8} {others : List String}
    (stored : RangeAnswer.ofBody? body = some (Base64.encode (Utf8.encode doc) :: others)) :
    s.treeOf .etcd3 ⟨200, body⟩ = s.format.tree doc s.label := by
  rw [treeOf, s.document_etcd3 rfl stored, Utf8.decode?_encode]
  rfl

end KeyValueSource

namespace SecretManagerSource

theorem result_loadVia {s : SecretManagerSource} {send : Transport} {r : Response}
    (answered : (send s.request).result = .ok r) : (loadVia send s).result = s.treeOf r := by
  rw [loadVia, Outcome.result_bind, answered, Except.ok_bind, Outcome.result_ofExcept]

/-- A document that is answered in base64 with its checksum. -/
theorem treeOf_payload (s : SecretManagerSource) {doc : String} {body : List UInt8}
    {payload : SecretPayload} (stored : SecretPayload.ofBody? body = some (some payload))
    (data : payload.data = Base64.encode (Utf8.encode doc))
    (checksum : payload.Declares (Crc32c.checksum (Utf8.encode doc))) :
    s.treeOf ⟨200, body⟩ = s.format.tree doc s.resourceName := by
  have hpayload : s.payload ⟨200, body⟩ = .ok payload :=
    ((s.payload_iff ⟨200, body⟩).1 payload).2 ⟨rfl, stored⟩
  have hdoc : s.document payload = .ok doc := by
    refine ((s.document_iff payload).1 doc).2 ⟨Utf8.encode doc, ?_, checksum, ?_⟩
    · rw [data, Base64.decode?_encode]
    · exact Utf8.decode?_encode doc
  rw [treeOf, hpayload, Except.ok_bind, hdoc, Except.ok_bind]

end SecretManagerSource

/-! ## Sources of a document -/

namespace ConfigSource

/-- A source of a format that a document reaches: it is its value, or the located file holds its
    octets, or the server answers with them in the way of its protocol. -/
inductive Serves (send : Transport) (w : World) (f : Format) (doc : String) : ConfigSource → Prop where
  | stringVar {s : StringVar} (format : s.format = f) (value : s.value = doc) :
    Serves send w f doc (.stringVar s)
  | file {s : FileSource} {path : String} {node : FileNode} (format : s.format = f)
    (located : s.locate w = .ok path) (found : w.files.resolve? path = some node)
    (content : node.content? = some (Utf8.encode doc)) :
    Serves send w f doc (.file s)
  | consul {s : KeyValueSource} (format : s.format = f)
    (protocol : Protocol.ofName s.protocol = .ok .consul)
    (answered : (send (s.request .consul)).result
      = (Answer.status 200 (Utf8.encode doc)).received) :
    Serves send w f doc (.keyValue s)
  | etcd3 {s : KeyValueSource} {body : List UInt8} {others : List String} (format : s.format = f)
    (protocol : Protocol.ofName s.protocol = .ok .etcd3)
    (answered : (send (s.request .etcd3)).result = (Answer.status 200 body).received)
    (stored : RangeAnswer.ofBody? body = some (Base64.encode (Utf8.encode doc) :: others)) :
    Serves send w f doc (.keyValue s)
  | secretManager {s : SecretManagerSource} {body : List UInt8} {payload : SecretPayload}
    (format : s.format = f)
    (answered : (send s.request).result = (Answer.status 200 body).received)
    (stored : SecretPayload.ofBody? body = some (some payload))
    (data : payload.data = Base64.encode (Utf8.encode doc))
    (checksum : payload.Declares (Crc32c.checksum (Utf8.encode doc))) :
    Serves send w f doc (.secretManager s)

/-- Every source that a document reaches reads just this document. -/
theorem Serves.result_loadVia {send : Transport} {w : World} {f : Format} {doc : String}
    {s : ConfigSource} (h : Serves send w f doc s) :
    ∃ label, (s.loadVia send w).result = f.tree doc label := by
  cases h with
  | @stringVar s format value =>
    subst format value
    exact ⟨s.label, Outcome.result_ofExcept s.load⟩
  | @file s path node format located found content =>
    subst format
    exact ⟨path, FileSource.tree_of_load located (Files.text?_of_resolve? found content)⟩
  | @consul s format protocol answered =>
    subst format
    rw [received_ok] at answered
    exact ⟨s.label, (KeyValueSource.result_loadVia protocol answered).trans (s.treeOf_consul doc)⟩
  | @etcd3 s body others format protocol answered stored =>
    subst format
    rw [received_ok] at answered
    exact ⟨s.label, (KeyValueSource.result_loadVia protocol answered).trans (s.treeOf_etcd3 stored)⟩
  | @secretManager s body payload format answered stored data checksum =>
    subst format
    rw [received_ok] at answered
    exact ⟨s.resourceName, (SecretManagerSource.result_loadVia answered).trans
      (s.treeOf_payload stored data checksum)⟩

/-- **Sources agree on a document.** All sources of one format that a document reaches hold the same
    settings once they are initialised, or all of them fail to parse it, for the same reason. -/
theorem documents_agree (send : Transport) (w : World) (f : Format) (doc : String)
    (sources : List ConfigSource) (served : ∀ s ∈ sources, Serves send w f doc s) :
    let P := SourceState.provider (loadVia send w)
    (∀ s ∈ sources, ∃ label, (s.loadVia send w).result = f.tree doc label)
      ∧ ((∃ tree, ∀ s ∈ sources, P.report (.fresh s) = .ok () ∧ P.held (.fresh s) = tree)
        ∨ ∃ fault, ∀ s ∈ sources, P.held (.fresh s) = []
            ∧ ∃ label, P.report (.fresh s) = .error (.parse label fault)) := by
  intro P
  refine ⟨fun s hs => (served s hs).result_loadVia, ?_⟩
  cases hread : f.read doc with
  | ok tree =>
    refine .inl ⟨tree, fun s hs => ?_⟩
    obtain ⟨label, hlabel⟩ := (served s hs).result_loadVia
    rw [SourceState.report_and_held_iff, hlabel]
    exact Format.tree_eq_ok_iff.2 hread
  | error fault =>
    refine .inr ⟨fault, fun s hs => ?_⟩
    obtain ⟨label, hlabel⟩ := (served s hs).result_loadVia
    have hfails : (s.loadVia send w).result = .error (.parse label fault) := by
      rw [hlabel]
      exact Format.tree_eq_error_iff.2 ⟨fault, hread, rfl⟩
    exact ⟨SourceState.held_of_error hfails, label, SourceState.report_eq_error_iff.2 hfails⟩

/-- All five kinds of sources agree on the document `a: 1`. -/
theorem documents_agree_yaml :
    let doc := "a: 1"
    let w : World := { files := { nodes := [(["settings.yaml"], .octets (Utf8.encode doc))] } }
    let range := Utf8.encode "\x7b\"kvs\":[\x7b\"value\":\"YTogMQ==\"\x7d]\x7d"
    let access := Utf8.encode
      "\x7b\"payload\":\x7b\"data\":\"YTogMQ==\",\"dataCrc32c\":2994366965\x7d\x7d"
    let send : Transport := fun r => ⟨[r],
      if r.consulToken.isSome then (Answer.status 200 (Utf8.encode doc)).received
      else if r.body.isSome then (Answer.status 200 range).received
      else (Answer.status 200 access).received⟩
    let sources : List ConfigSource :=
      [ .stringVar ⟨"CONFIG", doc, .yaml⟩,
        .file ⟨"settings", .yaml, []⟩,
        .keyValue ⟨"consul", "store:8500", "app/settings", .yaml, some "token"⟩,
        .keyValue ⟨"etcd3", "store:2379", "app/settings", .yaml, none⟩,
        .secretManager ⟨"demo", "settings", .yaml, none, none⟩ ]
    let P := SourceState.provider (loadVia send w)
    (∀ s ∈ sources, Serves send w .yaml doc s)
      ∧ ∀ s ∈ sources, P.report (.fresh s) = .ok () ∧ P.held (.fresh s) = [("a", .ofInt 1)] := by
  intro doc w range access send sources P
  have served : ∀ s ∈ sources, Serves send w .yaml doc s := by
    intro s hs
    simp only [sources, List.mem_cons, List.not_mem_nil, or_false] at hs
    rcases hs with rfl | rfl | rfl | rfl | rfl
    · exact .stringVar rfl rfl
    · have located : FileSource.locate ⟨"settings", .yaml, []⟩ w = .ok "./settings.yaml" := by rfl
      have found : w.files.resolve? "./settings.yaml" = some (.octets (Utf8.encode doc)) := by
        decide +kernel
      exact .file rfl located found rfl
    · exact .consul rfl (by rfl) rfl
    · have stored : RangeAnswer.ofBody? range = some [Base64.encode (Utf8.encode doc)] := by
        decide +kernel
      exact .etcd3 rfl (by rfl) rfl stored
    · let payload : SecretPayload := ⟨"YTogMQ==", some (.ofInt 2994366965)⟩
      have stored : SecretPayload.ofBody? access = some (some payload) := by decide +kernel
      have checksum : payload.Declares (Crc32c.checksum (Utf8.encode doc)) :=
        .inl ⟨by decide +kernel, by decide +kernel⟩
      exact .secretManager rfl rfl stored (by decide +kernel) checksum
  refine ⟨served, ?_⟩
  have hread : Format.read .yaml doc = .ok [("a", .ofInt 1)] :=
    Format.read_eq_ok_iff.2 (.inl (by decide +kernel))
  have hagree := (documents_agree send w .yaml doc sources served).1
  intro s hs
  obtain ⟨label, hlabel⟩ := hagree s hs
  rw [SourceState.report_and_held_iff, hlabel]
  exact Format.tree_eq_ok_iff.2 hread

end ConfigSource

end LayeredSettings
