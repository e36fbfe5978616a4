import LayeredSettings.Proofs.Addresses
import LayeredSettings.Proofs.Base64
import LayeredSettings.Proofs.Requests
import LayeredSettings.Proofs.Tokens

set_option autoImplicit false

/-! # The key that a request asks for

A range request carries its key in base64, so requests for two keys are never the same. In the other
protocol the key is written into the address as it is, and characters that mean something there are
lost: requests tell apart those keys that an address holds as they are written
(`KeyValueSource.requests_differ`). -/

namespace LayeredSettings.KeyValueSource

/-- A key that an address holds as it is written. -/
structure IsVerbatim (key : String) : Prop where
  /-- No character starts a fragment, is another slash or is left out. -/
  characters : ∀ c ∈ key.toList, c ≠ '#' ∧ c ≠ '\\' ∧ Url.isLeftOut c = false
  /-- No percent sign starts an escape. -/
  escapes : Url.spellsEscape key.toList = false
  /-- No segment in front of the query is a dot segment. -/
  segments : ∀ segment ∈ Text.pieces Url.isSlash (key.toList.takeWhile (· != '?')),
    Url.isDot segment = false ∧ Url.isDoubleDot segment = false

/-- The address names a host that the network reaches: whatever path is put on it and whatever else a
    request says, the request is answered. -/
def NamesHost (network : Network) (s : KeyValueSource) : Prop :=
  ∃ u, Url.ofText? network.names (s.base ++ "/") = some u
    ∧ ∀ (r : Request) (url : Url), url.scheme = u.scheme → url.authority = u.authority →
        (network.answer? (r.sentTo url)).isSome = true

variable {network : Network} {s : KeyValueSource}

/-! ## Addresses -/

theorem base_congr {t : KeyValueSource} (h : t.address = s.address) : t.base = s.base := by
  rw [base, base, h]

theorem getLast?_root (s : KeyValueSource) : (s.base ++ "/").toList.getLast? = some '/' :=
  Text.getLast?_append (by decide) s.base

/-- Requests to the address of a store with a path on it are answered. -/
theorem NamesHost.exists_ofText? (host : s.NamesHost network) {back : String} {d : Char}
    (hback : back.toList.getLast? = some d) (hd : Url.isCut d = false)
    (hkept : ∀ e ∈ back.toList, Url.isLeftOut e = false) :
    ∃ url, Url.ofText? network.names (s.base ++ "/" ++ back) = some url
      ∧ ∀ r : Request, (network.answer? (r.sentTo url)).isSome = true := by
  obtain ⟨u, hu, hanswered⟩ := host
  obtain ⟨url, hurl, hscheme, hauthority⟩ :=
    Url.exists_ofText?_append hu (getLast?_root s) hback hd hkept
  exact ⟨url, hurl, fun r => hanswered r url hscheme hauthority⟩

theorem isSome_behind?_text {url : Url} (hscheme : url.scheme = .http) :
    (Text.behind? "http://" url.text).isSome = true := by
  have htext : ∃ rest, url.text = "http://" ++ rest := by
    unfold Url.text
    rw [hscheme, String.append_assoc, String.append_assoc, String.append_assoc]
    exact ⟨_, rfl⟩
  obtain ⟨rest, htext⟩ := htext
  rw [Text.behind?_eq_some_iff.2 htext]
  rfl

/-- Plain addresses name hosts that are reached where exchanges are served. -/
theorem namesHost_serving {u : Url} (exchanges : List Exchange)
    (hu : Url.ofText? (Network.serving exchanges).names (s.base ++ "/") = some u)
    (hscheme : u.scheme = .http) : s.NamesHost (.serving exchanges) := by
  refine ⟨u, hu, fun r url hsame _ => ?_⟩
  simp only [Network.serving, Request.sentTo, isSome_behind?_text (hsame.trans hscheme), if_true]
  split <;> rfl

/-! ## Keys in addresses -/

/-- The address with a key on it, as a path behind its last slash. -/
theorem address_eq (s : KeyValueSource) (key : String) :
    s.base ++ "/v1/kv/" ++ key ++ "?raw" = s.base ++ "/" ++ ("v1/kv/" ++ key ++ "?raw") := by
  rw [← String.toList_inj]
  simp

theorem getLast?_raw (key : String) : ("v1/kv/" ++ key ++ "?raw").toList.getLast? = some 'w' :=
  Text.getLast?_append (by decide) ("v1/kv/" ++ key)

theorem IsVerbatim.kept {key : String} (h : IsVerbatim key) :
    ∀ e ∈ ("v1/kv/" ++ key ++ "?raw").toList, Url.isLeftOut e = false := by
  have hfixed : ∀ e ∈ "v1/kv/".toList ++ "?raw".toList, Url.isLeftOut e = false := by
    simp [Url.isLeftOut]
  simp only [String.toList_append, List.mem_append, or_imp, forall_and] at hfixed ⊢
  exact ⟨⟨hfixed.1, fun e he => (h.characters e he).2.2⟩, hfixed.2⟩

/-- The text of an address behind its scheme, with a key on it. -/
theorem IsVerbatim.behind {key : String} (h : IsVerbatim key) {scheme : Url.Scheme}
    {written rest : List Char} {c : Char}
    (hbehind : Url.behindScheme? (Url.cleaned (s.base ++ "/").toList)
      = some (scheme, written ++ c :: rest)) :
    Url.behindScheme? (Url.cleaned (s.base ++ "/v1/kv/" ++ key ++ "?raw").toList)
      = some (scheme, written ++ c :: (rest ++ "v1/kv/".toList ++ key.toList ++ "?raw".toList)) := by
  rw [address_eq, Url.behindScheme?_cleaned_append (getLast?_root s) hbehind (getLast?_raw key)
    (by decide) h.kept]
  simp

theorem escape_raw : Url.escape Url.escapedInQuery "?raw".toList = "?raw".toList := by
  decide

section Parts

variable {names : HostNames} {scheme : Url.Scheme} {written : List Char}
  {authority : Url.Authority}

/-- In the query of an address a key is sent as its characters, some of them escaped. -/
theorem exists_sent_in_query {path query : List Char}
    (hwritten : Url.WritesAuthority names scheme written authority)
    (hhead : ∀ d, path.head? = some d → Url.isSlash d = true) (hmark : '?' ∉ path)
    (hash : '#' ∉ path ++ query) :
    ∃ before, ∀ (address : String) (key : List Char), '#' ∉ key →
      Url.behindScheme? (Url.cleaned address.toList)
        = some (scheme, written ++ path ++ '?' :: (query ++ key ++ "?raw".toList)) →
      ∃ url sent, Url.ofText? names address = some url ∧ Url.EscapedAs key sent
        ∧ url.text.toList = before ++ sent ++ "?raw".toList := by
  let front := (Url.text ⟨scheme, authority, "", none⟩).toList ++ (Url.sentPath path).toList
  refine ⟨front ++ '?' :: Url.escape Url.escapedInQuery query, fun address key hkey hbehind => ?_⟩
  have hash : '#' ∉ path ++ (query ++ key ++ "?raw".toList) := by
    rw [List.mem_append, not_or] at hash
    simp [hash, hkey]
  have hparts := Url.ofText?_of_parts hbehind hwritten hhead hmark hash
  refine ⟨_, _, hparts, Url.escapedAs_escape Url.escapedInQuery key, ?_⟩
  rw [Url.toList_text, String.toList_ofList, Url.escape_append, Url.escape_append, escape_raw]
  simp [front]

/-- The first question mark of a key starts the query, or else the one behind the key does. -/
theorem exists_query (key : List Char) :
    ∃ inPath inQuery query, key.takeWhile (· != '?') = inPath ∧ inPath ++ inQuery = key
      ∧ '?' ∉ inPath ∧ inQuery ++ "?raw".toList = '?' :: query := by
  have hwhole := List.takeWhile_append_dropWhile (p := (· != '?')) (l := key)
  have hinPath : '?' ∉ key.takeWhile (· != '?') := by
    intro hmem
    simpa using List.mem_takeWhile_imp hmem
  cases hdrop : key.dropWhile (· != '?') with
  | nil => exact ⟨_, [], "raw".toList, rfl, by rw [← hdrop, hwhole], hinPath, rfl⟩
  | cons d more =>
    obtain rfl : d = '?' := by simpa using Text.not_of_dropWhile_eq_cons hdrop
    exact ⟨_, '?' :: more, more ++ "?raw".toList, rfl, by rw [← hdrop, hwhole], hinPath, rfl⟩

/-- At the end of the path of an address a key is sent as its characters, some of them escaped, and
    so is what follows a question mark in it. -/
theorem exists_sent_in_path {front : List Char} {c : Char}
    (hwritten : Url.WritesAuthority names scheme written authority) (hc : Url.isSlash c = true)
    (hmark : '?' ∉ c :: front) (hash : '#' ∉ c :: front) :
    ∃ before, ∀ (address : String) (key : String), IsVerbatim key →
      Url.behindScheme? (Url.cleaned address.toList)
        = some (scheme, written ++ (c :: front ++ '/' :: key.toList) ++ "?raw".toList) →
      ∃ url sent, Url.ofText? names address = some url ∧ Url.EscapedAs key.toList sent
        ∧ url.text.toList = before ++ sent ++ "?raw".toList := by
  obtain ⟨before, hbefore⟩ := Url.exists_sentPath_append c front
  refine ⟨(Url.text ⟨scheme, authority, "", none⟩).toList ++ before ++ ['/'],
    fun address key hkey hbehind => ?_⟩
  obtain ⟨inPath, inQuery, query, htake, hwhole, hinPath, hquery⟩ := exists_query key.toList
  have hcharacters := hkey.characters
  rw [← hwhole] at hcharacters
  have hmark : '?' ∉ c :: front ++ '/' :: inPath := by
    rw [List.mem_append, not_or]
    exact ⟨hmark, by simpa using hinPath⟩
  have hash : '#' ∉ (c :: front ++ '/' :: inPath) ++ query := by
    have hkeyHash : '#' ∉ inPath ++ inQuery := fun hd => (hcharacters _ hd).1 rfl
    have hall : '#' ∉ inPath ++ '?' :: query := by
      rw [← hquery]
      simpa using hkeyHash
    simp_all
  have hbackslash : '\\' ∉ inPath := fun hd => (hcharacters _ (List.mem_append_left _ hd)).2.1 rfl
  have hbehind : Url.behindScheme? (Url.cleaned address.toList)
      = some (scheme, written ++ (c :: front ++ '/' :: inPath) ++ '?' :: query) := by
    rw [hbehind, ← hwhole, ← hquery]
    simp
  have hhead : ∀ d, (c :: front ++ '/' :: inPath).head? = some d → Url.isSlash d = true := by
    rintro d ⟨⟩
    exact hc
  have hparts := Url.ofText?_of_parts hbehind hwritten hhead hmark hash
  have hescaped := (Url.escapedAs_escape Url.escapedInPath inPath).append
    (Url.escapedAs_escape Url.escapedInQuery inQuery)
  rw [hwhole] at hescaped
  refine ⟨_, _, hparts, hescaped, ?_⟩
  have hsent : '?' :: Url.escape Url.escapedInQuery query
      = Url.escape Url.escapedInQuery inQuery ++ "?raw".toList := by
    rw [← escape_raw, ← Url.escape_append, hquery]
    rfl
  have hsegments := hkey.segments
  rw [htake] at hsegments
  rw [Url.toList_text, hbefore inPath hbackslash hsegments, String.toList_ofList, hsent]
  simp

end Parts

/-- The address that is sent for a key that it holds as it is written: the key with characters
    escaped, between two texts that do not depend on it. -/
theorem NamesHost.exists_sent (host : s.NamesHost network) (hash : '#' ∉ s.base.toList) :
    ∃ before, ∀ key, IsVerbatim key → ∃ url sent,
      Url.ofText? network.names (s.base ++ "/v1/kv/" ++ key ++ "?raw") = some url
        ∧ Url.EscapedAs key.toList sent ∧ url.text.toList = before ++ sent ++ "?raw".toList := by
  obtain ⟨u, hu, -⟩ := host
  obtain ⟨written, c, rest, hbehind, hwritten, hc⟩ := Url.exists_authority hu (getLast?_root s)
  have hash : '#' ∉ c :: rest := by
    intro hmem
    have hroot := ((Url.behindScheme?_suffix hbehind).sublist.trans (Url.cleaned_sublist _)).mem
      (List.mem_append_right written hmem)
    simp [hash] at hroot
  by_cases hmark : '?' ∈ c :: rest
  · -- The address has a query already, and the key is added to it.
    obtain ⟨path, query, hsplit, hpath⟩ := List.eq_append_cons_of_mem hmark
    rw [hsplit] at hash
    have hhead : ∀ d, path.head? = some d → Url.isSlash d = true := by
      intro d hd
      obtain ⟨more, rfl⟩ := List.head?_eq_some_iff.1 hd
      obtain ⟨rfl, -⟩ := List.cons.inj hsplit
      exact Url.isSlash_of_endsAuthority hc (fun h => hpath (by simp [h]))
        fun h => hash (by simp [h])
    have hash : '#' ∉ path ++ (query ++ "v1/kv/".toList) := by simp_all
    obtain ⟨before, hbefore⟩ := exists_sent_in_query hwritten hhead hpath hash
    refine ⟨before, fun key hkey => hbefore _ key.toList ?_ ?_⟩
    · exact fun hd => (hkey.characters _ hd).1 rfl
    rw [hkey.behind hbehind, ← List.cons_append, ← List.cons_append, ← List.cons_append, hsplit]
    simp
  · -- The key ends the path.
    have hslash : Url.isSlash c = true :=
      Url.isSlash_of_endsAuthority hc (fun h => hmark (by simp [h])) fun h => hash (by simp [h])
    have hmark : '?' ∉ c :: (rest ++ "v1/kv".toList) := by simp_all
    have hash : '#' ∉ c :: (rest ++ "v1/kv".toList) := by simp_all
    obtain ⟨before, hbefore⟩ := exists_sent_in_path hwritten hslash hmark hash
    refine ⟨before, fun key hkey => hbefore _ key hkey ?_⟩
    rw [hkey.behind hbehind]
    simp

/-! ## Requests -/

variable {t : KeyValueSource} {p : Protocol}

/-- A store whose address is answered and whose token can be sent is asked once. -/
theorem requests_loadVia {url : Url} (protocol : Protocol.ofName s.protocol = .ok p)
    (token : s.token.all isHeaderText = true)
    (hurl : Url.ofText? network.names (s.request p).url = some url)
    (hanswered : ∀ r : Request, (network.answer? (r.sentTo url)).isSome = true) :
    (s.loadVia network.send).requests = [(s.request p).sentTo url] := by
  obtain ⟨answer, hanswer⟩ := Option.isSome_iff_exists.1 (hanswered (s.request p))
  rw [loadVia_of_ok protocol, Outcome.requests_bind_ofExcept]
  unfold Network.send
  simp only [hurl, hasSendableHeaders_request token p, if_true, hanswer]

/-- The key of a range request is read back from its body. -/
theorem key_eq_of_body (h : (s.request .etcd3).body = (t.request .etcd3).body) : s.key = t.key := by
  have hbody := congrArg String.toList (Option.some.inj h)
  simp only [String.toList_append, List.append_assoc] at hbody
  have hencoded := String.toList_inj.1
    (List.append_cancel_right (List.append_cancel_left hbody))
  have hoctets : Utf8.encode s.key = Utf8.encode t.key := by
    have hdecode := congrArg Base64.decode? hencoded
    rw [Base64.decode?_encode, Base64.decode?_encode] at hdecode
    exact Option.some.inj hdecode
  have hdecode := congrArg Utf8.decode? hoctets
  rw [Utf8.decode?_encode, Utf8.decode?_encode] at hdecode
  exact Option.some.inj hdecode

/-- Where the address names a host, a key that it holds as it is written is asked for at the address
    with the key on it. -/
theorem NamesHost.answered_of_verbatim (host : s.NamesHost network) {key : String}
    (h : IsVerbatim key) {url : Url}
    (hurl : Url.ofText? network.names (s.base ++ "/v1/kv/" ++ key ++ "?raw") = some url)
    (r : Request) : (network.answer? (r.sentTo url)).isSome = true := by
  obtain ⟨url', hurl', hanswered⟩ := host.exists_ofText? (getLast?_raw key) (by decide) h.kept
  rw [address_eq, hurl', Option.some.injEq] at hurl
  exact hurl ▸ hanswered r

/-- **The key of a request.** Stores of one address that are asked for two keys are sent two
    requests: a range request carries the key in its body, and any other one in its address. The
    latter holds for keys that the address holds as they are written, on an address without a
    fragment. -/
theorem requests_differ (network : Network) (protocol : Protocol.ofName s.protocol = .ok p)
    (protocol' : Protocol.ofName t.protocol = .ok p) (address : t.address = s.address)
    (host : s.NamesHost network) (token : s.token.all isHeaderText = true)
    (token' : t.token.all isHeaderText = true) (differ : s.key ≠ t.key)
    (verbatim : p = .consul → '#' ∉ s.address.toList ∧ IsVerbatim s.key ∧ IsVerbatim t.key) :
    ∃ r r', (s.loadVia network.send).requests = [r] ∧ (t.loadVia network.send).requests = [r']
      ∧ (r.url ≠ r'.url ∨ r.body ≠ r'.body) := by
  have hbase : t.base = s.base := base_congr address
  cases p with
  | consul =>
    obtain ⟨hash, hs, ht⟩ := verbatim rfl
    obtain ⟨before, hbefore⟩ := host.exists_sent (notMem_base (by decide) hash)
    obtain ⟨url, sent, hurl, hsent, htext⟩ := hbefore s.key hs
    obtain ⟨url', sent', hurl', hsent', htext'⟩ := hbefore t.key ht
    have hrequest := requests_loadVia protocol token hurl (host.answered_of_verbatim hs hurl)
    have hanswered := host.answered_of_verbatim ht hurl'
    rw [← hbase] at hurl'
    have hrequest' := requests_loadVia protocol' token' hurl' hanswered
    refine ⟨_, _, hrequest, hrequest', .inl fun (heq : url.text = url'.text) => differ ?_⟩
    rw [heq, htext', List.append_assoc, List.append_assoc] at htext
    have hsame := List.append_cancel_right (List.append_cancel_left htext)
    have hread := Url.unescape?_of_escapedAs hsent hs.escapes
    rw [← hsame, Url.unescape?_of_escapedAs hsent' ht.escapes] at hread
    exact (Option.some.inj hread).symm
  | etcd3 =>
    have hback : "v3/kv/range".toList.getLast? = some 'e' := by decide
    have hkept : ∀ e ∈ "v3/kv/range".toList, Url.isLeftOut e = false := by
      simp [Url.isLeftOut]
    obtain ⟨url, hurl, hanswered⟩ := host.exists_ofText? hback (by decide) hkept
    have hsplit : s.base ++ "/" ++ "v3/kv/range" = s.base ++ "/v3/kv/range" := by
      rw [String.append_assoc]
      rfl
    rw [hsplit] at hurl
    have hrequest := requests_loadVia protocol token hurl hanswered
    rw [← hbase] at hurl
    have hrequest' := requests_loadVia protocol' token' hurl hanswered
    exact ⟨_, _, hrequest, hrequest', .inr fun heq => differ (key_eq_of_body heq)⟩

theorem namesHost_of_name (protocol path : String) :
    NamesHost (.serving []) ⟨protocol, "store:8500", path, .yaml, none⟩ := by
  let store : KeyValueSource := ⟨"consul", "store:8500", "", .yaml, none⟩
  let root : Url := ⟨.http, { host := "store", port := some 8500 }, "/", none⟩
  have hroot : Url.ofText? (Network.serving []).names (store.base ++ "/") = some root := by
    decide +kernel
  have hbase : base ⟨protocol, "store:8500", path, .yaml, none⟩ = store.base := base_congr rfl
  rw [← hbase] at hroot
  exact namesHost_serving [] hroot rfl

/-- Keys with blanks, percent signs and question marks are told apart in an address, and keys with
    number signs in a range request. -/
theorem requests_differ_of_signs :
    let store (protocol path : String) : KeyValueSource :=
      ⟨protocol, "store:8500", path, .yaml, none⟩
    let network := Network.serving []
    (IsVerbatim "my app/100%?" ∧ IsVerbatim "my app/100%")
      ∧ (∃ r r', ((store "consul" "my app/100%?").loadVia network.send).requests = [r]
        ∧ ((store "consul" "/my app/100%").loadVia network.send).requests = [r']
        ∧ (r.url ≠ r'.url ∨ r.body ≠ r'.body))
      ∧ ∃ r r', ((store "etcd3" "app#a").loadVia network.send).requests = [r]
        ∧ ((store "etcd3" "app#b").loadVia network.send).requests = [r']
        ∧ (r.url ≠ r'.url ∨ r.body ≠ r'.body) := by
  intro store network
  have hquestion : IsVerbatim "my app/100%?" := ⟨by simp [Url.isLeftOut], by decide, by decide⟩
  have hplain : IsVerbatim "my app/100%" := ⟨by simp [Url.isLeftOut], by decide, by decide⟩
  have hconsul : Protocol.ofName "consul" = .ok .consul := by rfl
  have hetcd : Protocol.ofName "etcd3" = .ok .etcd3 := by rfl
  refine ⟨⟨hquestion, hplain⟩, ?_, ?_⟩
  · have hkeys : (store "consul" "my app/100%?").key ≠ (store "consul" "/my app/100%").key := by
      decide +kernel
    have hfirst : (store "consul" "my app/100%?").key = "my app/100%?" := by decide +kernel
    have hsecond : (store "consul" "/my app/100%").key = "my app/100%" := by decide +kernel
    rw [← hfirst] at hquestion
    rw [← hsecond] at hplain
    exact requests_differ network hconsul hconsul rfl (namesHost_of_name _ _) rfl rfl hkeys
      fun _ => ⟨by decide, hquestion, hplain⟩
  · have hkeys : (store "etcd3" "app#a").key ≠ (store "etcd3" "app#b").key := by decide +kernel
    exact requests_differ network hetcd hetcd rfl (namesHost_of_name _ _) rfl rfl hkeys
      fun h => by cases h

/-- So not every two keys are told apart: what a fragment, an escape, a dot segment, a backslash or
    a tab loses in an address is not asked for. -/
theorem requests_alike :
    let store (path : String) : KeyValueSource := ⟨"consul", "store:8500", path, .yaml, none⟩
    let requests (path : String) := ((store path).loadVia (Network.serving []).send).requests
    let pairs := [("a#b", "a#c"), ("a b", "a%20b"), ("a/./b", "a/b"), ("a\\b", "a/b"),
      ("a\tb", "ab")]
    ∀ pair ∈ pairs,
      ((store pair.1).NamesHost (.serving []) ∧ (store pair.1).key ≠ (store pair.2).key)
        ∧ ∃ r, requests pair.1 = [r] ∧ requests pair.2 = [r] := by
  intro store requests pairs
  have halike : ∀ pair ∈ pairs, (store pair.1).key ≠ (store pair.2).key
      ∧ (requests pair.1).length = 1 ∧ requests pair.1 = requests pair.2 := by
    decide +kernel
  intro pair hpair
  obtain ⟨hkeys, hone, hsame⟩ := halike pair hpair
  obtain ⟨r, hr⟩ := List.length_eq_one_iff.1 hone
  exact ⟨⟨namesHost_of_name _ _, hkeys⟩, r, hr, hsame ▸ hr⟩

end LayeredSettings.KeyValueSource
