import LayeredSettings.Proofs.Text
import LayeredSettings.Proofs.Utf8
import LayeredSettings.World.Url

set_option autoImplicit false

/-! # Laws of addresses

What is written behind the first slash of an address moves nothing in front of it: the scheme and the
authority stay (`Url.exists_ofText?_append`), the user among it (`Url.basic?_eq_none`), and so does
what is sent before a text without dot segments that ends the path (`Url.exists_sentPath_append`).
Escapes are undone as long as the text itself does not spell one (`Url.unescape?_of_escapedAs`). -/

namespace LayeredSettings.Url

/-! ## Escapes -/

theorem digitValue?_toUpper :
    ∀ n < 16, Text.digitValue? 16 (Nat.digitChar n).toUpper = some n := by
  decide

/-- The octets that an escape writes are read back. -/
theorem unescapeOctets_escapeOctet (octet : UInt8) (rest : List Char) :
    unescapeOctets (escapeOctet octet ++ rest) = octet :: unescapeOctets rest := by
  have hoctet := octet.toNat_lt
  have hvalue : octet.toNat / 16 * 16 + octet.toNat % 16 = octet.toNat := by omega
  show unescapeOctets ('%' :: _ :: _ :: rest) = _
  rw [unescapeOctets, digitValue?_toUpper _ (by omega), digitValue?_toUpper _ (by omega)]
  simp only [hvalue, UInt8.ofNat_toNat]

theorem unescapeOctets_flatMap (octets : List UInt8) (rest : List Char) :
    unescapeOctets (octets.flatMap escapeOctet ++ rest) = octets ++ unescapeOctets rest := by
  induction octets with
  | nil => rfl
  | cons octet octets ih =>
    rw [List.flatMap_cons, List.append_assoc, unescapeOctets_escapeOctet, ih, List.cons_append]

/-- A percent sign and two digits behind it stand in front. -/
def startsEscape : List Char → Bool
  | '%' :: a :: b :: _ => (Text.digitValue? 16 a).isSome && (Text.digitValue? 16 b).isSome
  | _ => false

/-- The text holds a percent sign with two digits behind it. -/
def spellsEscape : List Char → Bool
  | [] => false
  | c :: rest => startsEscape (c :: rest) || spellsEscape rest

theorem unescapeOctets_cons {c : Char} {rest : List Char}
    (h : startsEscape (c :: rest) = false) :
    unescapeOctets (c :: rest) = String.utf8EncodeChar c ++ unescapeOctets rest := by
  rw [unescapeOctets.eq_def]
  split
  · next a b rest' heq =>
    obtain ⟨rfl, rfl⟩ := List.cons.inj heq
    split
    · next x y hx hy => simp [startsEscape, hx, hy] at h
    · rfl
  · next heq =>
    obtain ⟨rfl, rfl⟩ := List.cons.inj heq
    rfl
  · next heq => cases heq

/-- The second text writes the first: each character as it is, or as its octets. -/
inductive EscapedAs : List Char → List Char → Prop where
  | nil : EscapedAs [] []
  | plain (c : Char) {cs sent : List Char} (more : EscapedAs cs sent) :
    EscapedAs (c :: cs) (c :: sent)
  | escaped (c : Char) {cs sent : List Char} (more : EscapedAs cs sent) :
    EscapedAs (c :: cs) ((String.utf8EncodeChar c).flatMap escapeOctet ++ sent)

theorem EscapedAs.append {cs ds sent sent' : List Char} (h : EscapedAs cs sent)
    (h' : EscapedAs ds sent') : EscapedAs (cs ++ ds) (sent ++ sent') := by
  induction h with
  | nil => exact h'
  | plain c _ ih => exact .plain c ih
  | escaped c _ ih =>
    rw [List.cons_append, List.append_assoc]
    exact .escaped c ih

theorem escapedAs_escape (mustEscape : Char → Bool) (cs : List Char) :
    EscapedAs cs (escape mustEscape cs) := by
  induction cs with
  | nil => exact .nil
  | cons c cs ih =>
    rw [escape, List.flatMap_cons, escapeChar]
    split
    · exact .escaped c ih
    · exact .plain c ih

/-- An octet is escaped by a percent sign first, which is no digit. -/
theorem EscapedAs.cons_of_digit {cs sent : List Char} {a : Char} (h : EscapedAs cs (a :: sent))
    (ha : (Text.digitValue? 16 a).isSome = true) :
    ∃ cs', cs = a :: cs' ∧ EscapedAs cs' sent := by
  generalize hall : a :: sent = all at h
  cases h with
  | nil => cases hall
  | @plain c cs' sent' more =>
    obtain ⟨rfl, rfl⟩ := List.cons.inj hall
    exact ⟨cs', rfl, more⟩
  | @escaped c cs' sent' more =>
    obtain ⟨octet, octets, hoctets⟩ :=
      List.exists_cons_of_ne_nil (l := String.utf8EncodeChar c) (by simp)
    rw [hoctets] at hall
    obtain ⟨rfl, -⟩ := List.cons.inj hall
    exact absurd ha (by decide)

/-- What is sent starts an escape only where the text does, or where a character is escaped. -/
theorem EscapedAs.startsEscape_cons {cs sent : List Char} (h : EscapedAs cs sent) {c : Char}
    (hc : startsEscape (c :: cs) = false) : startsEscape (c :: sent) = false := by
  by_contra hstarts
  rw [Bool.not_eq_false] at hstarts
  unfold startsEscape at hstarts
  split at hstarts
  · next a b rest heq =>
    obtain ⟨rfl, rfl⟩ := List.cons.inj heq
    obtain ⟨ha, hb⟩ := Bool.and_eq_true_iff.1 hstarts
    obtain ⟨cs', rfl, h'⟩ := h.cons_of_digit ha
    obtain ⟨cs'', rfl, -⟩ := h'.cons_of_digit hb
    rw [startsEscape, ha, hb] at hc
    cases hc
  · cases hstarts

/-- A text that spells no escape itself is read back from what is sent. -/
theorem EscapedAs.unescapeOctets_eq {cs sent : List Char} (h : EscapedAs cs sent)
    (hcs : spellsEscape cs = false) :
    unescapeOctets sent = cs.flatMap String.utf8EncodeChar := by
  induction h with
  | nil => rfl
  | plain c more ih =>
    obtain ⟨hstarts, hrest⟩ := Bool.or_eq_false_iff.1 hcs
    rw [unescapeOctets_cons (more.startsEscape_cons hstarts), ih hrest, List.flatMap_cons]
  | escaped c more ih =>
    obtain ⟨-, hrest⟩ := Bool.or_eq_false_iff.1 hcs
    rw [unescapeOctets_flatMap, ih hrest, List.flatMap_cons]

theorem unescape?_of_escapedAs {text : String} {sent : List Char}
    (h : EscapedAs text.toList sent) (htext : spellsEscape text.toList = false) :
    unescape? sent = some text := by
  rw [unescape?, h.unescapeOctets_eq htext]
  exact Utf8.decode?_encode text

theorem escape_append (mustEscape : Char → Bool) (cs ds : List Char) :
    escape mustEscape (cs ++ ds) = escape mustEscape cs ++ escape mustEscape ds :=
  List.flatMap_append

/-! ## The host -/

/-- A character that ends an authority. -/
def endsAuthority (c : Char) : Bool :=
  isSlash c || c == '?' || c == '#'

theorem endsAuthority_iff {c : Char} :
    endsAuthority c = true ↔ isSlash c = true ∨ c = '?' ∨ c = '#' := by
  simp [endsAuthority, or_assoc]

theorem isSlash_of_endsAuthority {c : Char} (hc : endsAuthority c = true) (hmark : c ≠ '?')
    (hash : c ≠ '#') : isSlash c = true :=
  (endsAuthority_iff.1 hc).resolve_right fun h => h.elim hmark hash

/-- The text, which nothing in it ends, writes this authority. -/
structure WritesAuthority (names : HostNames) (scheme : Scheme) (written : List Char)
    (authority : Authority) : Prop where
  inside : ∀ c ∈ written, endsAuthority c = false
  read : authority? names scheme written = some authority

/-- A blank or control, which is cut from the ends of an address. -/
def isCut (c : Char) : Bool :=
  c.toNat ≤ 0x20

/-- A tab or line end, which is left out wherever it stands. -/
def isLeftOut (c : Char) : Bool :=
  c == '\t' || c == '\n' || c == '\r'

theorem cleaned_append {front back : List Char} {c d : Char} (hfront : front.getLast? = some c)
    (hc : isCut c = false) (hback : back.getLast? = some d) (hd : isCut d = false) :
    cleaned (front ++ back) = cleaned front ++ back.filter fun e => !isLeftOut e := by
  show (Text.stripWhile isCut (front ++ back)).filter _ = _
  rw [Text.stripWhile_append_of_not hfront hc hback hd, List.filter_append]
  rfl

theorem getLast?_cleaned {cs : List Char} (hlast : cs.getLast? = some '/') :
    (cleaned cs).getLast? = some '/' := by
  have hcut : cleaned cs = (cs.dropWhile isCut).filter fun c => !isLeftOut c :=
    congrArg (List.filter _) (Text.stripWhile_of_not hlast (by decide))
  obtain ⟨front, hfront⟩ :=
    List.getLast?_eq_some_iff.1 (Text.getLast?_dropWhile (p := isCut) hlast (by decide))
  rw [hcut, hfront, List.filter_append]
  exact List.getLast?_concat

theorem cleaned_sublist (cs : List Char) : (cleaned cs).Sublist cs :=
  List.filter_sublist.trans
    ((Text.dropTailWhile_sublist isCut _).trans (List.dropWhile_sublist isCut))

theorem behindScheme?_append {front rest : List Char} {scheme : Scheme}
    (h : behindScheme? front = some (scheme, rest)) (hne : rest ≠ []) (back : List Char) :
    behindScheme? (front ++ back) = some (scheme, rest ++ back) := by
  unfold behindScheme? at h ⊢
  dsimp only at h ⊢
  split at h
  · next hlength =>
    obtain ⟨scheme, hscheme, hrest⟩ := Option.map_eq_some_iff.1 h
    obtain ⟨rfl, rfl⟩ := Prod.mk.inj hrest
    have htake : (front ++ back).takeWhile (· != ':') = front.takeWhile (· != ':') := by
      rw [List.takeWhile_append, if_neg (Nat.ne_of_lt hlength)]
    have hdrop : ((front ++ back).drop ((front.takeWhile (· != ':')).length + 1)).dropWhile isSlash
        = (front.drop ((front.takeWhile (· != ':')).length + 1)).dropWhile isSlash ++ back := by
      rw [List.drop_append_of_le_length hlength, List.dropWhile_append, if_neg (by simpa using hne)]
    have hlonger : (front.takeWhile (· != ':')).length < (front ++ back).length := by
      rw [List.length_append]
      omega
    rw [htake, hdrop, if_pos hlonger, hscheme, Option.map_some]
  · cases h

theorem behindScheme?_suffix {cs rest : List Char} {scheme : Scheme}
    (h : behindScheme? cs = some (scheme, rest)) : rest <:+ cs := by
  unfold behindScheme? at h
  dsimp only at h
  split at h
  · obtain ⟨_, -, hrest⟩ := Option.map_eq_some_iff.1 h
    obtain ⟨-, rfl⟩ := Prod.mk.inj hrest
    exact (List.dropWhile_suffix isSlash).trans (List.drop_suffix _ cs)
  · cases h

section Authority

variable {names : HostNames} {s : String} {scheme : Scheme} {written : List Char}
  {authority : Authority}

/-- Who is asked at an address, and in which scheme, is what is written up to the end of its
    authority. -/
theorem map_ofText? (names : HostNames) {c : Char} {rest : List Char}
    (hbehind : behindScheme? (cleaned s.toList) = some (scheme, written ++ c :: rest))
    (hwritten : ∀ d ∈ written, endsAuthority d = false) (hc : endsAuthority c = true) :
    (ofText? names s).map (fun u => (u.scheme, u.authority))
      = (authority? names scheme written).map fun authority => (scheme, authority) := by
  have htake : (((written ++ c :: rest).takeWhile (· != '#')).takeWhile (· != '?')).takeWhile
      (fun d => !isSlash d) = written := by
    simp only [List.takeWhile_takeWhile]
    refine Text.takeWhile_append_cons (fun d hd => ?_) ?_ rest
    · simpa [endsAuthority, and_assoc] using hwritten d hd
    · rcases endsAuthority_iff.1 hc with hc | rfl | rfl <;> simp [*]
  unfold ofText?
  simp only [hbehind, bind, Option.bind, htake]
  cases authority? names scheme written <;> rfl

/-- An address that ends in a slash is asked by an authority that something behind it ends. -/
theorem exists_authority {u : Url} (h : ofText? names s = some u)
    (hlast : s.toList.getLast? = some '/') :
    ∃ written c rest, behindScheme? (cleaned s.toList) = some (u.scheme, written ++ c :: rest)
      ∧ WritesAuthority names u.scheme written u.authority ∧ endsAuthority c = true := by
  obtain ⟨⟨scheme, behind⟩, hbehind, hrest⟩ := Option.bind_eq_some_iff.1 h
  have hmem : '/' ∈ behind := by
    have hne : behind ≠ [] := by
      rintro rfl
      cases hrest
    obtain ⟨front, hfront⟩ := behindScheme?_suffix hbehind
    have hwhole := getLast?_cleaned hlast
    rw [← hfront, List.getLast?_append, List.getLast?_eq_some_getLast hne, Option.some_or] at hwhole
    exact List.mem_of_getLast? ((List.getLast?_eq_some_getLast hne).trans hwhole)
  obtain ⟨written, c, rest, rfl, hwritten, hc⟩ :=
    Text.exists_stop (p := fun c => !endsAuthority c) hmem rfl
  have hwritten : ∀ d ∈ written, endsAuthority d = false := by simpa using hwritten
  have hc : endsAuthority c = true := by simpa using hc
  have hmap := map_ofText? names hbehind hwritten hc
  rw [h, Option.map_some, eq_comm, Option.map_eq_some_iff] at hmap
  obtain ⟨authority, hread, hsame⟩ := hmap
  obtain ⟨rfl, rfl⟩ := Prod.mk.inj hsame
  exact ⟨written, c, rest, hbehind, ⟨hwritten, hread⟩, hc⟩

/-- What is written behind the last slash of an address stands behind its authority. -/
theorem behindScheme?_cleaned_append {back : String} {c d : Char} {rest : List Char}
    (hlast : s.toList.getLast? = some '/')
    (hbehind : behindScheme? (cleaned s.toList) = some (scheme, written ++ c :: rest))
    (hback : back.toList.getLast? = some d) (hd : isCut d = false)
    (hkept : ∀ e ∈ back.toList, isLeftOut e = false) :
    behindScheme? (cleaned (s ++ back).toList)
      = some (scheme, written ++ c :: (rest ++ back.toList)) := by
  have hfilter : (back.toList.filter fun e => !isLeftOut e) = back.toList := by
    rw [List.filter_eq_self]
    intro e he
    rw [hkept e he]
    rfl
  rw [String.toList_append, cleaned_append hlast (by decide) hback hd, hfilter,
    behindScheme?_append hbehind (by simp), List.append_assoc, List.cons_append]

/-- What is written behind the last slash of an address changes neither its scheme nor who is asked. -/
theorem exists_ofText?_append {u : Url} {back : String} {d : Char} (h : ofText? names s = some u)
    (hlast : s.toList.getLast? = some '/') (hback : back.toList.getLast? = some d)
    (hd : isCut d = false) (hkept : ∀ e ∈ back.toList, isLeftOut e = false) :
    ∃ v, ofText? names (s ++ back) = some v ∧ v.scheme = u.scheme ∧ v.authority = u.authority := by
  obtain ⟨written, c, rest, hbehind, hwritten, hc⟩ := exists_authority h hlast
  have hmap := map_ofText? names (behindScheme?_cleaned_append hlast hbehind hback hd hkept)
    hwritten.inside hc
  rw [hwritten.read, Option.map_some, Option.map_eq_some_iff] at hmap
  obtain ⟨v, hv, hsame⟩ := hmap
  obtain ⟨hscheme, hauthority⟩ := Prod.mk.inj hsame
  exact ⟨v, hv, hscheme, hauthority⟩

/-- An address that is written by its parts. -/
theorem ofText?_of_parts {path query : List Char}
    (hbehind : behindScheme? (cleaned s.toList) = some (scheme, written ++ path ++ '?' :: query))
    (hwritten : WritesAuthority names scheme written authority)
    (hhead : ∀ c, path.head? = some c → isSlash c = true) (hmark : '?' ∉ path)
    (hash : '#' ∉ path ++ query) :
    ofText? names s = some ⟨scheme, authority, sentPath path,
      some (String.ofList (escape escapedInQuery query))⟩ := by
  have hinside : ∀ c ∈ written, isSlash c = false ∧ c ≠ '?' ∧ c ≠ '#' := by
    intro c hc
    simpa [endsAuthority, and_assoc] using hwritten.inside c hc
  have hall : ∀ c ∈ written ++ path ++ '?' :: query, (c != '#') = true := by
    intro c hc
    rw [bne_iff_ne]
    rintro rfl
    have hinside : '#' ∉ written := fun hc => (hinside _ hc).2.2 rfl
    rw [List.mem_append, not_or] at hash
    simp [hinside, hash] at hc
  have hfront : ∀ c ∈ written ++ path, (c != '?') = true := by
    intro c hc
    rw [bne_iff_ne]
    rintro rfl
    exact (List.mem_append.1 hc).elim (fun hc => (hinside _ hc).2.1 rfl) hmark
  have htake : (written ++ path).takeWhile (fun c => !isSlash c) = written := by
    have hstays : ∀ c ∈ written, (!isSlash c) = true := by
      intro c hc
      rw [(hinside c hc).1]
      rfl
    cases path with
    | nil => rwa [List.append_nil, List.takeWhile_eq_self_iff]
    | cons c path => exact Text.takeWhile_append_cons hstays (by rw [hhead c rfl]; rfl) path
  unfold ofText?
  simp only [hbehind, bind, Option.bind, List.takeWhile_eq_self_iff.2 hall,
    Text.takeWhile_append_cons hfront (show ('?' != '?') = false from rfl), htake,
    List.drop_left, hwritten.read]

end Authority

/-! ## Users -/

/-- A scheme holds no slash, so one that is found lies in front of the first slash. -/
theorem slash_notMem_of_ofChars? {cs : List Char} {scheme : Scheme}
    (h : Scheme.ofChars? cs = some scheme) : '/' ∉ cs := by
  intro hmem
  unfold Scheme.ofChars? at h
  have hname : cs.map Text.lowerChar = scheme.name.toList := by simpa using List.find?_some h
  have hslash : Text.lowerChar '/' ∈ scheme.name.toList := hname ▸ List.mem_map_of_mem hmem
  cases scheme <;> exact absurd hslash (by decide)

/-- A slash that other signs than slashes stand in front of is not among those behind the scheme. -/
theorem exists_of_behindScheme? {front back rest : List Char} {c : Char} {scheme : Scheme}
    (h : behindScheme? (front ++ c :: '/' :: back) = some (scheme, rest)) (hc : isSlash c = false)
    (hcolon : c ≠ ':') : ∃ inside, inside.Sublist (front ++ [c]) ∧ rest = inside ++ '/' :: back := by
  unfold behindScheme? at h
  dsimp only at h
  split at h
  · obtain ⟨scheme, hscheme, hrest⟩ := Option.map_eq_some_iff.1 h
    obtain ⟨rfl, rfl⟩ := Prod.mk.inj hrest
    by_cases hmem : ':' ∈ front
    · obtain ⟨name, behind, rfl, hname⟩ := List.eq_append_cons_of_mem hmem
      have hname : ∀ d ∈ name, (d != ':') = true := by
        intro d hd
        rw [bne_iff_ne]
        rintro rfl
        exact hname hd
      have hsplit : name ++ ':' :: behind ++ c :: '/' :: back
          = name ++ ':' :: (behind ++ [c] ++ '/' :: back) := by simp
      have hinside : (behind ++ [c]).dropWhile isSlash ≠ [] := by
        rw [Ne, List.dropWhile_eq_nil_iff]
        intro hall
        rw [hall c (by simp)] at hc
        cases hc
      refine ⟨(behind ++ [c]).dropWhile isSlash, ?_, ?_⟩
      · refine (List.dropWhile_sublist isSlash).trans ?_
        rw [List.append_assoc, List.cons_append]
        exact ((List.sublist_cons_self ':' _).trans (List.sublist_append_right name _))
      · have hdrop : (name ++ ':' :: (behind ++ [c] ++ '/' :: back)).drop (name.length + 1)
            = behind ++ [c] ++ '/' :: back := by
          rw [← List.drop_drop, List.drop_left, List.drop_one, List.tail_cons]
        rw [hsplit, Text.takeWhile_append_cons hname rfl, hdrop, List.dropWhile_append,
          if_neg (by simpa using hinside)]
    · -- Without a colon in front the scheme would hold the slash.
      refine absurd ?_ (slash_notMem_of_ofChars? hscheme)
      have hfront : ∀ d ∈ front ++ [c, '/'], (d != ':') = true := by
        intro d hd
        rw [bne_iff_ne]
        rintro rfl
        simp [hmem, hcolon.symm] at hd
      have hsplit : front ++ c :: '/' :: back = (front ++ [c, '/']) ++ back := by simp
      rw [hsplit, List.takeWhile_append_of_pos hfront]
      simp
  · cases h

theorem user_eq_nil {names : HostNames} {scheme : Scheme} {written : List Char}
    {authority : Authority} (h : authority? names scheme written = some authority)
    (hat : '@' ∉ written) : authority.user = [] := by
  have hwhole : (written.reverse.takeWhile (· != '@')).reverse = written := by
    have hall : ∀ c ∈ written.reverse, (c != '@') = true := by
      intro c hc
      rw [bne_iff_ne]
      rintro rfl
      exact hat (List.mem_reverse.1 hc)
    rw [List.takeWhile_eq_self_iff.2 hall, List.reverse_reverse]
  unfold authority? at h
  obtain ⟨host, -, h⟩ := Option.bind_eq_some_iff.1 h
  obtain ⟨port, -, h⟩ := Option.bind_eq_some_iff.1 h
  obtain rfl := Option.some.inj h
  rw [hwhole]
  simp

/-- An authority with nothing in front of an at sign names no user. -/
theorem basic?_of_user_nil {a : Authority} (h : a.user = []) : a.basic? = none := by
  unfold Authority.basic?
  rw [h]
  rfl

/-- A user that a name and a password write is sent with both, their escapes undone. -/
theorem basic?_of_escaped {a : Authority} {name password : String} {sent sent' : List Char}
    (huser : a.user = sent ++ ':' :: sent') (hcolon : ':' ∉ sent) (hgiven : sent' ≠ [])
    (hname : EscapedAs name.toList sent) (hpassword : EscapedAs password.toList sent')
    (hplain : spellsEscape name.toList = false) (hplain' : spellsEscape password.toList = false) :
    a.basic? = some ("Basic " ++ Base64.encode (Utf8.encode (name ++ ":" ++ password))) := by
  have hsigns : ∀ c ∈ sent, (c != ':') = true := by
    intro c hc
    rw [bne_iff_ne]
    rintro rfl
    exact hcolon hc
  have hwritten : a.user.takeWhile (· != ':') = sent := by
    rw [huser]
    exact Text.takeWhile_append_cons hsigns rfl sent'
  have hbehind : a.user.drop (sent.length + 1) = sent' := by
    rw [huser, ← List.drop_drop, List.drop_left, List.drop_one, List.tail_cons]
  obtain ⟨c, rest, rfl⟩ := List.exists_cons_of_ne_nil hgiven
  unfold Authority.basic?
  simp [hwritten, hbehind, unescape?_of_escapedAs hname hplain,
    unescape?_of_escapedAs hpassword hplain']

example : Authority.basic? { user := "user:p%40ss".toList, host := "kv" }
    = some ("Basic " ++ Base64.encode (Utf8.encode "user:p@ss")) := by
  decide +kernel

/-- What is cut from an address that ends in a slash lies in front of the last sign before it. -/
theorem exists_cleaned_eq (before : List Char) {c : Char} (hc : isCut c = false) :
    ∃ inner, inner.Sublist before ∧ cleaned (before ++ [c, '/']) = inner ++ [c, '/'] := by
  have hleft : isLeftOut c = false := by
    by_contra hleft
    simp only [isLeftOut, Bool.not_eq_false, Bool.or_eq_true, beq_iff_eq] at hleft
    rcases hleft with (rfl | rfl) | rfl <;> cases hc
  have hends : [c, '/'].dropWhile isCut = [c, '/'] := by
    rw [List.dropWhile_cons, hc]
    rfl
  have hkept : [c, '/'].filter (fun d => !isLeftOut d) = [c, '/'] := by
    rw [List.filter_cons, hleft]
    rfl
  have hlast : (before ++ [c, '/']).getLast? = some '/' := by simp
  refine ⟨(before.dropWhile isCut).filter fun d => !isLeftOut d,
    List.filter_sublist.trans (List.dropWhile_sublist isCut), ?_⟩
  show (Text.stripWhile isCut (before ++ [c, '/'])).filter (fun d => !isLeftOut d) = _
  rw [Text.stripWhile_of_not hlast (by decide), List.dropWhile_append, hends]
  split
  · next hempty => rw [List.isEmpty_iff.1 hempty, hkept]; rfl
  · rw [List.filter_append, hkept]

/-- An address names no user unless there is an at sign in front of its first slash behind a sign
    that is no slash. -/
theorem basic?_eq_none {names : HostNames} {front back : String} {before : List Char} {c d : Char}
    {u : Url} (h : ofText? names (front ++ back) = some u)
    (hfront : front.toList = before ++ [c, '/']) (hc : isSlash c = false) (hcolon : c ≠ ':')
    (hcut : isCut c = false) (hback : back.toList.getLast? = some d) (hd : isCut d = false)
    (hat : '@' ∉ front.toList) : u.authority.basic? = none := by
  obtain ⟨inner, hinner, hcleaned⟩ := exists_cleaned_eq before hcut
  have hlast : front.toList.getLast? = some '/' := by simp [hfront]
  obtain ⟨⟨scheme, rest⟩, hbehind, -⟩ := Option.bind_eq_some_iff.1 h
  have hwhole := cleaned_append hlast (by decide) hback hd
  rw [← String.toList_append, hfront, hcleaned, List.append_assoc] at hwhole
  obtain ⟨inside, hinside, rfl⟩ := exists_of_behindScheme? (hwhole ▸ hbehind) hc hcolon
  -- The authority ends at that slash at the latest, so all of it stands in front.
  obtain ⟨written, e, more, hsplit, hwritten, he⟩ :=
    Text.exists_stop (p := fun c => !endsAuthority c) (l := inside ++ ['/']) (c := '/') (by simp) rfl
  have hat : '@' ∉ written := by
    intro hmem
    have hmem : '@' ∈ inside ++ ['/'] := hsplit ▸ List.mem_append_left _ hmem
    have hmem : '@' ∈ inner ++ [c] := hinside.mem (by simpa using hmem)
    have hmem : '@' ∈ before ++ [c] := (hinner.append_right [c]).mem hmem
    rw [hfront, List.append_cons] at hat
    exact hat (List.mem_append_left ['/'] hmem)
  have hrest : ∀ l, inside ++ '/' :: l = written ++ e :: (more ++ l) := by
    intro l
    rw [← List.singleton_append, ← List.append_assoc, hsplit, List.append_assoc, List.cons_append]
  rw [hrest] at hbehind
  have hmap := map_ofText? names hbehind (by simpa using hwritten) (by simpa using he)
  rw [h, Option.map_some, eq_comm, Option.map_eq_some_iff] at hmap
  obtain ⟨authority, hread, hsame⟩ := hmap
  obtain ⟨-, rfl⟩ := Prod.mk.inj hsame
  exact basic?_of_user_nil (user_eq_nil hread hat)

/-! ## Dot segments -/

theorem resolveDots_cons (reversed : List (List Char)) (segment : List Char)
    {rest : List (List Char)} (hne : rest ≠ []) :
    resolveDots reversed (segment :: rest)
      = if isDoubleDot segment then resolveDots (parent reversed) rest
        else if isDot segment then resolveDots reversed rest
        else resolveDots (segment :: reversed) rest := by
  obtain ⟨next, more, rfl⟩ := List.exists_cons_of_ne_nil hne
  rw [resolveDots]
  simp

/-- Segments that are no dot segments stay. -/
theorem resolveDots_of_not (reversed : List (List Char)) {segments : List (List Char)}
    (h : ∀ s ∈ segments, isDot s = false ∧ isDoubleDot s = false) :
    resolveDots reversed segments = reversed.reverse ++ segments := by
  induction segments generalizing reversed with
  | nil => rw [resolveDots, List.append_nil]
  | cons segment rest ih =>
    obtain ⟨⟨hdot, hdouble⟩, hrest⟩ := List.forall_mem_cons.1 h
    by_cases hne : rest = []
    · subst hne
      rw [resolveDots, hdouble, hdot, if_neg (by simp), if_neg (by simp), List.reverse_cons]
    · rw [resolveDots_cons reversed segment hne, hdouble, hdot, if_neg (by simp), if_neg (by simp),
        ih _ hrest, List.reverse_cons, List.append_assoc, List.singleton_append]

/-- Segments behind which no dot segment comes leave the same outer ones, whatever these are. -/
theorem exists_resolveDots_append (reversed segments : List (List Char)) :
    ∃ outer, ∀ inner, inner ≠ [] → (∀ s ∈ inner, isDot s = false ∧ isDoubleDot s = false) →
      resolveDots reversed (segments ++ inner) = outer ++ inner := by
  induction segments generalizing reversed with
  | nil => exact ⟨reversed.reverse, fun inner _ h => resolveDots_of_not reversed h⟩
  | cons segment rest ih =>
    obtain ⟨up, hup⟩ := ih (parent reversed)
    obtain ⟨here, hhere⟩ := ih reversed
    obtain ⟨down, hdown⟩ := ih (segment :: reversed)
    refine ⟨if isDoubleDot segment then up else if isDot segment then here else down, ?_⟩
    intro inner hne h
    rw [List.cons_append, resolveDots_cons reversed segment (by simp [hne])]
    split
    · exact hup inner hne h
    · split
      · exact hhere inner hne h
      · exact hdown inner hne h

/-- The segments of a text without backslashes are sent with the slashes between them. -/
theorem flatMap_pieces {mustEscape : Char → Bool} (hslash : mustEscape '/' = false)
    {cs : List Char} (h : '\\' ∉ cs) :
    ((Text.pieces isSlash cs).map (escape mustEscape)).flatMap (fun s => '/' :: s)
      = '/' :: escape mustEscape cs := by
  induction cs with
  | nil => rfl
  | cons c rest ih =>
    have hrest := ih fun hmem => h (List.mem_cons_of_mem c hmem)
    cases hc : isSlash c with
    | true =>
      have hc : c = '/' := by
        rcases Bool.or_eq_true_iff.1 hc with hc | hc
        · exact eq_of_beq hc
        · exact absurd (by simp [eq_of_beq hc]) h
      subst hc
      rw [Text.pieces_cons_separator rfl, List.map_cons, List.flatMap_cons, hrest]
      simp [escape, escapeChar, hslash]
    | false =>
      obtain ⟨piece, more, hpieces, hwhole⟩ := Text.pieces_cons_of_not hc rest
      rw [hpieces] at hrest
      rw [hwhole]
      simp only [List.map_cons, List.flatMap_cons, List.cons_append, List.cons.injEq, true_and,
        escape] at hrest ⊢
      rw [← hrest, List.append_assoc]

/-- A text without dot segments that ends a path is sent behind the same text, whatever it is. -/
theorem exists_sentPath_append (c : Char) (front : List Char) :
    ∃ before, ∀ back, '\\' ∉ back →
      (∀ s ∈ Text.pieces isSlash back, isDot s = false ∧ isDoubleDot s = false) →
      (sentPath (c :: front ++ '/' :: back)).toList
        = before ++ '/' :: escape escapedInPath back := by
  obtain ⟨outer, houter⟩ := exists_resolveDots_append [] (Text.pieces isSlash front)
  refine ⟨(outer.map (escape escapedInPath)).flatMap fun s => '/' :: s, fun back hback h => ?_⟩
  have hsegments : Text.pieces isSlash (front ++ '/' :: back)
      = Text.pieces isSlash front ++ Text.pieces isSlash back :=
    Text.pieces_append_cons rfl front back
  rw [sentPath, List.cons_append, List.isEmpty_cons, if_neg (by simp), List.drop_one,
    List.tail_cons, hsegments, houter _ (Text.pieces_ne_nil isSlash back) h, String.toList_ofList,
    List.map_append, List.flatMap_append, flatMap_pieces (by decide) hback]

theorem toList_text (scheme : Scheme) (authority : Authority) (path query : String) :
    (text ⟨scheme, authority, path, some query⟩).toList
      = (text ⟨scheme, authority, "", none⟩).toList ++ path.toList ++ '?' :: query.toList := by
  simp [text]

end LayeredSettings.Url
