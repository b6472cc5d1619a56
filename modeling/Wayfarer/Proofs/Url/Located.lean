import Wayfarer.Proofs.Url.Host

/-!
URLs that name a host.

* `Scheme.NeedsHost`: the schemes of which every URL has a host;
* `Url.NamesHost`: a URL with a host that is not empty;
* `Url.IsRead.namesHost`: **a URL that is read names a host where its scheme needs one**, whatever
  it is relative to;
* `Scheme.IsName`, `Url.hostless`: a scheme, and the URL of it that has a path and no host;
* `Url.ofScheme_slashes`: under any other scheme such a URL is read, whatever it is relative to.
-/

namespace Wayfarer

variable {base u : Url} {host : Host} {scheme : String} {cs : List Char}

/-! ### Schemes -/

namespace Scheme

/-- The schemes of which every URL has a host: the special ones apart from that of local files. -/
def NeedsHost (scheme : String) : Prop :=
  scheme ∈ ["http", "https", "ws", "wss", "ftp"]

instance : DecidablePred NeedsHost := fun _ => inferInstanceAs (Decidable (_ ∈ _))

lemma needsHost_iff : NeedsHost scheme ↔ isSpecial scheme = true ∧ scheme ≠ file := by
  have other : ∀ s ∈ ["http", "https", "ws", "wss", "ftp"], s ≠ file := by decide
  rw [isSpecial, decide_eq_true_eq]
  constructor
  · intro needs
    exact ⟨List.mem_append_left [file] needs, other scheme needs⟩
  · rintro ⟨special, remote⟩
    have known : scheme ∈ ["http", "https", "ws", "wss", "ftp"] ++ [file] := special
    exact (List.mem_append.mp known).resolve_right fun last => remote (List.mem_singleton.mp last)

/-- A scheme as URLs have it: a letter and further characters of a scheme, in small letters. -/
structure IsName (scheme : String) : Prop where
  lower : lowered scheme = scheme
  letter : (scheme.toList.head?.map Char.isAlpha).getD false = true
  all : ∀ c ∈ scheme.toList, Url.isSchemeChar c = true

/-- A scheme in any letters. -/
structure IsSpelling (spelt : String) : Prop where
  letter : (spelt.toList.head?.map Char.isAlpha).getD false = true
  all : ∀ c ∈ spelt.toList, Url.isSchemeChar c = true

lemma IsName.isSpelling (isName : IsName scheme) : IsSpelling scheme :=
  ⟨isName.letter, isName.all⟩

end Scheme

/-! ### Hosts -/

/-- Only the empty name is written as the empty text. -/
lemma Host.text_ne_empty (named : host ≠ .name "") : host.text ≠ "" := by
  cases host with
  | name s => exact fun same => named (congrArg Host.name same)
  | ipv4 address =>
      rw [text, Ipv4.text, ne_eq, ← String.toList_inj]
      simp
  | ipv6 pieces =>
      rw [text, ne_eq, ← String.toList_inj]
      simp

/-- A host under a special scheme is not empty. -/
lemma Host.ne_name_empty_of_read (reads : read cs = .ok host) : host ≠ .name "" := by
  rintro rfl
  rw [read.eq_def] at reads
  split at reads
  · obtain ⟨pieces, same⟩ := exists_of_readBracketed reads
    cases same
  · split at reads
    · rw [ofAscii] at reads
      split_ifs at reads with empty
      · split at reads <;> cases reads
      · refine empty (List.isEmpty_iff.mpr ?_)
        simpa using Host.name.inj (Except.ok.inj reads)
    · cases reads

/-! ### What the parts of a text name -/

namespace Url

/-- A URL has a host, and it is not empty. -/
def NamesHost (u : Url) : Prop :=
  ∃ host, u.host? = some host ∧ host.text ≠ ""

lemma NamesHost.of_authority {v : Url} (names : u.NamesHost) (same : v.authority = u.authority) :
    v.NamesHost := by
  obtain ⟨host, named, filled⟩ := names
  exact ⟨host, by rw [host?, same]; exact named, filled⟩

end Url

namespace Authority

lemma exists_host_of_parse {a : Authority} {rest : List Char}
    (special : Scheme.isSpecial scheme = true) (h : parse scheme cs = .ok (a, rest)) :
    ∃ host, a.host = some host ∧ host.text ≠ "" := by
  obtain ⟨place, after, parses⟩ := exists_of_parse h
  obtain ⟨front, host, reads, here, -⟩ := exists_of_parseHost parses
  rw [Host.readUnder, if_pos special] at reads
  have filled := Host.ne_name_empty_of_read reads
  rw [if_neg filled] at here
  exact ⟨host, here, Host.text_ne_empty filled⟩

end Authority

namespace Url

lemma namesHost_of_ofAuthority (special : Scheme.isSpecial scheme = true)
    (h : ofAuthority scheme cs = .ok u) : u.NamesHost := by
  rw [ofAuthority] at h
  obtain ⟨⟨a, rest⟩, reads, h⟩ := exists_of_bind h
  cases h
  obtain ⟨host, named, filled⟩ := Authority.exists_host_of_parse special reads
  exact ⟨host, by rw [host?, authority_withTail]; exact named, filled⟩

lemma namesHost_of_joinRelative (special : Scheme.isSpecial base.scheme = true)
    (names : base.NamesHost) (h : joinRelative base cs = .ok u) : u.NamesHost := by
  rw [joinRelative.eq_def] at h
  split at h
  · cases h
    exact names.of_authority rfl
  · cases h
    exact names.of_authority (authority_withTail _ _)
  · cases h
    exact names.of_authority (authority_withTail base _)
  · split_ifs at h
    · split at h
      · split_ifs at h
        · exact namesHost_of_ofAuthority special h
        · cases h
          exact names.of_authority (authority_withPath _ _ _)
      · cases h
        exact names.of_authority (authority_withPath _ _ _)
    · cases h
      exact names.of_authority (authority_withPath _ _ _)

/-- A text behind a scheme that needs a host names one, or is relative to a URL that does. -/
lemma namesHost_of_ofScheme {base : Option Url}
    (names : ∀ b, base = some b → Scheme.NeedsHost b.scheme → b.NamesHost)
    (needs : Scheme.NeedsHost scheme) (h : ofScheme base scheme cs = .ok u) : u.NamesHost := by
  obtain ⟨special, remote⟩ := Scheme.needsHost_iff.mp needs
  rw [ofScheme.eq_def] at h
  dsimp only at h
  rw [if_neg remote, if_pos special] at h
  split at h
  · next b known =>
      obtain ⟨same, alike⟩ := Option.filter_eq_some_iff.mp known
      obtain rfl := decide_eq_true_eq.mp alike
      split_ifs at h
      · exact namesHost_of_joinRelative special (names b same needs) h
      · exact namesHost_of_ofAuthority special h
  · exact namesHost_of_ofAuthority special h

/-- A text without a scheme leaves the host of the base, or names another one. -/
lemma namesHost_of_joinReference (needs : Scheme.NeedsHost base.scheme) (names : base.NamesHost)
    (h : joinReference base cs = .ok u) : u.NamesHost := by
  obtain ⟨special, remote⟩ := Scheme.needsHost_iff.mp needs
  rw [joinReference, if_neg remote] at h
  split_ifs at h
  · cases h
    exact names.of_authority (authority_withTail base _)
  · exact namesHost_of_joinRelative special names h

/-- **A URL that is read names a host where its scheme needs one.** -/
theorem IsRead.namesHost (read : u.IsRead) (needs : Scheme.NeedsHost u.scheme) : u.NamesHost := by
  induction read with
  | parse parses =>
      rw [Url.parse] at parses
      split at parses
      · obtain ⟨same, -⟩ := frame_of_ofScheme (fun _ same => by cases same) parses
        rw [same] at needs
        exact namesHost_of_ofScheme (fun _ same => by cases same) needs parses
      · cases parses
  | join read joins ih =>
      rw [Url.join] at joins
      split at joins
      · obtain ⟨same, -⟩ :=
          frame_of_ofScheme (fun b same => by cases same; exact read.isSound) joins
        rw [same] at needs
        exact namesHost_of_ofScheme (fun b same => by cases same; exact ih) needs joins
      · obtain ⟨same, -⟩ := frame_of_joinReference joins
        rw [same] at needs
        exact namesHost_of_joinReference needs (ih needs) joins

/-- A URL of the web is read with a host. -/
lemma IsRead.namesHost_of_isHttp (read : u.IsRead) (web : u.isHttp = true) : u.NamesHost := by
  refine read.namesHost ?_
  rcases read.eq_of_isHttp web with http | https
  · rw [http]
    decide
  · rw [https]
    decide

/-! ### URLs without a host -/

/-- The URL of a scheme with a path from the root and no host. -/
def hostless (scheme : String) : Url :=
  ⟨scheme, some ⟨"", "", none, none⟩, .names [""], none, none⟩

lemma toList_text_hostless (scheme : String) :
    (hostless scheme).text.toList = scheme.toList ++ [':', '/', '/', '/'] := by
  simp [hostless, text, body, Authority.text, Authority.userinfo, Authority.portText, Path.text,
    String.join]

/-- A scheme in any letters is read in front of a colon. -/
lemma splitScheme_append {spelt : String} (spelling : Scheme.IsSpelling spelt) (cs : List Char) :
    splitScheme (spelt.toList ++ ':' :: cs) = some (lowered spelt, cs) := by
  have colon : isSchemeChar ':' = false := by decide
  rw [splitScheme, List.dropWhile_append_of_pos spelling.all,
    List.takeWhile_append_of_pos spelling.all, List.dropWhile_cons, List.takeWhile_cons, colon]
  simp only [Bool.false_eq_true, if_false, List.append_nil, spelling.letter, if_true]
  rfl

lemma splitScheme_of_isName (isName : Scheme.IsName scheme) (cs : List Char) :
    splitScheme (scheme.toList ++ ':' :: cs) = some (scheme, cs) := by
  rw [splitScheme_append isName.isSpelling, isName.lower]

/-- What is read in front of a colon is a scheme as URLs have it. -/
lemma isName_lowered {spelt : String} (spelling : Scheme.IsSpelling spelt) :
    Scheme.IsName (lowered spelt) where
  lower := by
    rw [lowered, lowered, String.toList_ofList, List.map_map]
    congr 2
    funext c
    exact Char.toLower_toLower_eq_toLower c
  letter := by
    have letter := spelling.letter
    rw [lowered, String.toList_ofList, List.head?_map, Option.map_map]
    cases first : spelt.toList.head? with
    | none =>
        rw [first] at letter
        cases letter
    | some c =>
        rw [first] at letter
        simpa using letter
  all := by
    rw [lowered, String.toList_ofList]
    refine List.forall_mem_map.mpr fun c mem => ?_
    have kept : ∀ n < 127, isSchemeChar (Char.ofNat n) = true →
        isSchemeChar (Char.ofNat n).toLower = true := by
      decide +kernel
    have here := spelling.all c mem
    have low := (visible_of_isSchemeChar here).2
    rw [← Char.ofNat_toNat c] at here ⊢
    exact kept c.toNat low here

lemma isName_of_splitScheme {rest : List Char} (h : splitScheme cs = some (scheme, rest)) :
    Scheme.IsName scheme := by
  rw [splitScheme] at h
  split at h
  · split_ifs at h with letter
    cases h
    have all : ∀ c ∈ (String.ofList (cs.takeWhile isSchemeChar)).toList, isSchemeChar c = true := by
      rw [String.toList_ofList]
      exact fun c mem => List.mem_takeWhile_imp mem
    have name := isName_lowered ⟨by rw [String.toList_ofList]; exact letter, all⟩
    rwa [lowered, String.toList_ofList] at name
  · cases h

/-- The scheme of a URL that is read is a scheme as URLs have it. -/
lemma IsRead.isName (read : u.IsRead) : Scheme.IsName u.scheme := by
  induction read with
  | parse parses =>
      rw [Url.parse] at parses
      split at parses
      · next scheme rest split =>
          obtain ⟨same, -⟩ := frame_of_ofScheme (fun _ same => by cases same) parses
          rw [same]
          exact isName_of_splitScheme split
      · cases parses
  | join read joins ih =>
      rw [Url.join] at joins
      split at joins
      · next scheme rest split =>
          obtain ⟨same, -⟩ :=
            frame_of_ofScheme (fun b same => by cases same; exact read.isSound) joins
          rw [same]
          exact isName_of_splitScheme split
      · obtain ⟨same, -⟩ := frame_of_joinReference joins
        rw [same]
        exact ih

/-- A path from the root behind two slashes and no host. -/
lemma ofScheme_slashes (needless : ¬Scheme.NeedsHost scheme) (base : Option Url) :
    ofScheme base scheme ['/', '/', '/'] = .ok (hostless scheme) := by
  rw [ofScheme.eq_def]
  dsimp only
  by_cases filed : scheme = Scheme.file
  · subst filed
    rw [if_pos rfl]
    cases base.filter (·.scheme = Scheme.file) <;> rfl
  · have plain : Scheme.isSpecial scheme = false := by
      rw [← Bool.not_eq_true]
      exact fun special => needless (Scheme.needsHost_iff.mpr ⟨special, filed⟩)
    have authority : Authority.parse scheme ['/'] = .ok (⟨"", "", none, none⟩, ['/']) := by
      simp [Authority.parse, plain, isSlash, Authority.parseHost, Authority.hostLength,
        Host.readOpaque, Authority.parseUserinfo, Escape.apply, Percent.encode, Utf8.encode]
    have path : Path.parseStart scheme ['/'] = ([""], []) := by
      simp only [Path.parseStart, Path.parse, plain, filed, isSlash, decide_true, Bool.true_or,
        if_true, decide_false, if_false]
      rfl
    rw [if_neg filed, if_neg (by simp [plain])]
    change ofAuthority scheme ['/'] = _
    rw [ofAuthority, authority]
    change Except.ok (withTail ⟨scheme, _, .names (Path.parseStart scheme ['/']).1, _, _⟩ _) = _
    rw [path]
    rfl

end Url

end Wayfarer
