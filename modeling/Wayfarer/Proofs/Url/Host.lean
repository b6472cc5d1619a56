import Wayfarer.Proofs.Idna.Visible
import Wayfarer.Proofs.Url.Read

/-!
Hosts with which URLs are read.

* `Host.IsRead`: a host that a text is, under a special scheme or under another one, and
  `Host.readUnder`: the one under a given scheme;
* `Host.IsHostChar`: the characters of hosts outside brackets;
* `Host.IsRead.spelling`: such a host is **written in these, or in brackets**, and
  `Host.IsRead.allVisible`: in visible ASCII characters;
* `Authority.exists_of_parseHost`, `Authority.exists_of_parse`: the parts of a text from which a
  host and a port are read;
* `Url.IsRead.settles`: where the authority of a URL that is read comes from;
* `Url.IsRead.isRead_host`, `Url.allVisible_scheme`: it has such a host, if any, and the scheme that
  a text names is written in such characters too.
-/

namespace Wayfarer

open Base64 (Visible)

variable {base u : Url} {host : Host} {scheme : String} {cs : List Char}

namespace Host

/-- A host that a text is, under a special scheme or under another one. -/
def IsRead (host : Host) : Prop :=
  ∃ cs, read cs = .ok host ∨ readOpaque cs = .ok host

/-- The host of a scheme that a text is. -/
def readUnder (scheme : String) (cs : List Char) : Except UrlError Host :=
  if Scheme.isSpecial scheme then read cs else readOpaque cs

lemma isRead_of_readUnder (reads : readUnder scheme cs = .ok host) : host.IsRead := by
  rw [readUnder] at reads
  split_ifs at reads
  · exact ⟨cs, .inl reads⟩
  · exact ⟨cs, .inr reads⟩

/-! ### Characters -/

/-- The characters of hosts outside brackets. -/
def IsHostChar (c : Char) : Prop :=
  Visible c ∧ isForbidden c = false

instance : DecidablePred IsHostChar := fun _ => inferInstanceAs (Decidable (_ ∧ _))

lemma isHostChar_of_isPlain {c : Char} (plain : Idna.IsPlain c) : IsHostChar c := by
  have all : ∀ n < 128, Idna.IsPlain (Char.ofNat n) → IsHostChar (Char.ofNat n) := by
    decide +kernel
  have here := all c.toNat plain.1
  rw [Char.ofNat_toNat] at here
  exact here plain

lemma isHostChar_digitChar : ∀ d < 10, IsHostChar d.digitChar := by decide

/-! ### Addresses -/

lemma forall_mem_ipv4 {P : Char → Prop} (point : P '.') (digits : ∀ d < 10, P d.digitChar)
    (address : ℕ) : ∀ c ∈ (Ipv4.text address).toList, P c := by
  have dot : ∀ c ∈ ".".toList, P c := List.forall_mem_singleton.mpr point
  have part (n : ℕ) : ∀ c ∈ (toString n).toList, P c := forall_mem_toString digits n
  simp only [Ipv4.text, String.toList_append, List.forall_mem_append]
  exact ⟨⟨⟨⟨⟨⟨part _, dot⟩, part _⟩, dot⟩, part _⟩, dot⟩, part _⟩

section

variable {P : Char → Prop} (colon : P ':') (digits : ∀ d < 16, P d.digitChar)

include colon digits

lemma forall_mem_joined (pieces : List ℕ) : ∀ c ∈ (Ipv6.joined pieces).toList, P c := by
  rw [Ipv6.joined, String.toList_intercalate]
  refine forall_mem_intercalate (List.forall_mem_singleton.mpr colon) fun part mem => ?_
  simp only [List.map_map, List.mem_map] at mem
  obtain ⟨n, -, rfl⟩ := mem
  rw [Function.comp_apply, String.toList_ofList]
  exact forall_mem_toDigits (by decide) digits n

lemma forall_mem_ipv6 (pieces : List ℕ) : ∀ c ∈ (Ipv6.text pieces).toList, P c := by
  have colons : ∀ c ∈ "::".toList, P c := by simpa using colon
  have joined := forall_mem_joined colon digits
  rw [Ipv6.text]
  split_ifs
  · exact joined pieces
  · simp only [String.toList_append, List.forall_mem_append]
    exact ⟨⟨joined _, colons⟩, joined _⟩

end

/-! ### Names -/

/-- Bytes that are neither forbidden nor control characters are those of hosts. -/
lemma isHostChar_of_allowed {n : ℕ} (ascii : n < 0x80)
    (plain : Escape.control (UInt8.ofNat n) = false)
    (allowed : isForbidden (Char.ofNat n) = false) : IsHostChar (Char.ofNat n) := by
  have all : ∀ n < 0x80, Escape.control (UInt8.ofNat n) = false →
      isForbidden (Char.ofNat n) = false → IsHostChar (Char.ofNat n) := by
    decide +kernel
  exact all n ascii plain allowed

/-- A text without forbidden characters is written in those of hosts. -/
lemma isHostChar_escaped (allowed : ∀ c ∈ cs, isForbidden c = false) :
    ∀ c ∈ (Escape.apply Escape.control cs).toList, IsHostChar c := by
  rw [Escape.apply, String.toList_ofList]
  intro c mem
  obtain ⟨b, inside, here⟩ := List.mem_flatMap.mp mem
  refine forall_mem_encodeByte (by decide) (by decide) (fun ascii plain => ?_) c here
  have kept := allowed _ (Utf8.ofNat_mem_of_mem_encode inside ascii)
  refine isHostChar_of_allowed ascii ?_ kept
  rw [UInt8.ofNat_toNat]
  exact plain

lemma exists_of_readBracketed (reads : readBracketed cs = .ok host) :
    ∃ pieces, host = .ipv6 pieces := by
  rw [readBracketed] at reads
  split at reads
  · split at reads
    · cases reads
      exact ⟨_, rfl⟩
    · cases reads
  · cases reads

lemma isHostChar_of_ofAscii (plain : ∀ c ∈ cs, Idna.IsPlain c) (reads : ofAscii cs = .ok host) :
    ∀ c ∈ host.text.toList, IsHostChar c := by
  rw [ofAscii] at reads
  split_ifs at reads
  · split at reads
    · cases reads
      exact forall_mem_ipv4 (by decide) isHostChar_digitChar _
    · cases reads
  · cases reads
    rw [text, String.toList_ofList]
    exact fun c mem => isHostChar_of_isPlain (plain c mem)

/-- **A host that is read** is an address in brackets, or is written in the characters of hosts. -/
theorem IsRead.spelling (isRead : host.IsRead) :
    (∃ pieces, host = .ipv6 pieces) ∨ ∀ c ∈ host.text.toList, IsHostChar c := by
  obtain ⟨cs, reads | reads⟩ := isRead
  · rw [read.eq_def] at reads
    split at reads
    · exact .inl (exists_of_readBracketed reads)
    · split at reads
      · next ascii named =>
          exact .inr (isHostChar_of_ofAscii (Idna.isPlain_of_toAscii named) reads)
      · cases reads
  · rw [readOpaque.eq_def] at reads
    split at reads
    · exact .inl (exists_of_readBracketed reads)
    · split_ifs at reads with forbidden
      cases reads
      rw [Bool.not_eq_true, List.any_eq_false] at forbidden
      exact .inr (isHostChar_escaped fun c mem => Bool.eq_false_iff.mpr (forbidden c mem))

lemma toList_text_ipv6 (pieces : List ℕ) :
    (ipv6 pieces).text.toList = '[' :: (Ipv6.text pieces).toList ++ [']'] := by
  rw [text, String.toList_append, String.toList_append]
  rfl

/-- It is written in visible ASCII characters. -/
theorem IsRead.allVisible (isRead : host.IsRead) : AllVisible host.text.toList := by
  rcases isRead.spelling with ⟨pieces, rfl⟩ | plain
  · have inner : AllVisible (Ipv6.text pieces).toList :=
      forall_mem_ipv6 (by decide) (fun _ small => visible_digitChar small) pieces
    have brackets : AllVisible ['['] ∧ AllVisible [']'] := by decide
    rw [toList_text_ipv6, allVisible_append]
    exact ⟨allVisible_append.mpr ⟨brackets.1, inner⟩, brackets.2⟩
  · exact fun c mem => (plain c mem).1

end Host

/-! ### URLs -/

namespace Authority

/-- **The parts of a text with a host and a port**, each read from some part of the text. -/
lemma exists_of_parseHost {place : Option Host} {port : Option ℕ} {rest : List Char}
    (h : parseHost scheme cs = .ok (place, port, rest)) :
    ∃ front host, Host.readUnder scheme front = .ok host ∧
      place = (if host = .name "" then none else some host) ∧
      (port = none ∨ ∃ after, parsePort scheme after = .ok (port, rest)) := by
  rw [parseHost] at h
  dsimp only at h
  split_ifs at h with bare
  · cases h
  · cases h
  all_goals
    obtain ⟨found, reads, h⟩ := exists_of_bind h
    have reads' : Host.readUnder scheme (cs.take (hostLength false cs)) = .ok found := by
      rw [Host.readUnder]
      split_ifs
      exact reads
    refine ⟨_, found, reads', ?_⟩
    split at h
    · split_ifs at h with empty
      · cases h
      · obtain ⟨⟨port', rest'⟩, numbered, h⟩ := exists_of_bind h
        cases h
        exact ⟨(if_neg empty).symm, .inr ⟨_, numbered⟩⟩
    · cases h
      exact ⟨rfl, .inl rfl⟩

/-- **The parts of a text with an authority**: its host and its port. -/
lemma exists_of_parse {a : Authority} {rest : List Char} (h : parse scheme cs = .ok (a, rest)) :
    ∃ place after, parseHost scheme place = .ok (a.host, a.port, after) := by
  rw [parse] at h
  dsimp only at h
  split at h
  · cases h
  · obtain ⟨⟨found, port, after⟩, reads, h⟩ := exists_of_bind h
    split at h
    · cases h
    · obtain ⟨rfl, -⟩ := Prod.mk.inj (Except.ok.inj h)
      exact ⟨_, after, reads⟩

lemma isRead_of_parse {a : Authority} {rest : List Char} (h : parse scheme cs = .ok (a, rest))
    (named : a.host = some host) : host.IsRead := by
  obtain ⟨place, after, parses⟩ := exists_of_parse h
  obtain ⟨front, found, reads, here, -⟩ := exists_of_parseHost parses
  rw [named] at here
  split_ifs at here
  obtain rfl := Option.some.inj here
  exact Host.isRead_of_readUnder reads

end Authority

namespace Url

/-- The authorities that texts have under a scheme: none, one that is read, or, for local files, one
that has a host at most and not the local one. -/
inductive Settles (scheme : String) : Option Authority → Prop
  | bare : Settles scheme none
  | placed {cs rest : List Char} {a : Authority} (remote : scheme ≠ Scheme.file)
      (reads : Authority.parse scheme cs = .ok (a, rest)) : Settles scheme (some a)
  | onFile {host : Option Host} (filed : scheme = Scheme.file)
      (named : ∀ h ∈ host, h ≠ .name "localhost" ∧ ∃ cs, Host.read cs = .ok h) :
      Settles scheme (some ⟨"", "", host, none⟩)

lemma settles_ofAuthority (remote : scheme ≠ Scheme.file) (h : ofAuthority scheme cs = .ok u) :
    Settles scheme u.authority := by
  rw [ofAuthority] at h
  obtain ⟨⟨a, rest⟩, reads, h⟩ := exists_of_bind h
  cases h
  rw [authority_withTail]
  exact .placed remote reads

lemma settles_localUrl {place : Option Host} (names : List String) (cs : List Char)
    (named : ∀ h ∈ place, h ≠ .name "localhost" ∧ ∃ cs, Host.read cs = .ok h) :
    Settles Scheme.file (localUrl place names cs).authority := by
  rw [localUrl, authority_withTail]
  dsimp only
  split_ifs
  · exact .onFile rfl nofun
  · exact .onFile rfl named

lemma settles_localUrl_none (names : List String) (cs : List Char) :
    Settles Scheme.file (localUrl none names cs).authority :=
  settles_localUrl names cs fun _ mem => absurd mem (Option.not_mem_none _)

lemma named_of_localHost {place : Option Host} {rest : List Char}
    (h : localHost cs = .ok (place, rest)) :
    ∀ h ∈ place, h ≠ .name "localhost" ∧ ∃ cs, Host.read cs = .ok h := by
  rw [localHost] at h
  dsimp only at h
  split_ifs at h
  · cases h
    exact nofun
  · split at h
    · next found reads =>
        cases h
        intro host mem
        split_ifs at mem with here
        · cases mem
        · obtain rfl := Option.mem_some_iff.mp mem
          exact ⟨here, _, reads⟩
    · cases h

lemma Settles.named (settled : Settles Scheme.file u.authority) :
    ∀ h ∈ u.host?, h ≠ .name "localhost" ∧ ∃ cs, Host.read cs = .ok h := by
  rw [host?]
  cases known : u.authority with
  | none => exact nofun
  | some a =>
      rw [known] at settled
      cases settled with
      | placed remote => exact absurd rfl remote
      | onFile _ named => exact named

lemma settles_underRoot {base : Option Url} (settled : ∀ b ∈ base, Settles Scheme.file b.authority)
    (cs : List Char) : Settles Scheme.file (joinLocal.underRoot base cs).authority := by
  rw [joinLocal.underRoot.eq_def]
  split
  · exact settles_localUrl_none _ _
  · next b =>
      dsimp only
      split_ifs
      · exact settles_localUrl_none _ _
      · exact settles_localUrl_none _ _
      · exact settles_localUrl _ _ (settled b rfl).named

/-- A text that names a local file leaves the host of the base, or names another one. -/
lemma settles_joinLocal {base : Option Url}
    (settled : ∀ b ∈ base, Settles Scheme.file b.authority) (h : joinLocal base cs = .ok u) :
    Settles Scheme.file u.authority := by
  cases cs with
  | nil =>
      cases base with
      | none =>
          cases h
          exact settles_localUrl_none _ _
      | some b =>
          cases h
          exact settled b rfl
  | cons c rest =>
      rw [joinLocal.eq_def] at h
      dsimp only at h
      by_cases rooted : isSlash true c = true
      · rw [if_pos rooted] at h
        cases rest with
        | nil =>
            cases h
            exact settles_underRoot settled _
        | cons d after =>
            dsimp only at h
            split_ifs at h
            · obtain ⟨⟨place, path⟩, reads, h⟩ := exists_of_bind h
              cases h
              exact settles_localUrl _ _ (named_of_localHost reads)
            · cases h
              exact settles_underRoot settled _
      · rw [if_neg rooted] at h
        cases base with
        | none =>
            cases h
            exact settles_localUrl_none _ _
        | some b =>
            have kept := settled b rfl
            dsimp only at h
            split_ifs at h <;> cases h
            · rwa [authority_withTail]
            · rwa [authority_withTail]
            · exact settles_localUrl_none _ _
            · rwa [authority_withPath]

/-- So does a text that is relative to a URL of another scheme. -/
lemma settles_joinRelative (remote : base.scheme ≠ Scheme.file)
    (settled : Settles base.scheme base.authority) (h : joinRelative base cs = .ok u) :
    Settles base.scheme u.authority := by
  have path (names : List String) (cs : List Char) :
      Settles base.scheme (withPath base names cs).authority := by
    rwa [authority_withPath]
  rw [joinRelative.eq_def] at h
  split at h
  · cases h
    exact settled
  · cases h
    rwa [authority_withTail]
  · cases h
    rwa [authority_withTail]
  · split_ifs at h
    · split at h
      · split_ifs at h
        · exact settles_ofAuthority remote h
        · cases h
          exact path _ _
      · cases h
        exact path _ _
    · cases h
      exact path _ _

lemma settles_ofScheme {base : Option Url} (settled : ∀ b ∈ base, Settles b.scheme b.authority)
    (h : ofScheme base scheme cs = .ok u) : Settles scheme u.authority := by
  rw [ofScheme.eq_def] at h
  dsimp only at h
  have alike : ∀ b ∈ base.filter (·.scheme = scheme), b.scheme = scheme ∧
      Settles scheme b.authority := by
    intro b filtered
    obtain ⟨known, same⟩ := Option.filter_eq_some_iff.mp filtered
    obtain rfl := decide_eq_true_eq.mp same
    exact ⟨rfl, settled b known⟩
  by_cases filed : scheme = Scheme.file
  · rw [if_pos filed] at h
    rw [filed] at h alike ⊢
    exact settles_joinLocal (fun b mem => (alike b mem).2) h
  rw [if_neg filed] at h
  by_cases special : Scheme.isSpecial scheme = true
  · rw [if_pos special] at h
    split at h
    · next b known =>
        obtain ⟨rfl, settled⟩ := alike b known
        split_ifs at h
        · exact settles_joinRelative filed settled h
        · exact settles_ofAuthority filed h
    · exact settles_ofAuthority filed h
  · rw [if_neg special] at h
    split at h
    · exact settles_ofAuthority filed h
    · cases h
      rw [ofPlainPath.eq_def]
      split <;> rw [authority_withTail] <;> exact .bare

/-- **The authority of a URL** that is read, from a text or relative to another one. -/
theorem IsRead.settles (read : u.IsRead) : Settles u.scheme u.authority := by
  induction read with
  | parse parses =>
      rw [Url.parse] at parses
      split at parses
      · obtain ⟨same, -⟩ := frame_of_ofScheme (fun _ same => by cases same) parses
        rw [same]
        exact settles_ofScheme (fun _ same => by cases same) parses
      · cases parses
  | @join base u text read joins ih =>
      rw [Url.join] at joins
      split at joins
      · obtain ⟨same, -⟩ :=
          frame_of_ofScheme (fun b same => by cases same; exact read.isSound) joins
        rw [same]
        refine settles_ofScheme (fun b same => ?_) joins
        cases same
        exact ih
      · obtain ⟨same, -⟩ := frame_of_joinReference joins
        rw [same]
        rw [joinReference] at joins
        split_ifs at joins with fragment opaquely filed
        · cases joins
          rwa [authority_withTail]
        · rw [filed] at ih ⊢
          refine settles_joinLocal (fun b same => ?_) joins
          cases same
          exact ih
        · exact settles_joinRelative filed ih joins

/-- The host of a URL that is read, is read from a text itself. -/
theorem IsRead.isRead_host (read : u.IsRead) (named : u.host? = some host) : host.IsRead := by
  have settled := read.settles
  obtain ⟨a, known, named⟩ := Option.bind_eq_some_iff.mp named
  rw [known] at settled
  cases settled with
  | placed _ reads => exact Authority.isRead_of_parse reads named
  | onFile _ found =>
      obtain ⟨-, cs, reads⟩ := found host named
      exact ⟨cs, .inl reads⟩

lemma visible_of_isSchemeChar {c : Char} (h : isSchemeChar c = true) : Visible c := by
  rw [isSchemeChar, Bool.or_eq_true, Bool.or_eq_true, Bool.or_eq_true] at h
  rcases h with ((letter | mark) | mark) | mark
  · exact visible_of_isAlphanum letter
  all_goals
    rw [decide_eq_true_eq.mp mark]
    decide

lemma allVisible_of_splitScheme {rest : List Char} (h : splitScheme cs = some (scheme, rest)) :
    AllVisible scheme.toList := by
  rw [splitScheme] at h
  split at h
  · split_ifs at h
    cases h
    rw [String.toList_ofList]
    refine List.forall_mem_map.mpr fun c mem => ?_
    exact visible_toLower (visible_of_isSchemeChar (List.mem_takeWhile_imp mem))
  · cases h

/-- The scheme of a URL that a text is, is written in visible characters. -/
theorem allVisible_scheme {text : String} (parses : Url.parse text = .ok u) :
    AllVisible u.scheme.toList := by
  rw [Url.parse] at parses
  split at parses
  · next scheme rest split =>
      obtain ⟨same, -⟩ := frame_of_ofScheme (fun _ same => by cases same) parses
      rw [same]
      exact allVisible_of_splitScheme split
  · cases parses

end Url

end Wayfarer
