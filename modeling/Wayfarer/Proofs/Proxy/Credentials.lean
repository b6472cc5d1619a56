import Wayfarer.Proofs.Proxy.Address
import Wayfarer.Proofs.Text.Base64
import Wayfarer.Proofs.Url.Refused

/-!
The credentials for proxies.

* `Spells`: a text that stands for another one where escapes are read, and may stand in front of a
  host;
* `Escape.Guards.spells`: **escapes spell any text**, if all is escaped that has no place there;
* `Credentials.exists_writes`: what the base 64 of credentials stands for;
* `Endpoint.written`, `Endpoint.IsWriting`: a text that names a proxy with credentials, and its
  parts;
* `Endpoint.IsWriting.parse_eq_ok_iff`: the proxy that it names;
* `Endpoint.address_and_credentials`: **addresses and credentials are told apart without loss**.
-/

namespace Wayfarer

variable {w v h user pass : String} {spelt : Option String} {port : Option ℕ} {host : Host}
variable {e : Endpoint}

/-! ### Texts in escapes -/

/-- The characters with which credentials are spelt: visible ones that do not end them. -/
def IsSpelt (c : Char) : Prop :=
  Base64.Visible c ∧ c ∉ ['/', '\\', '?', '#']

instance : DecidablePred IsSpelt := fun _ => inferInstanceAs (Decidable (_ ∧ _))

/-- A text spells another one in escapes, as credentials do. -/
structure Spells (written meant : String) : Prop where
  chars : ∀ c ∈ written.toList, IsSpelt c
  meaning : Percent.decode (utf8 written) = utf8 meant

/-- A class of bytes outside which there are only characters with which credentials are spelt, and
neither colons nor percent signs. -/
def Escape.Guards (p : UInt8 → Bool) : Prop :=
  ∀ b < 0x80, p b = false →
    IsSpelt (Char.ofNat b.toNat) ∧ Char.ofNat b.toNat ∉ [':', '%']

lemma Escape.guards_userinfo : Guards fun b => userinfo b || b = 0x25 :=
  forall_byte (by decide +kernel)

lemma Escape.Guards.percent {p : UInt8 → Bool} (guards : Guards p) : p 0x25 = true := by
  by_contra plain
  exact (guards 0x25 (by decide) (Bool.not_eq_true _ ▸ plain)).2 (by decide)

lemma Escape.Guards.isSpelt {p : UInt8 → Bool} (guards : Guards p) (bs : Bytes) :
    ∀ c ∈ Percent.encode p bs, IsSpelt c ∧ c ≠ ':' := by
  intro c mem
  obtain ⟨b, -, here⟩ := List.mem_flatMap.mp mem
  refine forall_mem_encodeByte (P := fun c => IsSpelt c ∧ c ≠ ':') (by decide) (by decide)
    (fun ascii plain => ?_) c here
  obtain ⟨spelt, other⟩ := guards b ascii plain
  exact ⟨spelt, fun colon => other (colon ▸ List.mem_cons_self)⟩

/-- Escapes spell any text. -/
lemma Escape.Guards.spells {p : UInt8 → Bool} (guards : Guards p) (s : String) :
    Spells (Escape.apply p s.toList) s ∧ ':' ∉ (Escape.apply p s.toList).toList := by
  have plain := guards.isSpelt (utf8 s)
  rw [Escape.apply, String.toList_ofList]
  refine ⟨⟨?_, ?_⟩, fun mem => (plain _ mem).2 rfl⟩
  · rw [String.toList_ofList]
    exact fun c mem => (plain c mem).1
  · rw [utf8, String.toList_ofList]
    exact Percent.decode_encode_of_percent guards.percent _

lemma Spells.ne_empty (spells : Spells w user) (filled : user ≠ "") : w ≠ "" := by
  rintro rfl
  have none : Utf8.scan (utf8 user) = [] := by
    rw [← spells.meaning]
    simp [utf8, Utf8.encode, Percent.decode, Utf8.scan, Utf8.scanFrom, Utf8.Pending.close]
  rw [utf8, Utf8.scan_encode, List.map_eq_nil_iff, String.toList_eq_nil_iff] at none
  exact filled none

lemma sparesEscapes_userinfo : Percent.SparesEscapes Escape.userinfo where
  percent := by decide
  digit := forall_byte (by decide +kernel)

/-- What is spelt in the credentials of a URL is what they stand for. -/
lemma Spells.unescaped (spells : Spells w user) :
    Endpoint.unescaped (Escape.apply Escape.userinfo w.toList) = user := by
  rw [Endpoint.unescaped, Escape.apply, utf8, String.toList_ofList,
    sparesEscapes_userinfo.decode_encode]
  have meaning := spells.meaning
  rw [utf8] at meaning
  rw [meaning, utf8, Utf8.decodeLossy_encode, String.ofList_toList]

/-! ### Bytes of credentials -/

namespace Credentials

/-- The credentials as one text. -/
def pair (c : Credentials) : List Char :=
  (c.user ++ ":" ++ c.password).toList

/-- A byte string is a text with one byte for each character where all of them are below 256, and
in UTF-8 otherwise. -/
def Writes (bs : Bytes) (cs : List Char) : Prop :=
  if cs.all (·.toNat ≤ 0xFF) then bs.map (fun b => Char.ofNat b.toNat) = cs
  else Utf8.decode? bs = some cs

lemma map_ofNat_toNat {cs : List Char} (low : ∀ c ∈ cs, c.toNat ≤ 0xFF) :
    (cs.map fun c => UInt8.ofNat c.toNat).map (fun b => Char.ofNat b.toNat) = cs := by
  rw [List.map_map]
  refine (List.map_congr_left fun c mem => ?_).trans cs.map_id
  rw [Function.comp_apply, UInt8.toNat_ofNat_of_lt' (Nat.lt_succ_of_le (low c mem)),
    Char.ofNat_toNat]
  rfl

lemma writes_bytes (c : Credentials) : Writes c.bytes c.pair := by
  rw [Writes, bytes, ← pair]
  by_cases low : c.pair.all (·.toNat ≤ 0xFF) = true
  · rw [if_pos low, if_pos low]
    exact map_ofNat_toNat fun x mem => of_decide_eq_true (List.all_eq_true.mp low x mem)
  · rw [if_neg low, if_neg low]
    exact Utf8.decode?_eq_some_iff.mpr rfl

/-- **What the base 64 of credentials stands for.** -/
theorem exists_writes (c : Credentials) :
    ∃ bs, Base64.decode? c.basic.toList = some bs ∧ Writes bs c.pair := by
  refine ⟨c.bytes, ?_, c.writes_bytes⟩
  rw [basic, String.toList_ofList, Base64.decode?_encode]

end Credentials

/-! ### Texts of proxies -/

namespace Endpoint

/-- A proxy as settings name it with credentials: a scheme, if there is one, what spells the user
and the password, a host, and a port, if there is one. -/
def written (spelt : Option String) (w v h : String) (port : Option ℕ) : String :=
  (spelt.map (· ++ "://")).getD "" ++ w ++ ":" ++ v ++ "@" ++ h ++ writtenPort port

/-- The parts of such a text, and the user, who is not empty, and the password that they mean. -/
structure IsWriting (spelt : Option String) (w v h user pass : String) : Prop where
  schemed : ∀ s ∈ spelt, Scheme.IsSpelling s
  users : Spells w user
  single : ':' ∉ w.toList
  filled : user ≠ ""
  passes : Spells v pass
  fits : Host.Fits h.toList

/-- The scheme of such a text. -/
def schemeOf (spelt : Option String) : String :=
  lowered (spelt.getD "http")

/-- What stands in front of its host. -/
def userText (w v : String) : List Char :=
  w.toList ++ ':' :: v.toList

lemma toList_written_none (w v h : String) (port : Option ℕ) :
    (written none w v h port).toList =
      Authority.placeText (some (userText w v)) h.toList port := by
  simp [written, Authority.placeText, Authority.inFront, userText]

lemma toList_written_some (s w v h : String) (port : Option ℕ) :
    (written (some s) w v h port).toList =
      Url.placeText s (some (userText w v)) h.toList port := by
  simp [written, Url.placeText, Authority.placeText, Authority.inFront, userText]

/-- The proxy that a URL with credentials names. -/
lemma ofUrl_placed {scheme : String} (named : host.text ≠ "") (users : Spells w user)
    (passes : Spells v pass) (filled : user ≠ "") :
    ofUrl? (Url.placed scheme ⟨Escape.apply Escape.userinfo w.toList,
        Escape.apply Escape.userinfo v.toList, some host, port⟩) =
      some ⟨addressAt scheme host port, some ⟨user, pass⟩⟩ := by
  have some' : Escape.apply Escape.userinfo w.toList ≠ "" := by
    refine Escape.apply_ne_empty ?_
    rw [ne_eq, String.toList_eq_nil_iff]
    exact users.ne_empty filled
  have known : credentialsOf (Url.placed scheme ⟨Escape.apply Escape.userinfo w.toList,
      Escape.apply Escape.userinfo v.toList, some host, port⟩) = some ⟨user, pass⟩ := by
    rw [credentialsOf, Url.username, Url.password, Url.placed, Url.authority_withTail,
      Option.map_some, Option.map_some, Option.getD_some, Option.getD_some, if_neg,
      users.unescaped, passes.unescaped]
    rwa [String.isEmpty_iff]
  refine ofUrl_eq_some_iff.mpr ⟨host, ?_, named, ?_⟩
  · rw [Url.placed, Url.host?, Url.authority_withTail]
    rfl
  · rw [known, Url.placed, Url.scheme_withTail, Url.port?, Url.authority_withTail]
    rfl

namespace IsWriting

variable (writing : IsWriting spelt w v h user pass)

include writing

lemma isSpelling : Scheme.IsSpelling (spelt.getD "http") := by
  cases spelt with
  | none => exact ⟨by decide, List.all_eq_true.mp rfl⟩
  | some s => exact writing.schemed s rfl

/-- No character in front of the host ends it or does not count. -/
lemma forall_mem_userText : ∀ us ∈ some (userText w v), ∀ c ∈ us,
    0x20 < c.toNat ∧ c ∉ ['/', '\\', '?', '#'] := by
  rintro _ ⟨⟩ c mem
  have colon : IsSpelt ':' := by decide
  have spelt : IsSpelt c := List.forall_mem_append.mpr
    ⟨writing.users.chars, List.forall_mem_cons.mpr ⟨colon, writing.passes.chars⟩⟩ c mem
  exact ⟨spelt.1.1, spelt.2⟩

/-- No blanks are at the ends of the text. -/
lemma firm (port : Option ℕ) : Firm isBlank (written spelt w v h port).toList where
  head := by
    -- up to the first colon all characters are visible
    obtain ⟨front, back, visible, chars⟩ : ∃ front back, AllVisible front ∧
        (written spelt w v h port).toList = front ++ ':' :: back := by
      cases spelt with
      | none =>
          rw [toList_written_none, Authority.placeText, Authority.inFront, userText,
            List.append_assoc, List.append_assoc]
          exact ⟨w.toList, _, fun c mem => (writing.users.chars c mem).1, rfl⟩
      | some s =>
          have all := (writing.schemed s rfl).all
          exact ⟨s.toList, _, fun c mem => Url.visible_of_isSchemeChar (all c mem),
            toList_written_some s w v h port⟩
    rw [chars]
    cases front with
    | nil =>
        rintro c ⟨⟩
        rfl
    | cons c front =>
        rintro _ ⟨⟩
        exact not_isBlank_of_visible (visible c List.mem_cons_self)
  last := by
    have filled : h.toList ++ (writtenPort port).toList ≠ [] := by simp [writing.fits.filled]
    obtain ⟨front, chars⟩ : ∃ front, (written spelt w v h port).toList =
        front ++ (h.toList ++ (writtenPort port).toList) :=
      ⟨((spelt.map (· ++ "://")).getD "" ++ w ++ ":" ++ v ++ "@").toList, by simp [written]⟩
    rw [chars, List.getLast?_append_of_ne_nil _ filled]
    exact writing.fits.not_isBlank_last port

/-- It is read as the text of a place. -/
lemma withScheme_written (port : Option ℕ) :
    withScheme (trimBlanks (written spelt w v h port)) = String.ofList
      (Url.placeText (spelt.getD "http") (some (userText w v)) h.toList port) := by
  have trimmed : trimBlanks (written spelt w v h port) = written spelt w v h port := by
    rw [trimBlanks, trim_eq_stripped, stripped_of_firm (writing.firm port), String.ofList_toList]
  rw [trimmed, withScheme, ← String.toList_inj, String.toList_ofList]
  cases spelt with
  | none =>
      have slash : '/' ∈ [':', '/', '/'] := by decide
      have absent : '/' ∉ (written none w v h port).toList := by
        rw [toList_written_none]
        intro mem
        have plain := fun us here c inside => (writing.forall_mem_userText us here c inside).2
        cases Authority.stays_of_mem writing.fits plain port true _ mem
      rw [not_hasInfix_of_not_mem slash absent, if_neg Bool.false_ne_true, String.toList_append,
        toList_written_none]
      rfl
  | some s =>
      have found : hasInfix [':', '/', '/'] (written (some s) w v h port).toList = true := by
        have split := hasInfix_append s.toList [':', '/', '/']
          (Authority.placeText (some (userText w v)) h.toList port)
        rw [List.append_assoc] at split
        rw [toList_written_some]
        exact split
      rw [if_pos found, toList_written_some]
      rfl

lemma parseUserinfo_userText : Authority.parseUserinfo (userText w v) =
    (Escape.apply Escape.userinfo w.toList, Escape.apply Escape.userinfo v.toList) := by
  have inside : ∀ c ∈ w.toList, decide (c ≠ ':') = true := by
    intro c mem
    rw [decide_eq_true_eq]
    rintro rfl
    exact writing.single mem
  have outside : ∀ c ∈ (':' :: v.toList).head?, decide (c ≠ ':') = false := by
    rintro c ⟨⟩
    rfl
  rw [Authority.parseUserinfo, userText, takeWhile_append_of_head inside outside,
    dropWhile_append_of_head inside outside]
  rfl

/-- It is no local file, since no host has an at sign. -/
lemma not_parse_of_file (filed : schemeOf spelt = Scheme.file) (port : Option ℕ) (u : Url) :
    Url.parse (withScheme (trimBlanks (written spelt w v h port))) ≠ .ok u := by
  intro parses
  have sign : '@' ∈ Authority.placeText (some (userText w v)) h.toList port := by
    simp [Authority.placeText, Authority.inFront]
  have whole : Path.isDrive (String.ofList
      (Authority.placeText (some (userText w v)) h.toList port)) = false := by
    rw [Path.isDrive.eq_def, String.toList_ofList]
    split
    · next a b chars =>
        have length := congrArg List.length chars
        have filled := List.length_pos_iff.mpr writing.fits.filled
        simp [Authority.placeText, Authority.inFront, userText] at length
        omega
    · rfl
  rw [writing.withScheme_written, Url.parse_placeText_file writing.isSpelling writing.fits
    writing.forall_mem_userText filed whole] at parses
  cases reads : Host.read (Authority.placeText (some (userText w v)) h.toList port) with
  | error failure =>
      rw [reads] at parses
      cases parses
  | ok host => exact Host.not_mem_at_of_read reads sign

/-- **The proxy that a text with credentials names.** -/
theorem parse_eq_ok_iff : parse (written spelt w v h port) = .ok e ↔
    schemeOf spelt ≠ Scheme.file ∧ (∀ p ∈ port, p ≤ 65535) ∧
      ∃ host, Host.readUnder (schemeOf spelt) h.toList = .ok host ∧
        e = ⟨addressAt (schemeOf spelt) host (Scheme.keptPort (schemeOf spelt) port),
          some ⟨user, pass⟩⟩ := by
  by_cases filed : schemeOf spelt = Scheme.file
  · refine ⟨fun reads => ?_, fun known => absurd filed known.1⟩
    obtain ⟨u, parses, -⟩ := Endpoint.parse_eq_ok_iff.mp reads
    exact absurd parses (writing.not_parse_of_file filed port u)
  · rw [Endpoint.parse_eq_ok_iff, writing.withScheme_written]
    have parses {u : Url} : Url.parse (String.ofList (Url.placeText (spelt.getD "http")
        (some (userText w v)) h.toList port)) = .ok u ↔ _ :=
      Url.parse_placeText writing.isSpelling writing.fits writing.forall_mem_userText filed
    rw [Option.getD_some, writing.parseUserinfo_userText] at parses
    have named {host : Host} (reads : Host.readUnder (schemeOf spelt) h.toList = .ok host) :=
      Host.text_ne_empty (Host.ne_name_empty_of_readUnder writing.fits.filled reads)
    constructor
    · rintro ⟨u, reads, here⟩
      obtain ⟨host, found, low, rfl⟩ := parses.mp reads
      rw [ofUrl_placed (named found) writing.users writing.passes writing.filled] at here
      exact ⟨filed, low, host, found, (Option.some.inj here).symm⟩
    · rintro ⟨-, low, host, found, rfl⟩
      exact ⟨_, parses.mpr ⟨host, found, low, rfl⟩,
        ofUrl_placed (named found) writing.users writing.passes writing.filled⟩

end IsWriting

/-- **The address of a proxy and the credentials for it.** No credentials stand in the address of a
proxy, whatever text names it; and if the host of that text is read as itself, the address names the
same proxy without credentials. Let a text be written with what spells a user, who is not empty, and
a password. It names a proxy exactly if its scheme, which is `http` where it has none, is not that
of local files, its port is no more than a port can be, and its host is one under the scheme. The
address of the proxy then has this scheme, this host, and the port unless the scheme implies it; the
credentials are the user and the password, and in base 64 they stand for the two with a colon
between them, one byte for each character where all are below 256 and in UTF-8 otherwise. Any text
is spelt by its escapes. -/
theorem address_and_credentials :
    (∀ raw e, parse raw = .ok e → '@' ∉ e.address.toList ∧
      ((∀ u host, Url.parse (withScheme (trimBlanks raw)) = .ok u → u.host? = some host →
          Host.readUnder u.scheme host.text.toList = .ok host) →
        parse e.address = .ok ⟨e.address, none⟩)) ∧
    (∀ spelt w v h user pass, IsWriting spelt w v h user pass →
      (∀ port e, parse (written spelt w v h port) = .ok e ↔
        schemeOf spelt ≠ Scheme.file ∧ (∀ p ∈ port, p ≤ 65535) ∧
          ∃ host, Host.readUnder (schemeOf spelt) h.toList = .ok host ∧
            e = ⟨addressAt (schemeOf spelt) host (Scheme.keptPort (schemeOf spelt) port),
              some ⟨user, pass⟩⟩) ∧
      ∃ bs, Base64.decode? (Credentials.basic ⟨user, pass⟩).toList = some bs ∧
        Credentials.Writes bs (user ++ ":" ++ pass).toList) ∧
    ∀ p, Escape.Guards p → ∀ s,
      Spells (Escape.apply p s.toList) s ∧ ':' ∉ (Escape.apply p s.toList).toList :=
  ⟨fun _ _ reads => ⟨not_mem_at_address reads, parse_address_of_host reads⟩,
    fun _ _ _ _ user pass writing =>
      ⟨fun _ _ => writing.parse_eq_ok_iff, Credentials.exists_writes ⟨user, pass⟩⟩,
    fun _ guards s => guards.spells s⟩

/-- A proxy without a scheme, with an at sign in the password and an address in brackets. -/
theorem bracketed_proxy :
    parse "user:p%40w@[::9]:3128" = .ok ⟨"http://[::9]:3128", some ⟨"user", "p@w"⟩⟩ ∧
      '@' ∉ "http://[::9]:3128".toList ∧
      parse "http://[::9]:3128" = .ok ⟨"http://[::9]:3128", none⟩ ∧
      ∃ bs, Base64.decode? (Credentials.basic ⟨"user", "p@w"⟩).toList = some bs ∧
        Credentials.Writes bs "user:p@w".toList := by
  obtain ⟨apart, written', spells⟩ := address_and_credentials
  have users := spells _ Escape.guards_userinfo "user"
  have passes := (spells _ Escape.guards_userinfo "p@w").1
  rw [show Escape.apply _ "user".toList = "user" by decide +kernel] at users
  rw [show Escape.apply _ "p@w".toList = "p%40w" by decide +kernel] at passes
  have host : Host.read "[::9]".toList = .ok (.ipv6 [0, 0, 0, 0, 0, 0, 0, 9]) := by decide +kernel
  have fits : Host.Fits "[::9]".toList := by
    have isRead : Host.IsRead (.ipv6 [0, 0, 0, 0, 0, 0, 0, 9]) := ⟨_, .inl host⟩
    have text : (Host.ipv6 [0, 0, 0, 0, 0, 0, 0, 9]).text = "[::9]" := by decide +kernel
    exact text ▸ isRead.fits (by rw [text]; decide)
  obtain ⟨named, bytes⟩ :=
    written' none _ _ "[::9]" "user" "p@w" ⟨nofun, users.1, users.2, by decide, passes, fits⟩
  have reads := (named (some 3128) ⟨"http://[::9]:3128", some ⟨"user", "p@w"⟩⟩).mpr
    ⟨by decide, by decide, _, host, by decide +kernel⟩
  have url : Url.parse (withScheme (trimBlanks "user:p%40w@[::9]:3128")) =
      .ok ⟨"http", some ⟨"user", "p%40w", some (.ipv6 [0, 0, 0, 0, 0, 0, 0, 9]), some 3128⟩,
        .names [""], none, none⟩ := by decide +kernel
  obtain ⟨bare, again⟩ := apart _ _ reads
  refine ⟨reads, bare, again fun u found parses here => ?_, bytes⟩
  obtain rfl := Except.ok.inj (url.symm.trans parses)
  obtain rfl := Option.some.inj here
  decide +kernel

end Endpoint

end Wayfarer
