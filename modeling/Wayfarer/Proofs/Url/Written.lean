import Wayfarer.Proofs.Text.Pieces
import Wayfarer.Proofs.Url.Located

/-!
URLs written as a place.

* `Host.Closed`, `Host.Fits`: a text in which colons stand in brackets, and one that may stand for a
  host between credentials and a port;
* `Host.IsRead.fits`: hosts that are read are written as such texts;
* `Authority.parsePort_toString`, `Scheme.keptPort`: the port that a number names, none where the
  scheme implies it;
* `Authority.parseHost_eq_ok_iff`, `Authority.parse_eq_ok_iff`: the host, the port and the
  credentials of a text that is put together from them;
* `Url.placeText`: a scheme, what stands in front of a host, the host and a port;
* `Url.parse_placeText`: **the URL that such a text is**, and `Url.parse_placeText_file`: under the
  scheme of local files.
-/

namespace Wayfarer

variable {scheme : String} {cs user : List Char} {host : Host} {port : Option ℕ}

/-! ### Hosts -/

/-- A text does not vanish where it is written with escapes. -/
lemma Escape.apply_ne_empty {p : UInt8 → Bool} (filled : cs ≠ []) : Escape.apply p cs ≠ "" := by
  obtain ⟨c, rest, rfl⟩ := List.exists_cons_of_ne_nil filled
  obtain ⟨b, bytes, char⟩ := List.exists_cons_of_ne_nil (String.utf8EncodeChar_ne_nil (c := c))
  rw [apply, ne_eq, String.ofList_eq_empty_iff, Percent.encode, Utf8.encode, List.flatMap_cons,
    char]
  intro none
  have first := (List.append_eq_nil_iff.mp (List.flatMap_append ▸ none)).1
  rw [List.flatMap_cons, List.append_eq_nil_iff, Percent.encodeByte] at first
  split_ifs at first <;> cases first.1

namespace Host

/-- A text in which colons stand in brackets: these enclose all of it, or there is neither a colon
nor a bracket in it. -/
def Closed (cs : List Char) : Prop :=
  (∃ inner, cs = '[' :: inner ++ [']'] ∧ ']' ∉ inner) ∨ ':' ∉ cs ∧ '[' ∉ cs

/-- A text that may stand for a host between credentials and a port: no character of it ends it or
does not count, and colons stand in brackets. -/
structure Fits (cs : List Char) : Prop where
  filled : cs ≠ []
  firm : ∀ c ∈ cs.getLast?, isBlank c = false
  above : ∀ c ∈ cs, 0x20 < c.toNat
  apart : ∀ c ∈ cs, c ∉ ['/', '\\', '?', '#', '@']
  closed : Closed cs

lemma ne_name_empty_of_readUnder (filled : cs ≠ []) (reads : readUnder scheme cs = .ok host) :
    host ≠ .name "" := by
  rintro rfl
  rw [readUnder] at reads
  split_ifs at reads
  · exact ne_name_empty_of_read reads rfl
  · rw [readOpaque.eq_def] at reads
    split at reads
    · obtain ⟨pieces, same⟩ := exists_of_readBracketed reads
      cases same
    · split_ifs at reads
      exact Escape.apply_ne_empty filled (Host.name.inj (Except.ok.inj reads))

lemma IsHostChar.not_mem {c : Char} (plain : IsHostChar c) :
    c ∉ ['/', '\\', '?', '#', '@', ':', '[', '|'] := by
  intro mark
  simp only [List.mem_cons, List.not_mem_nil, or_false] at mark
  rcases mark with rfl | rfl | rfl | rfl | rfl | rfl | rfl | rfl <;> cases plain.2

/-- **A host that is read** is written as a text that fits. -/
lemma IsRead.fits (isRead : host.IsRead) (filled : host.text ≠ "") : Fits host.text.toList := by
  have filled' : host.text.toList ≠ [] := by simpa using filled
  have above : ∀ c ∈ host.text.toList, 0x20 < c.toNat := fun c mem => (isRead.allVisible c mem).1
  have firm : ∀ c ∈ host.text.toList.getLast?, isBlank c = false :=
    fun c last => not_isBlank_of_visible (isRead.allVisible c (List.mem_of_mem_getLast? last))
  rcases isRead.spelling with ⟨pieces, rfl⟩ | plain
  · have inner : ∀ c ∈ (Ipv6.text pieces).toList, c ∉ ['/', '\\', '?', '#', '@', ']'] :=
      forall_mem_ipv6 (by decide) (by decide) pieces
    refine ⟨filled', firm, above, ?_, .inl ⟨_, toList_text_ipv6 pieces, fun mem => ?_⟩⟩
    · simp only [toList_text_ipv6, List.cons_append, List.forall_mem_cons,
        List.forall_mem_append]
      refine ⟨by decide, fun c mem mark => ?_, by decide, List.forall_mem_nil _⟩
      exact inner c mem (List.mem_append_left [']'] mark)
    · exact inner _ mem (by decide)
  · refine ⟨filled', firm, above, fun c mem mark => ?_, .inr ⟨fun mem => ?_, fun mem => ?_⟩⟩
    · exact (plain c mem).not_mem (List.mem_append_left [':', '[', '|'] mark)
    · exact (plain _ mem).not_mem (by decide)
    · exact (plain _ mem).not_mem (by decide)

/-- It is not written as a drive. -/
lemma IsRead.not_isDrive (isRead : host.IsRead) : Path.isDrive host.text = false := by
  rw [Path.isDrive.eq_def]
  split
  · next a b chars =>
      rcases isRead.spelling with ⟨pieces, rfl⟩ | plain
      · rw [toList_text_ipv6, List.cons_append, List.cons.injEq] at chars
        rw [← chars.1]
        rfl
      · have last := (plain b (by simp [chars])).not_mem
        simp only [List.mem_cons, List.not_mem_nil, or_false, not_or] at last
        simp [last]
  · rfl

end Host

/-- What ends an authority is one of these. -/
lemma Url.stays_of_not_mem {c : Char} (other : c ∉ ['/', '\\', '?', '#']) (special : Bool) :
    (Url.isSlash special c || Url.endsPath c) = false := by
  simp only [List.mem_cons, List.not_mem_nil, or_false, not_or] at other
  simp [Url.isSlash, Url.endsPath, other]

/-! ### Ports -/

/-- A port as it stands behind a host. -/
def writtenPort : Option ℕ → String
  | some port => ":" ++ toString port
  | none => ""

/-- The port that a URL of a scheme keeps: none that the scheme implies. -/
def Scheme.keptPort (scheme : String) (port : Option ℕ) : Option ℕ :=
  port.filter fun p => Scheme.defaultPort? scheme ≠ some p

lemma forall_mem_writtenPort (port : Option ℕ) :
    ∀ c ∈ (writtenPort port).toList, c = ':' ∨ c.isDigit = true := by
  cases port with
  | none => exact List.forall_mem_nil _
  | some p =>
      have chars : (writtenPort (some p)).toList = ':' :: Nat.toDigits 10 p := by
        simp [writtenPort]
      rw [chars, List.forall_mem_cons]
      exact ⟨.inl rfl, fun c mem => .inr (Nat.isDigit_of_mem_toDigits (by decide) (by decide) mem)⟩

lemma not_mem_of_mem_writtenPort (port : Option ℕ) :
    ∀ c ∈ (writtenPort port).toList, c ∉ ['/', '\\', '?', '#', '@'] := by
  intro c mem
  rcases forall_mem_writtenPort port c mem with rfl | digit
  · decide
  · intro mark
    simp only [List.mem_cons, List.not_mem_nil, or_false] at mark
    rcases mark with rfl | rfl | rfl | rfl | rfl <;> cases digit

lemma above_of_mem_writtenPort (port : Option ℕ) :
    ∀ c ∈ (writtenPort port).toList, 0x20 < c.toNat := by
  intro c mem
  rcases forall_mem_writtenPort port c mem with rfl | digit
  · decide
  · exact (visible_of_isAlphanum (by simp [Char.isAlphanum, digit])).1

/-- No blank is at the end of a host and a port. -/
lemma Host.Fits.not_isBlank_last (fits : Host.Fits cs) (port : Option ℕ) :
    ∀ c ∈ (cs ++ (writtenPort port).toList).getLast?, isBlank c = false := by
  intro c last
  rw [List.getLast?_append] at last
  cases behind : (writtenPort port).toList.getLast? with
  | none =>
      rw [behind] at last
      exact fits.firm c last
  | some d =>
      rw [behind] at last
      obtain rfl := Option.some.inj last
      rcases forall_mem_writtenPort port _ (List.mem_of_mem_getLast? behind) with rfl | digit
      · rfl
      · exact not_isBlank_of_visible (visible_of_isAlphanum (by simp [Char.isAlphanum, digit]))

namespace Authority

lemma parsePort_toString (scheme : String) (p : ℕ) :
    parsePort scheme (toString p).toList =
      if 65535 < p then .error .invalidPort else .ok (Scheme.keptPort scheme (some p), []) := by
  have digits : ∀ c ∈ Nat.toDigits 10 p, c.isDigit = true :=
    fun c mem => Nat.isDigit_of_mem_toDigits (by decide) (by decide) mem
  have value : readDigits 10 ((Nat.toDigits 10 p).map digitValue) = p :=
    readDigits_toDigits (by decide) (by decide) p
  rw [Nat.toString_eq_ofList_toDigits, String.toList_ofList, parsePort,
    List.takeWhile_eq_self_iff.mpr digits, List.dropWhile_eq_nil_iff.mpr digits]
  dsimp only
  rw [value, List.isEmpty_eq_false_iff.mpr Nat.toDigits_ne_nil, Bool.false_or, Scheme.keptPort,
    Option.filter_some]
  by_cases implied : Scheme.defaultPort? scheme = some p <;> simp [implied]

/-- The port of a text is none that the scheme implies. -/
lemma port_of_parsePort {rest : List Char} (h : parsePort scheme cs = .ok (port, rest)) :
    ∀ p ∈ port, p ≤ 65535 ∧ Scheme.defaultPort? scheme ≠ some p := by
  rw [parsePort] at h
  split_ifs at h with high implied
  · split at h <;> cases h <;> exact nofun
  · rw [Bool.or_eq_true, not_or, decide_eq_true_eq] at implied
    split at h <;> cases h <;>
      · rintro p ⟨⟩
        exact ⟨Nat.not_lt.mp high, implied.2⟩

lemma port_of_parse {a : Authority} {rest : List Char} (h : parse scheme cs = .ok (a, rest)) :
    ∀ p ∈ a.port, p ≤ 65535 ∧ Scheme.defaultPort? scheme ≠ some p := by
  obtain ⟨place, after, parses⟩ := exists_of_parse h
  obtain ⟨-, -, -, -, bare | ⟨numbered, reads⟩⟩ := exists_of_parseHost parses
  · rw [bare]
    rintro p ⟨⟩
  · exact port_of_parsePort reads

/-! ### The end of a host -/

lemma hostLength_of_not_mem (plain : ':' ∉ cs ∧ '[' ∉ cs) (rest : List Char) :
    hostLength false (cs ++ rest) = cs.length + hostLength false rest := by
  induction cs with
  | nil => simp
  | cons c cs ih =>
      simp only [List.mem_cons, not_or] at plain
      obtain ⟨⟨colon, colons⟩, bracket, brackets⟩ := plain
      rw [List.cons_append, hostLength]
      simp [Ne.symm colon, Ne.symm bracket, ih ⟨colons, brackets⟩]
      omega

lemma hostLength_of_brackets {inner : List Char} (open' : ']' ∉ inner) (rest : List Char) :
    hostLength true (inner ++ ']' :: rest) = inner.length + 1 + hostLength false rest := by
  induction inner with
  | nil => simp [hostLength]
  | cons c inner ih =>
      rw [List.mem_cons, not_or] at open'
      rw [List.cons_append, hostLength]
      simp [Ne.symm open'.1, ih open'.2]
      omega

/-- A host ends where a text ends in which colons stand in brackets. -/
lemma hostLength_append (closed : Host.Closed cs) (rest : List Char) :
    hostLength false (cs ++ rest) = cs.length + hostLength false rest := by
  rcases closed with ⟨inner, rfl, open'⟩ | plain
  · rw [List.cons_append, List.cons_append, hostLength]
    simp [hostLength_of_brackets open']
    omega
  · exact hostLength_of_not_mem plain rest

lemma hostLength_writtenPort (port : Option ℕ) :
    hostLength false (writtenPort port).toList = 0 := by
  cases port <;> simp [writtenPort, hostLength]

/-! ### Host and port -/

/-- What is made of a host that is read, with what follows it. -/
def behindHost (scheme : String) (host : Host) (rest : List Char) :
    Except UrlError (Option Host × Option ℕ × List Char) := do
  match rest with
  | ':' :: after =>
      if host = .name "" then throw .emptyHost
      let (port, rest) ← parsePort scheme after
      return (some host, port, rest)
  | _ => return (if host = .name "" then none else some host, none, rest)

lemma parseHost_append (filled : cs ≠ []) {rest : List Char}
    (ends : hostLength false (cs ++ rest) = cs.length) :
    parseHost scheme (cs ++ rest) =
      (Host.readUnder scheme cs).bind fun host => behindHost scheme host rest := by
  have some' : ¬(Scheme.isSpecial scheme && decide (cs.length = 0)) = true := by simp [filled]
  rw [parseHost, ends, List.take_left, List.drop_left, if_neg some', Host.readUnder]
  dsimp only
  split_ifs
  · cases Host.read cs <;> rfl
  · cases Host.readOpaque cs <;> rfl

lemma behindHost_writtenPort (named : host ≠ .name "") (port : Option ℕ) :
    behindHost scheme host (writtenPort port).toList =
      if ∃ p ∈ port, 65535 < p then .error .invalidPort
      else .ok (some host, Scheme.keptPort scheme port, []) := by
  cases port with
  | none => simp [behindHost, writtenPort, named, Scheme.keptPort, pure, Except.pure]
  | some p =>
      have chars : (writtenPort (some p)).toList = ':' :: (toString p).toList := by
        simp [writtenPort]
      rw [chars, behindHost]
      dsimp only
      rw [if_neg named, parsePort_toString]
      by_cases high : 65535 < p
      · simp [high]
      · simp [high]

/-- **The host and the port** of a text that fits and a port behind it. -/
lemma parseHost_eq_ok_iff (fits : Host.Fits cs) {found : Option Host} {port' : Option ℕ}
    {rest : List Char} :
    parseHost scheme (cs ++ (writtenPort port).toList) = .ok (found, port', rest) ↔
      ∃ host, Host.readUnder scheme cs = .ok host ∧ (∀ p ∈ port, p ≤ 65535) ∧
        found = some host ∧ port' = Scheme.keptPort scheme port ∧ rest = [] := by
  have ends : hostLength false (cs ++ (writtenPort port).toList) = cs.length := by
    rw [hostLength_append fits.closed, hostLength_writtenPort, Nat.add_zero]
  rw [parseHost_append fits.filled ends]
  cases reads : Host.readUnder scheme cs with
  | error e => simp [Except.bind]
  | ok host =>
      have named := Host.ne_name_empty_of_readUnder fits.filled reads
      dsimp only [Except.bind]
      rw [behindHost_writtenPort named]
      split_ifs with high
      · obtain ⟨p, mem, high⟩ := high
        refine ⟨nofun, ?_⟩
        rintro ⟨-, -, low, -⟩
        exact absurd (low p mem) (Nat.not_le.mpr high)
      · have low : ∀ p ∈ port, p ≤ 65535 :=
          fun p mem => Nat.not_lt.mp fun above => high ⟨p, mem, above⟩
        constructor
        · intro same
          cases same
          exact ⟨host, rfl, low, rfl, rfl, rfl⟩
        · rintro ⟨_, same, -, rfl, rfl, rfl⟩
          cases same
          rfl

/-! ### Credentials in front of a host -/

/-- What stands in front of a host: nothing, or a text and an at sign. -/
def inFront : Option (List Char) → List Char
  | some user => user ++ ['@']
  | none => []

/-- The text of an authority: what stands in front of the host, the host and the port. -/
def placeText (user : Option (List Char)) (cs : List Char) (port : Option ℕ) : List Char :=
  inFront user ++ (cs ++ (writtenPort port).toList)

lemma forall_mem_inFront {P : Char → Prop} (sign : P '@') {user : Option (List Char)}
    (each : ∀ us ∈ user, ∀ c ∈ us, P c) : ∀ c ∈ inFront user, P c := by
  cases user with
  | none => exact List.forall_mem_nil _
  | some us => exact List.forall_mem_append.mpr ⟨each us rfl, List.forall_mem_singleton.mpr sign⟩

/-- What stands behind the last at sign is the place. -/
lemma place_inFront (user : Option (List Char)) {place : List Char} (remote : '@' ∉ place) :
    ((inFront user ++ place).reverse.takeWhile (· ≠ '@')).reverse = place := by
  have apart : ∀ c ∈ place.reverse, decide (c ≠ '@') = true := by
    intro c mem
    rw [decide_eq_true_eq]
    rintro rfl
    exact remote (List.mem_reverse.mp mem)
  rw [List.reverse_append, List.takeWhile_append_of_pos apart, List.reverse_append,
    List.reverse_reverse]
  cases user <;> simp [inFront]

/-- What stands in front of it is the user. -/
lemma take_inFront (user : Option (List Char)) (place : List Char) :
    (inFront user ++ place).take ((inFront user ++ place).length - place.length - 1) =
      user.getD [] := by
  cases user with
  | none => simp [inFront]
  | some us =>
      have length : (inFront (some us) ++ place).length - place.length - 1 = us.length := by
        rw [inFront, List.length_append, List.length_append, List.length_singleton]
        omega
      rw [length, inFront, List.append_assoc]
      simp

/-- Nothing in it ends it. -/
lemma stays_of_mem (fits : Host.Fits cs) {user : Option (List Char)}
    (plain : ∀ us ∈ user, ∀ c ∈ us, c ∉ ['/', '\\', '?', '#']) (port : Option ℕ) (special : Bool) :
    ∀ c ∈ placeText user cs port, (Url.isSlash special c || Url.endsPath c) = false := by
  have front := forall_mem_inFront (by decide) plain
  have behind := List.forall_mem_append.mpr ⟨fits.apart, not_mem_of_mem_writtenPort port⟩
  refine List.forall_mem_append.mpr ⟨fun c mem => ?_, fun c mem => ?_⟩
  · exact Url.stays_of_not_mem (front c mem) special
  · exact Url.stays_of_not_mem
      (fun other => behind c mem (List.mem_append_left ['@'] other)) special

lemma continues_of_mem (fits : Host.Fits cs) {user : Option (List Char)}
    (plain : ∀ us ∈ user, ∀ c ∈ us, c ∉ ['/', '\\', '?', '#']) (port : Option ℕ) (special : Bool) :
    ∀ c ∈ placeText user cs port, (!(Url.isSlash special c || Url.endsPath c)) = true := by
  intro c mem
  rw [stays_of_mem fits plain port special c mem, Bool.not_false]

/-- **The parts** of a text that is put together from them. -/
lemma parse_eq_ok_iff (fits : Host.Fits cs) {user : Option (List Char)}
    (plain : ∀ us ∈ user, ∀ c ∈ us, c ∉ ['/', '\\', '?', '#']) {a : Authority} {rest : List Char} :
    parse scheme (placeText user cs port) = .ok (a, rest) ↔
      ∃ host, Host.readUnder scheme cs = .ok host ∧ (∀ p ∈ port, p ≤ 65535) ∧
        a = ⟨(parseUserinfo (user.getD [])).1, (parseUserinfo (user.getD [])).2, some host,
          Scheme.keptPort scheme port⟩ ∧ rest = [] := by
  have remote : '@' ∉ cs ++ (writtenPort port).toList := fun mem =>
    List.forall_mem_append.mpr ⟨fits.apart, not_mem_of_mem_writtenPort port⟩ _ mem (by decide)
  have inside := continues_of_mem fits plain port (Scheme.isSpecial scheme)
  rw [parse, List.takeWhile_eq_self_iff.mpr inside, List.dropWhile_eq_nil_iff.mpr inside, placeText,
    place_inFront user remote, take_inFront]
  dsimp only
  rw [List.isEmpty_nil, Bool.not_true, Bool.and_false, if_neg Bool.false_ne_true]
  constructor
  · intro reads
    obtain ⟨⟨found, port', after⟩, placed, reads⟩ := exists_of_bind reads
    obtain ⟨host, named, low, rfl, rfl, rfl⟩ := (parseHost_eq_ok_iff fits).mp placed
    cases reads
    exact ⟨host, named, low, rfl, rfl⟩
  · rintro ⟨host, named, low, rfl, rfl⟩
    have reads : parseHost scheme (cs ++ (writtenPort port).toList) = _ :=
      (parseHost_eq_ok_iff fits).mpr ⟨host, named, low, rfl, rfl, rfl⟩
    rw [reads]
    rfl

end Authority

/-! ### URLs -/

namespace Url

/-- The URL of a scheme that has a place and nothing behind it. -/
def placed (scheme : String) (a : Authority) : Url :=
  withTail ⟨scheme, some a, .names (Path.parseStart scheme []).1, none, none⟩
    (Path.parseStart scheme []).2

lemma ofAuthority_eq_ok_iff {u : Url} (whole : ∀ a rest, Authority.parse scheme cs = .ok (a, rest) →
      rest = []) :
    ofAuthority scheme cs = .ok u ↔
      ∃ a, Authority.parse scheme cs = .ok (a, []) ∧ u = placed scheme a := by
  rw [ofAuthority]
  cases reads : Authority.parse scheme cs with
  | error e =>
      refine ⟨fun read => (by cases read), ?_⟩
      rintro ⟨a, placed, -⟩
      cases placed
  | ok parts =>
      obtain ⟨a, rest⟩ := parts
      obtain rfl := whole a rest reads
      constructor
      · intro read
        cases read
        exact ⟨a, rfl, rfl⟩
      · rintro ⟨a', same, rfl⟩
        cases same
        rfl

/-- The text of a place: a scheme, what stands in front of the host, the host and the port. -/
def placeText (spelt : String) (user : Option (List Char)) (cs : List Char) (port : Option ℕ) :
    List Char :=
  spelt.toList ++ ':' :: '/' :: '/' :: Authority.placeText user cs port

section

variable {spelt : String} (spelling : Scheme.IsSpelling spelt) (fits : Host.Fits cs)
variable {user : Option (List Char)}
variable (plain : ∀ us ∈ user, ∀ c ∈ us, 0x20 < c.toNat ∧ c ∉ ['/', '\\', '?', '#'])

include spelling fits plain

/-- The text of a place is read behind its scheme. -/
lemma parse_placeText_eq (port : Option ℕ) :
    Url.parse (String.ofList (placeText spelt user cs port)) =
      ofScheme none (lowered spelt) ('/' :: '/' :: Authority.placeText user cs port) := by
  have front : ∀ c ∈ Authority.inFront user, 0x20 < c.toNat :=
    Authority.forall_mem_inFront (by decide) fun us mem c inside => (plain us mem c inside).1
  have spelt' : ∀ c ∈ spelt.toList, 0x20 < c.toNat :=
    fun c mem => (visible_of_isSchemeChar (spelling.all c mem)).1
  have above : ∀ c ∈ placeText spelt user cs port, 0x20 < c.toNat := by
    simp only [placeText, Authority.placeText, List.forall_mem_append, List.forall_mem_cons]
    exact ⟨spelt', by decide, by decide, by decide, front, fits.above,
      above_of_mem_writtenPort port⟩
  rw [Url.parse, significant_eq_self above, placeText, splitScheme_append spelling]

/-- **The URL that a place is**, under any scheme but that of local files. -/
theorem parse_placeText (remote : lowered spelt ≠ Scheme.file) {u : Url} :
    Url.parse (String.ofList (placeText spelt user cs port)) = .ok u ↔
      ∃ host, Host.readUnder (lowered spelt) cs = .ok host ∧ (∀ p ∈ port, p ≤ 65535) ∧
        u = placed (lowered spelt) ⟨(Authority.parseUserinfo (user.getD [])).1,
          (Authority.parseUserinfo (user.getD [])).2, some host,
          Scheme.keptPort (lowered spelt) port⟩ := by
  have plain' : ∀ us ∈ user, ∀ c ∈ us, c ∉ ['/', '\\', '?', '#'] :=
    fun us mem c inside => (plain us mem c inside).2
  have placed {cs' : List Char} (same : cs' = Authority.placeText user cs port) :
      ofAuthority (lowered spelt) cs' = .ok u ↔
        ∃ host, Host.readUnder (lowered spelt) cs = .ok host ∧ (∀ p ∈ port, p ≤ 65535) ∧
          u = placed (lowered spelt) ⟨(Authority.parseUserinfo (user.getD [])).1,
            (Authority.parseUserinfo (user.getD [])).2, some host,
            Scheme.keptPort (lowered spelt) port⟩ := by
    have parts {a rest} : Authority.parse (lowered spelt) cs' = .ok (a, rest) ↔ _ :=
      same ▸ Authority.parse_eq_ok_iff fits plain'
    have whole : ∀ a rest, Authority.parse (lowered spelt) cs' = .ok (a, rest) → rest = [] := by
      intro a rest reads
      obtain ⟨-, -, -, -, empty⟩ := parts.mp reads
      exact empty
    rw [ofAuthority_eq_ok_iff whole]
    constructor
    · rintro ⟨a, reads, rfl⟩
      obtain ⟨host, named, low, rfl, -⟩ := parts.mp reads
      exact ⟨host, named, low, rfl⟩
    · rintro ⟨host, named, low, rfl⟩
      exact ⟨_, parts.mpr ⟨host, named, low, rfl, rfl⟩, rfl⟩
  rw [parse_placeText_eq spelling fits plain, ofScheme.eq_def]
  dsimp only [Option.filter_none]
  rw [if_neg remote]
  split_ifs
  · refine placed ?_
    rw [List.dropWhile_cons_of_pos (by decide), List.dropWhile_cons_of_pos (by decide)]
    refine List.dropWhile_eq_self_iff.mpr fun filled inside => ?_
    have stays := Authority.stays_of_mem fits plain' port true _ (List.getElem_mem filled)
    rw [Bool.or_eq_false_iff] at stays
    cases stays.1.symm.trans inside
  · exact placed rfl

/-- Under that of local files all of it is the host, if it is no drive. -/
lemma parse_placeText_file (filed : lowered spelt = Scheme.file)
    (whole : Path.isDrive (String.ofList (Authority.placeText user cs port)) = false) :
    Url.parse (String.ofList (placeText spelt user cs port)) =
      (Host.read (Authority.placeText user cs port)).map fun host =>
        localUrl (if host = .name "localhost" then none else some host) [] [] := by
  have inside := Authority.continues_of_mem fits (fun us mem c here => (plain us mem c here).2)
    port true
  have filled : (Authority.placeText user cs port).isEmpty = false := by
    simp [Authority.placeText, fits.filled]
  have found : localHost (Authority.placeText user cs port) =
      (Host.read (Authority.placeText user cs port)).map fun host =>
        (if host = .name "localhost" then none else some host, []) := by
    rw [localHost, List.takeWhile_eq_self_iff.mpr inside, List.dropWhile_eq_nil_iff.mpr inside,
      whole, filled, Bool.or_false, if_neg Bool.false_ne_true]
    cases Host.read (Authority.placeText user cs port) <;> rfl
  rw [parse_placeText_eq spelling fits plain, ofScheme.eq_def, filed, if_pos rfl]
  change (localHost _).bind _ = _
  rw [found]
  cases Host.read (Authority.placeText user cs port) <;> rfl

end

end Url

end Wayfarer
