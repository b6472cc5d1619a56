import Wayfarer.Proofs.Idna.Ascii
import Wayfarer.Proofs.Url.Place

/-!
Origins as texts.

* `writtenPort_injective`, `Url.placeText_inj`: a place that is written down tells its scheme, its
  host and its port, if colons of the host stand in brackets;
* `Origin.shownPort`, `Origin.text_eq`: an origin is written as a place, without the port that its
  scheme implies;
* `Origin.IsSound`, `Origin.text_inj`: **origins of URLs are told apart by their texts**;
* `Host.lowered_text`: a host that is read as itself is in small letters;
* `Url.sameOrigin_iff_text`: **two URLs have one origin if its text is one**, and under the schemes
  of the web the text is a URL of the origin.
-/

namespace Wayfarer

variable {u v : Url} {o o' : Origin} {host : Host} {s s' scheme : String} {cs cs' : List Char}
  {p p' : Option ℕ}

/-! ### Places -/

lemma toList_writtenPort_some (n : ℕ) : (writtenPort (some n)).toList = ':' :: n.repr.toList := by
  rw [writtenPort, String.toList_append]
  rfl

lemma writtenPort_injective (same : writtenPort p = writtenPort p') : p = p' := by
  rw [← String.toList_inj] at same
  cases p with
  | none =>
      cases p' with
      | none => rfl
      | some n => cases (toList_writtenPort_some n ▸ same : [] = ':' :: n.repr.toList)
  | some m =>
      rw [toList_writtenPort_some] at same
      cases p' with
      | none => cases same
      | some n =>
          rw [toList_writtenPort_some, List.cons.injEq, String.toList_inj] at same
          rw [Nat.repr_injective same.2]

/-- A host and a port that are written down tell where the host ends. -/
lemma Host.Closed.append_inj (closed : Host.Closed cs) (closed' : Host.Closed cs') :
    cs ++ (writtenPort p).toList = cs' ++ (writtenPort p').toList ↔ cs = cs' ∧ p = p' := by
  constructor
  · intro same
    have ends := congrArg (Authority.hostLength false) same
    rw [Authority.hostLength_append closed, Authority.hostLength_append closed',
      Authority.hostLength_writtenPort, Authority.hostLength_writtenPort] at ends
    obtain ⟨front, behind⟩ := List.append_inj same ends
    exact ⟨front, writtenPort_injective (String.toList_inj.mp behind)⟩
  · rintro ⟨rfl, rfl⟩
    rfl

/-- **A place that is written down** tells its scheme, its host and its port. -/
theorem Url.placeText_inj (isName : Scheme.IsName s) (isName' : Scheme.IsName s')
    (closed : Host.Closed cs) (closed' : Host.Closed cs') :
    Url.placeText s none cs p = Url.placeText s' none cs' p' ↔ s = s' ∧ cs = cs' ∧ p = p' := by
  constructor
  · intro same
    have split := congrArg Url.splitScheme same
    rw [Url.placeText, Url.placeText, Url.splitScheme_of_isName isName,
      Url.splitScheme_of_isName isName', Option.some.injEq, Prod.mk.injEq] at split
    obtain ⟨scheme, rest⟩ := split
    have place : cs ++ (writtenPort p).toList = cs' ++ (writtenPort p').toList :=
      List.cons.inj (List.cons.inj rest).2 |>.2
    exact ⟨scheme, (closed.append_inj closed').mp place⟩
  · rintro ⟨rfl, rfl, rfl⟩
    rfl

/-! ### Origins -/

namespace Origin

/-- The port that the text of an origin shows. -/
def shownPort (o : Origin) : Option ℕ :=
  o.port.filter fun p => some p ≠ o.impliedPort?

/-- An origin is written as a place. -/
lemma text_eq (o : Origin) :
    o.text = String.ofList (Url.placeText o.scheme none o.host.toList o.shownPort) := by
  have port : o.text = o.scheme ++ "://" ++ o.host ++ writtenPort o.shownPort := by
    rw [text, shownPort]
    cases o.port with
    | none => rfl
    | some p =>
        rw [Option.filter_some]
        by_cases implied : some p = o.impliedPort? <;> simp [implied, writtenPort]
  rw [port, ← String.toList_inj]
  simp [Url.placeText, Authority.placeText, Authority.inFront]

/-- What holds of the origins of URLs: the scheme is in small letters, colons of the host stand in
brackets, and there is a port if the scheme implies one. -/
structure IsSound (o : Origin) : Prop where
  isName : Scheme.IsName o.scheme
  closed : Host.Closed o.host.toList
  port : o.impliedPort?.isSome = true → o.port.isSome = true

/-- A port that is not shown is the one that the scheme implies. -/
lemma IsSound.port_eq (sound : o.IsSound) : o.port = o.shownPort.or o.impliedPort? := by
  rw [shownPort]
  cases implied : o.impliedPort? with
  | none => cases o.port <;> simp [Option.filter_some]
  | some d =>
      obtain ⟨p, known⟩ := Option.isSome_iff_exists.mp (sound.port (implied ▸ rfl))
      rw [known, Option.filter_some]
      by_cases same : p = d <;> simp [same]

/-- **Origins of URLs are told apart by their texts.** -/
theorem text_inj (sound : o.IsSound) (sound' : o'.IsSound) : o.text = o'.text ↔ o = o' := by
  constructor
  · intro same
    rw [text_eq, text_eq, String.ofList_inj, Url.placeText_inj sound.isName sound'.isName
      sound.closed sound'.closed, String.toList_inj] at same
    obtain ⟨scheme, host, shown⟩ := same
    have implied : o.impliedPort? = o'.impliedPort? := by rw [impliedPort?, impliedPort?, scheme]
    have port : o.port = o'.port := by rw [sound.port_eq, sound'.port_eq, shown, implied]
    cases o
    cases o'
    cases scheme
    cases host
    cases port
    rfl
  · rintro rfl
    rfl

end Origin

/-! ### Hosts in small letters -/

lemma toList_lowered (s : String) : (lowered s).toList = s.toList.map Char.toLower := by
  rw [lowered, String.toList_ofList]

namespace Host

lemma IsHostChar.toLower_ne {c : Char} (plain : IsHostChar c) :
    c.toLower ≠ ':' ∧ c.toLower ≠ '[' := by
  have all : ∀ n < 0x80, IsHostChar (Char.ofNat n) →
      (Char.ofNat n).toLower ≠ ':' ∧ (Char.ofNat n).toLower ≠ '[' := by
    decide +kernel
  have low : c.toNat < 0x80 := plain.1.2.trans (by decide)
  exact forall_ascii (P := fun c => IsHostChar c → c.toLower ≠ ':' ∧ c.toLower ≠ '[') all low plain

/-- Colons of a host that is read stand in brackets, in small letters too. -/
lemma IsRead.closed (isRead : host.IsRead) : Closed (lowered host.text).toList := by
  rw [toList_lowered]
  rcases isRead.spelling with ⟨pieces, rfl⟩ | plain
  · have inner : ∀ c ∈ (Ipv6.text pieces).toList, c.toLower ≠ ']' :=
      forall_mem_ipv6 (by decide) (by decide) pieces
    refine .inl ⟨(Ipv6.text pieces).toList.map Char.toLower, ?_, fun mem => ?_⟩
    · rw [toList_text_ipv6, List.map_append]
      rfl
    · obtain ⟨c, mem, same⟩ := List.mem_map.mp mem
      exact inner c mem same
  · refine .inr ⟨fun mem => ?_, fun mem => ?_⟩
    · obtain ⟨c, mem, same⟩ := List.mem_map.mp mem
      exact (plain c mem).toLower_ne.1 same
    · obtain ⟨c, mem, same⟩ := List.mem_map.mp mem
      exact (plain c mem).toLower_ne.2 same

/-- **A host of a special scheme that is read as itself** is in small letters. -/
lemma lowered_text (again : read host.text.toList = .ok host) :
    lowered host.text = host.text := by
  have digits10 : ∀ d < 10, d.digitChar.toLower = d.digitChar := by decide
  have digits16 : ∀ d < 16, d.digitChar.toLower = d.digitChar := by decide
  have self {cs : List Char} (each : ∀ c ∈ cs, c.toLower = c) : cs.map Char.toLower = cs :=
    List.map_congr_left each |>.trans (List.map_id' cs)
  rw [← String.toList_inj, toList_lowered]
  cases host with
  | ipv4 address => exact self (forall_mem_ipv4 (by decide) digits10 address)
  | ipv6 pieces =>
      rw [toList_text_ipv6, List.map_append, List.map_cons,
        self (forall_mem_ipv6 (by decide) digits16 pieces)]
      rfl
  | name t =>
      rw [text] at again ⊢
      rw [read.eq_def] at again
      split at again
      · obtain ⟨pieces, same⟩ := exists_of_readBracketed again
        cases same
      · split at again
        · next ascii found =>
            rw [ofAscii] at again
            split_ifs at again with empty meant
            · split at again <;> cases again
            · have chars : ascii = t.toList := by
                rw [← Host.name.inj (Except.ok.inj again), String.toList_ofList]
              rw [chars] at found
              exact (Idna.eq_of_toAscii?_of_isPlain (Idna.isPlain_of_toAscii found) found).symm
        · cases again

end Host

/-! ### The origin of a URL -/

namespace Url

lemma IsRead.isSound_origin (read : u.IsRead) : (Origin.of u).IsSound where
  isName := by
    rw [Origin.of, read.isName.lower]
    exact read.isName
  closed := by
    rw [Origin.of, hostText?]
    cases named : u.host? with
    | none => exact .inr ⟨List.not_mem_nil, List.not_mem_nil⟩
    | some host => exact (read.isRead_host named).closed
  port := by
    intro implied
    rw [Origin.of, Url.effectivePort?, Option.isSome_or, Bool.or_eq_true]
    rw [Origin.impliedPort?, Option.isSome_map] at implied
    have web : u.isHttp = true := by rwa [isHttp, ← read.isName.lower]
    rcases read.eq_of_isHttp web with http | https
    · exact .inr (http ▸ rfl)
    · exact .inr (https ▸ rfl)

/-- Under the schemes of the web the ports that schemes imply are those that URLs leave out. -/
lemma IsRead.shownPort_origin (read : u.IsRead) (web : u.isHttp = true) :
    (Origin.of u).shownPort = u.port? := by
  have implied : (Origin.of u).impliedPort? = Scheme.defaultPort? u.scheme := by
    have own : (Origin.of u).scheme = u.scheme := read.isName.lower
    rw [Origin.impliedPort?, own]
    rcases read.eq_of_isHttp web with http | https
    · rw [http]
      decide
    · rw [https]
      decide
  rw [Origin.shownPort, implied, Origin.of, effectivePort?]
  cases named : u.port? with
  | none => cases Scheme.defaultPort? u.scheme <;> simp
  | some p =>
      have other := (read.port p named).2
      simp [Ne.symm other]

/-- A URL of the place of another one has its origin. -/
lemma PlaceOf.sameOrigin (place : v.PlaceOf u) : v.sameOrigin u = true := by
  rw [Url.sameOrigin, decide_eq_true_eq, Origin.of, Origin.of, hostText?, effectivePort?,
    place.scheme, place.host, place.port]
  rfl

/-- **The text of an origin decides** whether two URLs have one, and under the schemes of the web
it is a URL of the origin, if the host is read as itself. -/
theorem sameOrigin_iff_text (read : u.IsRead) (other : v.IsRead) :
    (u.sameOrigin v = true ↔ (Origin.of u).text = (Origin.of v).text) ∧
      (u.isHttp = true →
        (∀ host, u.host? = some host → Host.read host.text.toList = .ok host) →
        ∃ w, Url.parse (Origin.of u).text = .ok w ∧ w.sameOrigin u = true) := by
  constructor
  · rw [Origin.text_inj read.isSound_origin other.isSound_origin, Url.sameOrigin,
      decide_eq_true_eq]
  · intro web again
    obtain ⟨host, named, filled⟩ := read.namesHost_of_isHttp web
    have self := again host named
    have under : Host.readUnder u.scheme host.text.toList = .ok host := by
      rwa [Host.readUnder, if_pos (read.isSpecial_of_isHttp web)]
    obtain ⟨w, parses, place⟩ := exists_placeOf read named filled under
    refine ⟨w, ?_, place.sameOrigin⟩
    rw [Origin.text_eq, read.shownPort_origin web, Origin.of, hostText?, named, Option.map_some,
      Option.getD_some, read.isName.lower, Host.lowered_text self]
    exact parses

/-- Two URLs of a host in brackets: the text of the origin of both is a URL of the origin. -/
theorem origin_of_brackets :
    ∃ u v w, Url.parse "https://user@[::1]:8443/a" = .ok u ∧
      Url.parse "https://[::1]:8443/b?c" = .ok v ∧ (Origin.of u).text = (Origin.of v).text ∧
      u.sameOrigin v = true ∧ Url.parse "https://[::1]:8443" = .ok w ∧ w.sameOrigin u = true := by
  have first : Url.parse "https://user@[::1]:8443/a" =
      .ok ⟨"https", some ⟨"user", "", some (.ipv6 [0, 0, 0, 0, 0, 0, 0, 1]), some 8443⟩,
        .names ["a"], none, none⟩ := by decide +kernel
  have second : Url.parse "https://[::1]:8443/b?c" =
      .ok ⟨"https", some ⟨"", "", some (.ipv6 [0, 0, 0, 0, 0, 0, 0, 1]), some 8443⟩,
        .names ["b"], some "c", none⟩ := by decide +kernel
  obtain ⟨decides, names⟩ := sameOrigin_iff_text (.parse first) (.parse second)
  have same := decides.mpr (by decide +kernel)
  obtain ⟨w, parses, origin⟩ := names (by decide +kernel) fun host here => by
    obtain rfl := Option.some.inj here
    decide +kernel
  exact ⟨_, _, w, first, second, decides.mp same, same, parses, origin⟩

end Url

end Wayfarer
