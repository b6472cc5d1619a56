import Wayfarer.Proofs.Url.Written

/-!
The place of a URL, named by a URL of its own.

* `Url.PlaceOf`: a URL of the place that another one names, without its credentials;
* `Url.placeOf_of_authority`: a URL that has the parts of a place is of it;
* `Url.IsRead.port`, `Url.IsRead.keptPort`: the port of a URL is none that its scheme implies;
* `Url.exists_placeOf`: **what names the place of a URL is a URL of the same place**, if the host is
  read as itself.
-/

namespace Wayfarer

variable {u v : Url} {host : Host}

namespace Url

/-- A URL has the scheme, the host and the port of another one, and no credentials. -/
structure PlaceOf (v u : Url) : Prop where
  scheme : v.scheme = u.scheme
  host : v.host? = u.host?
  port : v.port? = u.port?
  username : v.username = ""
  password : v.password = ""

lemma placeOf_of_authority (scheme : v.scheme = u.scheme)
    (place : v.authority = some ⟨"", "", u.host?, u.port?⟩) : v.PlaceOf u where
  scheme := scheme
  host := by rw [host?, place]; rfl
  port := by rw [port?, place]; rfl
  username := by rw [username, place]; rfl
  password := by rw [password, place]; rfl

/-- The port of a URL that is read is none that its scheme implies. -/
lemma IsRead.port (read : u.IsRead) :
    ∀ p ∈ u.port?, p ≤ 65535 ∧ Scheme.defaultPort? u.scheme ≠ some p := by
  have settled := read.settles
  rw [port?]
  cases known : u.authority with
  | none => exact nofun
  | some a =>
      rw [known] at settled
      cases settled with
      | placed _ reads => exact Authority.port_of_parse reads
      | onFile => exact nofun

lemma IsRead.keptPort (read : u.IsRead) :
    Scheme.keptPort u.scheme u.port? = u.port? := by
  cases port : u.port? with
  | none => rfl
  | some p =>
      rw [Scheme.keptPort, Option.filter_some, if_pos]
      exact decide_eq_true (read.port p port).2

lemma placeOf_of_localUrl (filed : u.scheme = Scheme.file) (named : u.host? = some host)
    (bare : u.port? = none) : (localUrl (some host) [] []).PlaceOf u := by
  refine placeOf_of_authority ?_ ?_
  · rw [localUrl, scheme_withTail, filed]
  · rw [localUrl, authority_withTail, named, bare]
    rfl

/-- **What names the place of a URL** is a URL of the same place, if the host is read as itself. -/
theorem exists_placeOf (read : u.IsRead) (named : u.host? = some host) (filled : host.text ≠ "")
    (again : Host.readUnder u.scheme host.text.toList = .ok host) :
    ∃ v, Url.parse (String.ofList (placeText u.scheme none host.text.toList u.port?)) = .ok v ∧
      v.PlaceOf u := by
  have isName := read.isName
  have isRead := read.isRead_host named
  have fits := isRead.fits filled
  have front : ∀ us ∈ (none : Option (List Char)), ∀ c ∈ us,
      0x20 < c.toNat ∧ c ∉ ['/', '\\', '?', '#'] := nofun
  by_cases filed : u.scheme = Scheme.file
  · have settled := read.settles
    obtain ⟨a, known, here⟩ := Option.bind_eq_some_iff.mp named
    rw [known] at settled
    cases settled with
    | placed remote => exact absurd filed remote
    | onFile _ found =>
        have bare : u.port? = none := by rw [port?, known]; rfl
        have alone : Authority.placeText none host.text.toList none = host.text.toList := by
          simp [Authority.placeText, Authority.inFront, writtenPort]
        have reads : Host.read host.text.toList = .ok host := by
          rwa [Host.readUnder, filed, if_pos (by decide)] at again
        have whole : Path.isDrive (String.ofList (Authority.placeText none host.text.toList none)) =
            false := by
          rw [alone, String.ofList_toList]
          exact isRead.not_isDrive
        refine ⟨_, ?_, placeOf_of_localUrl filed named bare⟩
        rw [bare, parse_placeText_file isName.isSpelling fits front
          (isName.lower.trans filed) whole, alone, reads, Except.map, if_neg (found host here).1]
  · have low : ∀ p ∈ u.port?, p ≤ 65535 := fun p mem => (read.port p mem).1
    have reads := (parse_placeText isName.isSpelling fits front
      (isName.lower.symm ▸ filed)).mpr ⟨host, isName.lower.symm ▸ again, low, rfl⟩
    refine ⟨_, reads, placeOf_of_authority ?_ ?_⟩
    · rw [placed, scheme_withTail, isName.lower]
    · rw [placed, authority_withTail, isName.lower, read.keptPort, named]
      rfl

end Url

end Wayfarer
