import Wayfarer.Proofs.Proxy.Pinned

/-!
The addresses of proxies.

* `Endpoint.ofUrl_eq_some_iff`: the address of a proxy is what names the place of its URL;
* `Endpoint.not_mem_at_address`: no credentials stand in it;
* `Endpoint.parse_address_of_host`: **it names the same proxy, without credentials**.
-/

namespace Wayfarer

variable {raw : String} {e : Endpoint} {u : Url}

namespace Endpoint

/-- The address of a proxy: a scheme, a host and a port. -/
def addressAt (scheme : String) (host : Host) (port : Option ℕ) : String :=
  scheme ++ "://" ++ host.text ++ writtenPort port

lemma addressAt_eq (scheme : String) (host : Host) (port : Option ℕ) :
    addressAt scheme host port =
      String.ofList (Url.placeText scheme none host.text.toList port) := by
  rw [← String.toList_inj]
  simp [addressAt, Url.placeText, Authority.placeText, Authority.inFront]

/-- **A URL names a proxy** if it has a host that is not empty. -/
lemma ofUrl_eq_some_iff : ofUrl? u = some e ↔ ∃ host, u.host? = some host ∧ host.text ≠ "" ∧
    e = ⟨addressAt u.scheme host u.port?, credentialsOf u⟩ := by
  rw [ofUrl?, Url.hostText?]
  cases u.host? with
  | none => simp
  | some host =>
      dsimp only [Option.map_some]
      split_ifs with empty
      · refine ⟨fun same => (by cases same), ?_⟩
        rintro ⟨_, ⟨⟩, filled, -⟩
        exact absurd (String.isEmpty_iff.mp empty) filled
      · constructor
        · rintro ⟨⟩
          exact ⟨host, rfl, fun same => empty (String.isEmpty_iff.mpr same), rfl⟩
        · rintro ⟨_, ⟨⟩, -, rfl⟩
          rfl

/-- No credentials stand in the address of a proxy. -/
theorem not_mem_at_address (reads : parse raw = .ok e) : '@' ∉ e.address.toList := by
  obtain ⟨u, parses, named⟩ := parse_eq_ok_iff.mp reads
  obtain ⟨host, found, filled, rfl⟩ := ofUrl_eq_some_iff.mp named
  have fits := ((Url.IsRead.parse parses).isRead_host found).fits filled
  have behind := List.forall_mem_append.mpr ⟨fits.apart, not_mem_of_mem_writtenPort u.port?⟩
  rw [addressAt_eq, String.toList_ofList, Url.placeText, Authority.placeText, Authority.inFront,
    List.nil_append, List.mem_append, List.mem_cons, List.mem_cons, List.mem_cons]
  rintro (scheme | colon | slash | slash | place)
  · cases (Url.IsRead.parse parses).isName.all _ scheme
  · cases colon
  · cases slash
  · cases slash
  · exact behind _ place (by decide)

/-- **The address of a proxy names the same proxy**, without credentials, if its host is read as
itself. -/
theorem parse_address_of_host (reads : parse raw = .ok e)
    (again : ∀ u host, Url.parse (withScheme (trimBlanks raw)) = .ok u → u.host? = some host →
      Host.readUnder u.scheme host.text.toList = .ok host) :
    parse e.address = .ok ⟨e.address, none⟩ := by
  refine parse_address reads fun u parses => ?_
  obtain ⟨u', parses', named⟩ := parse_eq_ok_iff.mp reads
  obtain rfl := Except.ok.inj (parses'.symm.trans parses)
  obtain ⟨host, found, filled, rfl⟩ := ofUrl_eq_some_iff.mp named
  rw [addressAt_eq]
  exact Url.exists_placeOf (.parse parses) found filled (again _ _ parses found)

end Endpoint

end Wayfarer
