import Wayfarer.Proofs.Proxy.History
import Wayfarer.Proofs.Proxy.Pinned

/-!
Requests that are made ready once more.

* `Endpoint.ReadsBack`: a text that names a proxy of which the address is a URL of the same place;
* `ProxyRules.MadeFrom`: rules made of such texts, from settings and from the environment;
* `ProxyRules.MadeFrom.legible`: the addresses in them, read again, name the same proxies;
* `ProxyRules.Rests`: a request on which nothing is left to do;
* `ProxyRules.prepare_of_rests`, `ProxyRules.rests_of_prepare`: such a request stays as it is, and
  a request that is made ready becomes such a one;
* `ProxyRules.prepare_of_prepare`: **making a request ready again changes nothing**.
-/

namespace Wayfarer

variable {raw : String} {e : Endpoint} {byRule : Bool}

/-! ### Texts that name proxies -/

/-- The address of the proxy that a text names, read as a URL, has the place of the URL that the
text is. -/
def Endpoint.ReadsBack (raw : String) : Prop :=
  ∀ u e, Url.parse (withScheme (trimBlanks raw)) = .ok u → ofUrl? u = some e →
    ∃ v, Url.parse e.address = .ok v ∧ v.PlaceOf u

/-- The address then names the same proxy, without credentials. -/
lemma Endpoint.ReadsBack.parse_address (back : ReadsBack raw) (reads : parse raw = .ok e) :
    parse e.address = .ok ⟨e.address, none⟩ := by
  refine Endpoint.parse_address reads fun u parses => ?_
  obtain ⟨u', parses', named⟩ := parse_eq_ok_iff.mp reads
  obtain rfl := Except.ok.inj (parses'.symm.trans parses)
  exact back u' e parses named

namespace ProxyRules

variable {P : String → Prop} {r : ProxyRules} {s : ProxyState} {u : Url} {req after : Request}

/-! ### Rules made of texts -/

/-- Whether a variable is for the proxy of a scheme. -/
def isProxyKey (key : String) : Bool :=
  key ≠ exemptKey && (schemeOfKey? key).isSome

/-- The rules that are made of texts of a kind: each rule by itself, or those of an environment. -/
inductive MadeFrom (P : String → Prop) : ProxyRules → Prop
  | empty : MadeFrom P .empty
  | withProxy {r made : ProxyRules} {scheme raw : String} (before : MadeFrom P r) (text : P raw)
      (reads : r.withProxy scheme raw = .ok made) : MadeFrom P made
  | withExempt {r : ProxyRules} (before : MadeFrom P r) (hosts : List String) :
      MadeFrom P (r.withExempt hosts)
  | withVariables {r : ProxyRules} {vars : List (String × String)} (before : MadeFrom P r)
      (texts : ∀ var ∈ ranked vars, isProxyKey var.1 = true → P var.2) :
      MadeFrom P (r.withVariables vars)

/-- The rules with the proxy that a text names, if there is a text. -/
def withText (r : ProxyRules) (scheme : String) : Option String → Except EndpointError ProxyRules
  | some raw => r.withProxy scheme raw
  | none => .ok r

lemma MadeFrom.withText {made : ProxyRules} {scheme : String} {text : Option String}
    (before : MadeFrom P r) (known : ∀ raw, text = some raw → P raw)
    (reads : r.withText scheme text = .ok made) : MadeFrom P made := by
  cases text with
  | none =>
      cases reads
      exact before
  | some raw => exact before.withProxy (known raw rfl) reads

lemma ofSettings_eq (settings : ProxySettings) (vars : List (String × String)) :
    ofSettings settings vars = (empty.withText "http" settings.http >>= fun first =>
      first.withText "https" settings.https >>= fun second =>
        .ok (if settings.fromEnvironment then (second.withExempt settings.exempt).withVariables vars
          else second.withExempt settings.exempt)) := by
  rw [ofSettings]
  cases settings.http <;> cases settings.https <;> rfl

/-- Rules of settings are made of the texts in them and in the environment. -/
lemma madeFrom_ofSettings {settings : ProxySettings} {vars : List (String × String)}
    (http : ∀ raw, settings.http = some raw → P raw)
    (https : ∀ raw, settings.https = some raw → P raw)
    (texts : ∀ var ∈ ranked vars, isProxyKey var.1 = true → P var.2)
    (made : ofSettings settings vars = .ok r) : MadeFrom P r := by
  rw [ofSettings_eq] at made
  obtain ⟨first, reads, made⟩ := exists_of_bind made
  obtain ⟨second, reads', made⟩ := exists_of_bind made
  have both := ((MadeFrom.empty.withText http reads).withText https reads').withExempt
    settings.exempt
  split_ifs at made
  · cases made
    exact both.withVariables texts
  · cases made
    exact both

/-- Each proxy in rules is named by a text of a kind. -/
def NamedBy (P : String → Prop) (r : ProxyRules) : Prop :=
  ∀ rule ∈ r.byScheme, ∃ raw, P raw ∧ Endpoint.parse raw = .ok rule.2

lemma NamedBy.setRule (named : NamedBy P r) (text : P raw) (reads : Endpoint.parse raw = .ok e)
    (scheme : String) : NamedBy P (r.setRule scheme e) :=
  List.forall_mem_cons.mpr ⟨⟨raw, text, reads⟩, named⟩

/-- A variable adds the proxy that its value names, or nothing. -/
lemma NamedBy.readVariable (named : NamedBy P r) {var : String × String}
    (text : isProxyKey var.1 = true → P var.2) : NamedBy P (r.readVariable var) := by
  rw [ProxyRules.readVariable]
  split_ifs with exempting
  · exact named
  · split
    · next known reads =>
        refine named.setRule (text ?_) reads _
        rw [isProxyKey, known]
        simpa using exempting
    · exact named

lemma NamedBy.readVariables (vars : List (String × String))
    (texts : ∀ var ∈ vars, isProxyKey var.1 = true → P var.2) (named : NamedBy P r) :
    NamedBy P (vars.foldl ProxyRules.readVariable r) := by
  induction vars generalizing r with
  | nil => exact named
  | cons var vars ih =>
      obtain ⟨here, behind⟩ := List.forall_mem_cons.mp texts
      exact ih behind (named.readVariable here)

/-- **Rules know proxies from texts only.** -/
theorem MadeFrom.namedBy (h : MadeFrom P r) : NamedBy P r := by
  induction h with
  | empty => exact nofun
  | withProxy _ text reads ih =>
      rw [ProxyRules.withProxy, map_eq_ok_iff] at reads
      obtain ⟨e, reads, rfl⟩ := reads
      exact ih.setRule text reads _
  | withExempt _ _ ih => exact ih
  | withVariables _ texts ih =>
      have read := ih.readVariables _ texts
      rw [ProxyRules.withVariables]
      split
      · exact read
      · exact read

/-- The addresses in rules, read again, name the same proxies, if the texts are read back. -/
lemma MadeFrom.legible (h : MadeFrom Endpoint.ReadsBack r) : r.Legible := by
  intro scheme e rule
  rw [rule?, Option.map_eq_some_iff] at rule
  obtain ⟨entry, found, rfl⟩ := rule
  obtain ⟨raw, back, reads⟩ := h.namedBy entry (List.mem_of_find?_eq_some found)
  exact back.parse_address reads

/-! ### Requests on which nothing is left to do -/

/-- Nothing is left to do on a request. -/
structure Rests (r : ProxyRules) (req : Request) : Prop where
  /-- The choice is the proxy in use, if any, without credentials, and no rule makes it. -/
  choice : ∃ endpoint, r.select req.proxy req.url = .ok (endpoint, false) ∧
    endpoint.map (·.address) = req.proxy.proxy ∧ endpoint.bind (·.credentials) = none
  /-- The proxy in use owns the credentials in the header, or there are none. -/
  owner : (∃ p, req.proxy.proxy = some p ∧ req.proxy.owner = some p) ∨
    req.proxy.owner = none ∧ req.proxyValues = []

lemma Rests.reconcile (rests : r.Rests req) : reconcile req = req := by
  rcases rests.owner with ⟨p, used, owned⟩ | ⟨unowned, bare⟩
  · rw [reconcile_of_owner owned, if_pos used]
  · have absent : ¬req.headers.contains .proxyAuthorization = true :=
      fun held => Headers.contains_iff.mp held bare
    rw [ProxyRules.reconcile, unowned]
    exact if_neg absent

/-- Such a request stays as it is. -/
theorem prepare_of_rests (rests : r.Rests req) : r.prepare req = .ok req := by
  obtain ⟨endpoint, chosen, used, unknown⟩ := rests.choice
  have same : assign req req.proxy.proxy false = req := rfl
  rw [prepare_of_select chosen, routed, unknown]
  dsimp only
  rw [used, same, rests.reconcile]

/-! ### The choice, made again -/

/-- A proxy that is chosen is in use by an address that names it again. -/
lemma parse_address_of_select (legible : r.Legible)
    (back : ∀ raw, req.proxy.proxy = some raw → Endpoint.ReadsBack raw)
    (chosen : r.select req.proxy req.url = .ok (some e, byRule)) :
    req.proxy.direct = false ∧ Endpoint.parse e.address = .ok ⟨e.address, none⟩ := by
  cases direct : req.proxy.direct with
  | true =>
      rw [select_of_direct direct] at chosen
      cases chosen
  | false =>
      refine ⟨rfl, ?_⟩
      cases named : req.proxy.proxy with
      | some raw =>
          rw [select_of_pinned direct named, map_eq_ok_iff] at chosen
          obtain ⟨e', reads, same⟩ := chosen
          cases same
          exact (back raw named).parse_address reads
      | none =>
          rw [select_of_open direct named] at chosen
          have found : r.chosen? req.url = some e := congrArg Prod.fst (Except.ok.inj chosen)
          rw [chosen?] at found
          split_ifs at found
          exact legible _ _ found

/-- Where none is chosen, none is chosen again. -/
lemma select_again_of_none (chosen : r.select s u = .ok (none, byRule)) (s' : ProxyState)
    (direct : s'.direct = s.direct) (unused : s'.proxy = none) :
    r.select s' u = .ok (none, false) := by
  cases wish : s.direct with
  | true => exact select_of_direct (direct.trans wish)
  | false =>
      cases named : s.proxy with
      | some raw =>
          rw [select_of_pinned wish named, map_eq_ok_iff] at chosen
          obtain ⟨e, _, same⟩ := chosen
          cases same
      | none =>
          rw [select_of_open wish named] at chosen
          have found : r.chosen? u = none := congrArg Prod.fst (Except.ok.inj chosen)
          rw [select_of_open (direct.trans wish) unused, found]
          rfl

/-- Nothing is left to do on a request that is made ready. -/
theorem rests_of_prepare (legible : r.Legible)
    (back : ∀ raw, req.proxy.proxy = some raw → Endpoint.ReadsBack raw)
    (ready : r.prepare req = .ok after) : r.Rests after := by
  obtain ⟨endpoint, byRule, chosen, used, settled⟩ := exists_settled_of_prepare ready
  have direct := direct_of_prepare ready
  have url := url_of_prepare ready
  constructor
  · rw [url, used]
    cases endpoint with
    | none => exact ⟨none, select_again_of_none chosen _ direct used, rfl, rfl⟩
    | some e =>
        obtain ⟨indirect, again⟩ := parse_address_of_select legible back chosen
        refine ⟨some ⟨e.address, none⟩, ?_, rfl, rfl⟩
        rw [select_of_pinned (direct.trans indirect) used, again]
        rfl
  · rcases settled.owned_or_bare with ⟨e, rfl, owned⟩ | bare
    · exact .inl ⟨e.address, used, owned⟩
    · exact .inr bare

/-- **Making a request ready again changes nothing.** Let the addresses of the proxies that the
rules were made of, and of the one that the request names, be URLs of the same places. Then a
request that was made ready can be made ready again, and is the same in all its parts, its header
fields in their order. -/
theorem prepare_of_prepare (made : MadeFrom Endpoint.ReadsBack r)
    (back : ∀ raw, req.proxy.proxy = some raw → Endpoint.ReadsBack raw)
    (ready : r.prepare req = .ok after) : r.prepare after = .ok after :=
  prepare_of_rests (rests_of_prepare made.legible back ready)

/-- The address of the proxy of particular requests is a URL of the same place. -/
lemma readsBack_named : Endpoint.ReadsBack "http://user:pw@[::9]:3128" := by
  intro u e parses named
  have written : Url.parse (Endpoint.withScheme (trimBlanks "http://user:pw@[::9]:3128")) =
      .ok ⟨"http", some ⟨"user", "pw", some (.ipv6 [0, 0, 0, 0, 0, 0, 0, 9]), some 3128⟩,
        .names [""], none, none⟩ := by decide +kernel
  obtain rfl := Except.ok.inj (written.symm.trans parses)
  obtain rfl : ⟨"http://[::9]:3128", some ⟨"user", "pw"⟩⟩ = e := by
    refine Option.some.inj (Eq.trans ?_ named)
    decide +kernel
  exact ⟨⟨"http", some ⟨"", "", some (.ipv6 [0, 0, 0, 0, 0, 0, 0, 9]), some 3128⟩,
    .names [""], none, none⟩, by decide +kernel, rfl, rfl, rfl, rfl, rfl⟩

/-- Settings with one rule, for a proxy with credentials. -/
def namedSettings : ProxySettings where
  http := some "http://user:pw@[::9]:3128"

/-- A request for which the caller names a proxy with credentials, under rules of settings: the
first time the address and the credentials part, the second time nothing changes. -/
theorem ready_again_with_credentials :
    ∃ r after, ofSettings namedSettings [] = .ok r ∧ MadeFrom Endpoint.ReadsBack r ∧
      (∀ raw, namedVisit.proxy.proxy = some raw → Endpoint.ReadsBack raw) ∧
      r.prepare namedVisit = .ok after ∧ after.proxy.proxy = some "http://[::9]:3128" ∧
      after.proxyValues.map (·.bytes) = [utf8 "Basic dXNlcjpwdw=="] ∧
      r.prepare after = .ok after := by
  have reads : Endpoint.parse "http://user:pw@[::9]:3128" =
      .ok ⟨"http://[::9]:3128", some ⟨"user", "pw"⟩⟩ := by decide +kernel
  have settings : ofSettings namedSettings [] = .ok (one "http" []) := by decide +kernel
  have known : ∀ raw, namedSettings.http = some raw → Endpoint.ReadsBack raw := by
    rintro _ ⟨⟩
    exact readsBack_named
  have silent : ∀ var ∈ ranked [], isProxyKey var.1 = true → Endpoint.ReadsBack var.2 := by
    simp [ranked]
  have made : MadeFrom Endpoint.ReadsBack (one "http" []) :=
    madeFrom_ofSettings known nofun silent settings
  have back : ∀ raw, namedVisit.proxy.proxy = some raw → Endpoint.ReadsBack raw := known
  have ready : (one "http" []).prepare namedVisit =
      .ok (routed namedVisit (some ⟨"http://[::9]:3128", some ⟨"user", "pw"⟩⟩) false) := by
    refine prepare_of_select ((select_of_pinned rfl rfl).trans ?_)
    rw [reads]
    rfl
  exact ⟨_, _, settings, made, back, ready, rfl, by decide +kernel,
    prepare_of_prepare made back ready⟩

end ProxyRules

end Wayfarer
