import Wayfarer.Proofs.Hop.Course
import Wayfarer.Proofs.Url.Place

/-!
Requests for which the caller names a proxy.

* `Endpoint.allVisible_address`, `Endpoint.parse_address`: the address of a proxy is written in
  visible characters, and read again names the same proxy;
* `Pinned`: what holds of a request once the proxy that the caller names is in use;
* `Pinned.prepare`, `Pinned.continues`: it holds after each step;
* `Journey.pinned_of_course`: **the proxy and the credentials for it stay the same on any course**.
-/

namespace Wayfarer

variable {raw : String} {e : Endpoint} {u v : Url} {rules : ProxyRules} {req : Request}
variable {values : List FieldValue} {s : RedirectSettings} {j next : Journey}

/-! ### The address of a proxy -/

namespace Endpoint

/-- A text names a proxy if it is a URL with a host. -/
lemma parse_eq_ok_iff : parse raw = .ok e ↔
    ∃ u, Url.parse (withScheme (trimBlanks raw)) = .ok u ∧ ofUrl? u = some e := by
  -- the URL is not to be evaluated, which the equation of the definition would ask for
  delta parse
  dsimp only
  cases Url.parse (withScheme (trimBlanks raw)) with
  | error failure => simp
  | ok u => cases named : ofUrl? u <;> simp [named]

/-- The place of a URL names the same proxy, without credentials. -/
lemma ofUrl_of_placeOf (named : ofUrl? u = some e) (place : v.PlaceOf u) :
    ofUrl? v = some ⟨e.address, none⟩ := by
  have host : v.hostText? = u.hostText? := by rw [Url.hostText?, Url.hostText?, place.host]
  have bare : credentialsOf v = none := by
    rw [credentialsOf, place.username]
    rfl
  rw [ofUrl?] at named ⊢
  rw [host, bare, place.scheme, place.port]
  split at named
  · cases named
  · split_ifs at named ⊢
    cases named
    rfl

/-- The address of a proxy is written in visible characters. -/
lemma allVisible_address (reads : parse raw = .ok e) : AllVisible e.address.toList := by
  have slashes : AllVisible "://".toList ∧ AllVisible ":".toList := by decide
  obtain ⟨u, parses, named⟩ := parse_eq_ok_iff.mp reads
  rw [ofUrl?] at named
  split at named
  · cases named
  · next text known =>
      obtain ⟨host, found, rfl⟩ := Option.map_eq_some_iff.mp known
      have visible := ((Url.IsRead.parse parses).isRead_host found).allVisible
      split_ifs at named
      cases named
      have scheme := Url.allVisible_scheme parses
      simp only [String.toList_append, allVisible_append]
      refine ⟨⟨⟨scheme, slashes.1⟩, visible⟩, ?_⟩
      split
      · rw [String.toList_append, allVisible_append]
        exact ⟨slashes.2, allVisible_toString _⟩
      · exact allVisible_nil

/-- The address of a proxy has a scheme of its own. -/
lemma withScheme_address (reads : parse raw = .ok e) : withScheme e.address = e.address := by
  obtain ⟨u, -, named⟩ := parse_eq_ok_iff.mp reads
  rw [ofUrl?] at named
  split at named
  · cases named
  · split_ifs at named
    cases named
    rw [withScheme, if_pos]
    simp only [String.toList_append, List.append_assoc]
    exact List.append_assoc _ _ _ ▸ hasInfix_append u.scheme.toList [':', '/', '/'] _

/-- The address of a proxy, read again, names the same proxy, if it is a URL of the same place. -/
lemma parse_address (reads : parse raw = .ok e)
    (again : ∀ u, Url.parse (withScheme (trimBlanks raw)) = .ok u →
      ∃ v, Url.parse e.address = .ok v ∧ v.PlaceOf u) :
    parse e.address = .ok ⟨e.address, none⟩ := by
  obtain ⟨u, parses, named⟩ := parse_eq_ok_iff.mp reads
  obtain ⟨v, parses', place⟩ := again u parses
  have same : withScheme (trimBlanks e.address) = e.address := by
    rw [trimBlanks_of_allVisible (allVisible_address reads), withScheme_address reads]
  refine parse_eq_ok_iff.mpr ⟨v, ?_, ofUrl_of_placeOf named place⟩
  rw [same, parses']

end Endpoint

/-! ### What each step keeps -/

/-- What holds of a request once the proxy that the caller names is in use: no rule chose it, and
it owns the credentials in the header, of which there may be none. -/
structure Pinned (e : Endpoint) (values : List FieldValue) (req : Request) : Prop where
  indirect : req.proxy.direct = false
  unmarked : req.proxy.byScheme = false
  used : req.proxy.proxy = some e.address
  carried : req.proxyValues = values
  owned : req.proxy.owner = some e.address ∨ req.proxy.owner = none ∧ values = []

/-- Credentials that are there have the proxy for their owner. -/
lemma Pinned.owner_of_ne_nil (pinned : Pinned e values req) (filled : values ≠ []) :
    req.proxy.owner = some e.address := by
  rcases pinned.owned with owner | ⟨-, empty⟩
  · exact owner
  · exact absurd empty filled

/-- The first request that is made ready goes through the proxy that the caller names, and carries
the credentials for it if they are known. -/
lemma exists_pinned_of_named (rules : ProxyRules) (indirect : req.proxy.direct = false)
    (unmarked : req.proxy.byScheme = false) (named : req.proxy.proxy = some raw)
    (reads : Endpoint.parse raw = .ok e) :
    ∃ ready, rules.prepare req = .ok ready ∧ Pinned e ready.proxyValues ready ∧
      ∀ c, e.credentials = some c → ready.proxyValues = [c.field] := by
  have chosen : rules.select req.proxy req.url = .ok (some e, false) := by
    rw [ProxyRules.select_of_pinned indirect named, reads]
    rfl
  obtain ⟨ready, made, used, direct, marked, settled⟩ :=
    ProxyRules.exists_prepare_of_select chosen
  have unmarked' : ready.proxy.byScheme = false := by rw [marked, unmarked, Bool.or_false]
  refine ⟨ready, made, ⟨direct.trans indirect, unmarked', used, rfl, ?_⟩, ?_⟩
  · cases settled with
    | presented via _ owned _ =>
        cases via
        exact .inl owned
    | kept via _ _ owned _ =>
        cases via
        exact .inl owned
    | bare _ unowned gone => exact .inr ⟨unowned, gone⟩
  · intro c known
    cases settled with
    | presented via known' _ stand =>
        cases via
        cases known.symm.trans known'
        exact stand
    | kept via unknown _ _ _ =>
        cases via
        cases unknown.symm.trans known
    | bare foreign _ _ => cases (foreign e rfl).1.symm.trans known

/-- A further one goes through it again, with the same credentials. -/
lemma Pinned.prepare (pinned : Pinned e values req) (rules : ProxyRules)
    (again : Endpoint.parse e.address = .ok ⟨e.address, none⟩) :
    ∃ ready, rules.prepare req = .ok ready ∧ Pinned e values ready := by
  have chosen : rules.select req.proxy req.url = .ok (some ⟨e.address, none⟩, false) := by
    rw [ProxyRules.select_of_pinned pinned.indirect pinned.used, again]
    rfl
  obtain ⟨ready, made, used, direct, marked, settled⟩ :=
    ProxyRules.exists_prepare_of_select chosen
  have unmarked : ready.proxy.byScheme = false := by rw [marked, pinned.unmarked, Bool.or_false]
  have kept : ready.proxyValues = values ∧
      (ready.proxy.owner = some e.address ∨ ready.proxy.owner = none ∧ values = []) := by
    cases settled with
    | presented via known =>
        cases via
        cases known
    | kept via _ _ owned stand =>
        cases via
        exact ⟨stand.trans pinned.carried, .inl owned⟩
    | bare foreign unowned gone =>
        -- the proxy would own what there is, so there is nothing
        obtain ⟨-, disowned, empty⟩ := foreign _ rfl
        rcases pinned.owned with owner | ⟨-, nothing⟩
        · exact absurd owner disowned
        · exact ⟨gone.trans nothing.symm, .inr ⟨unowned, nothing⟩⟩
  exact ⟨ready, made, direct.trans pinned.indirect, unmarked, used, kept.1, kept.2⟩

/-- A hop leaves all of it as it is. -/
lemma Pinned.continues (pinned : Pinned e values j.request) (continues : j.Continues s next) :
    Pinned e values next.request := by
  obtain ⟨_, proxy, _⟩ := continues.exists_follow
  rw [followProxy_of_kept (.inl pinned.unmarked)] at proxy
  have stand : next.request.proxyValues = values := by
    rw [Journey.proxyValues_of_continues continues, proxy, pinned.carried]
    rcases pinned.owned with owner | ⟨unowned, nothing⟩
    · rw [owner]
      rfl
    · rw [unowned, nothing]
      rfl
  refine ⟨?_, ?_, ?_, stand, ?_⟩ <;> rw [proxy]
  · exact pinned.indirect
  · exact pinned.unmarked
  · exact pinned.used
  · exact pinned.owned

lemma Pinned.step (again : Endpoint.parse e.address = .ok ⟨e.address, none⟩)
    (pinned : Pinned e values j.request) (step : j.Step rules next) :
    Pinned e values next.request := by
  cases step with
  | prepare ready =>
      obtain ⟨made, ready', kept⟩ := pinned.prepare rules again
      obtain rfl := Except.ok.inj (ready'.symm.trans ready)
      exact kept
  | hop continues => exact pinned.continues continues

/-! ### Courses -/

/-- A hop from a request for which the caller names a proxy leaves the name as it is. -/
lemma proxy_of_hops {start : Request} (unmarked : start.proxy.byScheme = false)
    (hops : Relation.ReflTransGen (fun j next => ∃ s, Journey.Continues s j next)
      (Journey.start start) j) : j.request.proxy = start.proxy := by
  induction hops with
  | refl => rfl
  | tail _ hop ih =>
      obtain ⟨s, continues⟩ := hop
      obtain ⟨_, proxy, _⟩ := continues.exists_follow
      rw [proxy, followProxy_of_kept (.inl (ih ▸ unmarked)), ih]

/-- **A proxy that the caller names is kept.** Let a request name a proxy, let no rule have chosen
it, and let the address of the proxy be a URL of the same place. However many hops come first, the
request is made ready, and on any course from there, whatever its hops are and whatever the rules
say, each request can be made ready, goes through the proxy by its address, and carries the same
credentials for it as the first; if they are known, these and no others, and the proxy owns them. -/
theorem Journey.pinned_of_course (rules : ProxyRules) (start : Request)
    (indirect : start.proxy.direct = false) (unmarked : start.proxy.byScheme = false)
    (named : start.proxy.proxy = some raw) (reads : Endpoint.parse raw = .ok e)
    (again : ∀ u, Url.parse (Endpoint.withScheme (trimBlanks raw)) = .ok u →
      ∃ v, Url.parse e.address = .ok v ∧ v.PlaceOf u)
    {first : Journey}
    (hops : Relation.ReflTransGen (fun j next => ∃ s, Journey.Continues s j next)
      (Journey.start start) first) :
    ∃ ready, rules.prepare first.request = .ok ready ∧
      ∀ j, Relation.ReflTransGen (Step rules) { first with request := ready } j →
        (∃ req, rules.prepare j.request = .ok req) ∧
        j.request.proxy.proxy = some e.address ∧ j.request.proxy.byScheme = false ∧
        j.request.proxyValues = ready.proxyValues ∧
        ∀ c, e.credentials = some c →
          j.request.proxyValues = [c.field] ∧ j.request.proxy.owner = some e.address := by
  have proxy := proxy_of_hops unmarked hops
  rw [← proxy] at indirect unmarked named
  obtain ⟨ready, made, pinned, presents⟩ :=
    exists_pinned_of_named rules indirect unmarked named reads
  have again' := Endpoint.parse_address reads again
  refine ⟨ready, made, fun j course => ?_⟩
  have invariant : Pinned e ready.proxyValues j.request := by
    induction course with
    | refl => exact pinned
    | tail _ step ih => exact ih.step again' step
  obtain ⟨req, ready', -⟩ := invariant.prepare rules again'
  refine ⟨⟨req, ready'⟩, invariant.used, invariant.unmarked, invariant.carried, ?_⟩
  intro c known
  have stand := presents c known
  refine ⟨invariant.carried.trans stand, invariant.owner_of_ne_nil ?_⟩
  rw [stand]
  exact List.cons_ne_nil _ _

/-- A request for which the caller names a proxy, with credentials for it. -/
def namedVisit : Request where
  __ := Request.plain .get (.front "http" 1)
  proxy := .pinned "http://user:pw@[::9]:3128"

/-- The proxy and the credentials are kept where the scheme and the host change, although there is a
rule for the new scheme. -/
theorem pinned_across_schemes :
    ∃ j req, Relation.ReflTransGen (Journey.Step (.one "https" [])) (Journey.start namedVisit) j ∧
      j.urls = [.front "http" 1, .front "https" 2] ∧
      (ProxyRules.one "https" []).prepare j.request = .ok req ∧
      j.request.proxy.proxy = some "http://[::9]:3128" ∧
      j.request.proxyValues.map (·.bytes) = [utf8 "Basic dXNlcjpwdw=="] := by
  have reads : Endpoint.parse "http://user:pw@[::9]:3128" =
      .ok ⟨"http://[::9]:3128", some ⟨"user", "pw"⟩⟩ := by decide +kernel
  have again : ∀ u, Url.parse (Endpoint.withScheme (trimBlanks "http://user:pw@[::9]:3128")) =
      .ok u → ∃ v, Url.parse "http://[::9]:3128" = .ok v ∧ v.PlaceOf u := by
    intro u parses
    have written : Url.parse (Endpoint.withScheme (trimBlanks "http://user:pw@[::9]:3128")) =
        .ok ⟨"http", some ⟨"user", "pw", some (.ipv6 [0, 0, 0, 0, 0, 0, 0, 9]), some 3128⟩,
          .names [""], none, none⟩ := by decide +kernel
    obtain rfl := Except.ok.inj (written.symm.trans parses)
    exact ⟨⟨"http", some ⟨"", "", some (.ipv6 [0, 0, 0, 0, 0, 0, 0, 9]), some 3128⟩,
      .names [""], none, none⟩, by decide +kernel, rfl, rfl, rfl, rfl, rfl⟩
  have made : (ProxyRules.one "https" []).prepare namedVisit =
      .ok (ProxyRules.routed namedVisit
        (some ⟨"http://[::9]:3128", some ⟨"user", "pw"⟩⟩) false) := by
    refine ProxyRules.prepare_of_select ((ProxyRules.select_of_pinned rfl rfl).trans ?_)
    rw [reads]
    rfl
  obtain ⟨ready, made', law⟩ :=
    Journey.pinned_of_course (.one "https" []) namedVisit rfl rfl rfl reads again .refl
  obtain rfl := Except.ok.inj (made.symm.trans made')
  have step : Journey.Step (.one "https" []) (Journey.start (ProxyRules.routed namedVisit
      (some ⟨"http://[::9]:3128", some ⟨"user", "pw"⟩⟩) false)) _ :=
    .hop (Journey.continues_elsewhere (.front "https" 2) (by decide +kernel) rfl)
  obtain ⟨⟨req, again'⟩, used, -, -, presents⟩ := law _ (.single step)
  refine ⟨_, req, .head (.prepare made) (.single step), rfl, again', used, ?_⟩
  rw [(presents _ rfl).1]
  decide +kernel

end Wayfarer
