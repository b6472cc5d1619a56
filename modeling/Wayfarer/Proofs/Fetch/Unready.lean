import Wayfarer.Proofs.Fetch.Round
import Wayfarer.Proofs.Hop.Course

/-!
Requests that cannot be made ready.

* `FieldValue.ofBytes?_basic`: the credentials for a proxy always make a header value;
* `ProxyRules.prepareInPlace`: a request made ready by one write after the other, each step that
  may fail in its place; `ProxyRules.left_prepareInPlace`: what it leaves behind;
* `ProxyRules.prepare_eq_error_iff`: when a request cannot be made ready;
* `Downloader.Reaches`: the journeys that a run comes to, and `Downloader.fetch_of_reaches`: what is
  fetched from there on;
* `ProxyRules.unready_iff`: **only a proxy that the request names and that is none stops it, and
  then nothing is written and nothing is sent**.
-/

namespace Wayfarer

/-! ### Credentials as a header value -/

lemma utf8_append (s t : String) : utf8 (s ++ t) = utf8 s ++ utf8 t := by
  simp only [utf8, Utf8.encode, String.toList_append, List.flatMap_append]

/-- The bytes of credentials are those of a header value. -/
lemma FieldValue.ofBytes?_basic (c : Credentials) :
    FieldValue.ofBytes? (utf8 ("Basic " ++ c.basic)) = some c.field := by
  have bytes : utf8 ("Basic " ++ c.basic) = c.field.bytes := utf8_append "Basic " c.basic
  rw [bytes, FieldValue.ofBytes?, dif_pos c.field.valid]

/-- The header value for a proxy, if it has credentials, from their text. -/
def Endpoint.authorization? (e : Endpoint) : Except Failure (Option FieldValue) :=
  match e.credentials with
  | none => .ok none
  | some c =>
      match FieldValue.ofBytes? (utf8 ("Basic " ++ c.basic)) with
      | some value => .ok (some value)
      | none => .error (.invalidProxy "failed to parse header value")

lemma Endpoint.authorization?_eq (e : Endpoint) :
    e.authorization? = .ok (e.credentials.map (·.field)) := by
  rw [authorization?]
  cases e.credentials with
  | none => rfl
  | some c =>
      dsimp only
      rw [FieldValue.ofBytes?_basic]
      rfl

/-- The header value for the proxy that is chosen, if one is. -/
def authorization? : Option Endpoint → Except Failure (Option FieldValue)
  | some e => e.authorization?
  | none => .ok none

lemma authorization?_eq (endpoint : Option Endpoint) :
    authorization? endpoint = .ok ((endpoint.bind (·.credentials)).map (·.field)) := by
  cases endpoint with
  | none => rfl
  | some e => exact e.authorization?_eq

/-! ### One write after the other -/

/-- What writes into a request and may fail. What is written before a failure stays. -/
abbrev Writing := ExceptT Failure (StateM Request)

namespace Writing

variable {α β : Type}

/-- How it ends for a request, and what is left of the request then. -/
def left (x : Writing α) (req : Request) : Except Failure α × Request :=
  (x.run.run req).run

@[simp] lemma left_pure (a : α) (req : Request) : left (pure a) req = (.ok a, req) :=
  rfl

@[simp] lemma left_get (req : Request) : left get req = (.ok req, req) :=
  rfl

@[simp] lemma left_modify (f : Request → Request) (req : Request) :
    left (modify f) req = (.ok (), f req) :=
  rfl

@[simp] lemma left_ofExcept (x : Except Failure α) (req : Request) :
    left (MonadExcept.ofExcept x) req = (x, req) := by
  cases x <;> rfl

/-- A failure ends what comes after it; what is written by then stays. -/
@[simp] lemma left_bind (x : Writing α) (f : α → Writing β) (req : Request) :
    left (x >>= f) req =
      match left x req with
      | (.ok a, mid) => left (f a) mid
      | (.error e, mid) => (.error e, mid) := by
  rw [left, left, ExceptT.run_bind, StateT.run_bind, Id.run_bind]
  rcases (x.run.run req).run with ⟨_ | a, mid⟩ <;> rfl

end Writing

namespace ProxyRules

variable {r : ProxyRules} {req : Request}

/-- A proxy is put in use where the request stands. -/
def assignInPlace (address : Option String) (byRule : Bool) : Writing Unit := do
  if byRule then
    modify fun req => { req with proxy := { req.proxy with byScheme := true } }
  modify fun req => { req with proxy := { req.proxy with proxy := address } }

/-- Credentials in the header are settled where they stand, `value` being those for the proxy at
`address`. -/
def settleInPlace (address : Option String) : Option FieldValue → Writing Unit
  | some value => do
      modify fun req => { req with headers := req.headers.insert .proxyAuthorization value }
      modify fun req => { req with proxy := { req.proxy with owner := address } }
  | none => do
      let req ← get
      match req.proxy.owner with
      | some owner =>
          if address ≠ some owner then
            modify fun req => { req with headers := req.headers.erase .proxyAuthorization }
            modify fun req => { req with proxy := { req.proxy with owner := none } }
      | none =>
          if req.headers.contains .proxyAuthorization then
            match address with
            | some url =>
                modify fun req => { req with proxy := { req.proxy with owner := some url } }
            | none =>
                modify fun req => { req with headers := req.headers.erase .proxyAuthorization }

/-- A request is made ready where it stands: a proxy is chosen, the value for its credentials is
made, and the request is written to. -/
def prepareInPlace (r : ProxyRules) : Writing Unit := do
  let req ← get
  let (endpoint, byRule) ← MonadExcept.ofExcept <|
    (r.select req.proxy req.url).mapError Failure.ofEndpoint
  let value ← MonadExcept.ofExcept (authorization? endpoint)
  assignInPlace (endpoint.map (·.address)) byRule
  settleInPlace (endpoint.map (·.address)) value

lemma left_assignInPlace (address : Option String) (byRule : Bool) (req : Request) :
    (assignInPlace address byRule).left req = (.ok (), assign req address byRule) := by
  cases byRule <;> rfl

/-- Credentials are settled where they stand as they are in a request of its own. -/
lemma left_settleInPlace (req : Request) (creds : Option Credentials) :
    (settleInPlace req.proxy.proxy (creds.map (·.field))).left req =
      (.ok (), match creds with
        | some c => present req c
        | none => reconcile req) := by
  cases creds with
  | some c => rfl
  | none =>
      obtain ⟨method, url, headers, body, priority, repeatable, frozen, handled, trail,
        ⟨proxy, direct, owner, byScheme⟩, skip⟩ := req
      cases owner with
      | some o => by_cases own : proxy = some o <;> simp [settleInPlace, reconcile, own, disown]
      | none =>
          cases held : headers.contains .proxyAuthorization <;> cases proxy <;>
            simp [settleInPlace, reconcile, held, disown]

/-- **What is left of a request** that is made ready where it stands: the one that is ready, or, if
that fails, the same as before. -/
theorem left_prepareInPlace (r : ProxyRules) (req : Request) :
    r.prepareInPlace.left req =
      match r.prepare req with
      | .ok after => (.ok (), after)
      | .error e => (.error (.ofEndpoint e), req) := by
  rw [prepareInPlace, Writing.left_bind, Writing.left_get, prepare_eq]
  dsimp only
  rw [Writing.left_bind, Writing.left_ofExcept]
  cases r.select req.proxy req.url with
  | error e => rfl
  | ok choice =>
      obtain ⟨endpoint, byRule⟩ := choice
      dsimp only [Except.mapError, Except.map]
      rw [Writing.left_bind, Writing.left_ofExcept, authorization?_eq]
      dsimp only
      rw [Writing.left_bind, left_assignInPlace, routed]
      exact left_settleInPlace (assign req (endpoint.map (·.address)) byRule) _

/-! ### What stops a request -/

/-- A request cannot be made ready just when it wants a proxy that it names, and the name is
none. -/
lemma prepare_eq_error_iff {e : EndpointError} :
    r.prepare req = .error e ↔
      req.proxy.direct = false ∧ ∃ raw, req.proxy.proxy = some raw ∧
        Endpoint.parse raw = .error e := by
  cases direct : req.proxy.direct with
  | true => simp [prepare_eq, select_of_direct direct, Except.map]
  | false =>
      cases named : req.proxy.proxy with
      | none => simp [prepare_eq, select_of_open direct named, Except.map]
      | some raw =>
          rw [prepare_eq, select_of_pinned direct named]
          cases found : Endpoint.parse raw <;> simp [Except.map, found]

end ProxyRules

/-! ### Journeys that a run comes to -/

namespace Downloader

variable {d : Downloader} {transport : Transport} {start j next : Journey} {req : Request}
variable {sent : List Request}

/-- The journeys that a run from `start` comes to, with the requests that are sent by then. -/
inductive Reaches (d : Downloader) (transport : Transport) (start : Journey) :
    List Request → Journey → Prop
  | start : Reaches d transport start [] start
  | follow {sent : List Request} {j next : Journey} {req : Request}
      (before : Reaches d transport start sent j)
      (onward : d.round transport j = .follow req next) :
      Reaches d transport start (sent ++ [req]) next

/-- What is fetched from a journey on is what is fetched in all but for what is sent before. -/
lemma fetch_of_reaches (reaches : d.Reaches transport start sent j) :
    d.fetch transport start =
      (d.fetch transport j).map fun run => { run with sent := sent ++ run.sent } := by
  induction reaches with
  | start => exact Option.map_id'.symm
  | follow _ onward ih =>
      rw [ih, fetch_of_follow onward, Option.map_map]
      congr 1
      funext run
      simp [Run.after]

end Downloader

/-! ### Requests that cannot be made ready -/

namespace ProxyRules

/-- **What stops a request.** Made ready where it stands it fails just when it names a proxy, wants
one, and the name is none; the failure says why. The header value for a proxy never fails. Where
making it ready fails the request is as before, and a run that comes to it ends with that failure,
without a further request sent. -/
theorem unready_iff (r : ProxyRules) (req : Request) :
    (∀ f, (r.prepareInPlace.left req).1 = .error f ↔
      req.proxy.direct = false ∧ ∃ raw e, req.proxy.proxy = some raw ∧
        Endpoint.parse raw = .error e ∧ f = .ofEndpoint e) ∧
    (∀ e : Endpoint, e.authorization? = .ok (e.credentials.map (·.field))) ∧
    (∀ f left, r.prepareInPlace.left req = (.error f, left) → left = req) ∧
    ∀ (d : Downloader) (transport : Transport) (start : Journey) (sent past : List Request) f,
      d.chain.rules = r → d.Reaches transport start sent ⟨req, past⟩ →
      (r.prepareInPlace.left req).1 = .error f →
      d.fetch transport start = some ⟨sent, .error f⟩ := by
  have fails (f) : (r.prepareInPlace.left req).1 = .error f ↔
      ∃ e, r.prepare req = .error e ∧ f = .ofEndpoint e := by
    rw [left_prepareInPlace]
    cases r.prepare req <;> simp [eq_comm]
  refine ⟨fun f => ?_, Endpoint.authorization?_eq, fun f left failed => ?_, ?_⟩
  · simp only [fails, prepare_eq_error_iff]
    constructor
    · rintro ⟨e, ⟨direct, raw, named, none⟩, rfl⟩
      exact ⟨direct, raw, e, named, none, rfl⟩
    · rintro ⟨direct, raw, e, named, none, rfl⟩
      exact ⟨e, ⟨direct, raw, named, none⟩, rfl⟩
  · obtain ⟨e, refused, -⟩ := (fails f).mp (congrArg Prod.fst failed)
    rw [left_prepareInPlace, refused] at failed
    exact (congrArg Prod.snd failed).symm
  · rintro d transport start sent past f rfl reaches failed
    obtain ⟨e, refused, rfl⟩ := (fails f).mp failed
    have ends : d.round transport ⟨req, past⟩ = .last ⟨[], .error (.ofEndpoint e)⟩ := by
      rw [Downloader.round, PolicyChain.prepare, refused]
    rw [Downloader.fetch_of_reaches reaches, Downloader.fetch_of_last ends, Option.map_some,
      List.append_nil]

/-- A request through a proxy whose address is none. -/
def brokenProxy : Request :=
  { Request.plain .get (.front "http" 1) with proxy := .pinned "[" }

/-- It stays as it is and is not sent, whatever would answer it. -/
theorem broken_proxy_stops :
    ProxyRules.empty.prepareInPlace.left brokenProxy =
        (.error (.invalidProxy "[: invalid IPv6 address"), brokenProxy) ∧
      ∀ transport, Downloader.fetch ⟨default, .empty, []⟩ transport (.start brokenProxy) =
        some ⟨[], .error (.invalidProxy "[: invalid IPv6 address")⟩ := by
  obtain ⟨fails, -, kept, unsent⟩ := unready_iff .empty brokenProxy
  have failed := (fails _).mpr ⟨rfl, "[", .unreadable "[" .invalidIpv6, rfl, by decide +kernel, rfl⟩
  refine ⟨Prod.ext failed (kept _ _ (Prod.ext failed rfl)), fun transport => ?_⟩
  exact unsent ⟨default, .empty, []⟩ transport _ [] [] _ rfl .start failed

end ProxyRules

end Wayfarer
