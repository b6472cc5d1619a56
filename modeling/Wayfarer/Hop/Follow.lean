import Wayfarer.Config.Settings
import Wayfarer.Hop.Request
import Wayfarer.Url.Origin

/-!
The request that follows a redirect.

* `forwardable`: the header fields that may go to another URL: credentials for an origin stay
  with it;
* `Errand`: what a hop is to do at its target, the same again or only read;
* `follow`: the request for the target of a hop;
* `hop`: that request, recorded in the trail of its chain and raised in priority.
-/

namespace Wayfarer

/-- The fields that are for one origin only. -/
def originBound : List FieldName :=
  [.cookie, .authorization]

/-- The fields that describe a body. -/
def bodyFields : List FieldName :=
  [.contentType, .contentLength]

/-- The header fields of a request for `source` that may go to `target`. -/
def forwardable (headers : Headers) (source target : Url) : Headers :=
  if source.sameOrigin target then headers else headers.retain (· ∉ originBound)

/-- What a hop is to do at its target. -/
inductive Errand where
  /-- The same again: the method and the body stay. -/
  | keep
  /-- Only read: any method but the two that read becomes one of them, without a body. -/
  | read
deriving Repr, DecidableEq

namespace Errand

/-- The method of the request that follows. -/
def method : Errand → Method → Method
  | keep, m => m
  | read, m => if m = Method.get ∨ m = Method.head then m else Method.get

/-- The body of the request that follows. -/
def body : Errand → Bytes → Bytes
  | keep, b => b
  | read, _ => []

/-- The fields of the request that follows. -/
def headers : Errand → Headers → Headers
  | keep, h => h
  | read, h => h.retain (· ∉ bodyFields)

end Errand

/-- Whether the proxy of a request has to be chosen anew for `target`: a rule chose it for a scheme
that is no longer the one in use. -/
def reselects (req : Request) (target : Url) : Bool :=
  req.proxy.byScheme && req.url.scheme ≠ target.scheme

/-- The proxy state of the request that follows. -/
def followProxy (req : Request) (target : Url) : ProxyState :=
  if reselects req target then ProxyState.empty else req.proxy

/-- The fields of the request that follows. Credentials for a proxy stay only where the proxy
stays and owns them. -/
def followHeaders (req : Request) (target : Url) (errand : Errand) : Headers :=
  let h := errand.headers (forwardable req.headers req.url target)
  if (followProxy req target).owner.isNone then h.erase .proxyAuthorization else h

/-- The request for the target of a hop. -/
def follow (req : Request) (target : Url) (errand : Errand) : Request :=
  { req with
    method := errand.method req.method
    url := target
    headers := followHeaders req target errand
    body := errand.body req.body
    proxy := followProxy req target }

/-- The limits that settings put on a chain. -/
def RedirectSettings.limits (s : RedirectSettings) : Limits :=
  ⟨s.maxHops, s.countdown⟩

/-- The journey after a hop, unless a limit refuses it. -/
def hop (s : RedirectSettings) (j : Journey) (target : Url) (errand : Errand) (reason : Reason) :
    Except LimitExceeded Journey :=
  let req := j.request
  match req.trail.advance req.url.text reason s.limits with
  | .error e => .error e
  | .ok trail =>
      .ok (j.next { follow req target errand with
        trail
        priority := req.priority.raise s.priorityAdjust })

end Wayfarer
