import Wayfarer.Hop.Failure
import Wayfarer.Hop.Follow
import Wayfarer.Hop.Sniff
import Wayfarer.Hop.Target
import Wayfarer.Refresh.Directive

/-!
What policies make of a response.

* `Verdict`: a response is passed on, or a further request follows;
* `ResponsePolicy`: a policy with its name;
* `redirectTarget?`: where the status and the header of a response lead;
* `refreshTarget?`: where the document in a response leads;
* `ResponsePolicy.redirect`, `ResponsePolicy.refresh`: the policies that follow these.
-/

namespace Wayfarer

/-- What a policy makes of a response: it passes it on, or continues the journey. -/
inductive Verdict where
  | pass (a : Arrival)
  | follow (next : Journey)
deriving DecidableEq

/-- A policy for responses. -/
structure ResponsePolicy where
  name : String
  check : Crawler → Arrival → Except Failure Verdict

/-- The verdict on a response that leads to a target, or to none. -/
def verdict (s : RedirectSettings) (a : Arrival) (reason : Reason) :
    Option (Url × Errand) → Except Failure Verdict
  | none => .ok (.pass a)
  | some (target, errand) =>
      match hop s a.journey target errand reason with
      | .ok next => .ok (.follow next)
      | .error e => .error (.tooManyHops e)

/-! ### Redirects -/

/-- What a status asks to do at another place, if it asks for that. -/
def Status.errand? (s : Status) : Option Errand :=
  if s = found ∨ s = seeOther then some .read
  else if s = movedPermanently ∨ s = temporaryRedirect ∨ s = permanentRedirect then some .keep
  else none

/-- Whether a status of a response is left to whoever asked. -/
def leavesStatus (c : Crawler) (req : Request) (s : Status) : Bool :=
  req.frozen || req.handled.covers s || c.handles s

/-- Where the status and the header of a response lead. A location that names no URL leads
nowhere. -/
def redirectTarget? (s : RedirectSettings) (c : Crawler) (req : Request) (r : Response) :
    Option (Url × Errand) :=
  if !s.enabled || leavesStatus c req r.status || !req.url.isHttp then none
  else do
    let errand ← r.status.errand?
    let location ← r.headers.get? .location
    let target ← (Target.resolve req.url location.bytes).toOption
    some (target, errand)

/-- The policy that follows redirects. -/
def ResponsePolicy.redirect (s : RedirectSettings) : ResponsePolicy where
  name := "redirect"
  check c a :=
    verdict s a (.status a.response.status.code) (redirectTarget? s c a.request a.response)

/-! ### Refresh directives -/

/-- The URL that targets in a document are relative to: the base address that the document names,
if it leads anywhere, or else the URL of the document. -/
def documentBase (u : Url) (base : Option String) : Url :=
  (base.bind fun b => (Target.resolveText u b).toOption).getD u

/-- Where a directive in a document leads. -/
def directiveTarget? (u : Url) (r : Refresh) (base : Option String) : Option Url :=
  (Target.resolveText (documentBase u base) r.target).toOption

/-- Where the document in a response leads. A delay of `maxDelay` is too long. -/
def refreshTarget? (s : RefreshSettings) (req : Request) (r : Response) : Option Url :=
  if !s.enabled || req.frozen || !req.url.isHttp || !r.isHtml then none
  else do
    let (directive, base) ← Refresh.find? s.ignoredTags r.text
    if s.maxDelay.le directive.delay then none
    else directiveTarget? req.url directive base

/-- The policy that follows refresh directives. The limits are those for redirects. -/
def ResponsePolicy.refresh (s : RefreshSettings) (limits : RedirectSettings) : ResponsePolicy where
  name := "meta_refresh"
  check _ a :=
    verdict limits a .refresh ((refreshTarget? s a.request a.response).map (·, .read))

end Wayfarer
