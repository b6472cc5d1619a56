import Wayfarer.Datum.Basic
import Wayfarer.Hop.Fetch

/-!
Reports.

* `Summary`: what a report says of a request;
* `Report`: what it says of a whole journey;
* `Refresh.Report`: what it says of a refresh directive;
* `Summary.datum`, `Report.datum`, `Refresh.Report.datum`: the reports as data.
-/

namespace Wayfarer

/-! ### Requests -/

/-- What a report says of a request. -/
structure Summary where
  method : String
  url : String
  headers : List (String × String)
  bodySize : Nat
  priority : Int
  trail : Trail
  proxy : ProxyState
deriving DecidableEq

/-- The summary of a request. -/
def Request.summary (req : Request) : Summary where
  method := req.method.text
  url := req.url.text
  headers := req.headers.texts
  bodySize := req.body.length
  priority := req.priority.value
  trail := req.trail
  proxy := req.proxy

/-- The reason of a hop as data. -/
def Reason.datum : Reason → Datum
  | status code => .int code
  | refresh => .text refresh.text

/-- The trail of a chain as data. -/
def Trail.datum (t : Trail) : Datum :=
  .table [("times", .int t.hops.toNat),
    ("ttl", (t.allowance.map fun n => Datum.int n.toNat).getD .null),
    ("urls", .list (t.urls.map .text)),
    ("reasons", .list (t.reasons.map Reason.datum))]

/-- The proxy state of a request as data. -/
def ProxyState.datum (s : ProxyState) : Datum :=
  .table [("proxy", .ofText? s.proxy), ("direct", .bool s.direct),
    ("auth_proxy", .ofText? s.owner), ("scheme_proxy", .bool s.byScheme)]

/-- The summary of a request as data. -/
def Summary.datum (s : Summary) : Datum :=
  .table [("method", .text s.method), ("url", .text s.url),
    ("headers", .list (s.headers.map fun (name, value) => .list [.text name, .text value])),
    ("body_len", .int s.bodySize), ("priority", .int s.priority),
    ("redirect", s.trail.datum), ("proxy", s.proxy.datum)]

/-! ### Journeys -/

/-- What a report says of a journey: the response at its end and all its requests in order. -/
structure Report where
  status : Nat
  url : String
  bodySize : Nat
  hops : List Summary
deriving DecidableEq

/-- The report on a journey. -/
def Report.of (a : Arrival) : Report where
  status := a.response.status.code
  url := a.response.url.text
  bodySize := a.response.body.length
  hops := a.journey.requests.map Request.summary

/-- The report on a journey as data. -/
def Report.datum (r : Report) : Datum :=
  .table [("status", .int r.status), ("url", .text r.url), ("body_len", .int r.bodySize),
    ("hops", .list (r.hops.map Summary.datum))]

/-! ### Refresh directives -/

/-- What a report says of a refresh directive: the directive, the base address of its document, and
the URL that it leads to from the URL of the document. -/
structure Refresh.Report where
  directive : Refresh
  base : Option String
  target : Option String
deriving DecidableEq

namespace Refresh.Report

/-- The report on the first directive of a document. The base address that the document names
counts if it leads anywhere from the URL of the document. -/
def of? (ignored : List String) (u : Url) (text : List Char) : Option Refresh.Report := do
  let (directive, base) ← Refresh.find? ignored text
  let effective := (base.bind fun b => (Target.resolveText u b).toOption).getD u
  let target := (Target.resolveText effective directive.target).toOption
  some { directive, base, target := target.map (·.text) }

/-- The report on a directive as data. -/
def datum (r : Refresh.Report) : Datum :=
  .table [("interval", .real r.directive.delay), ("url", .text r.directive.target),
    ("base_href", .ofText? r.base), ("target", .ofText? r.target)]

end Refresh.Report

end Wayfarer
