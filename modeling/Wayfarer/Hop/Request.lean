import Wayfarer.Hop.Trail
import Wayfarer.Http.Headers
import Wayfarer.Http.Message
import Wayfarer.Url.Basic

/-!
Requests, responses and the way from one to the next.

* `Priority`: how soon a request is due; the range is bounded and `Priority.raise` stays in it;
* `Handled`: the status codes that a caller wants to see as they are;
* `ProxyState`: through which proxy a request goes, and whose credentials it carries;
* `Skip`: which policies a request is exempt from;
* `Request`, `Response`: the messages;
* `Journey`: a request and the requests that led to it;
* `Arrival`: a journey and the response at its end;
* `Crawler`: who asks, and which status codes it handles itself.
-/

namespace Wayfarer

/-! ### Priority -/

/-- How soon a request is due, the highest first: an integer of thirty-two bits with a sign. -/
structure Priority where
  value : Int
  least : -2147483648 ≤ value := by decide
  most : value ≤ 2147483647 := by decide
deriving DecidableEq

namespace Priority

/-- The priority nearest to an integer. -/
def clamp (n : Int) : Priority where
  value := max (-2147483648) (min n 2147483647)
  least := by omega
  most := by omega

/-- The priority of a request for which nothing is said. -/
def normal : Priority := { value := 0 }

instance : Inhabited Priority := ⟨normal⟩

/-- A priority raised by an amount, as far as the range allows. -/
def raise (p : Priority) (amount : Int) : Priority :=
  clamp (p.value + amount)

end Priority

/-! ### What a request carries for others -/

/-- The status codes that a caller wants to see as they are: those of a list, or all. -/
structure Handled where
  codes : List Nat
  all : Bool
deriving Repr, DecidableEq, Inhabited

/-- Whether a status is one that the caller wants to see. -/
def Handled.covers (h : Handled) (s : Status) : Bool :=
  h.all || h.codes.contains s.code

/-- Through which proxy a request goes.

`proxy` is the proxy in use, or the one that the caller asks for; `direct` asks for none; `owner`
is the proxy that the credentials in the header belong to; `byScheme` tells that a rule for the
scheme chose the proxy at some time. -/
structure ProxyState where
  proxy : Option String
  direct : Bool
  owner : Option String
  byScheme : Bool
deriving Repr, DecidableEq

namespace ProxyState

/-- Nothing chosen and nothing asked for. -/
def empty : ProxyState :=
  ⟨none, false, none, false⟩

instance : Inhabited ProxyState := ⟨empty⟩

/-- The state of a request for which the caller names a proxy. -/
def pinned (proxy : String) : ProxyState :=
  { empty with proxy := some proxy }

/-- The state of a request for which the caller wants no proxy. -/
def unproxied : ProxyState :=
  { empty with direct := true }

/-- Whether nothing is chosen or asked for. -/
def isEmpty (s : ProxyState) : Bool :=
  s = empty

end ProxyState

/-- Which policies for responses a request is exempt from. -/
inductive Skip where
  | all
  | one (policy : String)
deriving Repr, DecidableEq

/-- Whether a policy of some name is skipped. -/
def Skip.skips : Skip → String → Bool
  | all, _ => true
  | one policy, name => policy = name

/-! ### Messages -/

/-- A request. A `frozen` request is answered as it is, whatever the response says about other
places. -/
structure Request where
  method : Method
  url : Url
  headers : Headers
  body : Bytes
  priority : Priority
  repeatable : Bool
  frozen : Bool
  handled : Handled
  trail : Trail
  proxy : ProxyState
  skip : Option Skip
deriving DecidableEq

/-- The request with nothing but a method and a URL. -/
def Request.plain (method : Method) (url : Url) : Request where
  method
  url
  headers := Headers.empty
  body := []
  priority := Priority.normal
  repeatable := false
  frozen := false
  handled := ⟨[], false⟩
  trail := Trail.start
  proxy := ProxyState.empty
  skip := none

/-- A response. -/
structure Response where
  status : Status
  url : Url
  headers : Headers
  body : Bytes
deriving DecidableEq

/-- A request and the requests that led to it, the latest first. -/
structure Journey where
  request : Request
  past : List Request
deriving DecidableEq

namespace Journey

/-- The journey that begins with a request. -/
def start (request : Request) : Journey :=
  ⟨request, []⟩

/-- The journey continued by a request. -/
def next (j : Journey) (request : Request) : Journey :=
  ⟨request, j.request :: j.past⟩

/-- The URL that a journey has come to. -/
def url (j : Journey) : Url :=
  j.request.url

/-- All requests of a journey in the order in which they were made. -/
def requests (j : Journey) : List Request :=
  j.past.reverse ++ [j.request]

end Journey

/-- A journey and the response at its end. -/
structure Arrival where
  journey : Journey
  response : Response
deriving DecidableEq

/-- The request that a response answers. -/
def Arrival.request (a : Arrival) : Request :=
  a.journey.request

/-- Who asks, and which status codes it handles itself. -/
structure Crawler where
  name : String
  handled : List Nat
deriving Repr, DecidableEq, Inhabited

/-- Whether the crawler handles a status itself. -/
def Crawler.handles (c : Crawler) (s : Status) : Bool :=
  c.handled.contains s.code

end Wayfarer
