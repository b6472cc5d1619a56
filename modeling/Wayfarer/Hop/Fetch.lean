import Wayfarer.Hop.Chain

/-!
Fetching along a chain.

* `Transport`: what answers a request;
* `Downloader`: who asks, and by which policies;
* `Run`: the requests that were sent, and how that ended;
* `Downloader.round`: a request is made ready and sent, and its response is judged;
* `Downloader.fetch`: round after round, until a response is passed on or something fails;
* `Downloader.fetchAll`: several requests, one after the other.

Nothing here counts the rounds: whether they come to an end is up to the policies.
-/

namespace Wayfarer

/-- What answers the latest request of a journey. The journey also tells what was asked before, and
the answer may depend on it. -/
abbrev Transport := Journey → Except Failure Response

/-- Who asks, and by which policies. -/
structure Downloader where
  crawler : Crawler
  chain : PolicyChain

/-- The requests that were sent, in order, and how that ended. -/
structure Run where
  sent : List Request
  result : Except Failure Arrival

/-- A run after one more request in front. -/
def Run.after (run : Run) (req : Request) : Run :=
  { run with sent := req :: run.sent }

/-- What a round comes to: it is the last one, or a request was sent and a further one follows. -/
inductive Round where
  | last (run : Run)
  | follow (sent : Request) (next : Journey)

namespace Downloader

/-- The downloader that settings and the environment describe. -/
def ofSettings (s : Settings) (vars : List (String × String)) (crawler : Crawler) :
    Except Failure Downloader :=
  match PolicyChain.ofSettings s vars with
  | .ok chain => .ok ⟨crawler, chain⟩
  | .error e => .error (.ofEndpoint e)

/-- One round: the latest request of a journey is made ready and sent, and its response is
judged. -/
def round (d : Downloader) (transport : Transport) (j : Journey) : Round :=
  match d.chain.prepare j.request with
  | .error e => .last ⟨[], .error (.ofEndpoint e)⟩
  | .ok req =>
      let sent : Journey := { j with request := req }
      match transport sent with
      | .error e => .last ⟨[req], .error e⟩
      | .ok r =>
          match d.chain.check d.crawler ⟨sent, r⟩ with
          | .error e => .last ⟨[req], .error e⟩
          | .ok (.pass a) => .last ⟨[req], .ok a⟩
          | .ok (.follow next) => .follow req next

/-- The run that continues a journey, unless its rounds never end. -/
def fetch (d : Downloader) (transport : Transport) (j : Journey) : Option Run :=
  match d.round transport j with
  | .last run => some run
  | .follow req next => do
      let run ← d |>.fetch transport next
      return run.after req
partial_fixpoint

/-- The runs that begin with each of some requests. -/
def fetchAll (d : Downloader) (transport : Transport) (reqs : List Request) : List Run :=
  reqs.filterMap fun req => d.fetch transport (Journey.start req)

end Downloader

end Wayfarer
