import Wayfarer.Command.Line
import Wayfarer.Hop.Request
import Wayfarer.Number.Decimal

/-!
What a command line asks for.

* `FetchOrder`, `ResolveOrder`, `RefreshOrder`: the orders of the three commands;
* `Command`: one of them;
* `Invocation.read?`: the command of a command line and the file with its settings.
-/

namespace Wayfarer

open CommandLine

/-- Fetch URLs and follow where they lead. -/
structure FetchOrder where
  urls : List String
  method : String
  headers : List (String × String)
  data : Option String
  proxy : ProxyState
  handled : List Nat

/-- Tell what request would follow a redirect. -/
structure ResolveOrder where
  base : String
  location : String
  status : Nat
  method : String

/-- Tell where the refresh directive of a document leads. -/
structure RefreshOrder where
  base : String
  file : Option String

/-- What to do. -/
inductive Command where
  | fetch (order : FetchOrder)
  | resolve (order : ResolveOrder)
  | refresh (order : RefreshOrder)

/-- What to do, and the file with the settings for it. -/
structure Invocation where
  config : String
  command : Command

/-! ### Options -/

/-- The options in front of a command. -/
def globalFlags : List Flag :=
  [⟨"config", some 'c', "config", true⟩]

/-- The options of `fetch`. -/
def fetchFlags : List Flag :=
  [⟨"method", some 'X', "method", true⟩, ⟨"header", some 'H', "header", true⟩,
    ⟨"data", some 'd', "data", true⟩, ⟨"proxy", none, "proxy", true⟩,
    ⟨"direct", none, "direct", false⟩, ⟨"handle", none, "handle-status", true⟩]

/-- The options of `resolve`. -/
def resolveFlags : List Flag :=
  [⟨"base", some 'b', "base", true⟩, ⟨"status", some 's', "status", true⟩,
    ⟨"method", some 'X', "method", true⟩]

/-- The options of `refresh`. -/
def refreshFlags : List Flag :=
  [⟨"base", some 'b', "base", true⟩]

/-! ### Values -/

/-- A number of sixteen bits. -/
def word16? (s : String) : Option Nat := do
  let n ← Decimal.readInt? s.toList
  if 0 ≤ n ∧ n ≤ 65535 then some n.toNat else none

/-- A name and a value with a sign of equality between them. -/
def pair? (s : String) : Option (String × String) :=
  (splitAtFirst ['='] s.toList).map fun (key, value) => (String.ofList key, String.ofList value)

/-- A path that is not empty. -/
def path? (s : String) : Option String :=
  if s.isEmpty then none else some s

/-- The proxy that a caller asks for, or none; not both. -/
def proxyOf? (proxy direct : Option String) : Option ProxyState :=
  match proxy, direct with
  | none, none => some .empty
  | some proxy, none => some (.pinned proxy)
  | none, some _ => some .unproxied
  | some _, some _ => none

/-! ### Orders -/

/-- The order of `fetch`. -/
def FetchOrder.read? (args : List String) : Option FetchOrder := do
  let g ← scan fetchFlags none args
  some {
    urls := g.words
    method := ← g.one? "method" "GET"
    headers := ← (g.all "header").mapM pair?
    data := ← g.atMostOne? "data"
    proxy := ← proxyOf? (← g.atMostOne? "proxy") (← g.atMostOne? "direct")
    handled := ← (g.all "handle").mapM word16? }

/-- The order of `resolve`. -/
def ResolveOrder.read? (args : List String) : Option ResolveOrder := do
  let g ← scan resolveFlags none args
  match g.words with
  | [location] =>
      some {
        base := ← (← g.atMostOne? "base")
        location := location
        status := ← word16? (← g.one? "status" "302")
        method := ← g.one? "method" "GET" }
  | _ => none

/-- The order of `refresh`. -/
def RefreshOrder.read? (args : List String) : Option RefreshOrder := do
  let g ← scan refreshFlags none args
  let base ← (← g.atMostOne? "base")
  match g.words with
  | [] => some ⟨base, none⟩
  | [file] => some ⟨base, some (← path? file)⟩
  | _ => none

/-- The command of a name and the arguments behind it. -/
def Command.read? (name : String) (args : List String) : Option Command :=
  if name = "fetch" then (FetchOrder.read? args).map .fetch
  else if name = "resolve" then (ResolveOrder.read? args).map .resolve
  else if name = "refresh" then (RefreshOrder.read? args).map .refresh
  else none

/-- What a command line asks for. -/
def Invocation.read? (args : List String) : Option Invocation := do
  let (g, name, rest) ← scanToWord globalFlags none args
  let config ← path? (← g.one? "config" "config.toml")
  some ⟨config, ← Command.read? name rest⟩

/-- The files that a command reads, its settings first. -/
def Invocation.files (i : Invocation) : List String :=
  match i.command with
  | .refresh ⟨_, some file⟩ => [i.config, file]
  | _ => [i.config]

/-- Whether a command reads its standard input. -/
def Invocation.readsInput (i : Invocation) : Bool :=
  match i.command with
  | .refresh ⟨_, none⟩ => true
  | _ => false

end Wayfarer
