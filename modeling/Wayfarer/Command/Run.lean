import Wayfarer.Command.Invocation
import Wayfarer.Config.Load
import Wayfarer.Datum.Json
import Wayfarer.Hop.Report

/-!
Commands carried out.

* `World`: what a command finds: variables, standard input and files;
* `Complaint`: why a command comes to nothing;
* `Outcome`: what a command prints, or why it does not;
* `run`: the outcome of a command line.
-/

namespace Wayfarer

/-- What is found at a path. -/
inductive FileEntry where
  | missing
  | folder
  | file (content : Bytes)
deriving Repr, DecidableEq

/-- What a command finds. -/
structure World where
  vars : List (String × String)
  input : Bytes
  entry : String → FileEntry

/-- Why a command comes to nothing. -/
inductive Complaint where
  | method
  | status
  | url (cause : UrlError)
  | failure (cause : Failure)
  | noFile
  | isFolder
  | notText
deriving DecidableEq

/-- The complaint in words. -/
def Complaint.message : Complaint → String
  | method => "invalid HTTP method"
  | status => "invalid status code"
  | url cause => cause.message
  | failure cause => cause.message
  | noFile => "No such file or directory (os error 2)"
  | isFolder => "Is a directory (os error 21)"
  | notText => "stream did not contain valid UTF-8"

/-- What a command prints, or why it does not: it cannot do what it is asked, its settings cannot be
read, or it is not asked for anything that it does. -/
inductive Outcome where
  | printed (text : String)
  | refused (complaint : Complaint)
  | misconfigured
  | misused
deriving DecidableEq

namespace Outcome

/-- The exit code. -/
def code : Outcome → Nat
  | printed _ => 0
  | refused _ => 1
  | misconfigured => 1
  | misused => 2

/-- What goes to standard output. -/
def output : Outcome → String
  | printed text => text
  | _ => ""

/-- What goes to standard error for a command that is refused. -/
def complaintText? : Outcome → Option String
  | refused complaint => some ("Error: " ++ complaint.message)
  | _ => none

/-- The outcome of a command that may be refused. -/
def ofResult : Except Complaint String → Outcome
  | .ok text => printed text
  | .error complaint => refused complaint

end Outcome

/-! ### Parts of a command -/

/-- The name under which commands make their requests. -/
def commandCrawler : Crawler :=
  ⟨"cli", []⟩

/-- A text with its ASCII letters made capitals. -/
def capitals (s : String) : String :=
  String.ofList (s.toList.map Char.toUpper)

/-- The method that a text names in any case. -/
def readMethod (s : String) : Except Complaint Method :=
  match Method.ofString? (capitals s) with
  | some m => .ok m
  | none => .error .method

/-- The URL that a text is. -/
def readUrl (s : String) : Except Complaint Url :=
  match Url.parse s with
  | .ok u => .ok u
  | .error e => .error (.url e)

/-- The status of a code. -/
def readStatus (n : Nat) : Except Complaint Status :=
  match Status.ofNat? n with
  | some s => .ok s
  | none => .error .status

/-- A report as lines. -/
def printed (d : Datum) : String :=
  d.pretty ++ "\n"

/-! ### The commands -/

/-- The request of a `fetch` for one URL. -/
def FetchOrder.request (order : FetchOrder) (m : Method) (u : Url) : Request :=
  { Request.plain m u with
    headers := Headers.ofPairs (order.headers.map fun (name, value) => (name, utf8 value))
    body := (order.data.map utf8).getD []
    proxy := order.proxy
    handled := ⟨order.handled, false⟩ }

/-- Whether the header of a request can hold the name of who asks. -/
def TransportSettings.isSendable (s : TransportSettings) : Bool :=
  s.userAgent.all fun name => (FieldValue.ofBytes? (utf8 name)).isSome

/-- What `fetch` prints: a report for each URL that leads to a response. -/
def FetchOrder.run (order : FetchOrder) (s : Settings) (vars : List (String × String))
    (transport : Transport) : Except Complaint String := do
  let m ← readMethod order.method
  let urls ← order.urls.mapM readUrl
  if !s.transport.isSendable then .error (.failure (.network "builder error"))
  else
    match Downloader.ofSettings s vars commandCrawler with
    | .error e => .error (.failure e)
    | .ok d =>
        let runs := d.fetchAll transport (urls.map (order.request m))
        let reports := runs.filterMap fun run =>
          run.result.toOption.map fun arrival => printed (Report.of arrival).datum
        .ok (String.join reports)

/-- The response that a `resolve` supposes. -/
def ResolveOrder.response (order : ResolveOrder) (u : Url) (s : Status) : Response where
  status := s
  url := u
  headers := Headers.ofPairs [(FieldName.location.text, utf8 order.location)]
  body := []

/-- What `resolve` prints: the request that follows, if one does. -/
def ResolveOrder.run (order : ResolveOrder) (s : Settings) : Except Complaint String := do
  let m ← readMethod order.method
  let u ← readUrl order.base
  let status ← readStatus order.status
  let journey := Journey.start (Request.plain m u)
  match (ResponsePolicy.redirect s.redirect).check commandCrawler
      ⟨journey, order.response u status⟩ with
  | .error e => .error (.failure e)
  | .ok (.pass _) => .ok ""
  | .ok (.follow next) => .ok (printed next.request.summary.datum)

/-- The bytes of a file. -/
def World.read (w : World) (path : String) : Except Complaint Bytes :=
  match w.entry path with
  | .missing => .error .noFile
  | .folder => .error .isFolder
  | .file content => .ok content

/-- What `refresh` prints: the directive of a document, if it has one. -/
def RefreshOrder.run (order : RefreshOrder) (s : Settings) (w : World) :
    Except Complaint String := do
  let u ← readUrl order.base
  let content ← match order.file with
    | some path => w.read path
    | none => .ok w.input
  match Utf8.decode? content with
  | none => .error .notText
  | some text =>
      match Refresh.Report.of? s.refresh.ignoredTags u text with
      | some report => .ok (printed report.datum)
      | none => .ok ""

/-- What a command prints. -/
def Command.run (c : Command) (s : Settings) (w : World) (transport : Transport) :
    Except Complaint String :=
  match c with
  | .fetch order => order.run s w.vars transport
  | .resolve order => order.run s
  | .refresh order => order.run s w

/-! ### Command lines -/

/-- How the names of files with settings end. -/
def settingsSuffix : String := ".toml"

/-- A text without the mark of byte order in front. -/
def dropMark (bs : Bytes) : Bytes :=
  if bs.take 3 = [0xEF, 0xBB, 0xBF] then bs.drop 3 else bs

/-- The settings that a world holds under a path. Where there is no file all of them have their
default or come from the environment. -/
def World.settings (w : World) (path : String) : Option Settings :=
  match w.entry path with
  | .missing => Settings.load none w.vars
  | .folder => none
  | .file content =>
      if settingsSuffix.toList.isSuffixOf path.toList then
        Settings.load (some (Utf8.decodeLossy (dropMark content))) w.vars
      else none

/-- The outcome of a command line. -/
def run (w : World) (transport : Transport) (args : List String) : Outcome :=
  match Invocation.read? args with
  | none => .misused
  | some i =>
      match w.settings i.config with
      | none => .misconfigured
      | some s => .ofResult (i.command.run s w transport)

end Wayfarer
