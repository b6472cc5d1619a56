import Wayfarer.Command.Run
import Wayfarer.Proofs.Hop.Course
import Wayfarer.Proofs.Hop.Verdict
import Wayfarer.Proofs.Text.Utf8

/-!
What the report on a refresh directive foretells.

* `Refresh.BaseOf`: the URL that targets of a document are relative to, and `Refresh.baseOf_iff`:
  it is the one that is used;
* `Refresh.Report.of?_eq_map`: a report resolves a directive as the policy does;
* `Refresh.Report.target_eq_some_iff`: the target that a report tells is what the directive leads to
  from there;
* `RefreshOrder.Reads`, `RefreshOrder.run_of_reads`: the command reads a text, and what it prints;
* `Arrival.Shows`: a response is a document with a text;
* `RefreshOrder.report_foretells`: **the policy goes where the report says**, and passes a response
  on where the report tells no target.
-/

namespace Wayfarer

variable {s : Settings} {order : RefreshOrder} {w : World} {c : Crawler} {a : Arrival} {u v : Url}
  {base : Option String} {text : List Char} {target : Url} {directive : Refresh}

namespace Refresh

/-! ### The base of a document -/

/-- The URL that targets in a document are relative to: its own, if it names no base address or one
that leads nowhere, or else the one that the base address leads to. -/
inductive BaseOf (u : Url) : Option String → Url → Prop
  | unnamed : BaseOf u none u
  | unresolved {b : String} {e : TargetError} (fails : Target.resolveText u b = .error e) :
      BaseOf u (some b) u
  | named {b : String} {v : Url} (resolves : Target.resolveText u b = .ok v) : BaseOf u (some b) v

lemma baseOf_iff : BaseOf u base v ↔ documentBase u base = v := by
  rw [documentBase]
  constructor
  · intro isBase
    cases isBase with
    | unnamed => rfl
    | unresolved fails => simp [fails, Except.toOption]
    | named resolves => simp [resolves, Except.toOption]
  · rintro rfl
    cases base with
    | none => exact .unnamed
    | some b =>
        cases resolved : Target.resolveText u b with
        | error e =>
            simp only [Option.bind_some, resolved, Except.toOption, Option.getD_none]
            exact .unresolved resolved
        | ok v =>
            simp only [Option.bind_some, resolved, Except.toOption, Option.getD_some]
            exact .named resolved

/-- Where a directive leads is resolved against the base of its document. -/
lemma directiveTarget?_eq_some_iff : directiveTarget? u directive base = some target ↔
    ∃ v, BaseOf u base v ∧ Target.resolveText v directive.target = .ok target := by
  rw [directiveTarget?, toOption_eq_some_iff]
  simp only [baseOf_iff, exists_eq_left']

/-! ### Reports -/

/-- A report is on the first directive, and finds the base of the document and the target there as
the policy does. -/
lemma Report.of?_eq_map (ignored : List String) (u : Url) (text : List Char) :
    Report.of? ignored u text = (find? ignored text).map fun (directive, base) =>
      ⟨directive, base, (directiveTarget? u directive base).map (·.text)⟩ := by
  rw [of?]
  cases find? ignored text <;> rfl

/-- The target that a report tells. -/
lemma Report.target_eq_some_iff {report : Refresh.Report} {ignored : List String} {t : String}
    (found : Report.of? ignored u text = some report) : report.target = some t ↔
      ∃ v target, BaseOf u report.base v ∧
        Target.resolveText v report.directive.target = .ok target ∧ target.text = t := by
  rw [of?_eq_map] at found
  obtain ⟨⟨directive, base⟩, -, rfl⟩ := Option.map_eq_some_iff.mp found
  simp only [Option.map_eq_some_iff, directiveTarget?_eq_some_iff]
  constructor
  · rintro ⟨target, ⟨v, isBase, resolves⟩, same⟩
    exact ⟨v, target, isBase, resolves, same⟩
  · rintro ⟨v, target, isBase, resolves, same⟩
    exact ⟨target, ⟨v, isBase, resolves⟩, same⟩

end Refresh

/-! ### The command -/

namespace RefreshOrder

/-- The command reads a text, from a file or from standard input. -/
inductive Reads (order : RefreshOrder) (w : World) (text : List Char) : Prop
  | file {path : String} (named : order.file = some path)
      (found : w.entry path = .file (Utf8.encode text))
  | input (unnamed : order.file = none) (given : w.input = Utf8.encode text)

/-- What the command prints of a report, if there is one. -/
def printout (report : Option Refresh.Report) : String :=
  (report.map fun report => printed report.datum).getD ""

/-- **What the command prints**: the report on the first directive, or nothing. -/
theorem run_of_reads (s : Settings) (reads : order.Reads w text)
    (based : Url.parse order.base = .ok u) :
    order.run s w = .ok (printout (Refresh.Report.of? s.refresh.ignoredTags u text)) := by
  have decoded : Utf8.decode? (Utf8.encode text) = some text := Utf8.decode?_eq_some_iff.mpr rfl
  cases reads with
  | @file path named found =>
      have content : w.read path = .ok (Utf8.encode text) := by rw [World.read, found]
      simp only [run, readUrl, based, named, content, bind, Except.bind, decoded]
      cases Refresh.Report.of? s.refresh.ignoredTags u text <;> rfl
  | input unnamed given =>
      simp only [run, readUrl, based, unnamed, given, bind, Except.bind, decoded]
      cases Refresh.Report.of? s.refresh.ignoredTags u text <;> rfl

end RefreshOrder

/-! ### The policy -/

/-- A response to a request for a URL is a document with a text: the header says that it is one, and
the text is the body. -/
structure Arrival.Shows (a : Arrival) (u : Url) (text : List Char) : Prop where
  url : a.request.url = u
  document : ∃ v, a.response.headers.get? .contentType = some v ∧ namesDocument v = true
  body : a.response.body = Utf8.encode text

namespace Arrival.Shows

lemma isHtml (shows : a.Shows u text) : a.response.isHtml = true := by
  obtain ⟨v, named, document⟩ := shows.document
  rw [Response.isHtml, named]
  exact document

lemma text_eq (shows : a.Shows u text) : a.response.text = text := by
  rw [Response.text, shows.body, Utf8.decodeLossy_encode]

/-- What leads on from such a response is the target of a report. -/
lemma exists_report (shows : a.Shows u text)
    (leads : Guide.Leads c a (.refresh s.refresh s.redirect) target) :
    ∃ report, Refresh.Report.of? s.refresh.ignoredTags u text = some report ∧
      report.target = some target.text := by
  cases leads with
  | refresh enabled free web document found soon resolves =>
      rw [shows.text_eq] at found
      rw [shows.url] at resolves
      rw [Refresh.Report.of?_eq_map]
      refine ⟨_, Option.map_eq_some_iff.mpr ⟨_, found, rfl⟩, ?_⟩
      exact Option.map_eq_some_iff.mpr ⟨target, toOption_eq_some_iff.mpr resolves, rfl⟩

/-- A target of a report is where such a response leads. -/
lemma leads_of_report (shows : a.Shows u text) (web : u.isHttp = true) {report : Refresh.Report}
    {t : String} (found : Refresh.Report.of? s.refresh.ignoredTags u text = some report)
    (told : report.target = some t) (enabled : s.refresh.enabled = true)
    (free : a.request.frozen = false)
    (soon : s.refresh.maxDelay.le report.directive.delay = false) :
    ∃ target, Guide.Leads c a (.refresh s.refresh s.redirect) target ∧ target.text = t := by
  rw [Refresh.Report.of?_eq_map] at found
  obtain ⟨⟨directive, base⟩, located, rfl⟩ := Option.map_eq_some_iff.mp found
  obtain ⟨target, resolves, same⟩ := Option.map_eq_some_iff.mp told
  rw [← shows.text_eq] at located
  rw [← shows.url] at web resolves
  exact ⟨target, .refresh enabled free web shows.isHtml located soon
    (toOption_eq_some_iff.mp resolves), same⟩

end Arrival.Shows

/-- **A report foretells the policy.** For a text that the command reads and a response that shows
the same text at the base URL of the command, under the same settings. The command prints the report
on the first directive. The target that it tells, if any, is what the directive leads to from the
base of the document. If the policy is enabled, the request is not frozen and has a hop left, and
the delay is not too long, then the policy goes to that target. If no report tells a target, it
passes the response on as it is. And it goes nowhere else. -/
theorem RefreshOrder.report_foretells (s : Settings) (c : Crawler)
    (reads : order.Reads w text) (based : Url.parse order.base = .ok u) (web : u.isHttp = true)
    (shows : a.Shows u text) :
    let report? := Refresh.Report.of? s.refresh.ignoredTags u text
    let judged := (ResponsePolicy.refresh s.refresh s.redirect).check c a
    order.run s w = .ok (printout report?) ∧
    (∀ report t, report? = some report → (report.target = some t ↔
      ∃ v target, Refresh.BaseOf u report.base v ∧
        Target.resolveText v report.directive.target = .ok target ∧ target.text = t)) ∧
    (∀ report t, report? = some report → report.target = some t →
      s.refresh.enabled = true → a.request.frozen = false →
      ¬s.redirect.limits.Exhausted a.request.trail →
      s.refresh.maxDelay.le report.directive.delay = false →
      ∃ next, judged = .ok (.follow next) ∧ next.past = a.request :: a.journey.past ∧
        next.request.url.text = t) ∧
    ((∀ report, report? = some report → report.target = none) → judged = .ok (.pass a)) ∧
    (∀ next, judged = .ok (.follow next) → ∃ report, report? = some report ∧
      report.target = some next.request.url.text) := by
  intro report? judged
  refine ⟨run_of_reads s reads based, fun _ _ => Refresh.Report.target_eq_some_iff, ?_, ?_, ?_⟩
  · intro report t found told enabled free within soon
    obtain ⟨target, leads, same⟩ := shows.leads_of_report (c := c) web found told enabled free soon
    obtain ⟨e, place⟩ := Guide.exists_place?_iff.mpr leads
    rcases Guide.check_of_some place with ⟨next, follows, past, rfl, -⟩ | ⟨-, refuses⟩
    · exact ⟨next, follows, past, same⟩
    · exact absurd (Limits.exhausted_of_refuses refuses) within
  · intro untold
    refine Guide.check_of_not_leads (g := .refresh s.refresh s.redirect) fun target leads => ?_
    obtain ⟨report, found, told⟩ := shows.exists_report leads
    rw [untold report found] at told
    cases told
  · intro next follows
    exact shows.exists_report (Guide.leads_of_check (g := .refresh s.refresh s.redirect) follows)

/-- The answer to a plain request, with a text as its document. -/
def Arrival.showing (u : Url) (text : List Char) : Arrival :=
  ⟨Journey.start (Request.plain .get u),
    ⟨.ok, u, Headers.ofPairs [("content-type", utf8 "text/html")], Utf8.encode text⟩⟩

lemma Arrival.shows_showing (u : Url) (text : List Char) : (Arrival.showing u text).Shows u text :=
  have document : ∃ v, (Headers.ofPairs [("content-type", utf8 "text/html")]).get? .contentType =
      some v ∧ namesDocument v = true :=
    ⟨⟨utf8 "text/html", by decide +kernel⟩, by decide +kernel, by decide +kernel⟩
  ⟨rfl, document, rfl⟩

/-- A document with a base address and a refresh directive. -/
def Refresh.belowBase : List Char :=
  "<base href=/m/><meta http-equiv=refresh content='5;url=p'>".toList

/-- Standard input holds a document whose directive leads to a place below its base address. -/
theorem RefreshOrder.reported_below_base :
    ∃ next, RefreshOrder.run ⟨"http://[::1]", none⟩ {}
        ⟨[], Utf8.encode Refresh.belowBase, fun _ => .missing⟩ =
        .ok ("\x7b\n  \"interval\": 5.0,\n  \"url\": \"p\",\n  \"base_href\": \"/m/\",\n" ++
          "  \"target\": \"http://[::1]/m/p\"\n\x7d\n") ∧
      (ResponsePolicy.refresh {} {}).check default
        (.showing (.front "http" 1) Refresh.belowBase) = .ok (.follow next) ∧
      next.request.url.text = "http://[::1]/m/p" := by
  have reads : RefreshOrder.Reads ⟨"http://[::1]", none⟩
      ⟨[], Utf8.encode Refresh.belowBase, fun _ => .missing⟩ Refresh.belowBase := .input rfl rfl
  have based : Url.parse "http://[::1]" = .ok (.front "http" 1) := by decide +kernel
  obtain ⟨runs, -, goes, -⟩ :=
    RefreshOrder.report_foretells {} default reads based (by decide) (Arrival.shows_showing _ _)
  have found : Refresh.Report.of? Unset.ignoredTags (.front "http" 1) Refresh.belowBase =
      some ⟨⟨⟨0x4014000000000000⟩, "p"⟩, some "/m/", some "http://[::1]/m/p"⟩ := by decide +kernel
  have within : ¬(RedirectSettings.limits {}).Exhausted
      (Request.plain .get (.front "http" 1)).trail := by
    rw [← Limits.left_eq_zero_iff]
    decide
  obtain ⟨next, follows, -, there⟩ := goes _ _ found rfl rfl rfl within (by decide +kernel)
  refine ⟨next, ?_, follows, there⟩
  rw [runs, found]
  decide +kernel

end Wayfarer
