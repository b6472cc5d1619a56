import Mathlib
import Wayfarer.Config.Overrides
import Wayfarer.Config.Reading
import Wayfarer.Proofs.Text.Pieces

/-!
Three ways to the same settings.

* `Overrides.Tells`: the fields of a record tell for a section what some values do;
* `Overrides.SpelledBy`: data tell it for all sections, whatever else they hold;
* `Overrides.object`: such data, with the sections that are wanted;
* `Reading.Plain`: a reading that takes values as they are written; `Reading.exact` and
  `Reading.lenient` are such readings;
* `Overrides.ways_agree`: **reading data, building the sections and laying values over the default
  settings** come to the same.
-/

namespace Wayfarer

open Reading

variable {α : Type} {o : Overrides} {r : Reading} {fields : List (String × Datum)}
variable {part : Settings.Section}

/-! ### Data that tell what values do -/

/-- What stands under a key gives a field its value, or nothing stands there and the field has
none. `spells` tells how a value may be written. -/
inductive Gives (spells : Datum → α → Prop) : Option Datum → Option α → Prop
  | nothing : Gives spells none none
  | value {d : Datum} {a : α} (spelt : spells d a) : Gives spells (some d) (some a)

/-- The same for a text that may be absent, which may also be said of it. -/
inductive GivesText : Option Datum → Option String → Prop
  | nothing : GivesText none none
  | absent : GivesText (some .null) none
  | text (s : String) : GivesText (some (.text s)) (some s)

/-- A number is written as such, or as an integer that is read as the number. -/
inductive SpellsNumber : Datum → Binary64 → Prop
  | real (x : Binary64) : SpellsNumber (.real x) x
  | whole (n : ℤ) : SpellsNumber (.int n) (.ofInt n)

/-- The key of a section. -/
def Settings.Section.key : Settings.Section → String
  | redirect => "redirect"
  | refresh => "meta_refresh"
  | proxy => "proxy"
  | transport => "http"

namespace Overrides

/-- Fields tell for redirects what the values do. -/
structure TellsRedirect (o : Overrides) (fields : List (String × Datum)) : Prop where
  enabled : Gives (fun d b => d = .bool b) (Datum.lookup "enabled" fields) o.redirectEnabled
  maxHops : Gives (fun d n => d = .int n.toNat) (Datum.lookup "max_times" fields) o.maxHops
  priorityAdjust :
    Gives (fun d n => d = .int n) (Datum.lookup "priority_adjust" fields) o.priorityAdjust
  countdown : Gives (fun d b => d = .bool b) (Datum.lookup "ttl_enabled" fields) o.countdown

/-- Fields tell for refresh directives what the values do. -/
structure TellsRefresh (o : Overrides) (fields : List (String × Datum)) : Prop where
  enabled : Gives (fun d b => d = .bool b) (Datum.lookup "enabled" fields) o.refreshEnabled
  maxDelay : Gives SpellsNumber (Datum.lookup "max_delay" fields) o.maxDelay
  ignoredTags : Gives (fun d tags => d = .list (tags.map .text)) (Datum.lookup "ignore_tags" fields)
    o.ignoredTags

/-- Fields tell for proxies what the values do. -/
structure TellsProxy (o : Overrides) (fields : List (String × Datum)) : Prop where
  http : GivesText (Datum.lookup "http" fields) o.httpProxy
  https : GivesText (Datum.lookup "https" fields) o.httpsProxy
  exempt : Gives (fun d hosts => d = .list (hosts.map .text)) (Datum.lookup "no_proxy" fields)
    o.exempt
  fromEnvironment : Gives (fun d b => d = .bool b) (Datum.lookup "from_env" fields)
    o.fromEnvironment

/-- Fields tell for sending what the values do. -/
structure TellsTransport (o : Overrides) (fields : List (String × Datum)) : Prop where
  connectTimeout : Gives (fun d n => d = .int (n : ℕ)) (Datum.lookup "connect_timeout_secs" fields)
    o.connectTimeout
  timeout : Gives (fun d n => d = .int (n : ℕ)) (Datum.lookup "timeout_secs" fields) o.timeout
  userAgent : GivesText (Datum.lookup "user_agent" fields) o.userAgent

/-- Fields tell for a section what the values do. What stands under other keys is of no account. -/
def Tells (o : Overrides) (fields : List (String × Datum)) : Settings.Section → Prop
  | .redirect => o.TellsRedirect fields
  | .refresh => o.TellsRefresh fields
  | .proxy => o.TellsProxy fields
  | .transport => o.TellsTransport fields

/-- Nothing is given for a section. -/
def Silent (o : Overrides) (part : Settings.Section) : Prop :=
  o.Tells [] part

/-- What stands under the key of a section tells what the values do for it, or nothing stands there
and nothing is given. -/
inductive TellsSection (o : Overrides) (part : Settings.Section) : Option Datum → Prop
  | leftOut (silent : o.Silent part) : TellsSection o part none
  | record {fields : List (String × Datum)} (tells : o.Tells fields part) :
      TellsSection o part (some (.table fields))

/-- Fields tell for all sections what the values do. What stands under other keys is of no
account. -/
def SpelledBy (o : Overrides) (fields : List (String × Datum)) : Prop :=
  ∀ part : Settings.Section, o.TellsSection part (Datum.lookup part.key fields)

/-- Every value is one of its field: amounts have 32 bits, seconds have 64. -/
structure WellTyped (o : Overrides) : Prop where
  priorityAdjust : ∀ d ∈ o.priorityAdjust, Width.least32 ≤ d ∧ d ≤ Width.most32
  connectTimeout : ∀ n ∈ o.connectTimeout, n < Width.count64
  timeout : ∀ n ∈ o.timeout, n < Width.count64

end Overrides

/-! ### Readings that take values as they are written -/

/-- A reading that takes values as they are written. -/
structure Reading.Plain (r : Reading) : Prop where
  bool (b : Bool) : r.bool (.bool b) = some b
  count (n : UInt32) : r.count (.int n.toNat) = some n
  amount {n : ℤ} (least : Width.least32 ≤ n) (most : n ≤ Width.most32) :
    r.amount (.int n) = some n
  seconds {n : ℕ} (small : n < Width.count64) : r.seconds (.int n) = some n
  real {d : Datum} {x : Binary64} (spelt : SpellsNumber d x) : r.real d = some x
  text (s : String) : r.text (.text s) = some s

lemma plain_exact : Reading.exact.Plain where
  bool _ := rfl
  count n := by
    have below := n.toNat_lt_size
    have within : (0 : ℤ) ≤ n.toNat ∧ (n.toNat : ℤ) ≤ (Width.count32 - 1 : ℕ) :=
      ⟨Int.natCast_nonneg _, Int.ofNat_le.mpr (Nat.le_pred_of_lt below)⟩
    change ((intBetween? 0 _ (.int n.toNat)).map Int.toNat).map UInt32.ofNat = some n
    rw [intBetween?, if_pos within, Option.map_some, Option.map_some, Int.toNat_natCast,
      UInt32.ofNat_toNat]
  amount least most := if_pos ⟨least, most⟩
  seconds {n} small := by
    have within : (0 : ℤ) ≤ n ∧ (n : ℤ) ≤ (Width.count64 - 1 : ℕ) := by omega
    change (intBetween? 0 _ (.int n)).map Int.toNat = some n
    rw [intBetween?, if_pos within]
    rfl
  real spelt := by cases spelt <;> rfl
  text _ := rfl

lemma plain_lenient : Reading.lenient.Plain := by
  have natural {n : ℕ} (small : n < Width.count64) : natural? (.int n) = some n := by
    have within : (0 : ℤ) ≤ n ∧ (n : ℤ) ≤ Width.count64 - 1 := by omega
    rw [natural?, integer?, if_pos within]
    rfl
  constructor
  · exact fun _ => rfl
  · intro n
    have small : n.toNat < Width.count64 := n.toNat_lt_size.trans (by decide)
    change (natural? (.int n.toNat)).map UInt32.ofNat = some n
    rw [natural small, Option.map_some, UInt32.ofNat_toNat]
  · intro n least most
    change (integer? Width.least64 Width.most64 (.int n)).map (Int.bmod · Width.count32) = some n
    have within : Width.least64 ≤ n ∧ n ≤ Width.most64 :=
      ⟨le_trans (by decide) least, le_trans most (by decide)⟩
    have lower : -((Width.count32 : ℤ) / 2) = Width.least32 := by decide
    have upper : ((Width.count32 : ℤ) + 1) / 2 = Width.most32 + 1 := by decide
    have kept : n.bmod Width.count32 = n :=
      Int.bmod_eq_of_le (lower ▸ least) (upper ▸ Int.lt_add_one_of_le most)
    rw [integer?, if_pos within, Option.map_some, kept]
  · exact natural
  · intro d x spelt
    cases spelt <;> rfl
  · exact fun _ => rfl

/-! ### Fields -/

/-- A field is read as its value, or as what it is where nothing is said. -/
lemma orDefault_of_gives {spells : Datum → α → Prop} {read : Datum → Option α} {d : Option Datum}
    {a : Option α} (reads : ∀ b ∈ a, ∀ e, spells e b → read e = some b) (gives : Gives spells d a)
    (unset : α) : orDefault unset read d = some (a.getD unset) := by
  cases gives with
  | nothing => rfl
  | value spelt => exact reads _ rfl _ spelt

lemma orDefault_of_givesText (plain : r.Plain) {d : Option Datum} {s : Option String}
    (gives : GivesText d s) : orDefault none (optional? r.text) d = some s := by
  cases gives with
  | nothing => rfl
  | absent => rfl
  | text s =>
      change (r.text (.text s)).map some = some (some s)
      rw [plain.text]
      rfl

lemma texts?_map (plain : r.Plain) (texts : List String) :
    r.texts? (.list (texts.map .text)) = some texts := by
  change (texts.map Datum.text).mapM r.text = some texts
  exact mapM_eq_some_iff.mpr
    (List.forall₂_map_left_iff.mpr (List.forall₂_same.mpr fun s _ => plain.text s))

/-! ### Sections -/

namespace Overrides

section Sections

variable (typed : o.WellTyped) (plain : r.Plain)

include typed plain in
lemma read_redirect (tells : o.TellsRedirect fields) :
    RedirectSettings.read r (.table fields) = some o.buildRedirect := by
  have flag (b : Bool) (d : Datum) (spelt : d = .bool b) : r.bool d = some b :=
    spelt ▸ plain.bool b
  have enabled := orDefault_of_gives (fun b _ => flag b) tells.enabled Unset.enabled
  have maxHops := orDefault_of_gives
    (fun n _ _ spelt => spelt ▸ plain.count n) tells.maxHops Unset.maxHops
  have priorityAdjust := orDefault_of_gives
    (fun n given _ spelt => spelt ▸ plain.amount (typed.priorityAdjust n given).1
      (typed.priorityAdjust n given).2) tells.priorityAdjust Unset.priorityAdjust
  have countdown := orDefault_of_gives (fun b _ => flag b) tells.countdown Unset.enabled
  simp only [RedirectSettings.read, record?, Option.bind_eq_bind, Option.bind_some, enabled,
    maxHops, priorityAdjust, countdown, buildRedirect]

include plain in
lemma read_refresh (tells : o.TellsRefresh fields) :
    RefreshSettings.read r (.table fields) = some o.buildRefresh := by
  have enabled := orDefault_of_gives (fun b _ _ spelt => spelt ▸ plain.bool b) tells.enabled
    Unset.enabled
  have maxDelay := orDefault_of_gives (fun _ _ _ spelt => plain.real spelt) tells.maxDelay
    Unset.maxDelay
  have ignoredTags := orDefault_of_gives (fun tags _ _ spelt => spelt ▸ texts?_map plain tags)
    tells.ignoredTags Unset.ignoredTags
  simp only [RefreshSettings.read, record?, Option.bind_eq_bind, Option.bind_some, enabled,
    maxDelay, ignoredTags, buildRefresh]

include plain in
lemma read_proxy (tells : o.TellsProxy fields) :
    ProxySettings.read r (.table fields) = some o.buildProxy := by
  have http := orDefault_of_givesText plain tells.http
  have https := orDefault_of_givesText plain tells.https
  have exempt := orDefault_of_gives (fun hosts _ _ spelt => spelt ▸ texts?_map plain hosts)
    tells.exempt []
  have fromEnvironment := orDefault_of_gives (fun b _ _ spelt => spelt ▸ plain.bool b)
    tells.fromEnvironment false
  simp only [ProxySettings.read, record?, Option.bind_eq_bind, Option.bind_some, http, https,
    exempt, fromEnvironment, buildProxy]

include typed plain in
lemma read_transport (tells : o.TellsTransport fields) :
    TransportSettings.read r (.table fields) = some o.buildTransport := by
  have connectTimeout := orDefault_of_gives
    (fun n given _ spelt => spelt ▸ plain.seconds (typed.connectTimeout n given))
    tells.connectTimeout Unset.connectTimeout
  have timeout := orDefault_of_gives
    (fun n given _ spelt => spelt ▸ plain.seconds (typed.timeout n given)) tells.timeout
    Unset.timeout
  have userAgent := orDefault_of_givesText plain tells.userAgent
  simp only [TransportSettings.read, record?, Option.bind_eq_bind, Option.bind_some, connectTimeout,
    timeout, userAgent, buildTransport]

end Sections

section Absent

variable {read : Datum → Option α} {unset value : α}

/-- Values that give nothing for a section leave it as it is by default, if a record without fields
is read as the default section. -/
lemma eq_of_silent (empty : read (.table []) = some unset) (silent : o.Silent part)
    (reads : ∀ fields, o.Tells fields part → read (.table fields) = some value) : unset = value :=
  Option.some.inj (empty.symm.trans (reads [] silent))

/-- A section of which nothing is said is the default one, whether it stands there without fields or
is left out. -/
lemma orDefault_of_tellsSection {d : Option Datum} (empty : read (.table []) = some unset)
    (tells : o.TellsSection part d)
    (reads : ∀ fields, o.Tells fields part → read (.table fields) = some value) :
    orDefault unset read d = some value := by
  cases tells with
  | leftOut silent => exact congrArg some (eq_of_silent empty silent reads)
  | record tells => exact reads _ tells

/-- A section that is built, or left as it is by default if nothing is given for it, has the values
laid over the default ones. -/
lemma ite_of_silent {built : Bool} (empty : read (.table []) = some unset)
    (silent : built = false → o.Silent part)
    (reads : ∀ fields, o.Tells fields part → read (.table fields) = some value) :
    (if built then value else unset) = value := by
  cases built with
  | true => rfl
  | false => exact eq_of_silent empty (silent rfl) reads

end Absent

/-! ### Data for any values -/

/-- The fields of a record, those without a value left out. -/
def written (entries : List (String × Option Datum)) : List (String × Datum) :=
  entries.filterMap fun entry => entry.2.map (entry.1, ·)

lemma lookup_written_of_not_mem {key : String} {entries : List (String × Option Datum)}
    (absent : key ∉ entries.map (·.1)) : Datum.lookup key (written entries) = none := by
  rw [Datum.lookup, Option.map_eq_none_iff, List.find?_eq_none]
  intro field mem
  obtain ⟨entry, inside, given⟩ := List.mem_filterMap.mp mem
  obtain ⟨d, -, rfl⟩ := Option.map_eq_some_iff.mp given
  rw [decide_eq_true_eq]
  rintro rfl
  exact absent (List.mem_map_of_mem inside)

lemma lookup_written {key : String} {d : Option Datum} {entries : List (String × Option Datum)}
    (distinct : (entries.map (·.1)).Nodup) (mem : (key, d) ∈ entries) :
    Datum.lookup key (written entries) = d := by
  induction entries with
  | nil => cases mem
  | cons entry entries ih =>
      rw [List.map_cons, List.nodup_cons] at distinct
      obtain ⟨fresh, distinct⟩ := distinct
      rcases List.mem_cons.mp mem with rfl | behind
      · cases d with
        | none =>
            change Datum.lookup key (written entries) = none
            exact lookup_written_of_not_mem fresh
        | some d => simp [written, Datum.lookup]
      · have other : entry.1 ≠ key := by
          rintro rfl
          exact fresh (List.mem_map.mpr ⟨_, behind, rfl⟩)
        rw [← ih distinct behind]
        cases given : entry.2 with
        | none => simp [written, given]
        | some e => simp [written, given, Datum.lookup, other]

/-- The fields of a section with the values that are given. -/
def entries (o : Overrides) : Settings.Section → List (String × Option Datum)
  | .redirect =>
      [("enabled", o.redirectEnabled.map .bool), ("max_times", o.maxHops.map fun n => .int n.toNat),
        ("priority_adjust", o.priorityAdjust.map .int), ("ttl_enabled", o.countdown.map .bool)]
  | .refresh =>
      [("enabled", o.refreshEnabled.map .bool), ("max_delay", o.maxDelay.map .real),
        ("ignore_tags", o.ignoredTags.map fun tags => .list (tags.map .text))]
  | .proxy =>
      [("http", o.httpProxy.map .text), ("https", o.httpsProxy.map .text),
        ("no_proxy", o.exempt.map fun hosts => .list (hosts.map .text)),
        ("from_env", o.fromEnvironment.map .bool)]
  | .transport =>
      [("connect_timeout_secs", o.connectTimeout.map fun n : ℕ => .int n),
        ("timeout_secs", o.timeout.map fun n : ℕ => .int n), ("user_agent", o.userAgent.map .text)]

/-- The fields of all sections that are present. -/
def object (o : Overrides) (present : Settings.Section → Bool) : List (String × Datum) :=
  written ([.redirect, .refresh, .proxy, .transport].map fun part =>
    (part.key, if present part then some (.table (written (o.entries part))) else none))

lemma gives_map {spells : Datum → α → Prop} {w : α → Datum} (a : Option α)
    (spelt : ∀ a, spells (w a) a) : Gives spells (a.map w) a := by
  cases a with
  | none => exact .nothing
  | some a => exact .value (spelt a)

lemma givesText_map (s : Option String) : GivesText (s.map .text) s := by
  cases s with
  | none => exact .nothing
  | some s => exact .text s

/-- The values that are given are what the fields of the section tell. -/
lemma tells_entries (o : Overrides) (part : Settings.Section) :
    o.Tells (written (o.entries part)) part := by
  have distinct : ((o.entries part).map (·.1)).Nodup := by cases part <;> simp [entries]
  have there {key : String} {d : Option Datum} (mem : (key, d) ∈ o.entries part) :
      Datum.lookup key (written (o.entries part)) = d := lookup_written distinct mem
  have field {β : Type} {w : β → Datum} {key : String} {b : Option β}
      (mem : (key, b.map w) ∈ o.entries part) :
      Gives (fun d b => d = w b) (Datum.lookup key (written (o.entries part))) b :=
    there mem ▸ gives_map b fun _ => rfl
  have number {key : String} {x : Option Binary64} (mem : (key, x.map .real) ∈ o.entries part) :
      Gives SpellsNumber (Datum.lookup key (written (o.entries part))) x :=
    there mem ▸ gives_map x SpellsNumber.real
  have text {key : String} {s : Option String} (mem : (key, s.map .text) ∈ o.entries part) :
      GivesText (Datum.lookup key (written (o.entries part))) s :=
    there mem ▸ givesText_map s
  cases part with
  | redirect =>
      exact ⟨field (.head _), field (.tail _ (.head _)), field (.tail _ (.tail _ (.head _))),
        field (.tail _ (.tail _ (.tail _ (.head _))))⟩
  | refresh =>
      exact ⟨field (.head _), number (.tail _ (.head _)), field (.tail _ (.tail _ (.head _)))⟩
  | proxy =>
      exact ⟨text (.head _), text (.tail _ (.head _)), field (.tail _ (.tail _ (.head _))),
        field (.tail _ (.tail _ (.tail _ (.head _))))⟩
  | transport =>
      exact ⟨field (.head _), field (.tail _ (.head _)), text (.tail _ (.tail _ (.head _)))⟩

lemma lookup_object (o : Overrides) (present : Settings.Section → Bool)
    (part : Settings.Section) : Datum.lookup part.key (o.object present) =
      if present part then some (.table (written (o.entries part))) else none := by
  refine lookup_written (by simp [Settings.Section.key]) ?_
  cases part <;> simp [Settings.Section.key]

/-- Sections without a value may be present or not. -/
lemma spelledBy_object {present : Settings.Section → Bool}
    (silent : ∀ part, present part = false → o.Silent part) : o.SpelledBy (o.object present) := by
  intro part
  rw [lookup_object]
  cases here : present part with
  | true => exact .record (o.tells_entries part)
  | false => exact .leftOut (silent part here)

/-! ### All sections -/

/-- The default settings with the values laid over them, section by section. -/
lemma applyTo_default (o : Overrides) :
    o.applyTo {} = ⟨o.buildRedirect, o.buildRefresh, o.buildProxy, o.buildTransport⟩ := by
  simp only [applyTo, redirect, refresh, proxy, transport, Option.or_none]
  rfl

/-- Reading data lays the values over the default settings. -/
lemma read_of_spelledBy (typed : o.WellTyped) (plain : r.Plain) (spelled : o.SpelledBy fields) :
    Settings.read r (.table fields) = some (o.applyTo {}) := by
  have redirect : orDefault {} (RedirectSettings.read r) (Datum.lookup "redirect" fields) =
      some o.buildRedirect :=
    orDefault_of_tellsSection rfl (spelled .redirect) fun _ => read_redirect typed plain
  have refresh : orDefault {} (RefreshSettings.read r) (Datum.lookup "meta_refresh" fields) =
      some o.buildRefresh :=
    orDefault_of_tellsSection rfl (spelled .refresh) fun _ => read_refresh plain
  have proxy : orDefault {} (ProxySettings.read r) (Datum.lookup "proxy" fields) =
      some o.buildProxy :=
    orDefault_of_tellsSection rfl (spelled .proxy) fun _ => read_proxy plain
  have transport : orDefault {} (TransportSettings.read r) (Datum.lookup "http" fields) =
      some o.buildTransport :=
    orDefault_of_tellsSection rfl (spelled .transport) fun _ => read_transport typed plain
  rw [applyTo_default]
  simp only [Settings.read, record?, Option.bind_eq_bind, Option.bind_some, redirect, refresh,
    proxy, transport]

/-- Building sections lays the values over the default settings, if all sections are built for which
something is given. -/
lemma build_of_silent (typed : o.WellTyped) {built : Settings.Section → Bool}
    (silent : ∀ part, built part = false → o.Silent part) : o.build built = o.applyTo {} := by
  rw [applyTo_default, build, Settings.mk.injEq]
  exact ⟨ite_of_silent rfl (silent .redirect) fun _ => read_redirect typed plain_exact,
    ite_of_silent rfl (silent .refresh) fun _ => read_refresh plain_exact,
    ite_of_silent rfl (silent .proxy) fun _ => read_proxy plain_exact,
    ite_of_silent rfl (silent .transport) fun _ => read_transport typed plain_exact⟩

/-- **All ways to put settings together agree.** For well-typed values of any fields, let a section
be built, or be present in data, or not, as long as it is wherever a value is given for it. Then
building the sections, and reading data that tell these values, under whichever other keys and with
either reading, give the default settings with the values laid over them field by field; and there
are such data. So a field without a value has its default, whether its section is absent, without
fields or filled in part. -/
theorem ways_agree (typed : o.WellTyped) {present : Settings.Section → Bool}
    (silent : ∀ part, present part = false → o.Silent part) :
    o.build present = o.applyTo {} ∧
    (∀ fields, o.SpelledBy fields →
      Settings.read .exact (.table fields) = some (o.applyTo {}) ∧
      Settings.read .lenient (.table fields) = some (o.applyTo {})) ∧
    ∃ fields, o.SpelledBy fields ∧
      ∀ part, (Datum.lookup part.key fields).isSome = present part := by
  refine ⟨build_of_silent typed silent, fun fields spelled => ?_, o.object present,
    spelledBy_object silent, fun part => ?_⟩
  · exact ⟨read_of_spelledBy typed plain_exact spelled,
      read_of_spelledBy typed plain_lenient spelled⟩
  · rw [lookup_object]
    cases present part <;> rfl

/-- Values for three fields of two sections. -/
def threeGiven : Overrides where
  maxHops := some 3
  priorityAdjust := some (-1)
  httpsProxy := some "http://[::9]:3128"

/-- Data that tell these, with keys of no account, a section without fields and one left out. -/
def threeTold : List (String × Datum) :=
  [("proxy", .table [("https", .text "http://[::9]:3128"), ("http", .null), ("ftp", .null)]),
    ("colour", .bool true), ("meta_refresh", .table []),
    ("redirect", .table [("priority_adjust", .int (-1)), ("max_times", .int 3)])]

/-- The two sections are built, or read from these data: all other fields are the default ones. -/
theorem three_fields_given :
    threeGiven.SpelledBy threeTold ∧
    threeGiven.build (fun part => part = .redirect ∨ part = .proxy) =
      { redirect := { maxHops := 3, priorityAdjust := -1 }
        proxy := { https := some "http://[::9]:3128" } } ∧
    Settings.read .exact (.table threeTold) =
      some { redirect := { maxHops := 3, priorityAdjust := -1 }
             proxy := { https := some "http://[::9]:3128" } } := by
  have typed : threeGiven.WellTyped :=
    ⟨by rintro _ ⟨⟩; decide, nofun, nofun⟩
  have silent : ∀ part : Settings.Section,
      decide (part = .redirect ∨ part = .proxy) = false → threeGiven.Silent part := by
    intro part absent
    cases part with
    | redirect => cases absent
    | refresh => exact ⟨.nothing, .nothing, .nothing⟩
    | proxy => cases absent
    | transport => exact ⟨.nothing, .nothing, .nothing⟩
  have spelled : threeGiven.SpelledBy threeTold := by
    intro part
    cases part with
    | redirect => exact .record ⟨.nothing, .value rfl, .value rfl, .nothing⟩
    | refresh => exact .record ⟨.nothing, .nothing, .nothing⟩
    | proxy => exact .record ⟨.absent, .text _, .nothing, .nothing⟩
    | transport => exact .leftOut ⟨.nothing, .nothing, .nothing⟩
  obtain ⟨built, read, -⟩ := ways_agree typed silent
  exact ⟨spelled, built, (read _ spelled).1⟩

end Overrides

end Wayfarer
