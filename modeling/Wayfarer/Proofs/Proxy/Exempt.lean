import Wayfarer.Proofs.Proxy.Again
import Wayfarer.Proofs.Url.Located

/-!
Which hosts need no proxy.

* `ProxyRules.Under`: a place is the one of a name, or has further labels in front of it;
* `ProxyRules.Means`: what an entry of a list means by a host and a port;
* `ProxyRules.coversHost_iff`: an entry covers what it means, and a void one whatever ends in a dot;
* `ProxyRules.Adds`: the rules that further texts make of rules, with the entries among them;
* `ProxyRules.Adds.kept`: what is kept of the entries;
* `ProxyRules.unproxied_iff`: **a request goes without a proxy where an entry means its host**, or
  its host ends in a dot and a void entry was kept; further entries never bring a proxy back;
* `ProxyRules.void_entry_exempts`: a void entry does exempt a host.
-/

namespace Wayfarer.ProxyRules

variable {r made wider : ProxyRules} {req : Request} {entry host name place : String}
variable {entries hosts items : List String} {port : Option ℕ}

/-! ### What entries mean -/

/-- A place is the one of a name, or has further labels in front of it. -/
def Under (name place : String) : Prop :=
  place = name ∨ ∃ front, place.toList = front ++ '.' :: name.toList

/-- A host, and the host with a port if there is one. -/
def places (host : String) (port : Option ℕ) : List String :=
  host :: (port.map fun p => host ++ ":" ++ toString p).toList

/-- The name in an entry: its text without blanks at the ends, in small letters, without dots in
front. An entry with an empty name is void. -/
def entryName (entry : String) : String :=
  String.ofList (trimStart (· = '.') (exemption entry).toList)

/-- An entry means every host, or has a name and means the places that are under it. -/
def Means (entry host : String) (port : Option ℕ) : Prop :=
  exemption entry = "*" ∨ entryName entry ≠ "" ∧ ∃ place ∈ places host port,
    Under (entryName entry) place

/-- A text ends in a dot. -/
def EndsInDot (host : String) : Prop :=
  host.toList.getLast? = some '.'

/-- Where another character stands in front of a name the place is not under it. -/
lemma not_under_of_inside {c : Char} {front : List Char} (other : c ≠ '.')
    (inside : place.toList = front ++ c :: name.toList) : ¬Under name place := by
  rintro (rfl | ⟨labels, whole⟩)
  · have length := congrArg List.length inside
    rw [List.length_append, List.length_cons] at length
    omega
  · have ends := (List.append_inj' (inside.symm.trans whole) rfl).2
    exact other (List.cons.inj ends).1

example : ¬Under "example.com" "notexample.com" :=
  not_under_of_inside (by decide : 't' ≠ '.')
    (by decide +kernel : "notexample.com".toList = ['n', 'o'] ++ 't' :: "example.com".toList)

lemma matchesHost_iff : matchesHost name place = true ↔ Under name place := by
  rw [matchesHost, Bool.or_eq_true, decide_eq_true_eq, List.isSuffixOf_iff_suffix, Under]
  refine or_congr_right (exists_congr fun front => ?_)
  exact eq_comm

/-- A number does not end in a dot. -/
lemma not_endsInDot_port (host : String) (p : ℕ) : ¬EndsInDot (host ++ ":" ++ toString p) := by
  intro ends
  have filled : (toString p).toList ≠ [] := by
    rw [Nat.toString_eq_ofList_toDigits, String.toList_ofList]
    exact Nat.toDigits_ne_nil
  rw [EndsInDot, String.toList_append, List.getLast?_append_of_ne_nil _ filled] at ends
  have digit : '.' ∈ Nat.toDigits 10 p := by
    have last := List.mem_of_getLast? ends
    rwa [Nat.toString_eq_ofList_toDigits, String.toList_ofList] at last
  exact absurd (Nat.isDigit_of_mem_toDigits (by decide) (by decide) digit) (by decide)

/-- Under no name is what ends in a dot. -/
lemma under_empty_iff (filled : place ≠ "") : Under "" place ↔ EndsInDot place := by
  rw [Under, EndsInDot, or_iff_right filled, List.getLast?_eq_some_iff]
  rfl

lemma exists_under_empty_iff (filled : host ≠ "") :
    (∃ place ∈ places host port, Under "" place) ↔ EndsInDot host := by
  rw [places, List.exists_mem_cons_iff, under_empty_iff filled, or_iff_left_iff_imp]
  rintro ⟨place, mem, under⟩
  obtain ⟨p, -, rfl⟩ : ∃ p, port = some p ∧ host ++ ":" ++ toString p = place := by
    simpa using mem
  refine absurd ((under_empty_iff ?_).mp under) (not_endsInDot_port host p)
  rw [ne_eq, ← String.toList_inj]
  simp

/-- **What an entry covers**: what it means, and where nothing is left of it as a name every host
that ends in a dot. -/
theorem coversHost_iff (filled : host ≠ "") :
    coversHost (exemption entry) host port = true ↔
      Means entry host port ∨ entryName entry = "" ∧ EndsInDot host := by
  have covers : coversHost (exemption entry) host port = true ↔
      exemption entry = "*" ∨ ∃ place ∈ places host port, Under (entryName entry) place := by
    rw [coversHost, Bool.or_eq_true, decide_eq_true_eq, places, List.exists_mem_cons_iff]
    refine or_congr_right ?_
    rw [Bool.or_eq_true, matchesHost_iff]
    refine or_congr_right ?_
    cases port with
    | none => simp
    | some p => simp [matchesHost_iff, entryName]
  rw [covers, Means]
  by_cases void : entryName entry = ""
  · rw [void, exists_under_empty_iff filled]
    simp
  · simp [void]

/-! ### Rules with further entries -/

/-- The items of the list that counts among variables, those of blanks only included. -/
def listed (vars : List (String × String)) : List String :=
  match ((ranked vars).filter (·.1 = exemptKey)).getLast? with
  | some (_, value) => (splitAtEvery (· = ',') value.toList).map String.ofList
  | none => []

/-- The rules that texts make of rules, with the entries of lists of hosts among the texts. -/
inductive Adds (r : ProxyRules) : List String → ProxyRules → Prop
  | none : Adds r [] r
  | withProxy {entries : List String} {made wider : ProxyRules} {scheme raw : String}
      (before : Adds r entries made) (reads : made.withProxy scheme raw = .ok wider) :
      Adds r entries wider
  | withExempt {entries : List String} {made : ProxyRules} (before : Adds r entries made)
      (hosts : List String) : Adds r (entries ++ hosts) (made.withExempt hosts)
  | withVariables {entries : List String} {made : ProxyRules} (before : Adds r entries made)
      (vars : List (String × String)) : Adds r (entries ++ listed vars) (made.withVariables vars)

lemma Adds.withText {scheme : String} {text : Option String} (before : Adds r entries made)
    (reads : made.withText scheme text = .ok wider) : Adds r entries wider := by
  cases text with
  | none =>
      cases reads
      exact before
  | some raw => exact before.withProxy reads

/-- Rules of settings are made of the entries in them and in the environment. -/
lemma adds_ofSettings {settings : ProxySettings} {vars : List (String × String)}
    (reads : ofSettings settings vars = .ok r) :
    Adds .empty (settings.exempt ++ if settings.fromEnvironment then listed vars else []) r := by
  rw [ofSettings_eq] at reads
  obtain ⟨first, http, reads⟩ := exists_of_bind reads
  obtain ⟨second, https, reads⟩ := exists_of_bind reads
  have both := ((Adds.none.withText http).withText https).withExempt settings.exempt
  rw [List.nil_append] at both
  split_ifs at reads ⊢
  · cases reads
    exact both.withVariables vars
  · cases reads
    rwa [List.append_nil]

/-- What is kept of entries: all but some that are blank, besides what was kept before. -/
structure Kept (r : ProxyRules) (entries : List String) (wider : ProxyRules) : Prop where
  before : r.exempt ⊆ wider.exempt
  only : ∀ kept ∈ wider.exempt, kept ∈ r.exempt ∨ ∃ entry ∈ entries, exemption entry = kept
  all : ∀ entry ∈ entries, trimBlanks entry ≠ "" → exemption entry ∈ wider.exempt

lemma Kept.append (kept : Kept r entries made)
    (exempt : wider.exempt = made.exempt ++ items.map exemption) (sub : items ⊆ hosts)
    (filled : ∀ entry ∈ hosts, trimBlanks entry ≠ "" → entry ∈ items) :
    Kept r (entries ++ hosts) wider where
  before := by
    rw [exempt]
    exact List.subset_append_of_subset_left _ kept.before
  only := by
    rw [exempt]
    intro k mem
    rcases List.mem_append.mp mem with old | new
    · refine (kept.only k old).imp_right ?_
      rintro ⟨entry, given, rfl⟩
      exact ⟨entry, List.mem_append_left _ given, rfl⟩
    · obtain ⟨entry, given, rfl⟩ := List.mem_map.mp new
      exact .inr ⟨entry, List.mem_append_right _ (sub given), rfl⟩
  all := by
    rw [exempt]
    intro entry mem some_char
    rcases List.mem_append.mp mem with old | new
    · exact List.mem_append_left _ (kept.all entry old some_char)
    · exact List.mem_append_right _ (List.mem_map_of_mem (filled entry new some_char))

lemma exempt_readVariables (vars : List (String × String)) (r : ProxyRules) :
    (vars.foldl readVariable r).exempt = r.exempt := by
  induction vars generalizing r with
  | nil => rfl
  | cons var vars ih =>
      have same : (r.readVariable var).exempt = r.exempt := by
        rw [readVariable]
        split_ifs
        · rfl
        · split <;> rfl
      rw [List.foldl_cons, ih, same]

lemma exempt_withVariables (r : ProxyRules) (vars : List (String × String)) :
    (r.withVariables vars).exempt = r.exempt ++
      ((listed vars).filter fun item => !(trimBlanks item).isEmpty).map exemption := by
  simp only [withVariables, listed]
  cases ((ranked vars).filter (·.1 = exemptKey)).getLast? with
  | none => simp [exempt_readVariables]
  | some last => simp only [withExempt, exempt_readVariables, listItems]

/-- **What is kept of the entries.** -/
theorem Adds.kept (adds : Adds r entries wider) : Kept r entries wider := by
  induction adds with
  | none => exact ⟨List.Subset.refl _, fun _ => Or.inl, nofun⟩
  | @withProxy entries made wider _ _ before reads ih =>
      rw [ProxyRules.withProxy, map_eq_ok_iff] at reads
      obtain ⟨e, -, rfl⟩ := reads
      exact ⟨ih.before, ih.only, ih.all⟩
  | withExempt _ hosts ih => exact ih.append rfl (List.Subset.refl _) fun _ mem _ => mem
  | withVariables _ vars ih =>
      refine ih.append (exempt_withVariables _ vars) List.filter_sublist.subset ?_
      intro entry mem filled
      exact List.mem_filter.mpr ⟨mem, by simpa using filled⟩

/-- An entry that means something is kept. -/
lemma Means.trimBlanks_ne_empty (means : Means entry host port) : trimBlanks entry ≠ "" := by
  intro blank
  have none : exemption entry = "" := by
    rw [exemption, blank]
    rfl
  rcases means with star | ⟨filled, -⟩
  · rw [none] at star
    exact absurd star (by decide)
  · refine filled ?_
    rw [entryName, none]
    rfl

/-! ### Requests without a proxy -/

/-- A URL of the web needs no proxy just when an entry means its host, or its host ends in a dot and
a void entry was kept. -/
lemma exempts_iff {u : Url} (adds : Adds .empty entries r)
    (named : u.hostText?.map lowered = some host) (filled : host ≠ "") :
    r.exempts u = true ↔ (∃ entry ∈ entries, Means entry host u.port?) ∨
      EndsInDot host ∧ ∃ entry ∈ entries, entryName entry = "" ∧ exemption entry ∈ r.exempt := by
  have kept := adds.kept
  obtain ⟨text, hasHost, rfl⟩ := Option.map_eq_some_iff.mp named
  rw [exempts, hasHost]
  simp only [List.any_eq_true]
  constructor
  · rintro ⟨k, mem, covers⟩
    obtain ⟨entry, given, rfl⟩ := (kept.only k mem).resolve_left List.not_mem_nil
    rcases (coversHost_iff filled).mp covers with means | ⟨void, dot⟩
    · exact .inl ⟨entry, given, means⟩
    · exact .inr ⟨dot, entry, given, void, mem⟩
  · rintro (⟨entry, given, means⟩ | ⟨dot, entry, -, void, mem⟩)
    · exact ⟨_, kept.all entry given means.trimBlanks_ne_empty,
        (coversHost_iff filled).mpr (.inl means)⟩
    · exact ⟨_, mem, (coversHost_iff filled).mpr (.inr ⟨void, dot⟩)⟩

lemma exempts_of_subset {u : Url} (sub : r.exempt ⊆ wider.exempt) (exempts : r.exempts u = true) :
    wider.exempts u = true := by
  rw [ProxyRules.exempts] at exempts ⊢
  cases named : u.hostText? with
  | none =>
      rw [named] at exempts
      cases exempts
  | some host =>
      rw [named] at exempts
      obtain ⟨entry, mem, covers⟩ := List.any_eq_true.mp exempts
      exact List.any_eq_true.mpr ⟨entry, sub mem, covers⟩

/-- A request that leaves the choice to the rules is made ready, and has no proxy just when they
have none for its URL. -/
lemma exists_prepare_of_open (r : ProxyRules) (indirect : req.proxy.direct = false)
    (unnamed : req.proxy.proxy = none) :
    ∃ after, r.prepare req = .ok after ∧
      (after.proxy.proxy = none ↔ r.chosen? req.url = none) := by
  obtain ⟨after, ready, used, -⟩ :=
    exists_prepare_of_select (select_of_open (r := r) (u := req.url) indirect unnamed)
  refine ⟨after, ready, ?_⟩
  rw [used, Option.map_eq_none_iff]

lemma chosen?_eq_none_iff {u : Url} {e : Endpoint} (web : u.isHttp = true)
    (rule : r.rule? u.scheme = some e) : r.chosen? u = none ↔ r.exempts u = true := by
  rw [chosen?, spares, web, Bool.true_and, rule]
  simp

/-- **Which requests go without a proxy.** Let rules be made of texts with certain entries, and name
a proxy for the scheme of a request that leaves the choice to them. It is made ready without a proxy
just when an entry means its host, or its host ends in a dot and an entry with no name was kept.
Then further texts do not bring a proxy back. -/
theorem unproxied_iff {e : Endpoint} (adds : Adds .empty entries r) (read : req.url.IsRead)
    (web : req.url.isHttp = true) (indirect : req.proxy.direct = false)
    (unnamed : req.proxy.proxy = none) (rule : r.rule? req.url.scheme = some e) :
    ∃ host after, req.url.hostText?.map lowered = some host ∧ r.prepare req = .ok after ∧
      (after.proxy.proxy = none ↔ (∃ entry ∈ entries, Means entry host req.url.port?) ∨
        EndsInDot host ∧ ∃ entry ∈ entries, entryName entry = "" ∧ exemption entry ∈ r.exempt) ∧
      ∀ more wider, Adds r more wider → after.proxy.proxy = none →
        ∃ again, wider.prepare req = .ok again ∧ again.proxy.proxy = none := by
  obtain ⟨host, hasHost, filled⟩ := read.namesHost_of_isHttp web
  have named : req.url.hostText?.map lowered = some (lowered host.text) := by
    rw [Url.hostText?, hasHost]
    rfl
  have some_char : lowered host.text ≠ "" := by
    intro empty
    have none := String.ofList_eq_empty_iff.mp empty
    exact filled (String.toList_eq_nil_iff.mp (List.map_eq_nil_iff.mp none))
  obtain ⟨after, ready, unused⟩ := exists_prepare_of_open r indirect unnamed
  rw [chosen?_eq_none_iff web rule] at unused
  refine ⟨_, after, named, ready, unused.trans (exempts_iff adds named some_char), ?_⟩
  intro more wider further none
  obtain ⟨again, ready', unused'⟩ := exists_prepare_of_open wider indirect unnamed
  refine ⟨again, ready', unused'.mpr (chosen?_of_spares ?_)⟩
  rw [spares, web, Bool.true_and]
  exact exempts_of_subset further.kept.before (unused.mp none)

/-- Rules for one scheme are made of a text and entries. -/
lemma adds_one {hosts kept : List String} (same : hosts.map exemption = kept) :
    Adds .empty hosts (one "http" kept) := by
  have reads : empty.withProxy "http" "http://user:pw@[::9]:3128" = .ok (one "http" []) := by
    decide +kernel
  have added := (Adds.none.withProxy reads).withExempt hosts
  have whole : (one "http" []).withExempt hosts = one "http" kept := by
    rw [withExempt, same]
    rfl
  rwa [List.nil_append, whole] at added

/-- An entry exempts the host that it means, a void one beside it or not, -/
theorem meant_host_unproxied :
    Adds .empty ["", " [::1] "] (one "http" ["", "[::1]"]) ∧ (Url.front "http" 1).IsRead ∧
      Means " [::1] " "[::1]" none ∧
      ∃ after, (one "http" ["", "[::1]"]).prepare (Request.plain .get (.front "http" 1)) =
        .ok after ∧ after.proxy.proxy = none := by
  have adds : Adds .empty ["", " [::1] "] (one "http" ["", "[::1]"]) :=
    adds_one (by decide +kernel)
  have read : (Request.plain .get (.front "http" 1)).url.IsRead :=
    .parse (by decide +kernel : Url.parse "http://[::1]/" = .ok (.front "http" 1))
  have web : (Request.plain .get (.front "http" 1)).url.isHttp = true := by decide +kernel
  have means : Means " [::1] " "[::1]" none :=
    .inr ⟨by decide +kernel, "[::1]", by decide, .inl (by decide +kernel)⟩
  obtain ⟨host, after, named, ready, unproxied, -⟩ :=
    unproxied_iff adds read web rfl rfl (rfl : (one "http" ["", "[::1]"]).rule? "http" = some _)
  obtain rfl : "[::1]" = host := Option.some.inj (Eq.trans (by decide +kernel) named)
  exact ⟨adds, read, means, after, ready, unproxied.mpr (.inl ⟨_, by decide, means⟩)⟩

/-- and a void entry alone exempts a host that ends in a dot, which it does not mean. -/
theorem void_entry_exempts :
    ∃ u after, Url.parse "http://./" = .ok u ∧ u.hostText? = some "." ∧
      Adds .empty [""] (one "http" [""]) ∧ (one "http" [""]).rule? u.scheme ≠ none ∧
      (one "http" [""]).prepare (Request.plain .get u) = .ok after ∧
      after.proxy.proxy = none ∧ ¬Means "" "." none := by
  have parses : Url.parse "http://./" =
      .ok ⟨"http", some ⟨"", "", some (.name "."), none⟩, .names [""], none, none⟩ := by
    decide +kernel
  refine ⟨_, _, parses, rfl, adds_one (by decide +kernel), by decide +kernel, rfl, ?_, ?_⟩
  · decide +kernel
  · rintro (star | ⟨filled, -⟩)
    · exact absurd star (by decide +kernel)
    · exact filled (by decide +kernel)

end Wayfarer.ProxyRules
