import Wayfarer.Proofs.Hop.Course
import Wayfarer.Proofs.Hop.Spelling
import Wayfarer.Proofs.Hop.Verdict
import Wayfarer.Proofs.Hop.Within
import Wayfarer.Proofs.Url.Located

/-!
Targets without a host.

* `Target.isRead_of_resolveIn`, `Journey.isRead_of_course`: the URLs that targets name, and all
  those of a course, are read from texts, relative to URLs that are;
* `Target.resolveText_hostless`: the text of a URL without a host leads there, unless its scheme
  needs one;
* `Journey.exists_continues_hostless`: a redirect to such a URL is followed;
* `Url.IsRead.namesHost_iff`: **a target has a host exactly where its scheme needs one**, and so has
  what a course follows;
* `Journey.local_place_followed`: a redirect to a local file is followed.
-/

namespace Wayfarer

variable {base u : Url} {charset : Charset} {scheme : String} {cs : List Char}

/-! ### Targets and courses are read -/

/-- Where a target leads is read relative to the base. -/
lemma Target.isRead_of_resolveIn (read : base.IsRead) (h : resolveIn charset base cs = .ok u) :
    u.IsRead := by
  have filled : cs ≠ [] := by
    rintro rfl
    cases h
  exact .join read ((resolveIn_eq_ok_iff filled).mp h)

lemma isRead_documentBase (read : u.IsRead) (address : Option String) :
    (documentBase u address).IsRead := by
  rw [documentBase]
  cases found : address.bind fun b => (Target.resolveText u b).toOption with
  | none => exact read
  | some v =>
      obtain ⟨text, -, resolves⟩ := Option.bind_eq_some_iff.mp found
      exact Target.isRead_of_resolveIn read (toOption_eq_some_iff.mp resolves)

/-- Where a guide finds that a response leads is read too. -/
lemma Guide.Leads.isRead {g : Guide} {c : Crawler} {a : Arrival} (leads : g.Leads c a u)
    (read : a.request.url.IsRead) : u.IsRead := by
  cases leads with
  | redirect _ _ _ _ _ _ _ resolves => exact Target.isRead_of_resolveIn read resolves
  | refresh _ _ _ _ _ _ resolves =>
      exact Target.isRead_of_resolveIn (isRead_documentBase read _) resolves

namespace Journey

variable {j next : Journey} {rules : ProxyRules} {s : RedirectSettings} {req : Request}

lemma isRead_of_continues (read : j.request.url.IsRead) (continues : j.Continues s next) :
    next.request.url.IsRead := by
  cases continues with
  | redirect c r follows =>
      obtain ⟨target, e, place, made⟩ := exists_hop_of_verdict follows
      obtain ⟨trail, -, rfl⟩ := eq_next_of_hop made
      have leads : (Guide.redirect s).Leads c ⟨j, r⟩ target :=
        Guide.exists_place?_iff.mp ⟨e, place⟩
      exact leads.isRead read
  | refresh t c r follows =>
      obtain ⟨target, e, place, made⟩ := exists_hop_of_verdict follows
      obtain ⟨trail, -, rfl⟩ := eq_next_of_hop made
      have leads : (Guide.refresh t s).Leads c ⟨j, r⟩ target :=
        Guide.exists_place?_iff.mp ⟨e, place⟩
      exact leads.isRead read

/-- All URLs of a course are read if the first one is. -/
lemma isRead_of_course (read : req.url.IsRead)
    (course : Relation.ReflTransGen (Step rules) (Journey.start req) j) :
    ∀ u ∈ j.urls, u.IsRead := by
  induction course with
  | refl => simpa using read
  | tail _ step ih =>
      cases step with
      | prepare ready =>
          rw [urls_of_prepare ready]
          exact ih
      | hop continues =>
          rw [urls_of_continues continues]
          refine List.forall_mem_append.mpr ⟨ih, List.forall_mem_singleton.mpr ?_⟩
          exact isRead_of_continues (ih _ (url_mem_urls _)) continues

end Journey

/-! ### URLs without a host as targets -/

namespace Target

lemma isPlain_of_isSchemeChar {c : Char} (h : Url.isSchemeChar c = true) : IsPlain c := by
  have ascii : c.toNat < 0x80 := (Url.visible_of_isSchemeChar h).2.trans (by decide)
  exact forall_ascii (P := fun c => Url.isSchemeChar c = true → IsPlain c) (by decide +kernel)
    ascii h

lemma isPlain_hostless (isName : Scheme.IsName scheme) :
    ∀ c ∈ (Url.hostless scheme).text.toList, IsPlain c := by
  rw [Url.toList_text_hostless]
  have colon : IsPlain ':' := by decide
  have slash : IsPlain '/' := by decide
  refine List.forall_mem_append.mpr ⟨fun c mem => isPlain_of_isSchemeChar (isName.all c mem), ?_⟩
  simp [colon, slash]

/-- A text that begins with a letter does not begin with two slashes. -/
lemma not_slashes_hostless (isName : Scheme.IsName scheme) :
    ¬['/', '/'] <+: (Url.hostless scheme).text.toList := by
  rw [Url.toList_text_hostless]
  have letter := isName.letter
  cases name : scheme.toList with
  | nil =>
      rw [name] at letter
      cases letter
  | cons c rest =>
      rintro ⟨tail, same⟩
      rw [name, (List.cons_eq_cons.mp same).1.symm] at letter
      cases letter

/-- The text of a URL without a host leads there from anywhere, unless the scheme needs one. -/
lemma resolveText_hostless (isName : Scheme.IsName scheme) (needless : ¬Scheme.NeedsHost scheme)
    (base : Url) : resolveText base (Url.hostless scheme).text = .ok (Url.hostless scheme) := by
  have plain := isPlain_hostless isName
  have firm : trim isBlank (Url.hostless scheme).text.toList = (Url.hostless scheme).text.toList :=
    trim_eq_self fun c mem => not_isBlank_of_visible (plain c mem).visible
  have filled : (Url.hostless scheme).text.toList ≠ [] := by
    simp [Url.toList_text_hostless]
  have written : ∀ c ∈ (Url.hostless scheme).text.toList, IsWritten c :=
    fun c mem => (plain c mem).isWritten
  rw [resolveText, firm, resolveIn_eq_ok_iff filled, escaped_of_isPlain plain,
    reference_of_not_slashes base (not_slashes_hostless isName), Url.join,
    Url.significant_of_isWritten written, Url.toList_text_hostless,
    Url.splitScheme_of_isName isName]
  exact Url.ofScheme_slashes needless (some base)

/-- A text in UTF-8 leads where the text does. -/
lemma resolve_encode (base : Url) (text : String) :
    resolve base (Utf8.encode text.toList) = resolveText base text := by
  rw [resolve, decode, Utf8.decode?_eq_some_iff.mpr rfl, resolveText]

/-- The bytes of a text of plain characters are those of a field value. -/
lemma all_isValueByte_of_isPlain (plain : ∀ c ∈ cs, IsPlain c) :
    (Utf8.encode cs).all isValueByte = true := by
  rw [Utf8.encode, List.all_flatMap, List.all_eq_true]
  exact fun c mem => Credentials.isValueByte_of_visible (plain c mem).visible

end Target

namespace Journey

/-- An answer that what was asked for is at another place is followed there. -/
lemma exists_continues_of_resolve (location : FieldValue) (web : base.isHttp = true)
    (resolves : Target.resolve base location.bytes = .ok u) :
    ∃ next, (Journey.start (Request.plain .get base)).Continues {} next ∧ next.request.url = u := by
  have leads : redirectTarget? {} default (Request.plain .get base)
      ⟨.found, base, Headers.empty.append .location location, []⟩ = some (u, .read) :=
    redirectTarget?_eq_some_iff.mpr ⟨rfl, rfl, web, rfl, location, rfl, resolves⟩
  exact ⟨_, .of_target leads rfl, rfl⟩

/-- A redirect to a URL without a host is followed, unless its scheme needs one. -/
lemma exists_continues_hostless (web : base.isHttp = true) (isName : Scheme.IsName scheme)
    (needless : ¬Scheme.NeedsHost scheme) :
    ∃ next, (Journey.start (Request.plain .get base)).Continues {} next ∧
      next.request.url = .hostless scheme := by
  have bytes := Target.all_isValueByte_of_isPlain (Target.isPlain_hostless isName)
  refine exists_continues_of_resolve ⟨_, bytes⟩ web ?_
  rw [Target.resolve_encode]
  exact Target.resolveText_hostless isName needless base

end Journey

/-! ### Which targets have a host -/

/-- **A target has a host exactly where its scheme needs one.** Relative to a URL that is read,
every URL of a scheme that a field value or a text names, and that has a path of names, has a host
that is not empty, if and only if the scheme is one of the five that need a host. The same is true
of every URL to which redirects and refresh directives lead on a course from a URL of the web. -/
theorem Url.IsRead.namesHost_iff (read : base.IsRead) (isName : Scheme.IsName scheme) :
    ((∀ raw u, Target.resolve base raw = .ok u → u.scheme = scheme → u.isHierarchical = true →
      u.NamesHost) ↔ Scheme.NeedsHost scheme) ∧
    ((∀ text u, Target.resolveText base text = .ok u → u.scheme = scheme →
      u.isHierarchical = true → u.NamesHost) ↔ Scheme.NeedsHost scheme) ∧
    (base.isHttp = true →
      ((∀ rules req j, req.url = base →
        Relation.ReflTransGen (Journey.Step rules) (Journey.start req) j →
        ∀ u ∈ j.urls, u.scheme = scheme → u.isHierarchical = true → u.NamesHost) ↔
          Scheme.NeedsHost scheme)) := by
  have bare : ¬(Url.hostless scheme).NamesHost := by
    rintro ⟨host, ⟨⟩, -⟩
  -- Where no host is needed, the URL without one is named by its text, and by the bytes of that.
  have resolves := fun needless => Target.resolveText_hostless isName needless base
  refine ⟨⟨fun all => ?_, fun needs raw u h same _ => ?_⟩,
    ⟨fun all => ?_, fun needs text u h same _ => ?_⟩,
    fun web => ⟨fun all => ?_, fun needs rules req j start course u mem same _ => ?_⟩⟩
  · by_contra needless
    have found := (Target.resolve_encode base _).trans (resolves needless)
    exact bare (all _ _ found rfl rfl)
  · subst same
    exact (Target.isRead_of_resolveIn read h).namesHost needs
  · by_contra needless
    exact bare (all _ _ (resolves needless) rfl rfl)
  · subst same
    exact (Target.isRead_of_resolveIn read h).namesHost needs
  · by_contra needless
    obtain ⟨next, continues, there⟩ := Journey.exists_continues_hostless web isName needless
    refine bare (all .empty _ next rfl (.single (.hop continues)) _ ?_ rfl rfl)
    exact there ▸ Journey.url_mem_urls next
  · subst same start
    exact (Journey.isRead_of_course read course u mem).namesHost needs

lemma isRead_front : (Url.front "http" 1).IsRead := by
  have parses : Url.parse "http://[::1]/" = .ok (.front "http" 1) := by decide +kernel
  exact .parse parses

/-- Behind another scheme that needs a host, a text without slashes names one; without a host it is
no target. -/
theorem host_named_without_slashes :
    (Url.front "http" 1).IsRead ∧ Scheme.IsName "https" ∧ Scheme.NeedsHost "https" ∧
      (∃ u, Target.resolveText (.front "http" 1) "https:[::2]" = .ok u ∧ u.NamesHost) ∧
      Target.resolveText (.front "http" 1) "https:///" =
        .error (.unresolvable "https:///" .emptyHost) := by
  have isName : Scheme.IsName "https" := ⟨by decide, by decide, List.all_eq_true.mp (by decide)⟩
  have needs : Scheme.NeedsHost "https" := by decide
  have found : Target.resolveText (.front "http" 1) "https:[::2]" = .ok (.front "https" 2) := by
    decide +kernel
  have names := (isRead_front.namesHost_iff isName).2.1.mpr needs _ _ found rfl rfl
  exact ⟨isRead_front, isName, needs, ⟨_, found, names⟩, by decide +kernel⟩

/-- A redirect from a host of the web to a local file, which has a path of names and no host, is
followed. -/
theorem Journey.local_place_followed :
    ∃ (location : FieldValue) (target : Url) (next : Journey), (Url.front "http" 1).IsRead ∧
      location.bytes = utf8 "file:///etc/passwd" ∧
      Target.resolve (.front "http" 1) location.bytes = .ok target ∧
      target.isHierarchical = true ∧ ¬target.NamesHost ∧
      (Journey.start (Request.plain .get (.front "http" 1))).Continues {} next ∧
      next.request.url = target := by
  have resolves : Target.resolve (.front "http" 1) (utf8 "file:///etc/passwd") =
      .ok { Url.hostless "file" with path := .names ["etc", "passwd"] } := by
    decide +kernel
  have bytes : (utf8 "file:///etc/passwd").all isValueByte = true := by decide
  obtain ⟨next, continues, there⟩ :=
    exists_continues_of_resolve ⟨_, bytes⟩ (by decide) resolves
  refine ⟨⟨_, bytes⟩, _, next, isRead_front, rfl, resolves, rfl, ?_, continues, there⟩
  rintro ⟨host, ⟨⟩, -⟩

end Wayfarer
