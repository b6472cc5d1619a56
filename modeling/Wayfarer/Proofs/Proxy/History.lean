import Wayfarer.Proofs.Hop.Course

/-!
What the choice of a proxy has to do with the requests before.

* `Stretch`: a course, with the URLs at which its requests were made ready since the scheme last
  changed;
* `ProxyRules.kept?`: the proxy that such URLs leave in use;
* `Through`: what holds of a request on every course: it goes through the proxy that was kept, and
  carries the credentials of it and no other;
* `ProxyRules.Lingers`: a proxy is kept although the URL at hand is spared;
* `ProxyRules.selection_of_stretch`: a request goes through the same proxy as one without a past,
  except where a proxy lingers.
-/

namespace Wayfarer

variable {rules : ProxyRules} {start req fresh : Request} {urls : List Url} {j next : Journey}
variable {s : RedirectSettings} {e : Endpoint} {c : Credentials} {choice : Option Endpoint}

/-- A course, with the URLs at which its requests were made ready since the scheme last changed,
the latest first. -/
inductive Stretch (rules : ProxyRules) (start : Request) : List Url → Journey → Prop
  | start : Stretch rules start [] (Journey.start start)
  | prepare {urls : List Url} {j : Journey} {req : Request} (stretch : Stretch rules start urls j)
      (ready : rules.prepare j.request = .ok req) :
      Stretch rules start (j.request.url :: urls) { j with request := req }
  | within {urls : List Url} {s : RedirectSettings} {j next : Journey}
      (stretch : Stretch rules start urls j) (continues : j.Continues s next)
      (same : j.request.url.scheme = next.request.url.scheme) : Stretch rules start urls next
  | across {urls : List Url} {s : RedirectSettings} {j next : Journey}
      (stretch : Stretch rules start urls j) (continues : j.Continues s next)
      (changed : j.request.url.scheme ≠ next.request.url.scheme) : Stretch rules start [] next

/-- Every course has such URLs. -/
lemma exists_stretch_of_course
    (course : Relation.ReflTransGen (Journey.Step rules) (Journey.start start) j) :
    ∃ urls, Stretch rules start urls j := by
  induction course with
  | refl => exact ⟨[], .start⟩
  | @tail before after _ step ih =>
      obtain ⟨urls, stretch⟩ := ih
      cases step with
      | prepare ready => exact ⟨_, stretch.prepare ready⟩
      | hop continues =>
          by_cases same : before.request.url.scheme = after.request.url.scheme
          · exact ⟨urls, stretch.within continues same⟩
          · exact ⟨[], stretch.across continues same⟩

/-! ### The proxy that is kept -/

/-- The address of a proxy that a rule names, read again, names the same proxy. -/
def ProxyRules.Legible (rules : ProxyRules) : Prop :=
  ∀ scheme e, rules.rule? scheme = some e → Endpoint.parse e.address = .ok ⟨e.address, none⟩

/-- The proxy that is in use for a scheme after requests were made ready at some URLs: that of the
rule, unless all URLs are spared. -/
def ProxyRules.kept? (rules : ProxyRules) (urls : List Url) (scheme : String) : Option Endpoint :=
  if urls.all rules.spares then none else rules.rule? scheme

lemma ProxyRules.kept?_cons_of_spares {u : Url} (spared : rules.spares u = true)
    (urls : List Url) (scheme : String) :
    rules.kept? (u :: urls) scheme = rules.kept? urls scheme := by
  rw [kept?, kept?, List.all_cons, spared, Bool.true_and]

lemma ProxyRules.kept?_cons_of_not_spares {u : Url} (proxied : rules.spares u = false)
    (urls : List Url) (scheme : String) :
    rules.kept? (u :: urls) scheme = rules.rule? scheme := by
  rw [kept?, List.all_cons, proxied, Bool.false_and, if_neg Bool.false_ne_true]

lemma ProxyRules.rule?_of_kept? {scheme : String} (kept : rules.kept? urls scheme = some e) :
    rules.rule? scheme = some e := by
  rw [kept?] at kept
  split_ifs at kept
  exact kept

/-- A proxy that is kept stays so, whatever URL comes next. -/
lemma ProxyRules.kept?_cons_of_some {scheme : String} (kept : rules.kept? urls scheme = some e)
    (u : Url) : rules.kept? (u :: urls) scheme = some e := by
  cases spared : rules.spares u with
  | true => rw [kept?_cons_of_spares spared, kept]
  | false => rw [kept?_cons_of_not_spares spared, rule?_of_kept? kept]

/-- If none is kept, the next URL decides. -/
lemma ProxyRules.kept?_cons_of_none {u : Url} (kept : rules.kept? urls u.scheme = none) :
    rules.kept? (u :: urls) u.scheme = rules.chosen? u := by
  cases spared : rules.spares u with
  | true => rw [kept?_cons_of_spares spared, kept, chosen?_of_spares spared]
  | false => rw [kept?_cons_of_not_spares spared, chosen?_of_not_spares spared]

/-! ### Requests on a course -/

/-- The owner of the credentials that a proxy has. -/
def ownerOf (choice : Option Endpoint) : Option String :=
  choice.bind fun e => e.credentials.map fun _ => e.address

/-- The credentials that a proxy has, as values of a field. -/
def valuesOf (choice : Option Endpoint) : List FieldValue :=
  (choice.bind (·.credentials)).toList.map (·.field)

lemma ownerOf_of_known (known : e.credentials = some c) : ownerOf (some e) = some e.address := by
  rw [ownerOf, Option.bind_some, known]
  rfl

lemma ownerOf_of_unknown (unknown : e.credentials = none) : ownerOf (some e) = none := by
  rw [ownerOf, Option.bind_some, unknown]
  rfl

lemma valuesOf_of_known (known : e.credentials = some c) : valuesOf (some e) = [c.field] := by
  rw [valuesOf, Option.bind_some, known]
  rfl

lemma valuesOf_of_unknown (unknown : e.credentials = none) : valuesOf (some e) = [] := by
  rw [valuesOf, Option.bind_some, unknown]
  rfl

/-- A request goes through a proxy that a rule chose, or through none, and carries the credentials
of it and no other. -/
structure Through (choice : Option Endpoint) (req : Request) : Prop where
  indirect : req.proxy.direct = false
  used : req.proxy.proxy = choice.map (·.address)
  marked : req.proxy.byScheme = choice.isSome
  owner : req.proxy.owner = ownerOf choice
  values : req.proxyValues = valuesOf choice

/-- A request without a past goes through no proxy. -/
lemma through_none (empty : req.proxy = ProxyState.empty) (bare : req.proxyValues = []) :
    Through none req where
  indirect := by rw [empty]; rfl
  used := by rw [empty]; rfl
  marked := by rw [empty]; rfl
  owner := by rw [empty]; rfl
  values := bare

/-- Without credentials before, there are those of the proxy. -/
lemma owner_and_values_of_settled (settled : ProxyRules.Settled none [] choice req) :
    req.proxy.owner = ownerOf choice ∧ req.proxyValues = valuesOf choice := by
  cases settled with
  | presented via known owned stand =>
      rw [via, owned, stand]
      exact ⟨(ownerOf_of_known known).symm, (valuesOf_of_known known).symm⟩
  | kept _ _ own =>
      rcases own with owned | ⟨_, filled⟩
      · cases owned
      · exact absurd rfl filled
  | bare foreign unowned gone =>
      rw [unowned, gone]
      cases choice with
      | none => exact ⟨rfl, rfl⟩
      | some e =>
          have unknown := (foreign e rfl).1
          exact ⟨(ownerOf_of_unknown unknown).symm, (valuesOf_of_unknown unknown).symm⟩

/-- With those of a proxy before, they stay if its address is all that is known of it. -/
lemma owner_and_values_of_settled_again
    (settled : ProxyRules.Settled (ownerOf (some e)) (valuesOf (some e))
      (some ⟨e.address, none⟩) req) :
    req.proxy.owner = ownerOf (some e) ∧ req.proxyValues = valuesOf (some e) := by
  cases settled with
  | presented via known =>
      obtain rfl := Option.some.inj via
      cases known
  | kept via _ own owned stand =>
      obtain rfl := Option.some.inj via
      refine ⟨?_, stand⟩
      cases known : e.credentials with
      | some c => rw [owned, ownerOf_of_known known]
      | none =>
          rw [ownerOf_of_unknown known, valuesOf_of_unknown known] at own
          simp at own
  | bare foreign unowned gone =>
      rw [unowned, gone]
      cases known : e.credentials with
      | some c => exact absurd (ownerOf_of_known known) (foreign _ rfl).2.1
      | none => exact ⟨(ownerOf_of_unknown known).symm, (valuesOf_of_unknown known).symm⟩

/-- If a request goes through none, the rules choose one for its URL. -/
lemma Through.prepare_of_none (h : Through none req) :
    ∃ after, rules.prepare req = .ok after ∧ Through (rules.chosen? req.url) after := by
  have chosen : rules.select req.proxy req.url =
      .ok (rules.chosen? req.url, (rules.chosen? req.url).isSome) :=
    ProxyRules.select_of_open h.indirect h.used
  obtain ⟨after, ready, used, direct, marked, settled⟩ :=
    ProxyRules.exists_prepare_of_select chosen
  rw [h.owner, h.values] at settled
  obtain ⟨owner, values⟩ := owner_and_values_of_settled settled
  refine ⟨after, ready, direct.trans h.indirect, used, ?_, owner, values⟩
  rw [marked, h.marked, Option.isSome_none, Bool.or_false]

/-- If it goes through one, it does so again. -/
lemma Through.prepare_of_some (h : Through (some e) req)
    (legible : Endpoint.parse e.address = .ok ⟨e.address, none⟩) :
    ∃ after, rules.prepare req = .ok after ∧ Through (some e) after := by
  have chosen : rules.select req.proxy req.url = .ok (some ⟨e.address, none⟩, false) := by
    rw [ProxyRules.select_of_pinned h.indirect h.used, legible]
    rfl
  obtain ⟨after, ready, used, direct, marked, settled⟩ :=
    ProxyRules.exists_prepare_of_select chosen
  rw [h.owner, h.values] at settled
  obtain ⟨owner, values⟩ := owner_and_values_of_settled_again settled
  refine ⟨after, ready, direct.trans h.indirect, used, ?_, owner, values⟩
  rw [marked, h.marked, Bool.false_or]

/-- **Making a request ready**: the proxy that was kept stays, or the URL decides. -/
lemma Through.prepare (legible : rules.Legible)
    (h : Through (rules.kept? urls req.url.scheme) req) :
    ∃ after, rules.prepare req = .ok after ∧
      Through (rules.kept? (req.url :: urls) req.url.scheme) after := by
  cases kept : rules.kept? urls req.url.scheme with
  | none =>
      rw [kept] at h
      rw [ProxyRules.kept?_cons_of_none kept]
      exact h.prepare_of_none
  | some e =>
      rw [kept] at h
      rw [ProxyRules.kept?_cons_of_some kept]
      exact h.prepare_of_some (legible _ _ (ProxyRules.rule?_of_kept? kept))

/-- Credentials without an owner are none. -/
lemma Through.values_of_unowned (h : Through choice req) (unowned : req.proxy.owner = none) :
    req.proxyValues = [] := by
  rw [h.owner] at unowned
  rw [h.values]
  cases choice with
  | none => rfl
  | some e =>
      cases known : e.credentials with
      | none => exact valuesOf_of_unknown known
      | some c =>
          rw [ownerOf_of_known known] at unowned
          cases unowned

/-- Where the proxy state goes along, the credentials do. -/
lemma Through.of_kept (h : Through choice j.request) (continues : j.Continues s next)
    (kept : next.request.proxy = j.request.proxy) : Through choice next.request := by
  have values := Journey.proxyValues_of_continues continues
  rw [kept] at values
  refine ⟨by rw [kept, h.indirect], by rw [kept, h.used], by rw [kept, h.marked],
    by rw [kept, h.owner], ?_⟩
  rw [values]
  split_ifs with unowned
  · rw [← h.values, h.values_of_unowned (Option.isNone_iff_eq_none.mp unowned)]
  · exact h.values

/-- **A hop under one scheme** changes nothing. -/
lemma Through.within (h : Through choice j.request) (continues : j.Continues s next)
    (same : j.request.url.scheme = next.request.url.scheme) : Through choice next.request := by
  obtain ⟨_, proxy, _⟩ := continues.exists_follow
  rw [followProxy_of_kept (Or.inr same)] at proxy
  exact h.of_kept continues proxy

/-- **A hop to another scheme** forgets what was chosen. -/
lemma Through.across (h : Through choice j.request) (continues : j.Continues s next)
    (changed : j.request.url.scheme ≠ next.request.url.scheme) : Through none next.request := by
  obtain ⟨_, proxy, _⟩ := continues.exists_follow
  cases choice with
  | some e =>
      -- the mark tells the hop that a rule chose the proxy
      rw [followProxy_of_changed h.marked changed] at proxy
      have values := Journey.proxyValues_of_continues continues
      rw [proxy] at values
      exact through_none proxy values
  | none =>
      rw [followProxy_of_kept (Or.inl h.marked)] at proxy
      exact h.of_kept continues proxy

/-- Every course keeps to it. -/
lemma Stretch.through (legible : rules.Legible) (clean : Through none start)
    (stretch : Stretch rules start urls j) :
    Through (rules.kept? urls j.request.url.scheme) j.request := by
  induction stretch with
  | start => exact clean
  | prepare _ ready ih =>
      obtain ⟨after, made, through⟩ := ih.prepare legible
      obtain rfl := Except.ok.inj (made.symm.trans ready)
      rw [ProxyRules.url_of_prepare ready]
      exact through
  | within _ continues same ih =>
      rw [← same]
      exact ih.within continues same
  | across _ continues changed ih => exact ih.across continues changed

/-! ### Requests without a past -/

/-- A proxy is kept although the URL is spared: a rule for the scheme chose it for another URL. -/
def ProxyRules.Lingers (rules : ProxyRules) (urls : List Url) (u : Url) : Prop :=
  rules.spares u = true ∧ (rules.rule? u.scheme).isSome = true ∧
    ∃ v ∈ urls, rules.spares v = false

namespace ProxyRules

/-- Where a proxy lingers, it is that of the rule. -/
lemma Lingers.exists_kept {u : Url} (h : rules.Lingers urls u) :
    ∃ e, rules.rule? u.scheme = some e ∧ rules.kept? urls u.scheme = some e := by
  obtain ⟨_, named, v, mem, proxied⟩ := h
  obtain ⟨e, rule⟩ := Option.isSome_iff_exists.mp named
  refine ⟨e, rule, ?_⟩
  rw [kept?, if_neg, rule]
  intro all
  rw [List.all_eq_true.mp all v mem] at proxied
  cases proxied

/-- Where none does, the URLs before do not matter. -/
lemma kept?_of_not_lingers {u : Url} (h : ¬rules.Lingers urls u) :
    rules.kept? (u :: urls) u.scheme = rules.chosen? u := by
  cases kept : rules.kept? urls u.scheme with
  | none => exact kept?_cons_of_none kept
  | some e =>
      have rule := rule?_of_kept? kept
      rw [kept?_cons_of_some kept, ← rule]
      cases spared : rules.spares u with
      | false => exact (chosen?_of_not_spares spared).symm
      | true =>
          refine absurd ⟨spared, Option.isSome_iff_exists.mpr ⟨e, rule⟩, ?_⟩ h
          by_contra none
          rw [kept?, if_pos] at kept
          · cases kept
          · rw [List.all_eq_true]
            intro v mem
            by_contra proxied
            exact none ⟨v, mem, Bool.eq_false_iff.mpr proxied⟩

/-- **How the choice depends on the past.** Let the rules be legible. On any course from a request
with an empty proxy state and without credentials for a proxy, the latest request can be made
ready, and so can any such request for its URL. Both go through the same proxy, or through none,
and carry the same credentials, unless a proxy lingers; and where one does, only the request
without a past goes through none. -/
theorem selection_of_stretch (legible : rules.Legible)
    (empty : start.proxy = ProxyState.empty) (bare : start.proxyValues = [])
    (stretch : Stretch rules start urls j) (same : fresh.url = j.request.url)
    (clean : fresh.proxy = ProxyState.empty) (blank : fresh.proxyValues = []) :
    ∃ req ready, rules.prepare j.request = .ok req ∧ rules.prepare fresh = .ok ready ∧
      (¬rules.Lingers urls j.request.url →
        req.proxy.proxy = ready.proxy.proxy ∧ req.proxyValues = ready.proxyValues) ∧
      (rules.Lingers urls j.request.url → ready.proxy.proxy = none ∧
        ∃ e, rules.rule? j.request.url.scheme = some e ∧ req.proxy.proxy = some e.address) := by
  -- the request at hand has all URLs of the stretch behind it, the fresh one none
  have held := stretch.through legible (through_none empty bare)
  obtain ⟨req, made, past⟩ := held.prepare legible
  obtain ⟨ready, made', present⟩ : ∃ ready, rules.prepare fresh = .ok ready ∧
      Through (rules.chosen? fresh.url) ready := (through_none clean blank).prepare_of_none
  rw [same] at present
  refine ⟨req, ready, made, made', fun clear => ?_, fun lingers => ⟨?_, ?_⟩⟩
  · rw [kept?_of_not_lingers clear] at past
    exact ⟨past.used.trans present.used.symm, past.values.trans present.values.symm⟩
  · rw [present.used, chosen?_of_spares lingers.1]
    rfl
  · obtain ⟨e, rule, kept⟩ := lingers.exists_kept
    rw [kept?_cons_of_some kept] at past
    exact ⟨e, rule, past.used⟩

/-- The proxy of particular courses is legible. -/
lemma legible_one (scheme : String) (exempt : List String) : (one scheme exempt).Legible := by
  intro other e rule
  have again : Endpoint.parse "http://[::9]:3128" = .ok ⟨"http://[::9]:3128", none⟩ := by rfl
  rw [rule?, Option.map_eq_some_iff] at rule
  obtain ⟨entry, found, rfl⟩ := rule
  obtain rfl := List.mem_singleton.mp (List.mem_of_find?_eq_some found)
  exact again

/-- Where a spared host comes first, the request for the next one goes through the proxy of the
rule, as one without a past does. -/
theorem selection_after_spared_host :
    ∃ urls j req ready,
      Stretch (.one "http" ["[::1]"]) (Request.plain .get (.front "http" 1)) urls j ∧
      j.urls = [.front "http" 1, .front "http" 2] ∧
      (one "http" ["[::1]"]).prepare j.request = .ok req ∧
      (one "http" ["[::1]"]).prepare (Request.plain .get (.front "http" 2)) = .ok ready ∧
      req.proxy.proxy = ready.proxy.proxy ∧ req.proxyValues = ready.proxyValues := by
  have first : Stretch (.one "http" ["[::1]"]) (Request.plain .get (.front "http" 1)) _ _ :=
    .prepare .start rfl
  have stretch := first.within (Journey.continues_elsewhere (.front "http" 2)
    (by decide +kernel) rfl) rfl
  have same : (Request.plain .get (.front "http" 2)).url = .front "http" 2 := rfl
  obtain ⟨req, ready, made, made', clear, _⟩ :=
    selection_of_stretch (legible_one _ _) rfl rfl stretch same rfl rfl
  have proxied : (one "http" ["[::1]"]).spares (.front "http" 2) = false := by decide +kernel
  exact ⟨_, _, req, ready, stretch, rfl, made, made',
    clear fun lingers => Bool.eq_false_iff.mp proxied lingers.1⟩

/-- Where it comes second, the proxy lingers: the request for the spared host goes through it, and
carries its credentials. -/
theorem selection_before_spared_host :
    ∃ urls j req ready,
      Stretch (.one "http" ["[::1]"]) (Request.plain .get (.front "http" 2)) urls j ∧
      j.urls = [.front "http" 2, .front "http" 1] ∧
      (one "http" ["[::1]"]).spares (.front "http" 1) = true ∧
      (one "http" ["[::1]"]).prepare j.request = .ok req ∧
      (one "http" ["[::1]"]).prepare (Request.plain .get (.front "http" 1)) = .ok ready ∧
      req.proxy.proxy = some "http://[::9]:3128" ∧ ready.proxy.proxy = none ∧
      req.proxyValues ≠ ready.proxyValues := by
  have first : Stretch (.one "http" ["[::1]"]) (Request.plain .get (.front "http" 2)) _ _ :=
    .prepare .start rfl
  have stretch := first.within (Journey.continues_elsewhere (.front "http" 1)
    (by decide +kernel) rfl) rfl
  have legible := legible_one "http" ["[::1]"]
  obtain ⟨req, made, past⟩ := (stretch.through legible (through_none rfl rfl)).prepare legible
  refine ⟨_, _, req, _, stretch, rfl, by decide +kernel, made, rfl, past.used, rfl, ?_⟩
  rw [past.values]
  decide

end ProxyRules

end Wayfarer
