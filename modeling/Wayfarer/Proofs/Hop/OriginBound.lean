import Wayfarer.Proofs.Hop.Course

/-!
Fields that are bound to an origin.

* `getAll_originBound_of_continues`: a hop keeps the values of such a field within an origin and
  drops them when it leaves it;
* `Journey.originBound_of_course`: along a whole course, whatever its steps, they are those of the
  first request as long as the origin is one and the same, and none once it has changed.
-/

namespace Wayfarer

namespace Journey

variable {j next : Journey} {rules : ProxyRules} {s : RedirectSettings} {req start : Request}
variable {name : FieldName}

lemma mem_originBound (bound : name = .cookie ∨ name = .authorization) : name ∈ originBound := by
  rcases bound with rfl | rfl <;> decide

lemma not_mem_bodyFields (bound : name = .cookie ∨ name = .authorization) :
    name ∉ bodyFields := by
  rcases bound with rfl | rfl <;> decide

lemma ne_proxyAuthorization (bound : name = .cookie ∨ name = .authorization) :
    name ≠ .proxyAuthorization := by
  rcases bound with rfl | rfl <;> decide

/-- **A hop and a field that is bound to an origin**: the values go along within the origin. -/
lemma getAll_originBound_of_continues (bound : name = .cookie ∨ name = .authorization)
    (continues : j.Continues s next) :
    next.request.headers.getAll name =
      if Origin.of j.request.url = Origin.of next.request.url then j.request.headers.getAll name
      else [] := by
  obtain ⟨_, _, e, headers⟩ := continues.exists_follow
  rw [headers, getAll_followHeaders _ _ _ (ne_proxyAuthorization bound), Errand.getAll_headers,
    if_pos (Or.inr (not_mem_bodyFields bound)), getAll_forwardable]
  simp [Url.sameOrigin, mem_originBound bound]

/-- What a course has made of the values of a field: those of the first request where the origin
never changed, and none where two URLs in a row have different origins. -/
structure Bound (start : Request) (name : FieldName) (j : Journey) : Prop where
  within : (∀ u ∈ j.urls, ∀ v ∈ j.urls, Origin.of u = Origin.of v) →
    j.request.headers.getAll name = start.headers.getAll name
  beyond : ∀ u v, [u, v] <:+: j.urls → Origin.of u ≠ Origin.of v →
    j.request.headers.getAll name = []

lemma bound_start (start : Request) (name : FieldName) :
    Bound start name (Journey.start start) where
  within _ := rfl
  beyond u v pair _ := by
    have short := pair.length_le
    simp at short

lemma Bound.prepare (bound : name = .cookie ∨ name = .authorization) (h : Bound start name j)
    (ready : rules.prepare j.request = .ok req) :
    Bound start name { j with request := req } := by
  have same := ProxyRules.getAll_of_prepare ready (ne_proxyAuthorization bound)
  have urls := urls_of_prepare ready
  constructor
  · intro one
    rw [urls] at one
    rw [same]
    exact h.within one
  · intro u v pair differ
    rw [urls] at pair
    rw [same]
    exact h.beyond u v pair differ

/-- Two URLs in a row of a continued journey are in a row before, or are those of the hop. -/
lemma pair_of_continues (continues : j.Continues s next) {u v : Url}
    (pair : [u, v] <:+: next.urls) :
    [u, v] <:+: j.urls ∨ u = j.request.url ∧ v = next.request.url := by
  rw [urls_of_continues continues, List.infix_concat_iff] at pair
  rcases pair with last | before
  · right
    rw [urls_eq, List.append_assoc] at last
    obtain ⟨front, whole⟩ := last
    have ends := (List.append_inj' whole rfl).2
    simpa using ends
  · exact Or.inl before

lemma Bound.continues (bound : name = .cookie ∨ name = .authorization) (h : Bound start name j)
    (continues : j.Continues s next) : Bound start name next := by
  have values := getAll_originBound_of_continues bound continues
  have urls := urls_of_continues continues
  constructor
  · intro one
    have before : ∀ u ∈ j.urls, u ∈ next.urls := fun u mem => by
      rw [urls]
      exact List.mem_append_left _ mem
    have same := one _ (before _ (url_mem_urls j)) _ (url_mem_urls next)
    rw [values, if_pos same]
    exact h.within fun u hu v hv => one u (before u hu) v (before v hv)
  · intro u v pair differ
    rw [values]
    rcases pair_of_continues continues pair with before | ⟨rfl, rfl⟩
    · rw [h.beyond u v before differ]
      exact ite_self _
    · rw [if_neg differ]

/-- **Cookies and authorization never leave their origin.** On any course, through redirects and
refresh directives and with the request made ready at any point, the latest request carries the
values of the first one if all URLs have one origin, and none of them once two URLs in a row have
different origins, even where the course has come back. -/
theorem originBound_of_course (start : Request) (bound : name = .cookie ∨ name = .authorization)
    (course : Relation.ReflTransGen (Step rules) (Journey.start start) j) :
    ((∀ u ∈ j.urls, ∀ v ∈ j.urls, Origin.of u = Origin.of v) →
      j.request.headers.getAll name = start.headers.getAll name) ∧
    (∀ u v, [u, v] <:+: j.urls → Origin.of u ≠ Origin.of v →
      j.request.headers.getAll name = []) := by
  have held : Bound start name j := by
    induction course with
    | refl => exact bound_start start name
    | tail _ step ih =>
        cases step with
        | prepare ready => exact ih.prepare bound ready
        | hop continues => exact ih.continues bound continues
  exact ⟨held.within, held.beyond⟩

/-- A request with a cookie. -/
def cookieVisit : Request :=
  { Request.plain .get (.front "http" 1) with headers := Headers.ofPairs [("Cookie", [97])] }

/-- The cookie stays on a course within the origin; on one that leaves it and comes back it is
gone. -/
theorem cookie_gone_on_return :
    ∃ here back, Relation.ReflTransGen (Step .empty) (Journey.start cookieVisit) here ∧
      here.urls = [.front "http" 1, .front "http" 1] ∧
      here.request.headers.getAll .cookie = [⟨[97], by decide⟩] ∧
      Relation.ReflTransGen (Step .empty) (Journey.start cookieVisit) back ∧
      back.urls = [.front "http" 1, .front "http" 1, .front "http" 2, .front "http" 1] ∧
      back.request.headers.getAll .cookie = [] := by
  have here : Relation.ReflTransGen (Step .empty) (Journey.start cookieVisit) _ :=
    .single (.hop (continues_elsewhere (.front "http" 1) (by decide +kernel) rfl))
  have away := here.tail (.hop (continues_elsewhere (.front "http" 2) (by decide +kernel) rfl))
  have ready := away.tail (.prepare rfl)
  have back := ready.tail (.hop (continues_elsewhere (.front "http" 1) (by decide +kernel) rfl))
  refine ⟨_, _, here, rfl, ?_, back, rfl, ?_⟩
  · exact (originBound_of_course cookieVisit (Or.inl rfl) here).1 (by decide)
  · exact (originBound_of_course cookieVisit (Or.inl rfl) back).2 (.front "http" 1)
      (.front "http" 2) ⟨[.front "http" 1], [.front "http" 1], rfl⟩ (by decide)

end Journey

end Wayfarer
