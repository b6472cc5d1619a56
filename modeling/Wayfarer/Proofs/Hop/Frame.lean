import Wayfarer.Proofs.Hop.Course

/-!
What a course leaves alone.

* `decided`: the fields that hops and proxies decide on;
* `Untouched`: a request differs from an earlier one in nothing that is not theirs;
* `untouched_of_prepare`, `Journey.untouched_of_continues`: what one step leaves alone;
* `Journey.frame_of_course`: **a whole course leaves it alone**, and what was sent stays as it was.
-/

namespace Wayfarer

variable {j first next later : Journey} {rules : ProxyRules} {s : RedirectSettings}
variable {start req after : Request}

/-- The fields that hops and proxies decide on. -/
def decided : List FieldName :=
  [.cookie, .authorization, .contentType, .contentLength, .proxyAuthorization]

/-- The marks of a request and its other fields are those of an earlier one: the same names in the
same order, each with the same values in the same order. -/
structure Untouched (start req : Request) : Prop where
  repeatable : req.repeatable = start.repeatable
  frozen : req.frozen = start.frozen
  handled : req.handled = start.handled
  skip : req.skip = start.skip
  fields : req.headers.retain (· ∉ decided) = start.headers.retain (· ∉ decided)

lemma untouched_refl (req : Request) : Untouched req req :=
  ⟨rfl, rfl, rfl, rfl, rfl⟩

lemma Untouched.trans (h : Untouched start req) (h' : Untouched req after) :
    Untouched start after where
  repeatable := h'.repeatable.trans h.repeatable
  frozen := h'.frozen.trans h.frozen
  handled := h'.handled.trans h.handled
  skip := h'.skip.trans h.skip
  fields := h'.fields.trans h.fields

/-! ### One step -/

/-- Making a request ready decides on one field. -/
lemma untouched_of_prepare (ready : rules.prepare req = .ok after) : Untouched req after := by
  obtain ⟨headers, proxy, rfl, _, fields⟩ := ProxyRules.exists_frame_of_prepare ready
  exact ⟨rfl, rfl, rfl, rfl, Headers.retain_eq_of_erase_eq fields (by decide)⟩

/-- The fields that a hop drops are among those that it decides on. -/
lemma retain_followHeaders (req : Request) (target : Url) (e : Errand) :
    (followHeaders req target e).retain (· ∉ decided) = req.headers.retain (· ∉ decided) := by
  have other {dropped : List FieldName} (sub : dropped ⊆ decided) (name : FieldName)
      (undecided : decide (name ∉ decided) = true) : decide (name ∉ dropped) = true := by
    rw [decide_eq_true_eq] at undecided ⊢
    exact fun mem => undecided (sub mem)
  have origin : (forwardable req.headers req.url target).retain (· ∉ decided) =
      req.headers.retain (· ∉ decided) := by
    rw [forwardable]
    split_ifs
    · rfl
    · exact Headers.retain_retain (other (by decide))
  have body (h : Headers) : (e.headers h).retain (· ∉ decided) = h.retain (· ∉ decided) := by
    cases e with
    | keep => rfl
    | read => exact Headers.retain_retain (other (by decide))
  rw [followHeaders]
  split_ifs
  · rw [Headers.retain_erase (by decide), body, origin]
  · rw [body, origin]

/-- A hop decides on these fields only. -/
lemma Journey.untouched_of_continues (continues : j.Continues s next) :
    Untouched j.request next.request := by
  obtain ⟨target, e, reason, _, made⟩ := continues.exists_hop
  obtain ⟨trail, _, rfl⟩ := eq_next_of_hop made
  exact ⟨rfl, rfl, rfl, rfl, retain_followHeaders j.request target e⟩

/-! ### Any number of steps -/

namespace Journey

lemma untouched_of_course (course : Relation.ReflTransGen (Step rules) first j) :
    Untouched first.request j.request := by
  induction course with
  | refl => exact untouched_refl _
  | tail _ step ih =>
      cases step with
      | prepare ready => exact ih.trans (untouched_of_prepare ready)
      | hop continues => exact ih.trans (untouched_of_continues continues)

/-- The past only ever grows in front. -/
lemma past_suffix_of_course (course : Relation.ReflTransGen (Step rules) first j) :
    first.past <:+ j.past := by
  induction course with
  | refl => exact List.suffix_refl _
  | tail _ step ih =>
      cases step with
      | prepare ready => exact ih
      | hop continues =>
          rw [continues.exists_follow.1]
          exact ih.trans (List.suffix_cons _ _)

/-- **A course leaves alone what is not its own.** On any course the latest request has the marks of
the first one, and apart from the fields that hops and proxies decide on the same pairs in the same
order. The requests that were sent stay in the past as they were, and the one that is continued
joins them for good. -/
theorem frame_of_course (course : Relation.ReflTransGen (Step rules) first j) :
    j.request.repeatable = first.request.repeatable ∧
    j.request.frozen = first.request.frozen ∧
    j.request.handled = first.request.handled ∧
    j.request.skip = first.request.skip ∧
    (j.request.headers.toList.filter fun field => field.1 ∉ decided) =
      (first.request.headers.toList.filter fun field => field.1 ∉ decided) ∧
    first.past <:+ j.past ∧
    ∀ s next later, j.Continues s next → Relation.ReflTransGen (Step rules) next later →
      j.request :: j.past <:+ later.past := by
  have same := untouched_of_course course
  have kept (h : Headers) : (h.toList.filter fun field => field.1 ∉ decided) =
      (h.retain (· ∉ decided)).toList :=
    (Headers.toList_retain h (· ∉ decided)).symm
  refine ⟨same.repeatable, same.frozen, same.handled, same.skip, ?_,
    past_suffix_of_course course, fun s next later continues further => ?_⟩
  · rw [kept, kept, same.fields]
  · rw [← continues.exists_follow.1]
    exact past_suffix_of_course further

/-- A request with marks, and with fields of all kinds between each other. -/
def markedVisit : Request where
  __ := Request.plain .get (.front "http" 1)
  headers := Headers.ofPairs [("B", [49]), ("Cookie", [99]), ("A", [50]), ("b", [51])]
  repeatable := true
  handled := ⟨[404], false⟩
  skip := some (.one "meta_refresh")

/-- That request, made ready: it goes through the proxy of a rule. -/
def markedReady : Request where
  __ := markedVisit
  headers := markedVisit.headers.insert .proxyAuthorization (Credentials.field ⟨"user", "pw"⟩)
  proxy := ⟨some "http://[::9]:3128", false, some "http://[::9]:3128", true⟩

/-- The cookie and the credentials for the proxy go, and the fields around them stay in order. -/
theorem fields_kept_beyond_origin :
    ∃ j, Relation.ReflTransGen (Step (.one "http" [])) (Journey.start markedVisit) j ∧
      j.urls = [.front "http" 1, .front "https" 2] ∧
      markedReady.headers.size = 4 ∧ j.request.headers.size = 2 ∧
      (j.request.headers.toList.filter fun field => field.1 ∉ decided) =
        (markedVisit.headers.toList.filter fun field => field.1 ∉ decided) ∧
      j.request.skip = some (.one "meta_refresh") ∧ [markedReady] <:+ j.past := by
  have ready : Relation.ReflTransGen (Step (.one "http" [])) (Journey.start markedVisit)
      ⟨markedReady, []⟩ := .single (.prepare rfl)
  have continues : Journey.Continues {} ⟨markedReady, []⟩ _ :=
    continues_elsewhere (.front "https" 2) (by decide +kernel) rfl
  have course := ready.tail (.hop continues)
  obtain ⟨_, _, _, skip, fields, _⟩ := frame_of_course course
  obtain ⟨_, _, _, _, _, _, sent⟩ := frame_of_course ready
  exact ⟨_, course, rfl, by decide +kernel, by decide +kernel, fields, skip,
    sent _ _ _ continues .refl⟩

end Journey

end Wayfarer
