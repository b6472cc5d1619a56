import Wayfarer.Proofs.Proxy.Environment

/-!
Environments in another order.

* `ProxyRules.Agree`: variables of a spelling say the same, as far as they say anything;
* `ProxyRules.agree_of_key`: those in capitals do, if the names are distinct;
* `ProxyRules.latest?_perm`: where variables agree the order of an environment does not count;
* `ProxyRules.perm_iff_agree`, `ProxyRules.decides_iff_agree`: if those in capitals agree, the order
  does not count just when those with small letters agree too;
* `ProxyRules.withVariables_perm_iff`: **when the rules do not depend on the order**.
-/

namespace Wayfarer

namespace ProxyRules

variable {α β : Type} {r : ProxyRules} {scheme key : String} {small : Bool} {a : α}
variable {var : String × String} {vars vars' front back : List (String × String)}
variable {meaning : String × String → Option α}

/-! ### Variables that agree -/

/-- The variables of a spelling say the same, as far as they say anything. -/
def Agree (small : Bool) (meaning : String × String → Option α)
    (vars : List (String × String)) : Prop :=
  ∀ v ∈ vars, ∀ w ∈ vars, hasSmallLetter v.1 = small → hasSmallLetter w.1 = small →
    ∀ a b, meaning v = some a → meaning w = some b → a = b

/-- A name without small letters is found again from the name in small letters. -/
lemma map_toUpper_lowered {s : String} (capital : hasSmallLetter s = false) :
    (lowered s).toList.map Char.toUpper = s.toList := by
  rw [hasSmallLetter, List.any_eq_false] at capital
  rw [lowered, String.toList_ofList, List.map_map]
  refine (List.map_congr_left fun c mem => ?_).trans (List.map_id _)
  rw [Function.comp_apply, Char.toUpper_toLower_eq_toUpper]
  exact Char.toUpper_eq_of_not_isLower (capital c mem)

lemma eq_of_lowered_eq {s t : String} (first : hasSmallLetter s = false)
    (second : hasSmallLetter t = false) (same : lowered s = lowered t) : s = t := by
  rw [← String.toList_inj, ← map_toUpper_lowered first, ← map_toUpper_lowered second, same]

/-- **Variables in capitals agree**, if the names are distinct and only those with one name in small
letters say anything. -/
lemma agree_of_key (distinct : (vars.map Prod.fst).Nodup)
    (named : ∀ var a, meaning var = some a → lowered var.1 = key) : Agree false meaning vars := by
  intro v memv w memw first second a b here there
  have name : v.1 = w.1 :=
    eq_of_lowered_eq first second ((named v a here).trans (named w b there).symm)
  obtain rfl : v = w := List.inj_on_of_nodup_map distinct memv memw name
  exact Option.some.inj (here.symm.trans there)

/-! ### The order of an environment -/

/-- Where variables agree their order does not count. -/
lemma latest?_perm (agree : Agree small meaning vars) (perm : vars'.Perm vars) :
    latest? small meaning vars' = latest? small meaning vars := by
  have found {vars : List (String × String)} {a : α} (h : latest? small meaning vars = some a) :
      ∃ var ∈ vars, hasSmallLetter var.1 = small ∧ meaning var = some a := by
    obtain ⟨front, var, back, rfl, spelt, here, -⟩ := exists_of_latest? h
    exact ⟨var, by simp, spelt, here⟩
  cases first : latest? small meaning vars' with
  | none =>
      have mute := latest?_eq_none_iff.mp first
      exact (latest?_eq_none_iff.mpr fun var mem => mute var (perm.mem_iff.mpr mem)).symm
  | some a =>
      obtain ⟨v, memv, spelt, here⟩ := found first
      cases second : latest? small meaning vars with
      | none =>
          have mute := latest?_eq_none_iff.mp second v (perm.mem_iff.mp memv) spelt
          cases mute.symm.trans here
      | some b =>
          obtain ⟨w, memw, spelt', there⟩ := found second
          rw [agree v (perm.mem_iff.mp memv) w memw spelt spelt' a b here there]

/-- Each variable with small letters that says anything is the one that counts in some order. -/
lemma exists_perm_of_mem (mem : var ∈ vars) (spelt : hasSmallLetter var.1 = true)
    (here : meaning var = some a) :
    ∃ vars', vars'.Perm vars ∧ answer? meaning vars' = some a := by
  obtain ⟨front, back, rfl⟩ := List.append_of_mem mem
  refine ⟨(front ++ back) ++ [var], ?_, ?_⟩
  · exact (List.perm_append_singleton var _).trans List.perm_middle.symm
  · rw [answer?, latest?_eq_some spelt here (List.forall_mem_nil _)]
    rfl

/-- **When the order counts.** Let variables in capitals agree, and let `made` tell answers apart.
Then what is made of an environment does not depend on its order just when the variables with small
letters agree too. -/
lemma perm_iff_agree (made : Option α → β) (capitals : Agree false meaning vars)
    (apart : ∀ a b, made (some a) = made (some b) → a = b) :
    (∀ vars', vars'.Perm vars → made (answer? meaning vars') = made (answer? meaning vars)) ↔
      Agree true meaning vars := by
  constructor
  · intro same v memv w memw first second a b here there
    obtain ⟨order, perm, counts⟩ := exists_perm_of_mem memv first here
    obtain ⟨order', perm', counts'⟩ := exists_perm_of_mem memw second there
    refine apart a b ?_
    rw [← counts, ← counts', same order perm, same order' perm']
  · intro agree vars' perm
    rw [answer?, answer?, latest?_perm agree perm, latest?_perm capitals perm]

/-- A variable with small letters that says something decides in every order just when the other
ones with small letters agree with it. -/
lemma decides_iff_agree (made : Option α → β)
    (apart : ∀ a b, made (some a) = made (some b) → a = b) (mem : var ∈ vars)
    (spelt : hasSmallLetter var.1 = true) (here : meaning var = some a) :
    (∀ vars', vars'.Perm vars → made (answer? meaning vars') = made (some a)) ↔
      Agree true meaning vars := by
  constructor
  · intro decides
    have same (w) (memw : w ∈ vars) (spelt' : hasSmallLetter w.1 = true) (b)
        (there : meaning w = some b) : b = a := by
      obtain ⟨order, perm, counts⟩ := exists_perm_of_mem memw spelt' there
      exact apart b a (counts ▸ decides order perm)
    intro v memv w memw first second b c here' there
    rw [same v memv first b here', same w memw second c there]
  · intro agree vars' perm
    cases counts : latest? true meaning vars' with
    | none => cases (latest?_eq_none_iff.mp counts var (perm.mem_iff.mpr mem) spelt).symm.trans here
    | some b =>
        obtain ⟨front, w, back, rfl, spelt', there, -⟩ := exists_of_latest? counts
        have memw : w ∈ vars := perm.mem_iff.mp (by simp)
        rw [answer?, counts, agree w memw var mem spelt' spelt b a there here]
        rfl

/-! ### Rules of an environment in another order -/

lemma key_of_offer? {e : Endpoint} (offers : offer? scheme var = some e) :
    lowered var.1 = scheme ++ "_proxy" := by
  rw [offer?] at offers
  split_ifs at offers with both
  exact both.2

lemma key_of_items? {hosts : List String} (lists : items? var = some hosts) :
    lowered var.1 = "no" ++ "_proxy" := by
  rw [items?] at lists
  split_ifs at lists with both
  exact both.2.trans (by decide)

/-- A name in small letters that is for a scheme, or the one of the list, has some. -/
lemma hasSmallLetter_of_key {name front : String} (lower : lowered name = name)
    (key : lowered name = front ++ "_proxy") : hasSmallLetter name = true := by
  rw [hasSmallLetter, ← lower, key, String.toList_append, List.any_append]
  simp

/-- **When rules do not depend on the order of an environment.** Let the names of its variables be
distinct. Then the proxy for a scheme is the same in every order just when the variables for it with
small letters offer the same proxy, as far as they offer any, and the exempt hosts are the same just
when such variables with lists exempt the same hosts. Where both hold, the rules are the same and do
the same to every request. A variable in small letters throughout decides in every order just when
the other ones with small letters agree with it; those in capitals never count against it. -/
theorem withVariables_perm_iff (r : ProxyRules) (distinct : (vars.map Prod.fst).Nodup) :
    (∀ scheme, scheme ≠ "" → scheme ≠ "no" →
      ((∀ vars', vars'.Perm vars →
          (r.withVariables vars').rule? scheme = (r.withVariables vars).rule? scheme) ↔
        Agree true (offer? scheme) vars)) ∧
    ((∀ vars', vars'.Perm vars →
        (r.withVariables vars').exempt = (r.withVariables vars).exempt) ↔
      Agree true items? vars) ∧
    ((∀ scheme, Agree true (offer? scheme) vars) → Agree true items? vars →
      ∀ vars', vars'.Perm vars → Alike (r.withVariables vars') (r.withVariables vars) ∧
        ∀ req, (r.withVariables vars').prepare req = (r.withVariables vars).prepare req) ∧
    (∀ scheme name value e, scheme ≠ "" → scheme ≠ "no" → (name, value) ∈ vars →
      lowered name = name → offer? scheme (name, value) = some e →
      ((∀ vars', vars'.Perm vars → (r.withVariables vars').rule? scheme = some e) ↔
        Agree true (offer? scheme) vars)) ∧
    ∀ name value hosts, (name, value) ∈ vars → lowered name = name →
      items? (name, value) = some hosts →
      ((∀ vars', vars'.Perm vars → (r.withVariables vars').exempt = r.exempt ++ hosts) ↔
        Agree true items? vars) := by
  have schemes (scheme) : Agree false (offer? scheme) vars :=
    agree_of_key distinct fun var e => key_of_offer?
  have lists : Agree false items? vars := agree_of_key distinct fun var hosts => key_of_items?
  have apart (scheme) : ∀ e e' : Endpoint,
      (some e).or (r.rule? scheme) = (some e').or (r.rule? scheme) → e = e' :=
    fun _ _ same => Option.some.inj same
  have apart' : ∀ hosts hosts' : List String,
      r.exempt ++ (some hosts).getD [] = r.exempt ++ (some hosts').getD [] → hosts = hosts' :=
    fun _ _ same => List.append_cancel_left same
  have rules (scheme) (filled : scheme ≠ "") (other : scheme ≠ "no") :
      (∀ vars', vars'.Perm vars →
          (r.withVariables vars').rule? scheme = (r.withVariables vars).rule? scheme) ↔
        Agree true (offer? scheme) vars := by
    simp only [rule?_eq_of_answer filled other]
    exact perm_iff_agree (fun answer => answer.or (r.rule? scheme)) (schemes scheme) (apart scheme)
  have exempt : (∀ vars', vars'.Perm vars →
        (r.withVariables vars').exempt = (r.withVariables vars).exempt) ↔
      Agree true items? vars := by
    simp only [exempt_eq_of_answer]
    exact perm_iff_agree (fun answer => r.exempt ++ answer.getD []) lists apart'
  refine ⟨rules, exempt, ?_, ?_, ?_⟩
  · intro agree agree' vars' perm
    have alike : Alike (r.withVariables vars') (r.withVariables vars) := by
      refine ⟨fun scheme => ?_, exempt.mpr agree' vars' perm⟩
      by_cases none : scheme = "" ∨ scheme = "no"
      · rw [(rules_of_variables r vars').2.1 scheme none,
          (rules_of_variables r vars).2.1 scheme none]
      · obtain ⟨filled, other⟩ := not_or.mp none
        exact (rules scheme filled other).mpr (agree scheme) vars' perm
    exact ⟨alike, alike.prepare_eq⟩
  · intro scheme name value e filled other mem lower offers
    have spelt := hasSmallLetter_of_key lower (key_of_offer? offers)
    simp only [rule?_eq_of_answer filled other]
    exact decides_iff_agree (fun answer => answer.or (r.rule? scheme)) (apart scheme) mem spelt
      offers
  · intro name value hosts mem lower listed
    have spelt := hasSmallLetter_of_key lower (key_of_items? listed)
    simp only [exempt_eq_of_answer]
    exact decides_iff_agree (fun answer => r.exempt ++ answer.getD []) apart' mem spelt listed

/-- A variable in capitals, and one for the same scheme in small letters. -/
def bothLetters : List (String × String) :=
  [("http_proxy", "http://[::8]:3128"), ("HTTP_PROXY", "http://[::9]:3128"), ("NO_PROXY", "*")]

/-- In every order the variable in small letters decides, and requests are prepared alike. -/
theorem small_letters_decide :
    (∀ vars, vars.Perm bothLetters →
      (ProxyRules.empty.withVariables vars).rule? "http" = some ⟨"http://[::8]:3128", none⟩) ∧
    ∀ vars, vars.Perm bothLetters → ∀ req,
      (ProxyRules.empty.withVariables vars).prepare req =
        (ProxyRules.empty.withVariables bothLetters).prepare req := by
  have alone {α : Type} (meaning : String × String → Option α) :
      Agree true meaning bothLetters := by
    have only : ∀ v ∈ bothLetters, hasSmallLetter v.1 = true →
        v = ("http_proxy", "http://[::8]:3128") := by decide
    intro v memv w memw first second a b here there
    rw [only v memv first] at here
    rw [only w memw second] at there
    exact Option.some.inj (here.symm.trans there)
  have distinct : (bothLetters.map Prod.fst).Nodup := by decide
  obtain ⟨-, -, same, decides, -⟩ := withVariables_perm_iff .empty distinct
  constructor
  · refine (decides "http" "http_proxy" "http://[::8]:3128" _ ?_ ?_ ?_ ?_ ?_).mpr (alone _)
    · decide
    · decide
    · exact .head _
    · decide
    · decide +kernel
  · exact fun vars perm => (same (fun scheme => alone _) (alone _) vars perm).2

/-- Two variables for a scheme with small letters, one of them in small letters throughout. -/
def mixedLetters : List (String × String) :=
  [("http_proxy", "http://[::8]:3128"), ("Http_proxy", "http://[::9]:3128")]

/-- The variable that is not in small letters throughout decides if it comes last. -/
theorem mixed_letters_decide :
    (mixedLetters.map Prod.fst).Nodup ∧ mixedLetters.reverse.Perm mixedLetters ∧
      offer? "http" ("http_proxy", "http://[::8]:3128") = some ⟨"http://[::8]:3128", none⟩ ∧
      (ProxyRules.empty.withVariables mixedLetters).rule? "http" =
        some ⟨"http://[::9]:3128", none⟩ ∧
      (ProxyRules.empty.withVariables mixedLetters.reverse).rule? "http" =
        some ⟨"http://[::8]:3128", none⟩ := by
  refine ⟨by decide, List.reverse_perm _, ?_, ?_, ?_⟩ <;> decide +kernel

end ProxyRules

end Wayfarer
