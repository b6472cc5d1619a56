import Wayfarer.Proofs.Proxy.Exempt
import Wayfarer.Proofs.Text.Ends

/-!
What an environment says about proxies.

* `ProxyRules.offer?`, `ProxyRules.items?`: what one variable says, about a scheme and about the
  hosts that need no proxy;
* `ProxyRules.Decides`: which of several variables counts: the last one that is not in capitals only
  and says something, else the last one in capitals, else none;
* `ProxyRules.answer?`, `ProxyRules.decides_answer?`: the same as a function;
* `ProxyRules.rule?_eq_of_answer`, `ProxyRules.exempt_eq_of_answer`: what rules take from an
  environment;
* `ProxyRules.alike_withVariables_of_error`: a value that names no proxy might as well be left out;
* `ProxyRules.rules_of_variables`: **what rules are made of an environment**.
-/

namespace Wayfarer

namespace ProxyRules

variable {α : Type} {r : ProxyRules} {scheme key : String} {small : Bool} {a : α}
variable {var : String × String} {vars front back : List (String × String)}
variable {meaning : String × String → Option α}

/-! ### What a variable says -/

/-- The proxy that a variable offers for a scheme: it has a value, in whatever letters its name is
the one of the scheme, and the value names a proxy. -/
def offer? (scheme : String) (var : String × String) : Option Endpoint :=
  if trimBlanks var.2 ≠ "" ∧ lowered var.1 = scheme ++ "_proxy" then
    (Endpoint.parse var.2).toOption
  else none

/-- The hosts that a variable exempts: it has a value, in whatever letters its name is the one of
the list, and the hosts are the items of the list, blank ones left out. -/
def items? (var : String × String) : Option (List String) :=
  if trimBlanks var.2 ≠ "" ∧ lowered var.1 = exemptKey then
    some ((listItems var.2).map exemption)
  else none

/-- Which of several variables counts, where `meaning` is what each of them says, if anything. -/
inductive Decides (meaning : String × String → Option α) (vars : List (String × String)) :
    Option α → Prop
  /-- The last one that is not in capitals only. -/
  | small {front back : List (String × String)} {var : String × String} {a : α}
      (whole : vars = front ++ var :: back) (spelt : hasSmallLetter var.1 = true)
      (told : meaning var = some a)
      (last : ∀ later ∈ back, hasSmallLetter later.1 = true → meaning later = none) :
      Decides meaning vars (some a)
  /-- The last one in capitals, where no other one says anything. -/
  | capital {front back : List (String × String)} {var : String × String} {a : α}
      (whole : vars = front ++ var :: back) (spelt : hasSmallLetter var.1 = false)
      (told : meaning var = some a)
      (alone : ∀ other ∈ vars, hasSmallLetter other.1 = true → meaning other = none)
      (last : ∀ later ∈ back, hasSmallLetter later.1 = false → meaning later = none) :
      Decides meaning vars (some a)
  /-- None, where none says anything. -/
  | silent (mute : ∀ var ∈ vars, meaning var = none) : Decides meaning vars none

/-! ### The variable that counts -/

/-- What a variable says if its name is spelt with small letters, or without. -/
def told (small : Bool) (meaning : String × String → Option α) (var : String × String) : Option α :=
  if hasSmallLetter var.1 = small then meaning var else none

/-- What is said last among variables of a spelling. -/
def latest? (small : Bool) (meaning : String × String → Option α)
    (vars : List (String × String)) : Option α :=
  (vars.filterMap (told small meaning)).getLast?

/-- What the variable says that counts. -/
def answer? (meaning : String × String → Option α) (vars : List (String × String)) : Option α :=
  (latest? true meaning vars).or (latest? false meaning vars)

/-- What is last among the answers is the answer to the last question that has one. -/
lemma exists_of_getLast?_filterMap {β : Type} {f : β → Option α} {l : List β} {a : α}
    (h : (l.filterMap f).getLast? = some a) :
    ∃ front x back, l = front ++ x :: back ∧ f x = some a ∧ ∀ y ∈ back, f y = none := by
  induction l using List.reverseRecOn with
  | nil => cases h
  | append_singleton l x ih =>
      rw [List.filterMap_append, List.getLast?_append] at h
      cases here : f x with
      | some b =>
          rw [List.filterMap_cons_some here] at h
          obtain rfl : b = a := Option.some.inj h
          exact ⟨l, x, [], rfl, here, nofun⟩
      | none =>
          rw [List.filterMap_cons_none here] at h
          obtain ⟨front, y, back, rfl, found, last⟩ := ih h
          refine ⟨front, y, back ++ [x], by simp, found, ?_⟩
          exact List.forall_mem_append.mpr ⟨last, by simpa using here⟩

lemma told_eq_some_iff :
    told small meaning var = some a ↔ hasSmallLetter var.1 = small ∧ meaning var = some a := by
  rw [told]
  split_ifs with spelt <;> simp [spelt]

lemma told_eq_none_iff :
    told small meaning var = none ↔ (hasSmallLetter var.1 = small → meaning var = none) := by
  rw [told]
  split_ifs with spelt <;> simp [spelt]

lemma latest?_eq_none_iff :
    latest? small meaning vars = none ↔
      ∀ var ∈ vars, hasSmallLetter var.1 = small → meaning var = none := by
  rw [latest?, List.getLast?_eq_none_iff, List.filterMap_eq_nil_iff]
  exact forall₂_congr fun _ _ => told_eq_none_iff

lemma exists_of_latest? (h : latest? small meaning vars = some a) :
    ∃ front var back, vars = front ++ var :: back ∧ hasSmallLetter var.1 = small ∧
      meaning var = some a ∧
      ∀ later ∈ back, hasSmallLetter later.1 = small → meaning later = none := by
  obtain ⟨front, var, back, whole, found, last⟩ := exists_of_getLast?_filterMap h
  obtain ⟨spelt, here⟩ := told_eq_some_iff.mp found
  refine ⟨front, var, back, whole, spelt, here, fun later mem => ?_⟩
  exact told_eq_none_iff.mp (last later mem)

/-- The function finds the variable that counts. -/
theorem decides_answer? (meaning : String × String → Option α) (vars : List (String × String)) :
    Decides meaning vars (answer? meaning vars) := by
  rw [answer?]
  cases first : latest? true meaning vars with
  | some a =>
      obtain ⟨front, var, back, whole, spelt, told, last⟩ := exists_of_latest? first
      exact .small whole spelt told last
  | none =>
      have alone := latest?_eq_none_iff.mp first
      cases second : latest? false meaning vars with
      | some a =>
          obtain ⟨front, var, back, whole, spelt, told, last⟩ := exists_of_latest? second
          exact .capital whole spelt told alone last
      | none =>
          refine .silent fun var mem => ?_
          cases spelt : hasSmallLetter var.1 with
          | true => exact alone var mem spelt
          | false => exact latest?_eq_none_iff.mp second var mem spelt

/-- What is said last is what counts among variables of a spelling. -/
lemma latest?_eq_some (spelt : hasSmallLetter var.1 = small) (here : meaning var = some a)
    (last : ∀ later ∈ back, hasSmallLetter later.1 = small → meaning later = none) :
    latest? small meaning (front ++ var :: back) = some a := by
  have none : back.filterMap (told small meaning) = [] :=
    List.filterMap_eq_nil_iff.mpr fun later mem => told_eq_none_iff.mpr (last later mem)
  rw [latest?, List.filterMap_append, List.filterMap_cons_some (told_eq_some_iff.mpr ⟨spelt, here⟩),
    none, List.getLast?_append]
  rfl

/-- No more than one answer counts. -/
theorem Decides.eq_answer? {answer : Option α}
    (decides : Decides meaning vars answer) : answer = answer? meaning vars := by
  rw [ProxyRules.answer?]
  cases decides with
  | small whole spelt here last =>
      rw [whole, latest?_eq_some spelt here last]
      rfl
  | capital whole spelt here alone last =>
      rw [latest?_eq_none_iff.mpr alone, whole, latest?_eq_some spelt here last]
      rfl
  | silent mute =>
      rw [latest?_eq_none_iff.mpr fun var mem _ => mute var mem,
        latest?_eq_none_iff.mpr fun var mem _ => mute var mem]
      rfl

/-- A variable that says nothing might as well be left out. -/
lemma answer?_of_mute (mute : meaning var = none)
    (front back : List (String × String)) :
    answer? meaning (front ++ var :: back) = answer? meaning (front ++ back) := by
  have same (small : Bool) :
      latest? small meaning (front ++ var :: back) = latest? small meaning (front ++ back) := by
    rw [latest?, latest?, List.filterMap_append, List.filterMap_append,
      List.filterMap_cons_none (told_eq_none_iff.mpr fun _ => mute)]
  rw [answer?, answer?, same, same]

/-! ### The order in which variables are read -/

/-- What is said of a variable once it is read, if it has a value at all. -/
def heard (f : String × String → Option α) (var : String × String) : Option α :=
  if trimBlanks var.2 = "" then none else f (lowered var.1, trimBlanks var.2)

/-- Variables in capitals are read first. -/
lemma filterMap_ranked (f : String × String → Option α) (vars : List (String × String)) :
    (ranked vars).filterMap f =
      vars.filterMap (told false (heard f)) ++ vars.filterMap (told true (heard f)) := by
  simp only [ranked, List.partition_eq_filter_filter, List.filterMap_map, List.filterMap_append,
    List.filterMap_filter]
  refine congrArg₂ (· ++ ·) (List.filterMap_congr fun var _ => ?_)
    (List.filterMap_congr fun var _ => ?_)
  all_goals
    simp only [Function.comp_apply, told, heard]
    cases hasSmallLetter var.1 <;> cases blank : (trimBlanks var.2).isEmpty <;> simp_all

/-! ### Rules for schemes -/

lemma rule?_setRule (r : ProxyRules) (t scheme : String) (e : Endpoint) :
    (r.setRule t e).rule? scheme = if t = scheme then some e else r.rule? scheme := by
  rw [setRule, rule?, List.find?_cons]
  by_cases same : t = scheme <;> simp [same, rule?]

/-- The proxy that a variable sets for a scheme, its name in small letters. -/
def ruled? (scheme : String) (var : String × String) : Option Endpoint :=
  if var.1 = exemptKey ∨ schemeOfKey? var.1 ≠ some scheme then none
  else (Endpoint.parse var.2).toOption

lemma rule?_readVariable (r : ProxyRules) (scheme : String) (var : String × String) :
    (r.readVariable var).rule? scheme = (ruled? scheme var).or (r.rule? scheme) := by
  rw [readVariable, ruled?]
  by_cases exempting : var.1 = exemptKey
  · simp [exempting]
  · cases known : schemeOfKey? var.1 with
    | none => simp [exempting]
    | some t =>
      cases reads : Endpoint.parse var.2 with
      | error _ => simp [exempting, Except.toOption]
      | ok e =>
        rw [if_neg exempting]
        dsimp only
        rw [rule?_setRule]
        by_cases same : t = scheme <;> simp [exempting, same, Except.toOption]

lemma rule?_readVariables (vars : List (String × String)) (r : ProxyRules) (scheme : String) :
    (vars.foldl readVariable r).rule? scheme =
      (vars.filterMap (ruled? scheme)).getLast?.or (r.rule? scheme) := by
  induction vars generalizing r with
  | nil => rfl
  | cons var vars ih =>
      rw [List.foldl_cons, ih, rule?_readVariable]
      cases here : ruled? scheme var with
      | none => rw [List.filterMap_cons_none here, Option.none_or]
      | some e =>
        rw [List.filterMap_cons_some here, List.getLast?_cons]
        cases (vars.filterMap (ruled? scheme)).getLast? <;> rfl

lemma schemeOfKey?_eq_some_iff :
    schemeOfKey? key = some scheme ↔ scheme ≠ "" ∧ key = scheme ++ "_proxy" := by
  have parts : key = scheme ++ "_proxy" ↔ scheme.toList ++ "_proxy".toList = key.toList := by
    rw [← String.toList_inj, String.toList_append, eq_comm]
  rw [parts, ← List.isSuffixOf?_eq_some_iff_append_eq, schemeOfKey?, ne_eq, ← String.toList_inj]
  cases "_proxy".toList.isSuffixOf? key.toList with
  | none => simp
  | some front =>
      cases front with
      | nil =>
          simp only [Option.some.injEq, reduceCtorEq, false_iff, not_and]
          exact fun filled empty => filled empty.symm
      | cons c front =>
          simp only [Option.some.injEq]
          constructor
          · rintro rfl
            simp
          · rintro ⟨-, whole⟩
            rw [whole, String.ofList_toList]

lemma trimBlanks_trimBlanks (s : String) : trimBlanks (trimBlanks s) = trimBlanks s := by
  rw [trimBlanks, trimBlanks, String.toList_ofList, trim_eq_stripped, trim_eq_stripped,
    stripped_stripped fun _ => id]

lemma parse_trimBlanks (raw : String) : Endpoint.parse (trimBlanks raw) = Endpoint.parse raw := by
  delta Endpoint.parse
  rw [trimBlanks_trimBlanks]

/-- A name in small letters is for a scheme, unless it is the one of the list. -/
lemma key_iff (filled : scheme ≠ "") (other : scheme ≠ "no") :
    key = exemptKey ∨ schemeOfKey? key ≠ some scheme ↔ key ≠ scheme ++ "_proxy" := by
  have list : exemptKey = "no" ++ "_proxy" := by decide
  rw [ne_eq, schemeOfKey?_eq_some_iff, list]
  by_cases named : key = scheme ++ "_proxy"
  · rw [named, String.append_left_inj]
    simp [filled, other]
  · simp [named]

lemma heard_ruled? (filled : scheme ≠ "") (other : scheme ≠ "no") :
    heard (ruled? scheme) = offer? scheme := by
  funext var
  rw [heard, ruled?, offer?]
  dsimp only
  simp only [key_iff filled other, parse_trimBlanks]
  by_cases blank : trimBlanks var.2 = "" <;>
    by_cases named : lowered var.1 = scheme ++ "_proxy" <;> simp [blank, named]

/-- No variable is for the empty scheme, nor for the one that would be named like the list. -/
lemma heard_ruled?_eq_none (none : scheme = "" ∨ scheme = "no") (var : String × String) :
    heard (ruled? scheme) var = Option.none := by
  rw [heard, ruled?]
  split_ifs with blank named
  · rfl
  · rfl
  · obtain ⟨list, known⟩ := not_or.mp named
    obtain ⟨filled, key⟩ := schemeOfKey?_eq_some_iff.mp (not_not.mp known)
    rcases none with rfl | rfl
    · exact absurd rfl filled
    · exact absurd key list

/-- The rule for a scheme after an environment. -/
lemma rule?_withVariables (r : ProxyRules) (scheme : String) (vars : List (String × String)) :
    (r.withVariables vars).rule? scheme =
      (answer? (heard (ruled? scheme)) vars).or (r.rule? scheme) := by
  have same : (r.withVariables vars).rule? scheme =
      ((ranked vars).foldl readVariable r).rule? scheme := by
    rw [withVariables]
    split <;> rfl
  rw [same, rule?_readVariables, filterMap_ranked, List.getLast?_append]
  rfl

/-- It is what the variable that counts offers, else the rule before. -/
lemma rule?_eq_of_answer (filled : scheme ≠ "") (other : scheme ≠ "no") :
    (r.withVariables vars).rule? scheme =
      (answer? (offer? scheme) vars).or (r.rule? scheme) := by
  rw [rule?_withVariables, heard_ruled? filled other]

/-! ### Lists of hosts -/

/-- The items of a list are those of its text without blanks at the ends. -/
lemma map_exemption_listItems (value : String) : (listItems value).map exemption =
    ((((splitAtEvery (· = ',') value.toList).map (stripped isBlank)).map String.ofList).filter
      fun item => !item.isEmpty).map lowered := by
  have each : trimBlanks ∘ String.ofList = String.ofList ∘ stripped isBlank := by
    funext cs
    simp [trimBlanks, trim_eq_stripped]
  have shape : exemption = lowered ∘ trimBlanks := rfl
  rw [List.map_map, ← each, ← List.map_map, List.filter_map, List.map_map, ← shape]
  rfl

lemma items_trimBlanks (value : String) :
    (listItems (trimBlanks value)).map exemption = (listItems value).map exemption := by
  have comma : ∀ c, isBlank c = true → decide (c = ',') = false := by
    intro c blank
    rw [decide_eq_false_iff_not]
    rintro rfl
    exact absurd blank (by decide)
  obtain ⟨front, back, whole, before, behind, -⟩ := exists_stripped isBlank value.toList
  rw [map_exemption_listItems, map_exemption_listItems, trimBlanks, String.toList_ofList,
    trim_eq_stripped]
  conv_rhs => rw [whole, map_stripped_splitAtEvery comma before behind]

/-- The hosts that a variable exempts, its name in small letters. -/
def exempted? (var : String × String) : Option (List String) :=
  if var.1 = exemptKey then some ((listItems var.2).map exemption) else none

lemma heard_exempted? : heard exempted? = items? := by
  funext var
  rw [heard, exempted?, items?]
  dsimp only
  rw [items_trimBlanks]
  by_cases blank : trimBlanks var.2 = "" <;> by_cases named : lowered var.1 = exemptKey <;>
    simp [blank, named]

/-- **The exempt hosts** after an environment are those before and those that the variable that
counts exempts. -/
lemma exempt_eq_of_answer (r : ProxyRules) (vars : List (String × String)) :
    (r.withVariables vars).exempt = r.exempt ++ (answer? items? vars).getD [] := by
  have last : answer? items? vars =
      ((ranked vars).filter (·.1 = exemptKey)).getLast?.map fun var =>
        (listItems var.2).map exemption := by
    have lists : (ranked vars).filterMap exempted? =
        ((ranked vars).filter (·.1 = exemptKey)).map fun var =>
          (listItems var.2).map exemption := by
      rw [← List.filterMap_eq_map, List.filterMap_filter]
      refine List.filterMap_congr fun var _ => ?_
      simp [exempted?]
    rw [← List.getLast?_map, ← lists, filterMap_ranked, List.getLast?_append, heard_exempted?]
    rfl
  rw [last, withVariables]
  cases ((ranked vars).filter (·.1 = exemptKey)).getLast? with
  | none => simp [exempt_readVariables]
  | some var => simp [withExempt, exempt_readVariables]

/-! ### What rules are made of an environment -/

/-- Rules that say the same: the same proxy for each scheme, and the same exempt hosts. -/
structure Alike (r made : ProxyRules) : Prop where
  rule : ∀ scheme, r.rule? scheme = made.rule? scheme
  exempt : r.exempt = made.exempt

/-- Rules that say the same do the same to every request. -/
lemma Alike.prepare_eq {made : ProxyRules} (alike : Alike r made) (req : Request) :
    r.prepare req = made.prepare req := by
  have exempts : r.exempts req.url = made.exempts req.url := by
    rw [exempts, exempts, alike.exempt]
  have select : r.select req.proxy req.url = made.select req.proxy req.url := by
    rw [ProxyRules.select, ProxyRules.select, alike.rule, exempts]
  rw [ProxyRules.prepare_eq, ProxyRules.prepare_eq, select]

/-- A variable with a value that names no proxy might as well be left out. -/
lemma alike_withVariables_of_error (r : ProxyRules) {failure : EndpointError}
    (unreadable : Endpoint.parse var.2 = .error failure) (other : lowered var.1 ≠ exemptKey)
    (front back : List (String × String)) :
    Alike (r.withVariables (front ++ var :: back)) (r.withVariables (front ++ back)) where
  rule := by
    intro scheme
    have mute : heard (ruled? scheme) var = none := by
      rw [heard, ruled?, parse_trimBlanks, unreadable]
      split_ifs <;> rfl
    rw [rule?_withVariables, rule?_withVariables, answer?_of_mute mute]
  exempt := by
    have mute : items? var = none := by
      rw [items?, if_neg fun both => other both.2]
    rw [exempt_eq_of_answer, exempt_eq_of_answer, answer?_of_mute mute]

/-- **What rules are made of an environment.** The proxy for a scheme is the one that the variable
offers that counts, else the one before; the exempt hosts are those before and those of the one list
that counts. A value that names no proxy changes nothing. -/
theorem rules_of_variables (r : ProxyRules) (vars : List (String × String)) :
    (∀ scheme, scheme ≠ "" → scheme ≠ "no" → ∃ answer, Decides (offer? scheme) vars answer ∧
      (r.withVariables vars).rule? scheme = answer.or (r.rule? scheme)) ∧
    (∀ scheme, scheme = "" ∨ scheme = "no" →
      (r.withVariables vars).rule? scheme = r.rule? scheme) ∧
    (∃ answer, Decides items? vars answer ∧
      (r.withVariables vars).exempt = r.exempt ++ answer.getD []) ∧
    ∀ front var back failure, vars = front ++ var :: back →
      Endpoint.parse var.2 = .error failure → lowered var.1 ≠ exemptKey →
      Alike (r.withVariables vars) (r.withVariables (front ++ back)) := by
  refine ⟨fun scheme filled other => ?_, fun scheme none => ?_, ?_, ?_⟩
  · exact ⟨_, decides_answer? _ vars, rule?_eq_of_answer filled other⟩
  · have silent : Decides (heard (ruled? scheme)) vars .none :=
      .silent fun var _ => heard_ruled?_eq_none none var
    rw [rule?_withVariables, ← silent.eq_answer?, Option.none_or]
  · exact ⟨_, decides_answer? _ vars, exempt_eq_of_answer r vars⟩
  · rintro front var back failure rfl unreadable other
    exact alike_withVariables_of_error r unreadable other front back

/-- Variables of several spellings; the value in small letters names no proxy. -/
def spellings : List (String × String) :=
  [("HTTP_PROXY", "http://user:pw@[::9]:3128"), ("http_proxy", "["), ("No_Proxy", " A,,.B "),
    ("NO_PROXY", "*")]

/-- Here the variable in capitals counts for the scheme; of the lists the one that is not in
capitals only counts, and its blank items do not. -/
theorem unreadable_value_hides_nothing :
    (ProxyRules.empty.withVariables spellings).rule? "http" =
        some ⟨"http://[::9]:3128", some ⟨"user", "pw"⟩⟩ ∧
      (ProxyRules.empty.withVariables spellings).exempt = ["a", ".b"] ∧
      Alike (ProxyRules.empty.withVariables spellings)
        (ProxyRules.empty.withVariables (spellings.eraseIdx 1)) := by
  have refused : Endpoint.parse "[" = .error (.unreadable "[" .invalidIpv6) := by decide +kernel
  have capital : Decides (offer? "http") spellings
      (some ⟨"http://[::9]:3128", some ⟨"user", "pw"⟩⟩) :=
    .capital (List.nil_append spellings).symm (by decide) (by decide +kernel) (by decide +kernel)
      (by decide +kernel)
  have small : Decides items? spellings (some ["a", ".b"]) :=
    .small (List.take_append_drop 2 spellings).symm (by decide) (by decide +kernel)
      (by decide +kernel)
  obtain ⟨rule, -, ⟨items, decides', exempt⟩, mute⟩ := rules_of_variables .empty spellings
  obtain ⟨answer, decides, ruled⟩ := rule "http" (by decide) (by decide)
  rw [decides.eq_answer?, ← capital.eq_answer?] at ruled
  rw [decides'.eq_answer?, ← small.eq_answer?] at exempt
  exact ⟨ruled, exempt, mute [_] _ _ _ rfl refused (by decide +kernel)⟩

end ProxyRules

end Wayfarer
