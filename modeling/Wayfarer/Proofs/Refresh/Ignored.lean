import Wayfarer.Proofs.Html.Selection
import Wayfarer.Refresh.Directive

/-!
Directives in ignored contexts.

* `FirstAt`: a relation holds at a place of a list and at none before it; `FirstAt.le_of_imp`: a
  smaller relation first holds there or later;
* `Html.Element.Directs`: a `meta` that gives a directive, and `Html.Place.Outside`: a place below
  no element that is ignored;
* `Refresh.inTrees?_eq_some_iff`: the directive of a pruned forest is the first one in it;
* `Refresh.IsFirst`, `Refresh.exists_isFirst_iff`: the first directive outside, in the order of all
  elements;
* `Refresh.directive_outside`: **the directive of a document** does not depend on what is ignored,
  and with more names to be ignored it stays, comes later or is none.
-/

namespace Wayfarer

/-! ### First places -/

/-- A relation holds at the place `i` of a list, and at no place before it. -/
structure FirstAt {α β : Type} (gives : α → β → Prop) (l : List α) (i : ℕ) (b : β) : Prop where
  here : ∃ a, l[i]? = some a ∧ gives a b
  before : ∀ j < i, ∀ a, l[j]? = some a → ∀ b, ¬gives a b

section

variable {α β : Type} {gives gives' : α → β → Prop} {l : List α} {f : α → Option β} {i j : ℕ}
  {b b' : β}

/-- The value of a search is given at a first place. -/
lemma findSome?_eq_some_iff_firstAt (spec : ∀ a b, f a = some b ↔ gives a b) :
    l.findSome? f = some b ↔ ∃ i, FirstAt gives l i b := by
  constructor
  · intro found
    obtain ⟨front, a, back, rfl, here, before⟩ := List.findSome?_eq_some_iff.mp found
    refine ⟨front.length, ⟨a, by simp, (spec a b).mp here⟩, fun j less x there c given => ?_⟩
    rw [List.getElem?_append_left less] at there
    cases (before x (List.mem_of_getElem? there)).symm.trans ((spec x c).mpr given)
  · rintro ⟨i, ⟨a, there, given⟩, before⟩
    obtain ⟨short, rfl⟩ := List.getElem?_eq_some_iff.mp there
    refine List.findSome?_eq_some_iff.mpr ⟨l.take i, l[i], l.drop (i + 1), ?_, ?_, ?_⟩
    · rw [← List.drop_eq_getElem_cons short, List.take_append_drop]
    · exact (spec _ _).mpr given
    · intro x mem
      obtain ⟨j, less, rfl⟩ := List.mem_take_iff_getElem.mp mem
      rw [Option.eq_none_iff_forall_ne_some]
      intro c found
      have less' := Nat.lt_min.mp less
      exact before j less'.1 _ (List.getElem?_eq_getElem less'.2) c ((spec _ _).mp found)

/-- A smaller relation first holds there or later, and there of nothing else. -/
lemma FirstAt.le_of_imp (smaller : ∀ a b, gives' a b → gives a b)
    (unique : ∀ a b b', gives a b → gives a b' → b' = b) (first : FirstAt gives l i b)
    (first' : FirstAt gives' l j b') : i ≤ j ∧ (j = i → b' = b) := by
  obtain ⟨a', there', given'⟩ := first'.here
  refine ⟨Nat.not_lt.mp fun less => first.before j less a' there' b' (smaller _ _ given'), ?_⟩
  rintro rfl
  obtain ⟨a, there, given⟩ := first.here
  obtain rfl := Option.some.inj (there.symm.trans there')
  exact unique a b b' given (smaller _ _ given')

/-- A search in a list that is filtered looks at what the filter keeps. -/
lemma findSome?_filter (p : α → Bool) (f : α → Option β) (l : List α) :
    (l.filter p).findSome? f = l.findSome? fun a => if p a then f a else none := by
  induction l with
  | nil => rfl
  | cons a l ih =>
      rw [List.findSome?_cons]
      by_cases kept : p a = true
      · rw [List.filter_cons_of_pos kept, List.findSome?_cons, if_pos kept, ih]
      · rw [List.filter_cons_of_neg kept, if_neg kept, ih]

end

/-! ### Elements that give directives -/

/-- An element gives a directive: it is a `meta` that stands for the header field `Refresh`, and its
content is the directive. -/
structure Html.Element.Directs (e : Html.Element) (r : Refresh) : Prop where
  name : e.name = "meta"
  header : ∃ value, e.attribute? "http-equiv" = some value ∧
    lowered (trimBlanks value) = "refresh"
  content : ∃ value, e.attribute? "content" = some value ∧ Refresh.parse? value = some r

lemma Html.Element.refresh?_eq_some_iff (e : Html.Element) (r : Refresh) :
    e.refresh? = some r ↔ e.Directs r := by
  have small : lowered "refresh" = "refresh" := by decide
  rw [refresh?]
  constructor
  · intro found
    split at found
    · next header content named valued =>
        split_ifs at found with meant
        rw [Bool.and_eq_true, decide_eq_true_eq, sameLetters, beq_iff_eq, small] at meant
        exact ⟨meant.1, ⟨header, named, meant.2⟩, content, valued, found⟩
    · cases found
  · rintro ⟨name, ⟨header, named, same⟩, content, valued, parses⟩
    simp [named, valued, name, sameLetters, same, small, parses]

/-- No element above a place has one of the ignored names, in any letters. -/
def Html.Place.Outside (ignored : List String) (p : Html.Place) : Prop :=
  ∀ name ∈ p.above, ∀ tag ∈ ignored, lowered tag ≠ lowered name

namespace Refresh

variable {ignored wider : List String} {ts : List Html.Tree} {r : Refresh}

lemma ignores_eq_true_iff {name : String} :
    ignores ignored name = true ↔ ∃ tag ∈ ignored, lowered tag = lowered name := by
  simp [ignores, sameLetters]

lemma isOutside_iff (p : Html.Place) :
    p.isOutside (ignores ignored) = true ↔ p.Outside ignored := by
  simp [Html.Place.isOutside, Html.Place.Outside, ignores, sameLetters]

/-! ### The first directive -/

lemma inTrees?_eq_findSome? (ignored : List String) (ts : List Html.Tree) :
    inTrees? ignored ts =
      (Html.selection (Html.pruneAll (ignores ignored) ts)).findSome? fun p => p.element.refresh? :=
  Html.map_earliestOutside _ _ _

/-- **The directive of a document** is the first one in the pruned forest. -/
theorem inTrees?_eq_some_iff : inTrees? ignored ts = some r ↔
    ∃ i, FirstAt (fun p => p.element.Directs)
      (Html.selection (Html.pruneAll (ignores ignored) ts)) i r := by
  rw [inTrees?_eq_findSome?]
  exact findSome?_eq_some_iff_firstAt fun p => p.element.refresh?_eq_some_iff

/-- A directive is given at a place outside, in the order of all elements, and none before it. -/
def IsFirst (ignored : List String) (ts : List Html.Tree) : ℕ → Refresh → Prop :=
  FirstAt (fun p r => p.Outside ignored ∧ p.element.Directs r) (Html.selection ts)

/-- It is the first one outside in the order of all elements. -/
theorem exists_isFirst_iff : inTrees? ignored ts = some r ↔ ∃ i, IsFirst ignored ts i r := by
  rw [inTrees?_eq_findSome?, Html.selection_pruneAll, findSome?_filter]
  refine findSome?_eq_some_iff_firstAt fun p r => ?_
  rw [← isOutside_iff, ← p.element.refresh?_eq_some_iff]
  by_cases outside : p.isOutside (ignores ignored) = true <;> simp [outside]

/-- Numbers in the same order do not change it, nor does what is pruned. -/
lemma inTrees?_of_pruneAll_eq {ts' : List Html.Tree} {f : ℕ → ℕ}
    (kept : StrictMonoOn f
      {n | ∃ p ∈ Html.selection (Html.pruneAll (ignores ignored) ts), p.order = n})
    (same : Html.pruneAll (ignores ignored) ts' =
      Html.renumberAll f (Html.pruneAll (ignores ignored) ts)) :
    inTrees? ignored ts' = inTrees? ignored ts := by
  rw [inTrees?_eq_findSome?, inTrees?_eq_findSome?, same, Html.selection_renumberAll kept,
    List.findSome?_map]
  rfl

/-- With more names to be ignored, fewer places are outside. -/
lemma outside_of_wider (more : ∀ tag ∈ ignored, ignores wider tag = true) {p : Html.Place}
    (outside : p.Outside wider) : p.Outside ignored := by
  intro name above tag mem same
  obtain ⟨tag', mem', same'⟩ := ignores_eq_true_iff.mp (more tag mem)
  exact outside name above tag' mem' (same'.trans same)

/-- So a directive is given there or later. -/
lemma IsFirst.le_of_wider {i j : ℕ} {r' : Refresh}
    (more : ∀ tag ∈ ignored, ignores wider tag = true) (first : IsFirst ignored ts i r)
    (first' : IsFirst wider ts j r') : i ≤ j ∧ (j = i → r' = r) := by
  refine FirstAt.le_of_imp ?_ ?_ first first'
  · rintro p r ⟨outside, directs⟩
    exact ⟨outside_of_wider more outside, directs⟩
  · rintro p r r' ⟨-, directs⟩ ⟨-, directs'⟩
    rw [← p.element.refresh?_eq_some_iff] at directs directs'
    exact Option.some.inj (directs'.symm.trans directs)

/-- And none is given where none was. -/
lemma inTrees?_eq_none_of_wider (more : ∀ tag ∈ ignored, ignores wider tag = true)
    (none : inTrees? ignored ts = none) : inTrees? wider ts = .none := by
  rw [inTrees?_eq_findSome?, Html.selection_pruneAll, findSome?_filter,
    List.findSome?_eq_none_iff] at none ⊢
  intro p mem
  have without := none p mem
  by_cases outside : p.isOutside (ignores wider) = true
  · have outside' : p.isOutside (ignores ignored) = true :=
      (isOutside_iff p).mpr (outside_of_wider more ((isOutside_iff p).mp outside))
    rw [if_pos outside'] at without
    rw [if_pos outside, without]
  · rw [if_neg outside]

/-- **The directive of a document** is the first one outside what is ignored, in the order of
creation: that of the pruned forest, whatever has been pruned. With more names to be ignored it
stays, comes later or is none. -/
theorem directive_outside (ignored : List String) (ts : List Html.Tree) :
    (∀ text, (find? ignored text).map Prod.fst = inTrees? ignored (Html.parse text)) ∧
      (∀ r, inTrees? ignored ts = some r ↔
        ∃ i, FirstAt (fun p => p.element.Directs)
          (Html.selection (Html.pruneAll (ignores ignored) ts)) i r) ∧
      (∀ r, inTrees? ignored ts = some r ↔ ∃ i, IsFirst ignored ts i r) ∧
      (∀ ts' f,
        StrictMonoOn f
          {n | ∃ p ∈ Html.selection (Html.pruneAll (ignores ignored) ts), p.order = n} →
        Html.pruneAll (ignores ignored) ts' =
          Html.renumberAll f (Html.pruneAll (ignores ignored) ts) →
        inTrees? ignored ts' = inTrees? ignored ts) ∧
      ∀ wider, (∀ tag ∈ ignored, ignores wider tag = true) →
        (inTrees? ignored ts = none → inTrees? wider ts = none) ∧
          ∀ i r, IsFirst ignored ts i r →
            inTrees? wider ts = none ∨
              ∃ j r', inTrees? wider ts = some r' ∧ IsFirst wider ts j r' ∧ i ≤ j ∧
                (j = i → r' = r) := by
  refine ⟨fun text => ?_, fun r => inTrees?_eq_some_iff, fun r => exists_isFirst_iff,
    fun ts' f kept same => inTrees?_of_pruneAll_eq kept same,
    fun wider more => ⟨inTrees?_eq_none_of_wider more, ?_⟩⟩
  · rw [find?, Option.map_map]
    cases inTrees? ignored (Html.parse text) <;> rfl
  · intro i r first
    cases found : inTrees? wider ts with
    | none => exact .inl rfl
    | some r' =>
        obtain ⟨j, first'⟩ := exists_isFirst_iff.mp found
        exact .inr ⟨j, r', rfl, first', first.le_of_wider more first'⟩

/-- A `meta` with a header field and a content. -/
def metaNode (order : ℕ) (header content : String) : Html.Tree :=
  .node order ⟨"meta", [("http-equiv", header), ("content", content)]⟩ []

/-- A document with something below a `noscript`, and behind it a `meta` that gives no directive and
one that gives one. -/
def behindNoscript (inner : List Html.Tree) (next : ℕ) : List Html.Tree :=
  [.node 0 ⟨"html", []⟩ [.node 1 ⟨"noscript", []⟩ inner, metaNode next "refresh" "soon",
    metaNode (next + 1) " Refresh " "1;/b"]]

/-- The last directive is found whatever is below the element that is ignored, and none is found if
all of the document is ignored too. -/
theorem directive_behind_noscript :
    ∃ r i, r.target = "/b" ∧
      IsFirst ["NoScript"] (behindNoscript [metaNode 2 "refresh" "0;/a"] 3) i r ∧
      inTrees? ["NoScript"] (behindNoscript [] 2) = some r ∧
      (∀ tag ∈ ["NoScript"], ignores ["HTML", "noscript"] tag = true) ∧
      inTrees? ["HTML", "noscript"] (behindNoscript [metaNode 2 "refresh" "0;/a"] 3) = none := by
  obtain ⟨-, -, first, same, wider⟩ :=
    directive_outside ["NoScript"] (behindNoscript [metaNode 2 "refresh" "0;/a"] 3)
  have found : inTrees? ["NoScript"] (behindNoscript [metaNode 2 "refresh" "0;/a"] 3) =
      some ⟨⟨0x3FF0000000000000⟩, "/b"⟩ := by decide +kernel
  obtain ⟨i, here⟩ := (first _).mp found
  -- the numbers behind the one that is left out move up
  have alike : inTrees? ["NoScript"] (behindNoscript [] 2) =
      inTrees? ["NoScript"] (behindNoscript [metaNode 2 "refresh" "0;/a"] 3) := by
    refine same _ (fun n => if n ≤ 1 then n else n - 1) ?_ rfl
    have other : ∀ p ∈ Html.selection (Html.pruneAll (ignores ["NoScript"])
        (behindNoscript [metaNode 2 "refresh" "0;/a"] 3)), p.order ≠ 2 := by decide +kernel
    rintro _ ⟨p, mem, rfl⟩ _ ⟨q, mem', rfl⟩ less
    have left := other p mem
    have right := other q mem'
    dsimp only
    split_ifs <;> omega
  have more : ∀ tag ∈ ["NoScript"], ignores ["HTML", "noscript"] tag = true := by decide
  rcases (wider _ more).2 i _ here with none | ⟨j, r', found', -⟩
  · exact ⟨_, i, rfl, here, alike.trans found, more, none⟩
  · have none : inTrees? ["HTML", "noscript"] (behindNoscript [metaNode 2 "refresh" "0;/a"] 3) =
        .none := by decide +kernel
    cases none.symm.trans found'

end Refresh

end Wayfarer
