import Mathlib.Data.List.Sort
import Wayfarer.Html.Document

/-!
The elements of documents in the order of their creation.

* `Html.Place`: an element with the names of those above it, and `Html.selection`: the elements of a
  forest in the order of creation;
* `List.filter_insertionSort`: what is filtered out of a sorted list is sorted;
* `Html.selection_pruneAll`: **what is left in a pruned forest** are the elements that no element of
  the hidden names is above, in their order;
* `Html.map_earliestOutside`: **the earliest find outside hidden elements** is the first one in the
  pruned forest;
* `Html.renumberAll`: a forest with other numbers, and `Html.selection_renumberAll`: they do not
  count if they keep their order.
-/

/-! ### Sorted lists -/

namespace List

variable {α β : Type} (r : α → α → Prop) [DecidableRel r]

/-- What is filtered out of a sorted list with one element more. -/
lemma filter_orderedInsert [IsTrans α r] (p : α → Bool) (a : α) {l : List α}
    (sorted : l.Pairwise r) :
    (l.orderedInsert r a).filter p =
      if p a = true then (l.filter p).orderedInsert r a else l.filter p := by
  induction l with
  | nil => by_cases here : p a = true <;> simp [here]
  | cons b l ih =>
      obtain ⟨first, rest⟩ := List.pairwise_cons.mp sorted
      rw [orderedInsert_cons]
      split_ifs with before here here
      · -- `a` precedes `b`, and so what is left behind `b`
        rw [filter_cons_of_pos here]
        cases left : (b :: l).filter p with
        | nil => rfl
        | cons c rest' =>
            have mem : c ∈ b :: l := (mem_filter.mp (left ▸ mem_cons_self)).1
            have above : r a c := by
              rcases mem_cons.mp mem with rfl | mem
              · exact before
              · exact IsTrans.trans a b c before (first c mem)
            rw [orderedInsert_cons, if_pos above]
      · rw [filter_cons_of_neg here]
      · by_cases other : p b = true
        · rw [filter_cons_of_pos other, filter_cons_of_pos other, orderedInsert_cons,
            if_neg before, ih rest, if_pos here]
        · rw [filter_cons_of_neg other, filter_cons_of_neg other, ih rest, if_pos here]
      · by_cases other : p b = true
        · rw [filter_cons_of_pos other, filter_cons_of_pos other, ih rest, if_neg here]
        · rw [filter_cons_of_neg other, filter_cons_of_neg other, ih rest, if_neg here]

lemma filter_insertionSort [IsTrans α r] [Std.Total r] (p : α → Bool) (l : List α) :
    (l.insertionSort r).filter p = (l.filter p).insertionSort r := by
  induction l with
  | nil => rfl
  | cons a l ih =>
      rw [insertionSort_cons, filter_orderedInsert r p a (pairwise_insertionSort r l), ih]
      by_cases here : p a = true <;> simp [here]

end List

namespace Wayfarer.Html

variable {α : Type} {hides : String → Bool} {find : Element → Option α} {above : List String}

/-! ### Places -/

/-- An element of a forest with its place in the order of creation and the names of the elements
above it, innermost first. -/
structure Place where
  order : ℕ
  element : Element
  above : List String
deriving Repr, DecidableEq

/-- Whether no element of the hidden names is above a place. -/
def Place.isOutside (hides : String → Bool) (p : Place) : Bool :=
  p.above.all fun name => !hides name

mutual

/-- The places of a tree, of which each has the names `above` above it. -/
def Tree.places (above : List String) : Tree → List Place
  | .node order e children => ⟨order, e, above⟩ :: placesAll (e.name :: above) children

/-- The places of a forest, of which each has the names `above` above it. -/
def placesAll (above : List String) : List Tree → List Place
  | [] => []
  | t :: ts => t.places above ++ placesAll above ts

end

/-- The order of creation. -/
def Place.Before (p q : Place) : Prop :=
  p.order ≤ q.order

instance : DecidableRel Place.Before := fun p q => inferInstanceAs (Decidable (p.order ≤ q.order))

instance : IsTrans Place Place.Before := ⟨fun _ _ _ => Nat.le_trans⟩

instance : Std.Total Place.Before := ⟨fun _ _ => Nat.le_total _ _⟩

/-- The elements of a forest in the order of creation. -/
def selection (ts : List Tree) : List Place :=
  (placesAll [] ts).insertionSort Place.Before

/-! ### Pruned forests -/

mutual

/-- What is below an element has its name above it. -/
lemma Tree.suffix_of_mem_places : ∀ (above : List String) (t : Tree),
    ∀ p ∈ t.places above, above <:+ p.above
  | above, .node order e children => by
      rw [Tree.places, List.forall_mem_cons]
      refine ⟨List.suffix_rfl, fun p mem => ?_⟩
      exact (List.suffix_cons _ _).trans (suffix_of_mem_placesAll (e.name :: above) children p mem)

lemma suffix_of_mem_placesAll : ∀ (above : List String) (ts : List Tree),
    ∀ p ∈ placesAll above ts, above <:+ p.above
  | above, [] => by simp [placesAll]
  | above, t :: ts => by
      rw [placesAll, List.forall_mem_append]
      exact ⟨Tree.suffix_of_mem_places above t, suffix_of_mem_placesAll above ts⟩

end

/-- No place below a hidden element is outside. -/
lemma filter_placesAll_of_hides {name : String} (hidden : hides name = true) (ts : List Tree) :
    (placesAll (name :: above) ts).filter (Place.isOutside hides) = [] := by
  rw [List.filter_eq_nil_iff]
  intro p mem outside
  have inside := (suffix_of_mem_placesAll _ ts p mem).subset List.mem_cons_self
  have shown := List.all_eq_true.mp outside name inside
  rw [hidden] at shown
  cases shown

mutual

/-- The places of a pruned tree are those outside the elements that prune it. -/
lemma Tree.places_prune : ∀ {above : List String}, (∀ name ∈ above, hides name = false) →
    ∀ t : Tree, (t.prune hides).places above = (t.places above).filter (Place.isOutside hides)
  | above, shown, .node order e children => by
      have outside : Place.isOutside hides ⟨order, e, above⟩ = true :=
        List.all_eq_true.mpr fun name mem => by rw [shown name mem]; rfl
      rw [Tree.prune, Tree.places, Tree.places, List.filter_cons_of_pos outside]
      cases hidden : hides e.name with
      | true => rw [if_pos rfl, filter_placesAll_of_hides hidden, placesAll]
      | false =>
          rw [if_neg Bool.false_ne_true,
            placesAll_pruneAll (List.forall_mem_cons.mpr ⟨hidden, shown⟩) children]

lemma placesAll_pruneAll : ∀ {above : List String}, (∀ name ∈ above, hides name = false) →
    ∀ ts : List Tree, placesAll above (pruneAll hides ts) =
      (placesAll above ts).filter (Place.isOutside hides)
  | above, shown, [] => by rw [pruneAll, placesAll, List.filter_nil]
  | above, shown, t :: ts => by
      rw [pruneAll, placesAll, placesAll, List.filter_append, Tree.places_prune shown t,
        placesAll_pruneAll shown ts]

end

/-- **What is left in a pruned forest** are the elements outside those that prune it, in the order
of creation. -/
theorem selection_pruneAll (hides : String → Bool) (ts : List Tree) :
    selection (pruneAll hides ts) = (selection ts).filter (Place.isOutside hides) := by
  rw [selection, selection, placesAll_pruneAll (List.forall_mem_nil _) ts,
    List.filter_insertionSort]

/-! ### Finding -/

/-- What is found at a place, with its place in the order of creation. -/
def Place.found (find : Element → Option α) (p : Place) : Option (ℕ × α) :=
  (find p.element).map fun a => (p.order, a)

/-- What is found at the earliest of some places. -/
def earliestOf (find : Element → Option α) (places : List Place) : Option (ℕ × α) :=
  places.foldr (fun p => earlier (p.found find)) none

@[simp] lemma earlier_none_left (x : Option (ℕ × α)) : earlier none x = x := by
  rw [earlier]

@[simp] lemma earlier_none_right (x : Option (ℕ × α)) : earlier x none = x := by
  cases x <;> rfl

lemma earlier_assoc (x y z : Option (ℕ × α)) :
    earlier (earlier x y) z = earlier x (earlier y z) := by
  cases x with
  | none => simp
  | some x =>
      cases y with
      | none => simp
      | some y =>
          cases z with
          | none => simp
          | some z =>
              rw [earlier, earlier]
              by_cases yx : y.1 < x.1 <;> by_cases zy : z.1 < y.1
              · have zx : z.1 < x.1 := zy.trans yx
                simp [yx, zy, zx, earlier]
              · simp [yx, zy, earlier]
              · simp [yx, zy, earlier]
              · have zx : ¬z.1 < x.1 := by omega
                simp [yx, zy, zx, earlier]

lemma earliestOf_append (find : Element → Option α) (front back : List Place) :
    earliestOf find (front ++ back) = earlier (earliestOf find front) (earliestOf find back) := by
  induction front with
  | nil => exact (earlier_none_left _).symm
  | cons p front ih =>
      rw [earliestOf, earliestOf, List.cons_append, List.foldr_cons, List.foldr_cons,
        ← earliestOf, ih, earlier_assoc]
      rfl

mutual

lemma Tree.earliestOutside_eq : ∀ (above : List String) (t : Tree),
    t.earliestOutside hides find = earliestOf find ((t.prune hides).places above)
  | above, .node order e children => by
      rw [Tree.earliestOutside, Tree.prune, Tree.places, earliestOf, List.foldr_cons, ← earliestOf]
      cases hidden : hides e.name with
      | true => rw [if_pos rfl, if_pos rfl]; rfl
      | false =>
          rw [if_neg Bool.false_ne_true, if_neg Bool.false_ne_true,
            earliestOutside_eq_earliestOf (e.name :: above) children]
          rfl

lemma earliestOutside_eq_earliestOf : ∀ (above : List String) (ts : List Tree),
    earliestOutside hides find ts = earliestOf find (placesAll above (pruneAll hides ts))
  | above, [] => by
      rw [earliestOutside, pruneAll, placesAll, earliestOf, List.foldr_nil]
  | above, t :: ts => by
      rw [earliestOutside, pruneAll, placesAll, earliestOf_append,
        Tree.earliestOutside_eq above t, earliestOutside_eq_earliestOf above ts]

end

/-- With a place put in where it belongs, the first find is there or where it was before. -/
lemma findSome?_orderedInsert (find : Element → Option α) (p : Place) {places : List Place}
    (sorted : places.Pairwise Place.Before) :
    (places.orderedInsert Place.Before p).findSome? (Place.found find) =
      earlier (p.found find) (places.findSome? (Place.found find)) := by
  induction places with
  | nil => cases here : p.found find <;> simp [here]
  | cons q places ih =>
      obtain ⟨first, rest⟩ := List.pairwise_cons.mp sorted
      rw [List.orderedInsert_cons]
      split_ifs with before
      · rw [List.findSome?_cons]
        cases here : p.found find with
        | none => rw [earlier_none_left]
        | some x =>
            obtain ⟨a, -, rfl⟩ := Option.map_eq_some_iff.mp here
            cases behind : (q :: places).findSome? (Place.found find) with
            | none => rfl
            | some y =>
                obtain ⟨r, mem, there⟩ := List.exists_of_findSome?_eq_some behind
                obtain ⟨b, -, rfl⟩ := Option.map_eq_some_iff.mp there
                have later : p.order ≤ r.order := by
                  rcases List.mem_cons.mp mem with rfl | mem
                  · exact before
                  · exact Nat.le_trans before (first r mem)
                rw [earlier, if_neg (Nat.not_lt.mpr later)]
      · rw [List.findSome?_cons, List.findSome?_cons]
        cases there : q.found find with
        | none => exact ih rest
        | some y =>
            obtain ⟨b, -, rfl⟩ := Option.map_eq_some_iff.mp there
            cases here : p.found find with
            | none => rfl
            | some x =>
                obtain ⟨a, -, rfl⟩ := Option.map_eq_some_iff.mp here
                rw [earlier, if_pos (Nat.not_le.mp before)]

lemma earliestOf_eq_findSome? (find : Element → Option α) (places : List Place) :
    earliestOf find places =
      (places.insertionSort Place.Before).findSome? (Place.found find) := by
  induction places with
  | nil => rfl
  | cons p places ih =>
      rw [List.insertionSort_cons,
        findSome?_orderedInsert find p (List.pairwise_insertionSort Place.Before places), ← ih]
      rfl

/-- **The earliest find outside hidden elements** is the first one in the pruned forest. -/
theorem map_earliestOutside (hides : String → Bool) (find : Element → Option α) (ts : List Tree) :
    (earliestOutside hides find ts).map Prod.snd =
      (selection (pruneAll hides ts)).findSome? fun p => find p.element := by
  rw [earliestOutside_eq_earliestOf [] ts, earliestOf_eq_findSome?, ← selection,
    List.map_findSome?]
  congr 1
  funext p
  rw [Function.comp_apply, Place.found]
  cases find p.element <;> rfl

/-! ### Other numbers -/

mutual

/-- A tree with other numbers. -/
def Tree.renumber (f : ℕ → ℕ) : Tree → Tree
  | .node order e children => .node (f order) e (renumberAll f children)

/-- A forest with other numbers. -/
def renumberAll (f : ℕ → ℕ) : List Tree → List Tree
  | [] => []
  | t :: ts => t.renumber f :: renumberAll f ts

end

/-- A place with another number. -/
def Place.renumber (f : ℕ → ℕ) (p : Place) : Place :=
  { p with order := f p.order }

mutual

lemma Tree.places_renumber (f : ℕ → ℕ) : ∀ (above : List String) (t : Tree),
    (t.renumber f).places above = (t.places above).map (Place.renumber f)
  | above, .node order e children => by
      rw [Tree.renumber, Tree.places, Tree.places, List.map_cons, placesAll_renumberAll]
      rfl

lemma placesAll_renumberAll (f : ℕ → ℕ) : ∀ (above : List String) (ts : List Tree),
    placesAll above (renumberAll f ts) = (placesAll above ts).map (Place.renumber f)
  | above, [] => by rw [renumberAll, placesAll, List.map_nil]
  | above, t :: ts => by
      rw [renumberAll, placesAll, placesAll, List.map_append, Tree.places_renumber,
        placesAll_renumberAll]

end

/-- **Numbers in the same order** do not change the order of the elements. -/
theorem selection_renumberAll {f : ℕ → ℕ} {ts : List Tree}
    (kept : StrictMonoOn f {n | ∃ p ∈ selection ts, p.order = n}) :
    selection (renumberAll f ts) = (selection ts).map (Place.renumber f) := by
  rw [selection, selection, placesAll_renumberAll,
    List.map_insertionSort Place.Before Place.Before]
  intro p mem q mem'
  have here (p : Place) (mem : p ∈ placesAll [] ts) :
      p.order ∈ {n | ∃ p ∈ selection ts, p.order = n} :=
    ⟨p, (List.mem_insertionSort _).mpr mem, rfl⟩
  exact (kept.le_iff_le (here p mem) (here q mem')).symm

end Wayfarer.Html
