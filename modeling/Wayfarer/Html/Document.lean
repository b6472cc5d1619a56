/-!
Documents.

* `Html.Element`: a name with attributes;
* `Html.Tree`: an element, its place in the order of creation, and what is below it;
* `Html.Tree.prune`: a tree without what is below elements of some names;
* `Html.earliest`: of what a partial function finds in a forest, what the element created first
  gives;
* `Html.earliestOutside`: the same, leaving out what is below elements of some names.
-/

namespace Wayfarer.Html

/-- An element: its name and its attributes, each name once. -/
structure Element where
  name : String
  attributes : List (String × String)
deriving Repr, DecidableEq, Inhabited

/-- The value of an attribute. -/
def Element.attribute? (e : Element) (name : String) : Option String :=
  (e.attributes.find? (·.1 = name)).map (·.2)

/-- An element with the elements below it; `order` is its place in the order of creation. -/
inductive Tree where
  | node (order : Nat) (element : Element) (children : List Tree)
deriving Repr, Inhabited

variable {α : Type}

/-! ### Pruning -/

mutual

/-- A tree without what is below the elements that `hides` names. -/
def Tree.prune (hides : String → Bool) : Tree → Tree
  | .node order e children =>
      .node order e (if hides e.name then [] else pruneAll hides children)

/-- A forest without what is below the elements that `hides` names. -/
def pruneAll (hides : String → Bool) : List Tree → List Tree
  | [] => []
  | t :: ts => t.prune hides :: pruneAll hides ts

end

/-! ### Finding -/

/-- Of two finds the one of the element created first. -/
def earlier : Option (Nat × α) → Option (Nat × α) → Option (Nat × α)
  | none, y => y
  | x, none => x
  | some x, some y => if y.1 < x.1 then some y else some x

mutual

/-- What `find` gives for the elements of a tree that no element named by `hides` is above. -/
def Tree.earliestOutside (hides : String → Bool) (find : Element → Option α) :
    Tree → Option (Nat × α)
  | .node order e children =>
      earlier ((find e).map fun a => (order, a))
        (if hides e.name then none else Html.earliestOutside hides find children)

/-- What `find` gives for the elements of a forest that no element named by `hides` is above; of
several the one created first decides. -/
def earliestOutside (hides : String → Bool) (find : Element → Option α) :
    List Tree → Option (Nat × α)
  | [] => none
  | t :: ts => earlier (t.earliestOutside hides find) (Html.earliestOutside hides find ts)

end

/-- What `find` gives for the elements of a forest; of several the one created first decides. -/
def earliest (find : Element → Option α) (ts : List Tree) : Option α :=
  (earliestOutside (fun _ => false) find ts).map (·.2)

end Wayfarer.Html
