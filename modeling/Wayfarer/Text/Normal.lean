import Wayfarer.Text.Class.Canonical
import Wayfarer.Text.Class.Combining

/-!
Canonical composition: texts that Unicode counts as equal become the same text.

* `Normal.decompose`: every character taken apart;
* `Normal.reorder`: the marks after a character in the order of their classes;
* `Normal.compose`: characters put together again, none across a mark that blocks it;
* `Normal.compose` of `Normal.reorder` of `Normal.decompose` is `nfc`.
-/

namespace Wayfarer

namespace Normal

/-- A character taken apart as often as `depth` allows; four times always suffice. -/
def partsOf : Nat → Nat → List Nat
  | 0, c => [c]
  | depth + 1, c =>
      match Canonical.parts? c with
      | some parts => parts.flatMap (partsOf depth)
      | none => [c]

/-- Every character taken apart. -/
def decompose (cs : List Char) : List Char :=
  cs.flatMap fun c => (partsOf 4 c.toNat).map Char.ofNat

/-- A mark put behind those of its class or a lower one. -/
def insertMark (mark : Char) : List Char → List Char
  | [] => [mark]
  | m :: marks =>
      if combiningClass mark < combiningClass m then mark :: m :: marks
      else m :: insertMark mark marks

/-- The marks after a character in the order of their classes; `pending` are those read so far. -/
def reorderFrom (pending : List Char) : List Char → List Char
  | [] => pending
  | c :: cs =>
      if combiningClass c = 0 then pending ++ c :: reorderFrom [] cs
      else reorderFrom (insertMark c pending) cs

/-- The marks after each character in the order of their classes. -/
def reorder (cs : List Char) : List Char :=
  reorderFrom [] cs

/-- Characters put together with the character `starter` in front of them; `marks` are those of
them, in reverse, that did not combine with it. -/
def composeFrom (starter : Char) (marks : List Char) : List Char → List Char
  | [] => starter :: marks.reverse
  | c :: cs =>
      let blocked := match marks with
        | [] => false
        | m :: _ => combiningClass c ≤ combiningClass m
      match if blocked then none else Canonical.pair? starter.toNat c.toNat with
      | some n => composeFrom (Char.ofNat n) marks cs
      | none =>
          if combiningClass c = 0 then starter :: marks.reverse ++ composeFrom c [] cs
          else composeFrom starter (c :: marks) cs

/-- Characters put together again. Marks in front of the first other character stay as they are. -/
def compose (cs : List Char) : List Char :=
  let isLeading := fun c => combiningClass c ≠ 0
  cs.takeWhile isLeading ++
    match cs.dropWhile isLeading with
    | [] => []
    | starter :: rest => composeFrom starter [] rest

end Normal

/-- The composed form of a text. -/
def nfc (cs : List Char) : List Char :=
  Normal.compose (Normal.reorder (Normal.decompose cs))

end Wayfarer
