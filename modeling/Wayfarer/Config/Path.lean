import Wayfarer.Datum.Basic
import Wayfarer.Number.Decimal

/-!
Places in data.

* `DataPath`: a key and the steps from what stands under it;
* `DataPath.parse?`: the path that a text is;
* `Datum.alter`: data with a change at one place;
* `Datum.overlay`: data with other data laid over them;
* `DataPath.set`: data with a value at the place of a path.
-/

namespace Wayfarer

/-- A step into a table or a list. Negative places count from the end of a list. -/
inductive DataStep where
  | key (name : String)
  | index (place : Int)
deriving Repr, DecidableEq

/-- A key and the steps from what stands under it. -/
structure DataPath where
  root : String
  steps : List DataStep
deriving Repr, DecidableEq

namespace DataPath

/-! ### Paths as texts -/

/-- The characters of a key in a path. -/
def isKeyChar (c : Char) : Bool :=
  c.isAlphanum || c = '_' || c = '-'

/-- A key at the front of a text and what follows. -/
def key? (cs : List Char) : Option (String × List Char) :=
  let name := cs.takeWhile isKeyChar
  if name.isEmpty then none else some (String.ofList name, cs.dropWhile isKeyChar)

/-- The place that stands between brackets. -/
def place? (cs : List Char) : Option Int :=
  let cs := trim (fun c => c = ' ' || c = '\t') cs
  if cs.head? = some '+' then none else Decimal.readInt? cs

/-- The steps that a text is; `fuel` bounds their number. -/
def steps? : Nat → List Char → Option (List DataStep)
  | _, [] => some []
  | 0, _ => none
  | fuel + 1, '.' :: cs => do
      let (name, rest) ← key? cs
      some (.key name :: (← steps? fuel rest))
  | fuel + 1, '[' :: cs => do
      let (inside, rest) ← splitAtFirst [']'] cs
      some (.index (← place? inside) :: (← steps? fuel rest))
  | _ + 1, _ => none

/-- The path that a text is. -/
def parse? (s : String) : Option DataPath := do
  let (root, rest) ← key? s.toList
  some ⟨root, ← steps? rest.length rest⟩

/-- The path that a text is; a text that is none is a key. -/
def ofText (s : String) : DataPath :=
  (parse? s).getD ⟨s, []⟩

end DataPath

/-! ### Changes -/

namespace Datum

/-- The items of a list, and none for any other value. -/
def items : Datum → List Datum
  | list items => items
  | _ => []

/-- A list made long enough for a place, and that place counted from the front. -/
def reach (place : Int) (items : List Datum) : List Datum × Nat :=
  if 0 ≤ place then
    (items ++ List.replicate (place.toNat + 1 - items.length) null, place.toNat)
  else
    let fromEnd := (-place).toNat
    (List.replicate (fromEnd - items.length) null ++ items, items.length - fromEnd)

/-- Data with a change at the place that steps lead to. What is in the way makes room. -/
def alter (change : Datum → Datum) : List DataStep → Datum → Datum
  | [], d => change d
  | .key name :: steps, d =>
      let below := (lookup name d.fields).getD null
      table (put name (alter change steps below) d.fields)
  | .index place :: steps, d =>
      let (items, n) := reach place d.items
      list (items.set n (alter change steps (items.getD n null)))

mutual

/-- Data laid over others. Tables are laid over one another field by field. -/
def overlay : Datum → Datum → Datum
  | table fields, null => overlayFields fields (table [])
  | table fields, below => overlayFields fields below
  | d, _ => d

/-- Fields laid over data. -/
def overlayFields : List (String × Datum) → Datum → Datum
  | [], below => below
  | (key, d) :: fields, below =>
      overlayFields fields
        (table (put key (overlay d ((lookup key below.fields).getD null)) below.fields))

end

end Datum

/-- Data with a value laid over what is at the place of a path. -/
def DataPath.set (path : DataPath) (value : Datum) (d : Datum) : Datum :=
  d.alter (value.overlay ·) (.key path.root :: path.steps)

end Wayfarer
