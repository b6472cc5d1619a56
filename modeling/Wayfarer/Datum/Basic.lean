import Wayfarer.Number.Binary64

/-!
Values of data formats.

* `Datum`: an absent value, a truth value, a number, a text, a list or a table;
* `Datum.lookup`: what fields hold under a key;
* `Datum.put`: a table with one field set, in its old place if there is one.
-/

namespace Wayfarer

/-- A value of a data format. A table keeps the order of its fields. -/
inductive Datum where
  | null
  | bool (value : Bool)
  | int (value : Int)
  | real (value : Binary64)
  | text (value : String)
  | list (items : List Datum)
  | table (fields : List (String × Datum))
deriving Repr, Inhabited, BEq

namespace Datum

/-- The first value under a key. -/
def lookup (key : String) (fields : List (String × Datum)) : Option Datum :=
  (fields.find? (·.1 = key)).map (·.2)

/-- Fields with the one under `key` set to `value`; a new key goes to the end. -/
def put (key : String) (value : Datum) : List (String × Datum) → List (String × Datum)
  | [] => [(key, value)]
  | field :: fields =>
      if field.1 = key then (key, value) :: fields else field :: put key value fields

/-- The fields of a table, and none for any other value. -/
def fields : Datum → List (String × Datum)
  | table fields => fields
  | _ => []

/-- A text, or an absent value. -/
def ofText? : Option String → Datum
  | some s => text s
  | none => null

end Datum

end Wayfarer
