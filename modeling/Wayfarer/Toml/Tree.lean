import Wayfarer.Datum.Basic

/-!
Tables of a TOML document.

* `Toml.Node`: a value, a table with what it was made by, or a list of tables;
* `Toml.setKey`: a table with a value under a dotted key;
* `Toml.declareTable`, `Toml.declareItem`: a table with the one that a header names;
* `Toml.Node.datum`: the value of a node.

Each of the three fails where the document says a thing twice.
-/

namespace Wayfarer.Toml

/-- What made a table: a header, a header of a table in it, a dotted key, or braces. -/
inductive Origin where
  | header
  | implied
  | dotted
  | braces
deriving Repr, DecidableEq

/-- A value, a table, or a list of tables with the latest in front. -/
inductive Node where
  | leaf (value : Datum)
  | table (origin : Origin) (fields : List (String × Node))
  | tables (items : List Node)

/-- The fields of a table. -/
abbrev Fields := List (String × Node)

namespace Fields

/-- What stands under a key. -/
def get? (key : String) (fields : Fields) : Option Node :=
  (fields.find? (·.1 = key)).map (·.2)

/-- The fields with a node under a key; a new key goes to the end. -/
def set (key : String) (node : Node) : Fields → Fields
  | [] => [(key, node)]
  | field :: fields =>
      if field.1 = key then (key, node) :: fields else field :: set key node fields

end Fields

/-! ### Descending -/

/-- The fields of a table with a change in the table that a path of keys leads to. Missing tables
are made. A path of dotted keys goes through no table that has a header of its own; no path goes
through braces; a path through a list of tables goes through the latest. -/
def descend (dotted : Bool) (change : Origin → Fields → Option Fields) :
    List String → Origin → Fields → Option Fields
  | [], origin, fields => change origin fields
  | key :: path, _, fields =>
      match Fields.get? key fields with
      | none =>
          let origin := if dotted then Origin.dotted else .implied
          (descend dotted change path origin []).map fun below =>
            Fields.set key (.table origin below) fields
      | some (.table origin below) =>
          if origin = .braces || (dotted && origin = .header) then none
          else
            (descend dotted change path origin below).map fun below =>
              Fields.set key (.table origin below) fields
      | some (.tables (.table origin below :: items)) =>
          (descend dotted change path origin below).map fun below =>
            Fields.set key (.tables (.table origin below :: items)) fields
      | some _ => none

/-- A table with a value under a dotted key, in which no value stands yet. A table that a dotted
key leads to was made by such keys. -/
def setKey (path : List String) (key : String) (value : Node) (origin : Origin) (fields : Fields) :
    Option Fields :=
  descend true
    (fun origin fields =>
      if decide (origin = .dotted) = path.isEmpty || (Fields.get? key fields).isSome then none
      else some (Fields.set key value fields))
    path origin fields

/-- The document with the table that a header names. -/
def declareTable (path : List String) (key : String) (fields : Fields) : Option Fields :=
  descend false
    (fun _ fields =>
      match Fields.get? key fields with
      | none => some (Fields.set key (.table .header []) fields)
      | some (.table .implied below) => some (Fields.set key (.table .header below) fields)
      | some _ => none)
    path .header fields

/-- The document with one more table in the list that a header names. -/
def declareItem (path : List String) (key : String) (fields : Fields) : Option Fields :=
  descend false
    (fun _ fields =>
      match Fields.get? key fields with
      | none => some (Fields.set key (.tables [.table .header []]) fields)
      | some (.tables items) => some (Fields.set key (.tables (.table .header [] :: items)) fields)
      | some _ => none)
    path .header fields

/-! ### Values -/

mutual

/-- The value of a node. -/
def Node.datum : Node → Datum
  | .leaf value => value
  | .table _ fields => .table (Fields.data fields)
  | .tables items => .list (Node.data items).reverse

/-- The values of some nodes. -/
def Node.data : List Node → List Datum
  | [] => []
  | node :: nodes => node.datum :: Node.data nodes

/-- The values of some fields. -/
def Fields.data : List (String × Node) → List (String × Datum)
  | [] => []
  | (key, node) :: fields => (key, node.datum) :: Fields.data fields

end

end Wayfarer.Toml
