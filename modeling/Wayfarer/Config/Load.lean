import Wayfarer.Config.Path
import Wayfarer.Config.Reading
import Wayfarer.Toml.Document

/-!
Settings from a file and from the environment.

* `Settings.variableKey?`: the place in the settings that a variable of the environment names;
* `Settings.gather`: what a file and the environment say, the environment having the last word;
* `Settings.load`: the settings that they say.
-/

namespace Wayfarer.Settings

/-- How the names of variables that hold settings begin, in small letters. -/
def variablePrefix : String := "spider__"

/-- A name with a dot for every two underscores. -/
def dotted : List Char → List Char
  | '_' :: '_' :: cs => '.' :: dotted cs
  | c :: cs => c :: dotted cs
  | [] => []

/-- The place in the settings that a variable names, if it names one; letter case is of no
account. -/
def variableKey? (name : String) : Option String :=
  (variablePrefix.toList.isPrefixOf? (lowered name).toList).map fun key =>
    String.ofList (dotted key)

/-- The variables that hold settings, with the places that they name. Of variables that name one
place the last counts. -/
def settingVars (vars : List (String × String)) : List (String × Datum) :=
  vars.foldl
    (fun found (name, value) =>
      match variableKey? name with
      | some key => Datum.put key (.text value) found
      | none => found)
    []

/-- Data with values laid over what is at the places that their keys name. -/
def lay (d : Datum) (values : List (String × Datum)) : Datum :=
  values.foldl (fun d (key, value) => (DataPath.ofText key).set value d) d

/-- What a file and the environment say, the environment having the last word. -/
def gather (file : List (String × Datum)) (vars : List (String × String)) : Datum :=
  lay (lay (.table []) file) (settingVars vars)

/-- The settings that a file, if there is one, and the environment say; none if the file cannot be
read or says what cannot be. -/
def load (file : Option (List Char)) (vars : List (String × String)) : Option Settings := do
  let fields ← match file with
    | some text => Toml.parse text
    | none => some []
  read .lenient (gather fields vars)

end Wayfarer.Settings
