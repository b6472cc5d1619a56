import Wayfarer.Text.Letters

/-!
Tables of properties that are constant on ranges of characters.

* `RangeTable`: rows in ascending order, each with the first number of its range;
* `RangeTable.findRow?`, `RangeTable.find?`: the row of a number, by bisection;
* `RangeTable.read`: the table that rows of text describe: each entry is the distance from the
  entry before it, in base thirty-six, and what holds from there on.
-/

namespace Wayfarer

/-! ### Numbers in base thirty-six -/

/-- The value of a digit in base thirty-six. -/
def base36Digit (c : Char) : Nat :=
  if c.isDigit then digitValue c else c.toNat - 'a'.toNat + 10

/-- The number that digits in base thirty-six write. -/
def readBase36 (cs : List Char) : Nat :=
  readDigits 36 (cs.map base36Digit)

/-- Numbers in base thirty-six with commas between them. -/
def readNumbers (cs : List Char) : List Nat :=
  (splitAtEvery (· = ',') cs).map readBase36

/-! ### Tables -/

/-- A property that is constant on ranges; a row holds from its number up to that of the next. -/
structure RangeTable (α : Type) where
  rows : Array (Nat × α)

namespace RangeTable

variable {α : Type}

/-- The last of the rows `low` to `high - 1` that starts at `n` or before, if the row before `low`
is the best so far. -/
def search (rows : Array (Nat × α)) (n : Nat) (best : Option (Nat × α)) (low high : Nat) :
    Option (Nat × α) :=
  if _h : low < high then
    let middle := (low + high) / 2
    match rows[middle]? with
    | none => best
    | some row =>
        if row.1 ≤ n then search rows n (some row) (middle + 1) high
        else search rows n best low middle
  else best
termination_by high - low
decreasing_by all_goals omega

/-- The row of a number. -/
def findRow? (t : RangeTable α) (n : Nat) : Option (Nat × α) :=
  search t.rows n none 0 t.rows.size

/-- The property of a number. -/
def find? (t : RangeTable α) (n : Nat) : Option α :=
  (t.findRow? n).map (·.2)

/-- The table of entries of text. -/
def read (payload : List Char → α) (rows : List String) : RangeTable α :=
  let entries := rows.flatMap fun row => splitAtEvery (· = ' ') row.toList
  let isDigit := fun c : Char => c.isDigit || c.isLower
  let step := fun (state : Nat × Array (Nat × α)) (entry : List Char) =>
    let start := state.1 + readBase36 (entry.takeWhile isDigit)
    (start, state.2.push (start, payload (entry.dropWhile isDigit)))
  ⟨(entries.foldl step (0, #[])).2⟩

end RangeTable

end Wayfarer
