import Wayfarer.Text.Letters

/-!
Texts of any characters written in small letters, digits and hyphens.

* `Punycode.encode`: the ASCII characters, then where each other character goes;
* `Punycode.decode?`: the text that such a form stands for.

Both follow a position that runs through the text once for each character value.
-/

namespace Wayfarer.Punycode

/-! ### Digits and numbers -/

/-- The digit of a value below thirty-six: letters first. -/
def digit (n : Nat) : Char :=
  if n < 26 then Char.ofNat ('a'.toNat + n) else Char.ofNat ('0'.toNat + (n - 26))

/-- The value of a digit. -/
def digitValue? (c : Char) : Option Nat :=
  if c.isDigit then some (c.toNat - '0'.toNat + 26)
  else if c.isAlpha then some (c.toLower.toNat - 'a'.toNat)
  else none

/-- The threshold of the digit at weight `k`: a digit below it ends its number. -/
def threshold (k bias : Nat) : Nat :=
  if k ≤ bias + 1 then 1 else if bias + 26 ≤ k then 26 else k - bias

/-- The threshold leaves room for a digit. -/
theorem threshold_bounds (k bias : Nat) : 1 ≤ threshold k bias ∧ threshold k bias ≤ 26 := by
  unfold threshold
  split
  · omega
  · split <;> omega

/-- Quotients by thirty-five until one is small, and their number times thirty-six. -/
def settle (delta k : Nat) : Nat × Nat :=
  if 455 < delta then settle (delta / 35) (k + 36) else (delta, k)
termination_by delta

/-- The bias for the next number after `delta`, when the text has `count` characters. -/
def adapt (delta count : Nat) (isFirst : Bool) : Nat :=
  let delta := if isFirst then delta / 700 else delta / 2
  let (delta, k) := settle (delta + delta / count) 0
  k + 36 * delta / (delta + 38)

/-- The digits of a number, from weight `k` on. -/
def writeNumber (bias k n : Nat) : List Char :=
  let t := threshold k bias
  if n < t then [digit n]
  else digit (t + (n - t) % (36 - t)) :: writeNumber bias (k + 36) ((n - t) / (36 - t))
termination_by n
decreasing_by
  have h := threshold_bounds k bias
  have : (n - threshold k bias) / (36 - threshold k bias) ≤ n - threshold k bias :=
    Nat.div_le_self _ _
  omega

/-- The number at the front of some digits and the digits after it. -/
def readNumber? (bias k weight n : Nat) : List Char → Option (Nat × List Char)
  | [] => none
  | c :: cs => do
      let d ← digitValue? c
      let n := n + d * weight
      let t := threshold k bias
      if d < t then some (n, cs) else readNumber? bias (k + 36) (weight * (36 - t)) n cs

/-- Reading a number uses up digits. -/
theorem readNumber?_length {bias k weight n : Nat} {cs : List Char} {m : Nat} {rest : List Char}
    (h : readNumber? bias k weight n cs = some (m, rest)) : rest.length < cs.length := by
  induction cs generalizing k weight n with
  | nil => simp [readNumber?] at h
  | cons c cs ih =>
      cases hd : digitValue? c with
      | none => simp [readNumber?, hd] at h
      | some d =>
          simp only [readNumber?, hd, Option.bind_eq_bind, Option.bind_some] at h
          split at h
          · simp only [Option.some.injEq, Prod.mk.injEq] at h
            simp [h.2]
          · have := ih h
            simp only [List.length_cons]
            omega

/-! ### Encoding -/

/-- How far an encoder has come: the next character value, the steps since the last number, the
bias, the number of characters written, and whether it has written a number. -/
structure Cursor where
  value : Nat
  delta : Nat
  bias : Nat
  count : Nat
  isFirst : Bool

/-- The numbers for the occurrences of the value `m`, and the cursor behind them. -/
def writeValue (cs : List Char) (state : Cursor × List Char) (m : Nat) : Cursor × List Char :=
  let (c, out) := state
  let start := { c with value := m, delta := c.delta + (m - c.value) * (c.count + 1) }
  let step := fun (state : Cursor × List Char) (x : Char) =>
    let (c, out) := state
    if x.toNat < m then ({ c with delta := c.delta + 1 }, out)
    else if x.toNat = m then
      ({ c with
          delta := 0
          bias := adapt c.delta (c.count + 1) c.isFirst
          count := c.count + 1
          isFirst := false },
        out ++ writeNumber c.bias 36 c.delta)
    else (c, out)
  let (c, out) := cs.foldl step (start, out)
  ({ c with value := m + 1, delta := c.delta + 1 }, out)

/-- A text in small letters, digits and hyphens: its ASCII characters, a hyphen if there are any,
and numbers for the others in the order of their values. -/
def encode (cs : List Char) : List Char :=
  let basic := cs.filter (·.toNat < 128)
  let others := (cs.map Char.toNat).filter (128 ≤ ·)
  let values := (others.mergeSort (· ≤ ·)).eraseDups
  let start : Cursor := ⟨128, 0, 72, basic.length, true⟩
  let (_, numbers) := values.foldl (writeValue cs) (start, [])
  basic ++ (if basic.isEmpty then [] else ['-']) ++ numbers

/-! ### Decoding -/

/-- The text built so far with what the digits `ds` add to it; `place` and `value` tell where the
next character goes and what it is at least. -/
def decodeFrom (text : List Char) (value place bias : Nat) (isFirst : Bool) (ds : List Char) :
    Option (List Char) :=
  if ds.isEmpty then some text
  else
    match h : readNumber? bias 36 1 0 ds with
    | none => none
    | some (delta, rest) =>
        let count := text.length + 1
        let value := value + (place + delta) / count
        let place := (place + delta) % count
        if value < 0x110000 ∧ ¬(0xD800 ≤ value ∧ value < 0xE000) then
          decodeFrom (text.insertIdx place (Char.ofNat value)) value (place + 1)
            (adapt delta count isFirst) false rest
        else none
termination_by ds.length
decreasing_by exact readNumber?_length h

/-- The text that a form stands for: what precedes the last hyphen are its ASCII characters. A
hyphen in front of everything separates nothing and is no digit either. -/
def decode? (cs : List Char) : Option (List Char) :=
  let digits := (cs.reverse.takeWhile (· ≠ '-')).reverse
  let basic := cs.take (cs.length - digits.length - 1)
  let digits := if basic.isEmpty then cs else digits
  if basic.all (·.toNat < 128) then decodeFrom basic 128 0 72 true digits else none

end Wayfarer.Punycode
