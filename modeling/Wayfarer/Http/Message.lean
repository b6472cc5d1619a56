import Wayfarer.Text.Letters

/-!
Methods and status codes.

* `Method`: a token, told apart by case;
* `Method.ofString?`: the method that a text is;
* `Status`: a code of three digits;
* `Status.ofNat?`: the status with that code.
-/

namespace Wayfarer

/-! ### Methods -/

/-- The characters of a method. -/
def isTokenChar (c : Char) : Bool :=
  c.isAlphanum || "!#$%&'*+-.^_\x60|~".toList.contains c

/-- A request method. -/
structure Method where
  text : String
  valid : (!text.isEmpty && text.toList.all isTokenChar) = true
deriving DecidableEq

namespace Method

/-- The method that a text is. -/
def ofString? (s : String) : Option Method :=
  if h : (!s.isEmpty && s.toList.all isTokenChar) = true then some ⟨s, h⟩ else none

/-- The method that reads a resource. -/
def get : Method := ⟨"GET", by decide⟩

/-- The method that reads only the header of a resource. -/
def head : Method := ⟨"HEAD", by decide⟩

instance : Inhabited Method := ⟨get⟩

end Method

/-! ### Status codes -/

/-- A status code. -/
structure Status where
  code : Nat
  valid : 100 ≤ code ∧ code ≤ 999
deriving DecidableEq

namespace Status

/-- The status with a code of three digits. -/
def ofNat? (n : Nat) : Option Status :=
  if h : 100 ≤ n ∧ n ≤ 999 then some ⟨n, h⟩ else none

/-- The resource moved for good. -/
def movedPermanently : Status := ⟨301, by decide⟩

/-- The resource is found elsewhere. -/
def found : Status := ⟨302, by decide⟩

/-- The answer is at another place. -/
def seeOther : Status := ⟨303, by decide⟩

/-- The resource moved for now. -/
def temporaryRedirect : Status := ⟨307, by decide⟩

/-- The resource moved for good, and the method stays. -/
def permanentRedirect : Status := ⟨308, by decide⟩

/-- The request was answered. -/
def ok : Status := ⟨200, by decide⟩

/-- There is no such resource. -/
def notFound : Status := ⟨404, by decide⟩

end Status

end Wayfarer
