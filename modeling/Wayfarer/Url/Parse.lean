import Wayfarer.Url.Host

/-!
URLs read from text.

* `Url.parse`: an absolute URL;
* `Url.join`: a URL that a text names relative to another one;
* `Url.splitScheme`: a text behind its scheme;
* `Authority.parse`: the credentials, the host and the port between two slashes and the path;
* `Path.resolve`: names in front of which a path starts, with the names of a text behind them; a
  name of one dot stays in place and a name of two dots goes up.

Blanks and control characters at the ends of a text do not count, nor do tabs and line breaks
anywhere.
-/

namespace Wayfarer

/-! ### Characters -/

namespace Url

/-- The characters that do not count at the ends of a text. -/
def isPadding (c : Char) : Bool :=
  c.toNat ≤ 0x20

/-- The characters that do not count anywhere. -/
def isFolding (c : Char) : Bool :=
  c = '\t' || c = '\n' || c = '\r'

/-- The characters of a text that count. -/
def significant (s : String) : List Char :=
  (trim isPadding s.toList).filter (!isFolding ·)

/-- The separators between names; under a special scheme a backslash is one. -/
def isSlash (special : Bool) (c : Char) : Bool :=
  c = '/' || (special && c = '\\')

/-- The characters that begin a query or a fragment. -/
def endsPath (c : Char) : Bool :=
  c = '?' || c = '#'

/-- The characters of a scheme. -/
def isSchemeChar (c : Char) : Bool :=
  c.isAlphanum || c = '+' || c = '-' || c = '.'

/-- The scheme at the front of a text, in small letters, and what follows its colon. -/
def splitScheme (cs : List Char) : Option (String × List Char) :=
  let scheme := cs.takeWhile isSchemeChar
  match cs.dropWhile isSchemeChar with
  | ':' :: rest =>
      if (scheme.head?.map Char.isAlpha).getD false then
        some (String.ofList (scheme.map Char.toLower), rest)
      else none
  | _ => none

end Url

/-! ### Authorities -/

namespace Authority

/-- The characters up to the end of the host, at a colon outside brackets or at `stops`. -/
def hostLength (inBrackets : Bool) : List Char → Nat
  | [] => 0
  | c :: cs =>
      if c = ':' && !inBrackets then 0
      else 1 + hostLength (c = '[' || (inBrackets && c ≠ ']')) cs

/-- The port that a text names and what follows its digits. The port that the scheme implies is
no port. -/
def parsePort (scheme : String) (cs : List Char) : Except UrlError (Option Nat × List Char) :=
  let digits := cs.takeWhile Char.isDigit
  let rest := cs.dropWhile Char.isDigit
  let port := readDigits 10 (digits.map digitValue)
  if 65535 < port then .error .invalidPort
  else match rest with
    | [] | '\\' :: _ =>
        if digits.isEmpty || Scheme.defaultPort? scheme = some port then .ok (none, rest)
        else .ok (some port, rest)
    | _ => .error .invalidPort

/-- User name and password of the text in front of the last `@`. -/
def parseUserinfo (cs : List Char) : String × String :=
  let encoded := Escape.apply Escape.userinfo
  (encoded (cs.takeWhile (· ≠ ':')), encoded ((cs.dropWhile (· ≠ ':')).drop 1))

/-- The host at the front of a text, its port, and what follows. -/
def parseHost (scheme : String) (cs : List Char) :
    Except UrlError (Option Host × Option Nat × List Char) := do
  let special := Scheme.isSpecial scheme
  let n := hostLength false cs
  let rest := cs.drop n
  if special && n = 0 then throw .emptyHost
  let host ← if special then Host.read (cs.take n) else Host.readOpaque (cs.take n)
  let isEmpty := host = .name ""
  match rest with
  | ':' :: after =>
      if isEmpty then throw .emptyHost
      let (port, rest) ← parsePort scheme after
      return (some host, port, rest)
  | _ => return (if isEmpty then none else some host, none, rest)

/-- The authority at the front of a text, and the path and all that follows. -/
def parse (scheme : String) (cs : List Char) : Except UrlError (Authority × List Char) := do
  let stops := fun c => Url.isSlash (Scheme.isSpecial scheme) c || Url.endsPath c
  let front := cs.takeWhile (!stops ·)
  let rest := cs.dropWhile (!stops ·)
  let place := (front.reverse.takeWhile (· ≠ '@')).reverse
  let user := front.take (front.length - place.length - 1)
  let (username, password) := parseUserinfo user
  if front.contains '@' && user.isEmpty && place.isEmpty && !rest.isEmpty then throw .emptyHost
  let (host, port, after) ← parseHost scheme place
  if host.isNone && !(username.isEmpty && password.isEmpty) then throw .emptyHost
  return (⟨username, password, host, port⟩, after ++ rest)

end Authority

/-! ### Paths -/

namespace Path

/-- A name that means the place itself. -/
def isSingleDot (s : String) : Bool :=
  lowered s ∈ [".", "%2e"]

/-- A name that means one level up. -/
def isDoubleDot (s : String) : Bool :=
  lowered s ∈ ["..", ".%2e", "%2e.", "%2e%2e"]

/-- A letter and a colon or a bar, which name a drive in a local path. -/
def isDrive (s : String) : Bool :=
  match s.toList with
  | [a, b] => a.isAlpha && (b = ':' || b = '|')
  | _ => false

/-- The names one level up. No level is above a drive. -/
def up (isLocal : Bool) (names : List String) : List String :=
  if isLocal && (names.getLast?.map isDrive).getD false then names else names.dropLast

/-- A name at the front of a local path in its usual form: a drive ends in a colon. -/
def driveForm (isLocal : Bool) (names : List String) (name : String) : String :=
  if isLocal && names.isEmpty && isDrive name then String.ofList [name.toList.headD 'a', ':']
  else name

/-- Names in front of which a path starts, with further names behind them. -/
def resolve (isLocal : Bool) (names : List String) : List String → List String
  | [] => names
  | [last] =>
      if isDoubleDot last then up isLocal names ++ [""]
      else if isSingleDot last then names ++ [""]
      else names ++ [driveForm isLocal names last]
  | name :: rest =>
      if isDoubleDot name then resolve isLocal (up isLocal names) rest
      else if isSingleDot name then resolve isLocal names rest
      else resolve isLocal (names ++ [driveForm isLocal names name]) rest

/-- Names without empty ones in front; a path has at least one name. -/
def dropEmpty (names : List String) : List String :=
  match names.dropWhile String.isEmpty with
  | [] => [""]
  | names => names

/-- The names of a text, behind `names`, and the query and fragment that follow. -/
def parse (scheme : String) (names : List String) (cs : List Char) : List String × List Char :=
  let isLocal := scheme = Scheme.file
  let pieces := splitAtEvery (Url.isSlash (Scheme.isSpecial scheme)) (cs.takeWhile (!Url.endsPath ·))
  let names := resolve isLocal names (pieces.map (Escape.apply Escape.path))
  (if isLocal then dropEmpty names else names, cs.dropWhile (!Url.endsPath ·))

/-- The path behind an authority. Only a special scheme gives an empty path a name. -/
def parseStart (scheme : String) (cs : List Char) : List String × List Char :=
  let special := Scheme.isSpecial scheme
  match cs with
  | [] => if special then parse scheme [] [] else ([], [])
  | c :: rest =>
      if Url.isSlash special c then parse scheme [] rest
      else if !special && Url.endsPath c then ([], cs)
      else parse scheme [] cs

end Path

namespace Url

/-! ### Queries and fragments -/

/-- A URL with the query and the fragment that a text writes. -/
def withTail (u : Url) (cs : List Char) : Url :=
  let special := Scheme.isSpecial u.scheme
  let fragment := fun cs : List Char =>
    match cs with
    | '#' :: rest => some (Escape.apply Escape.fragment rest)
    | _ => none
  match cs with
  | '?' :: rest =>
      { u with
        query := some (Escape.apply (if special then Escape.specialQuery else Escape.query)
          (rest.takeWhile (· ≠ '#')))
        fragment := fragment (rest.dropWhile (· ≠ '#')) }
  | _ => { u with query := none, fragment := fragment cs }

/-! ### Whole URLs -/

/-- The URL of a scheme, what two slashes precede, and all that follows. -/
def ofAuthority (scheme : String) (cs : List Char) : Except UrlError Url := do
  let (authority, rest) ← Authority.parse scheme cs
  let (names, tail) := Path.parseStart scheme rest
  return withTail ⟨scheme, some authority, .names names, none, none⟩ tail

/-- The URL of a scheme without an authority. -/
def ofPlainPath (scheme : String) (cs : List Char) : Url :=
  match cs with
  | '/' :: rest =>
      let (names, tail) := Path.parse scheme [] rest
      withTail ⟨scheme, none, .names names, none, none⟩ tail
  | _ =>
      let text := Escape.apply Escape.control (cs.takeWhile (!endsPath ·))
      withTail ⟨scheme, none, .opaqueText text, none, none⟩ (cs.dropWhile (!endsPath ·))

/-- The URL with the authority and scheme of `base` and a path that starts behind `names`. -/
def withPath (base : Url) (names : List String) (cs : List Char) : Url :=
  let (names, tail) := Path.parse base.scheme names cs
  withTail { base with path := .names names } tail

/-- The URL that a text without a scheme names relative to a hierarchical one of a scheme other
than that of local files. -/
def joinRelative (base : Url) (cs : List Char) : Except UrlError Url :=
  match cs with
  | [] => .ok { base with fragment := none }
  | '?' :: _ => .ok (withTail base cs)
  | '#' :: _ => .ok { withTail base cs with query := base.query }
  | c :: rest =>
      if isSlash true c then
        match rest with
        | d :: after =>
            if isSlash true d then ofAuthority base.scheme after else .ok (withPath base [] rest)
        | [] => .ok (withPath base [] rest)
      else .ok (withPath base base.segments.dropLast cs)

/-! ### Local files -/

/-- Whether a text starts with a drive. -/
def startsWithDrive (cs : List Char) : Bool :=
  Path.isDrive (String.ofList (cs.take 2)) &&
    ((cs[2]?.map fun c => isSlash true c || endsPath c).getD true)

/-- The local URL with a host, if it has one, and a path behind `names`. A drive at the front of
the path leaves no host. -/
def localUrl (host : Option Host) (names : List String) (cs : List Char) : Url :=
  let (names, tail) := Path.parse Scheme.file names cs
  let host := if (names.head?.map Path.isDrive).getD false then none else host
  withTail ⟨Scheme.file, some ⟨"", "", host, none⟩, .names names, none, none⟩ tail

/-- The host of a local URL between two slashes and the path; a drive is none. -/
def localHost (cs : List Char) : Except UrlError (Option Host × List Char) :=
  let stops := fun c => isSlash true c || endsPath c
  let front := cs.takeWhile (!stops ·)
  if front.isEmpty || Path.isDrive (String.ofList front) then .ok (none, cs)
  else match Host.read front with
    | .ok host =>
        .ok (if host = .name "localhost" then none else some host, cs.dropWhile (!stops ·))
    | .error e => .error e

/-- A text without the slash in front. -/
def dropSlash : List Char → List Char
  | c :: cs => if isSlash true c then cs else c :: cs
  | [] => []

/-- The local URL that a text names, relative to another local URL if there is one. -/
def joinLocal (base : Option Url) (cs : List Char) : Except UrlError Url :=
  match cs, base with
  | c :: rest, base =>
      if isSlash true c then
        match rest with
        | d :: after =>
            if isSlash true d then do
              let (host, path) ← localHost after
              return localUrl host [] (dropSlash path)
            else .ok (underRoot base rest)
        | [] => .ok (underRoot base rest)
      else match base with
        | none => .ok (localUrl none [] cs)
        | some base =>
            if c = '?' then .ok (withTail base cs)
            else if c = '#' then .ok { withTail base cs with query := base.query }
            else if startsWithDrive cs then .ok (localUrl none [] cs)
            else .ok (withPath base (Path.up true base.segments) cs)
  | [], none => .ok (localUrl none [] [])
  | [], some base => .ok { base with fragment := none }
where
  /-- The local URL of a path from the root; the host and the drive are those of the base. -/
  underRoot (base : Option Url) (rest : List Char) : Url :=
    match base with
    | none => localUrl none [] rest
    | some base =>
        let drive := base.segments.take 1
        if startsWithDrive rest then localUrl none [] rest
        else if drive.any Path.isDrive then localUrl none drive rest
        else localUrl base.host? [] rest

/-! ### Reading -/

/-- The URL of a scheme and what follows its colon, which may be relative to a base of the same
special scheme. -/
def ofScheme (base : Option Url) (scheme : String) (cs : List Char) : Except UrlError Url :=
  let base := base.filter (·.scheme = scheme)
  if scheme = Scheme.file then joinLocal base cs
  else if Scheme.isSpecial scheme then
    let slashes := cs.takeWhile (isSlash true)
    match base with
    | some base =>
        if slashes.length < 2 then joinRelative base cs
        else ofAuthority scheme (cs.dropWhile (isSlash true))
    | none => ofAuthority scheme (cs.dropWhile (isSlash true))
  else match cs with
    | '/' :: '/' :: rest => ofAuthority scheme rest
    | _ => .ok (ofPlainPath scheme cs)

/-- The URL that a text without a scheme names relative to another one. -/
def joinReference (base : Url) (cs : List Char) : Except UrlError Url :=
  if cs.head? = some '#' then .ok { withTail base cs with query := base.query }
  else if !base.isHierarchical then .error .baseNotHierarchical
  else if base.scheme = Scheme.file then joinLocal (some base) cs
  else joinRelative base cs

/-- The absolute URL that a text is. -/
def parse (s : String) : Except UrlError Url :=
  let cs := significant s
  match splitScheme cs with
  | some (scheme, rest) => ofScheme none scheme rest
  | none => .error .noBase

/-- The URL that a text names relative to `base`. -/
def join (base : Url) (s : String) : Except UrlError Url :=
  let cs := significant s
  match splitScheme cs with
  | some (scheme, rest) => ofScheme (some base) scheme rest
  | none => joinReference base cs

end Url

end Wayfarer
