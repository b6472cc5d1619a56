import Wayfarer.Text.Letters

/-!
Words of a command line.

* `CommandLine.Flag`: an option with its names;
* `CommandLine.Given`: the options and words that a command line gives;
* `CommandLine.scan`: the options and words of a command;
* `CommandLine.scanToWord`: the options in front of the first word.
-/

namespace Wayfarer.CommandLine

/-- An option: its key, its name in one letter, its long name, and whether it takes a value. -/
structure Flag where
  key : String
  letter : Option Char
  name : String
  takesValue : Bool

/-- What a command line gives: options with their values, and words, both in order. -/
structure Given where
  options : List (String × String)
  words : List String

namespace Given

/-- Nothing. -/
def empty : Given :=
  ⟨[], []⟩

/-- Two parts of a command line together. -/
def append (g h : Given) : Given :=
  ⟨g.options ++ h.options, g.words ++ h.words⟩

/-- The values that an option has. -/
def all (g : Given) (key : String) : List String :=
  (g.options.filter (·.1 = key)).map (·.2)

/-- The value of an option that may be given once, or a default. -/
def one? (g : Given) (key default : String) : Option String :=
  match g.all key with
  | [] => some default
  | [value] => some value
  | _ => none

/-- The value, if any, of an option that may be given once. -/
def atMostOne? (g : Given) (key : String) : Option (Option String) :=
  match g.all key with
  | [] => some none
  | [value] => some (some value)
  | _ => none

end Given

/-- What one argument is: a word, the mark behind which all are words, or options, the last of
which may wait for its value. -/
inductive Argument where
  | word
  | mark
  | options (given : List (String × String)) (waiting : Option String)

/-! ### Single arguments -/

/-- An option by its long name, perhaps with a value behind a sign of equality. -/
def long? (flags : List Flag) (cs : List Char) : Option Argument :=
  let name := String.ofList (cs.takeWhile (· ≠ '='))
  match flags.find? (·.name = name), cs.dropWhile (· ≠ '=') with
  | none, _ => none
  | some flag, [] =>
      some (if flag.takesValue then .options [] (some flag.key) else .options [(flag.key, "")] none)
  | some flag, _ :: value =>
      if flag.takesValue then some (.options [(flag.key, String.ofList value)] none) else none

/-- Options by their letters; the first that takes a value has what follows for one. -/
def letters? (flags : List Flag) : List Char → Option Argument
  | [] => some (.options [] none)
  | c :: cs =>
      match flags.find? (·.letter = some c) with
      | none => none
      | some flag =>
          if flag.takesValue then
            match cs with
            | [] => some (.options [] (some flag.key))
            | '=' :: value => some (.options [(flag.key, String.ofList value)] none)
            | value => some (.options [(flag.key, String.ofList value)] none)
          else
            match letters? flags cs with
            | some (.options given waiting) => some (.options ((flag.key, "") :: given) waiting)
            | other => other

/-- What an argument is; none for an option that there is not. -/
def argument? (flags : List Flag) (arg : String) : Option Argument :=
  match arg.toList with
  | ['-', '-'] => some .mark
  | '-' :: '-' :: cs => long? flags cs
  | '-' :: c :: cs => letters? flags (c :: cs)
  | _ => some .word

/-! ### Whole command lines -/

/-- The options and words of a command, the first option waiting for its value if one does. -/
def scan (flags : List Flag) : Option String → List String → Option Given
  | none, [] => some .empty
  | some _, [] => none
  | waiting, arg :: args =>
      match argument? flags arg, waiting with
      | none, _ => none
      | some .word, none => (scan flags none args).map (Given.append ⟨[], [arg]⟩)
      | some .word, some key => (scan flags none args).map (Given.append ⟨[(key, arg)], []⟩)
      | some _, some _ => none
      | some .mark, none => some ⟨[], args⟩
      | some (.options given next), none =>
          (scan flags next args).map (Given.append ⟨given, []⟩)

/-- The options in front of the first word, the first option waiting for its value if one does; that
word; and what follows it. -/
def scanToWord (flags : List Flag) :
    Option String → List String → Option (Given × String × List String)
  | _, [] => none
  | waiting, arg :: args =>
      let andThen (given : List (String × String)) (next : Option String) :=
        (scanToWord flags next args).map fun (g, rest) => (Given.append ⟨given, []⟩ g, rest)
      match argument? flags arg, waiting with
      | none, _ => none
      | some .word, none => some (.empty, arg, args)
      | some .word, some key => andThen [(key, arg)] none
      | some _, some _ => none
      | some .mark, none => none
      | some (.options given next), none => andThen given next

end Wayfarer.CommandLine
