import Wayfarer.Text.RangeTable

/-!
The direction of characters.

* `BidiClass`: what a character contributes to the direction of a text;
* `bidiClass`: the class of a character.
-/

namespace Wayfarer

/-- What a character contributes to the direction of a text. Separators, blanks and formatting
characters count as neutral. -/
inductive BidiClass where
  | left | right | arabicLetter | arabicNumber | number | separator | commonSeparator
  | terminator | neutral | boundary | mark
deriving Repr, DecidableEq

/-- The class that a letter of the table stands for. -/
def BidiClass.ofLetter : Char → BidiClass
  | 'L' => .left
  | 'R' => .right
  | 'A' => .arabicLetter
  | 'N' => .arabicNumber
  | 'E' => .number
  | 'S' => .separator
  | 'C' => .commonSeparator
  | 'T' => .terminator
  | 'B' => .boundary
  | 'M' => .mark
  | _ => .neutral

/-- Where the class changes, and its letter from there on. -/
def bidiRows : List String :=
  [ "0B 9O 5B eO 7T 3O 5S 1C 1S 1C 2E aC 1O 6L qO 6L qO 4B 6O 1B qC 1O 1T 4O 4L 1O 2B 1O 2T 2E 2O",
    "1L 1O 3E 1L 1O 5L nO 1L vO 1L chO 2L 7O eL 2O eL 5O 9L 1O hM 34L 4O 2L 8O 1L 5O 2L 1O 1L 32O",
    "1L 3wM 7L 74O 5T 2M 19R 1M 1R 1M 2R 1M 2R 1M 9R 1cN 6O 2A 1T 2A 1C 1A 1O 2M bA 1cM lN aT 1N 2A",
    "3M 1A 2tM 7N 1O 1M 6A 2M 2O 1M 4A 2E aA nM 1A uM tA 2hM bA fR 17M 9R 2O 4R 3M 1R oM 4R 1M 9R",
    "1M 3R 1M 7R 15M 5R 2A 1cN 8M 8A 16M oN 1M wL 1jM 1L 1M 1L 4M 8L 4M 1L 3M 7L aM 2L tM 1L 1mM 1L",
    "4M 6L 6M 1L kM 4L cT 2L 7T 1L 2M 5L 1lM 2L 3M oL nM 2L 3M 1L bM 2L 1lM 1L 4M 8L 4M 3L iM 4L bT",
    "8L 1M 8L 1mM 1L 2M 1L 1M 6L 6M aL bM 4L sM 1L 1pM 1L cM 3L zO 6T 1O 6M 1L 3M 1L 1jM 1L 1M 3L",
    "5M iL aM 4L iO 7L 2M 1L 1mM 1L fM 9L dM 4L qM 2L 1lM 2L 4M 5L 7M 1L kM 4L rM 1L 20M 5L 3M 6L",
    "2hM 1L 2M bT 1L 7M 8L 2qM 1L 2M 9L bM 8L 20M 2L rM 1L 1M 1L 1M 1O 4L 1fM eL 1M 5L 1M 2L 5M 1dL",
    "8M 1L 2uM 4L 1M 6L 1M 2L 2M 2L pM 2L 4M 3L gM 4L dM 1L 2M 2L 6M 1L fM 1L jjM 3L 1cO gL 2oO 1L",
    "hrO 1L qO 5L 36M 3L tM 2L uM eL iM eL 1gM 2L 1M 7L 8M 1L 2M bL 7T 1L 1M 3L gO rM 3B 1M 1L 39M",
    "2L yM 1L 3aM 3L 4M 2L 9M 1L 6M 7O 6L 48O yL nM 2L 2M 3L 1kM 1L 1M 9L 1M 1L 2M 8L 6M dL 1cM 2cL",
    "1cM 1L 1M 5L 1M 1L 5M 1L 14M 9L cM 2L wM 4L 2M 2L 1M 3L 1kM 1L 1M 2L 3M 1L 1M 3L 1mM 8L 2M 5L",
    "45M 3L 1M dL 1M 7L 4M 1L 6M 1L 3M 2L 5iM 1sL cdO 1L 1O 3L bO 3L dO 3L dO 5L bO eB 3L 1R 1O vC",
    "1T 5O fC 1O rB 6O 4B 6E 1L 3E 6S 2O 3L 1E aS 2O 4L gT 1cM 1cO 2L 1O 4L 1O 2L aO 1L 1O 3L 5O 6L",
    "1O 1L 1O 1L 1O 1L 4T 1L bO 2L 4O 5L 5O 4L 2O gL 15O 3tS 1T 1O 82L 1xO qL 1O 6qE kL 26O ciL 1O",
    "9fL 74O lcL 6dO 6L 4M 3L 7O 7L 3jM 1L 2oM wO edL 3O pL 9M 4L 2O 1L 5O 2L 5O 4L 2gM 2O 2L 3O 1L",
    "2iO 1L 5gO 1cL 19O 3L 1cO gL sO 3L 1eO fL cO 4L 4nO 4L 2rO 2L vO 1L 534O 1sL h3kO 1sL 8tO 3L",
    "2nM 4O 1M aO 2L uM 2L 28M 2L eO yL 2uO 1L 3dM 1L 3M 1L 4M 1L pM 2L 1O 4M 4L 8T 8L 1gO cL 1wM",
    "aL iM iL dM 1L 12M 8L pM bL 1aM 3L 1cM 1L 2M 4L 2M 2L 13M 1L 1vM 6L 2M 2L 2M bL 3M 1L 8M 1L",
    "1bM 1L 1fM 1L 1M 3L 2M 2L 5M 2L 1M 1L 16M 2L 8M bL 2xO 6L 39M 1L 2M 1L 4M 3L fn1R 1M 1R aS 1R",
    "12A dqO iA 3jO xA dO 3M gO gM gO wC 1O 1C 2O 1C 1O 9T 1O 2S 2O 5T 2O 5A 3zB 2O 2T 3O 5S 1C 1S",
    "1C 2E aC 1O 6L qO 6L qO bL 3eT 2O 3T 3O oL 75O 1L 1qO 25L 3O 1sL 19M 3nL 2oM 1E vL 3aM aL w0R",
    "7zO 1R 69M fR 14M 8R 4lM 6R 26O 7R cgA 10M cN 9cR 17M 2R 3nA mM bA vR iM 4R 3eL 1M 1L 1iM fL",
    "bO kL aM 1L 2M 2L aM 3L 1dM 4L 2M 2L 7M bL 1fM 3L 10M 5L 1M 9L 1pM 1L cM 2L 1gM 9L aM 4L 2M 1L",
    "2nM 3L 2M 1L 1M 2L 6M 1uL 2nM 1L 3M dL gM 2L 1lM 2L 3M 1L 11M 4aL 1kM 8L 2M 3L 1M 1L nM 1L 2cM",
    "6L 1M 1L 4M 2L 1M 2L 6mM 6L 4M 2L 1M 2L rM 10L 1fM 8L 2M 1L 1M 2L vO wL 17M 1L 1M 1L 2M 6L 1M",
    "1L 2tM 3L 2M 4L 1M 9L 73M 9L 1M 2L 74M 2L 1M 1L 4M 1L 40M 8L 4M 1L wM 6L 2M 2L 14M 6L 2M 4L 8M",
    "9L 1M 6L 2M 3L 1aM dL 1M 2L baM eL 2cM nL 1M 7L 1M 2L 1M 23L 1dM lL 1M 9L 1sM 3L 2M 1L 1M 1L",
    "9nM 2L 68O 8T 4O uL esxM 5L 1nM 7L t4M 1L 1rM 4L 27O 1L 1M cL f59M 2L 1B 3moM 28L evM 3L 9B 8M",
    "8L 2M 7L uM 4L 1nO 2hM 3O 4bL wO 2oL orO 1L 1lO 1L 1lO 1L 1lO 1L 1lO 1L aE 1eL e8M 1jL 4M 1eL",
    "8M 1L eM 1L mM v9L 74M 74L 1cM 7L afM iL 18M 4L fT ypL wR 5sM 1cR 1wM 7R meA hrO eoE bO 5L vO",
    "1L 1mO 6L 1pO 1lL 3eO 1w0E swL gutdB 73M 1edcL" ]

/-- The ranges of equal class. -/
def bidiTable : RangeTable BidiClass :=
  RangeTable.read (fun payload => BidiClass.ofLetter (payload.headD 'O')) bidiRows

/-- The class of a character. -/
def bidiClass (c : Char) : BidiClass :=
  (bidiTable.find? c.toNat).getD .left

end Wayfarer
