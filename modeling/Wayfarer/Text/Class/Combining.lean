import Wayfarer.Text.RangeTable

/-!
Combining characters.

* `combiningClass`: the canonical combining class, zero for a character that starts a sequence;
* `isMark`: the characters that attach to the one before them.
-/

namespace Wayfarer

/-- Where the combining class changes, and what it is from there on. -/
def combiningRows : List String :=
  [ "0.0 lc.6e l.6g 1.64 4.6g 1.60 1.64 5.5m 2.64 4.5m 2.64 b.1 5.64 4.6e 8.6o 1.6e 1.64 3.6e 3.64",
    "2.0 1.6e 3.64 4.6e 1.6g 1.64 2.6e 1.6h 1.6i 2.6h 1.6i 2.6h 1.6e d.0 7n.6e 5.0 7d.64 1.6e 4.64",
    "1.6e 3.66 1.64 1.6e 6.64 6.6e 2.64 1.6e 2.66 1.6c 1.6e 1.a 1.b 1.c 1.d 1.e 1.f 1.g 1.h 1.i 1.j",
    "2.k 1.l 1.m 1.0 1.n 1.0 1.o 1.p 1.0 1.6e 1.64 1.0 1.i 1.0 20.6e 8.u 1.v 1.w 1.0 1c.r 1.s 1.t",
    "1.u 1.v 1.w 1.x 1.y 1.6e 2.64 2.6e 5.64 1.6e 2.64 1.0 g.z 1.0 2t.6e 7.0 2.6e 4.64 1.6e 1.0",
    "2.6e 2.0 1.64 1.6e 2.64 1.0 z.10 1.0 u.6e 1.64 1.6e 2.64 1.6e 2.64 3.6e 1.64 2.6e 1.64 1.6e",
    "3.64 1.6e 1.64 1.6e 1.64 1.6e 1.64 1.6e 2.0 4g.6e 7.64 1.6e 1.0 9.64 1.0 o.6e 4.0 1.6e 9.0",
    "1.6e 3.0 1.6e 5.0 17.64 3.0 1o.6e 1.64 3.6e 4.0 16.6e 5.64 5.6e e.0 1.64 1.6e 2.64 1.6e 2.64",
    "1.6e 3.64 3.r 1.s 1.t 1.6e 3.64 1.6e 2.64 2.6e 5.0 1o.7 1.0 g.9 1.0 3.6e 1.64 1.6e 2.0 2v.7",
    "1.0 g.9 1.0 1c.6e 1.0 1p.7 1.0 g.9 1.0 32.7 1.0 g.9 1.0 32.7 1.0 g.9 1.0 3j.9 1.0 32.7 1.0 g.9",
    "1.0 7.2c 1.2j 1.0 2t.7 1.0 g.9 1.0 31.9 2.0 g.9 1.0 3g.9 1.0 31.2v 2.9 1.0 d.2z 4.0 30.3a 2.9",
    "1.0 d.3e 4.0 24.64 2.0 r.64 1.0 1.64 1.0 1.60 1.0 1j.3l 1.3m 1.0 1.3o 1.0 5.3m 4.0 2.3m 1.0",
    "1.6e 2.9 1.0 1.6e 2.0 1q.64 1.0 34.7 1.0 1.9 2.0 2a.64 1.0 jz.6e 3.0 qc.9 2.0 u.9 1.0 4d.9 1.0",
    "a.6e 1.0 5n.6c 1.0 3z.66 1.6e 1.64 1.0 63.6e 1.64 1.0 1z.9 1.0 k.6e 8.0 2.64 1.0 1c.6e 5.64",
    "6.6e 2.64 1.0 1.64 2.6e 2.64 2.6e 5.64 1.6e 4.0 2t.7 1.0 f.9 1.0 12.6e 1.64 1.6e 7.0 1i.9 2.0",
    "1m.7 1.0 b.9 2.0 1v.7 1.0 48.6e 3.0 1.1 1.64 5.6e 2.64 4.6e 1.0 1.1 7.0 4.64 1.0 6.6e 1.0 3.6e",
    "2.0 5i.6e 2.64 1.6e 7.64 1.6e 2.6i 1.5y 1.64 1.5m 1.6e 11.6g 1.6c 2.64 1.62 1.6e 1.6h 1.64",
    "1.6e 1.64 1.0 k0.6e 2.1 2.6e 4.1 3.6e 2.0 4.6e 1.0 3.1 2.6e 1.64 1.6e 1.1 2.64 4.6e 1.0 2da.6e",
    "3.0 3x.9 1.0 2o.6e w.0 fe.62 1.6c 1.6g 1.66 1.68 2.0 2x.8 2.0 n9w.6e 1.0 4.6e a.0 w.6e 2.0",
    "28.6e 2.0 7o.9 1.0 11.9 1.0 47.9 1.0 r.6e i.0 1l.64 3.0 11.9 1.0 2n.7 1.0 c.9 1.0 6n.6e 1.0",
    "1.6e 2.64 1.0 2.6e 2.0 5.6e 2.0 1.6e 1.0 1g.9 1.0 6u.9 1.0 fn4.q 1.0 ld.6e 7.64 7.6e 2.0 r1.64",
    "1.0 6a.64 1.0 45.6e 5.0 1aq.64 1.0 1.6e 1.0 14.6e 1.1 1.64 1.0 4.9 1.0 4l.6e 1.64 1.0 fx.6e",
    "4.0 ar.6e 2.0 49.64 2.6e 3.64 1.6e 1.64 4.0 1d.6e 1.64 1.6e 1.64 1.0 5c.9 1.0 15.9 1.0 e.9 1.0",
    "1l.9 1.7 1.0 1x.6e 3.0 1c.9 2.0 1q.7 1.0 24.9 1.0 9.7 1.0 2y.9 1.7 1.0 4y.7 1.9 1.0 28.7 2.0",
    "g.9 1.0 o.6e 7.0 3.6e 5.0 5p.9 1.0 3.7 1.0 n.6e 1.0 2r.9 1.7 1.0 6z.9 1.7 1.0 3i.9 1.0 3a.9",
    "1.7 1.0 37.9 1.0 7h.9 1.7 1.0 76.9 2.0 4.7 1.0 4c.9 1.0 2b.9 1.0 i.9 1.0 29.9 1.0 bp.9 1.0",
    "76.7 1.0 1.9 2.0 29.9 1.0 fa0.1 5.0 1n.6e 7.0 xl.6 2.0 f58.1 1.0 43q.60 2.1 3.0 3.6a 1.60 5.0",
    "8.64 8.0 2.6e 5.64 2.0 u.6e 4.0 44.6e 3.0 2pn.6e 7.0 1.6e h.0 2.6e 7.0 1.6e 2.0 1.6e 5.0 79.6e",
    "7.0 af.6e 1.0 1p.6e 4.0 15s.64 7.0 31.6e 6.7 1.0" ]

/-- The ranges of equal combining class. -/
def combiningTable : RangeTable Nat :=
  RangeTable.read (fun payload => readBase36 (payload.drop 1)) combiningRows

/-- The canonical combining class of a character. -/
def combiningClass (c : Char) : Nat :=
  if c.toNat < 0x300 then 0 else (combiningTable.find? c.toNat).getD 0

/-- Where marks begin and end. -/
def markRows : List String :=
  [ "0N lcM 34N 7nM 7N 7bM 19N 1M 1N 1M 2N 1M 2N 1M 9N 1sM bN 1cM lN gM 1N 2tM 7N 2M 6N 2M 2N 1M 4N",
    "zM 1N uM tN 2hM bN 1mM 9N 9M 1N oM 4N 1M 9N 1M 3N 1M 7N 15M 5N 1mM 8N 16M oN 1M xN 1iM 3N 1M",
    "iN 1M 7N aM 2N tM 4N 1jM 1N 1M gN 9M 5N 6M 4N oM 7N 1jM tN nM 2N 3M 1N bM 4N 1jM 1N 1M iN iM",
    "4N kM bN 1jM 1N 1M uN 6M 4N sM 1N 1nM iN 7M fN qM 5N 1jM 1N 1M qN aM 4N rM 3N 1kM 1N 1M vN 5M",
    "4N qM 4N 1jM 2N 1M gN 9M 1N aM 4N rM 4N 1xM sN cM 2N 1pM 1N 2M bN 8M 8N 2qM 1N 2M 9N bM 8N 20M",
    "2N rM 1N 1M 1N 1M 1N 4M 2N 1dM kN 1M 2N 5M 1dN 8M 1N 2sM kN nM 4N 4M 3N 1M 3N 2M 7N 3M 4N dM",
    "cN 1M 1N aM 4N jjM 3N qaM dN jM 3N tM eN iM eN 1gM wN 9M 3N 17M 3N 1M 1N 39M 2N yM 1N 3aM wN",
    "5zM 7N 1jM 17N 1cM 2dN 1bM hN 12M 9N cM 3N uM dN 1kM mN 14M nN 45M 3N 1M lN 4M 1N 6M 1N 2M 3N",
    "5iM 1sN k0M 1cN 2cvM 3N 3xM 1N 2oM wN feM 6N 2xM 2N n9wM 4N 1M aN wM 2N 28M 2N 7kM 1N 3M 1N 4M",
    "1N nM 5N 4M 4N 28M 2N 1eM qN iM iN dM 1N 12M 8N pM oN xM 4N 1bM eN 10M 1N 1vM nN 3M 1N 8M 4N",
    "17M 3N 1eM 1N 1M 3N 2M 2N 5M 2N 1M 1N 15M 5N 5M cN 6aM 8N 1M 4N fn2M 1N khM gN gM gN r1M 3nN",
    "2oM 1N 45M aN 1a9M fN 14M 8N 4lM 6N ftM cN ajM 2N 49M bN 1dM 4N 3eM 3N 1hM fN 15M 1N 2M 2N aM",
    "4N 19M bN 7M bN 1fM 3N 10M fN fM 2N 18M 1N cM 3N 1cM eN 8M 4N 1M 2N 2kM cN 6M 1uN 2nM hN gM 5N",
    "1iM 2N 1M iN 7M 6N 5M 4eN 1hM iN nM 1N 29M kN 6jM iN rM 10N 1cM hN 2yM dN 2tM jN 70M fN 6tM fN",
    "1M 1N 1M 2N 3xM gN 3M sN 1M aN 14M 7N 1M 4N 8M 9N 1M bN 1aM gN b9M hN 2aM 32N 1dM lN 1M 9N 1mM",
    "eN 9nM 4N f09M 5N 1nM 7N t4M 1N 1M 1uN 29M sN f4tM 2N 3mpM 28N etM 5N 3M 6N 8M 8N 2M 7N uM 4N",
    "44M 3N 1izM 1jN 4M 1eN 8M 1N eM 1N mM v9N 74M 74N 1cM 7N afM iN 18M 4N 15sM 1cN 1wM 7N gzhxM",
    "1edcN" ]

/-- The ranges of marks. -/
def markTable : RangeTable Bool :=
  RangeTable.read (fun payload => payload.head? = some 'M') markRows

/-- Whether a character attaches to the one before it. -/
def isMark (c : Char) : Bool :=
  0x300 ≤ c.toNat && (markTable.find? c.toNat).getD false

end Wayfarer
