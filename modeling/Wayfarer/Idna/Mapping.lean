import Wayfarer.Text.RangeTable

/-!
What becomes of the characters of a domain name.

* `Idna.Fate`: a character stays, goes, is replaced or is not allowed;
* `Idna.fate`: the fate of a character;
* `Idna.mapped?`: a name with every character replaced, unless one is not allowed.
-/

namespace Wayfarer.Idna

/-- The fate of a character. In a range of pairs every first character is replaced by the one
after it. -/
inductive Fate where
  | stays
  | goes
  | refused
  | shifted (offset : Int)
  | replaced (others : List Nat)
  | pairs
deriving Repr, Inhabited

/-- The fate that an entry of the table stands for. -/
def Fate.read : List Char → Fate
  | 'V' :: _ => .stays
  | 'I' :: _ => .goes
  | 'O' :: '-' :: digits => .shifted (-readBase36 digits)
  | 'O' :: digits => .shifted (readBase36 digits)
  | 'S' :: numbers => .replaced (readNumbers numbers)
  | 'P' :: _ => .pairs
  | _ => .refused

/-- Where the fate changes, and what it is from there on. -/
def fateRows : List String :=
  [ "0V 1tOw qV 11X wO-3k 1V 7Sw,lk 1V 1O-21 1V 2I 1V 1Sw,lg 1V 2O-3k 2Sw,ld 1Olj 1V 2Sw,mf 1O-3s",
    "1O-23 1V 1S1d,6dg,1g 1S1d,6dg,1e 1S1f,6dg,1g 1V 1Ow nV 1Ow 7V xP 1cS2x,lj 1V 1S2x,2y 2O1 1V",
    "1O1 1V 2P 6S30,53 2P 8Sjg,32 1P 1aO-3d 1P 6O-7g 1V 1O5u 1P 4O5q 1O1 1V 1O5p 2O1 1V 2O27 1O5m",
    "1O5n 1O1 1V 1O5p 1O5r 1V 1O5v 1O5t 1O1 1V 3O5v 1O5x 1V 1O5y 1P 6O62 1O1 1V 1O62 1V 2O1 1V 1O62",
    "1O1 1V 1O61 2P 4O63 1O1 1V 3O1 1V 7S2s,am 3S30,2y 3S32,2y 3P eO1 1V 2P gO1 1V 2S2s,3e 3O1 1V",
    "1O-2p 1O-1k 1P 14O-3m 1V 1P gO1 1V 7O8bv 1O1 1V 1O-4j 1O8bs 1V 2O1 1V 1O-5f 1O1x 1O1z 1P 8O1",
    "1V 2pO-g8 1O-23 1O-g8 1O-g1 1O-1n 1O-1m 1O-1h 1O-g0 1O-fz 1V vSw,li 1Sw,lj 1Sw,lm 1Sw,mg",
    "1Sw,lf 1Sw,ln 1V 2O-3h 1O-hh 1O-hb 1O-h7 1O-27 1V 2jO-1s 2V 1O-1c 1Slk,ld 1O38 1V 9I 1V wP",
    "4O-57 1V 1O1 1V 1X 2Sw,qh 1V 3O-n7 1O38 1X 4Sw,ld 1Sw,lk,ld 1O12 1O-k0 1O11 3X 1O1s 1X 1O1r 2V",
    "1Ow hX 1Ow 9V zO8 1O-u 1O-p 1O-d 1O-6 1O-9 1O-f 1O-m 1V 1P oO-1i 1O-1c 1O-1b 1V 1O-1o 1O-1s 1V",
    "1O1 1V 1O-1i 1O1 1V 2O-3m 3O28 gOw wV 1cP wO1 1V 9P 1iOf 1P cO1 1V 2P 2oX 1O1c 12X 2V",
    "1aS12d,136 1V 3X 2V 3X 1V 1jX 8V rX 4V 6X hV mX 1V 2gS17r,19w 1S18o,19w 1S1c7,19w 1S18q,19w 1V",
    "2sX 1V 1cX 2V 1nX 2V 2tX eV 1nX 2V 1dX 2V fX 1V sX 2V 1X 1V bX 5V wX 7V 23X 1V 39S1sl,1to",
    "1S1sm,1to 1S1sn,1to 1S1ss,1to 1S1sx,1to 1S1sy,1to 1S1t7,1to 1S1tb,1to 1V 10X 1V 8X 2V 2X 2V mX",
    "1V 7X 1V 1X 3V 4X 2V 9X 2V 2X 2V 4X 8V 1X 4S1wh,1x8 1S1wi,1x8 1X 1S1wv,1x8 1V 4X 2V pX 2V 3X",
    "1V 6X 4V 2X 2V mX 1V 7X 1V 1S20i,20s 1X 1V 1S20o,20s 1X 1V 2X 2V 1X 1V 5X 4V 2X 2V 3X 3V 1X",
    "7S1zq,20s 1S1zr,20s 1S1zw,20s 1V 1X 1S20b,20s 1X 7V hX aV 3X 1V 9X 1V 3X 1V mX 1V 7X 1V 2X 1V",
    "5X 2V aX 1V 3X 1V 3X 2V 1X fV 4X 2V cX 7V 7X 1V 3X 1V 8X 2V 2X 2V mX 1V 7X 1V 2X 1V 5X 2V 9X",
    "2V 2X 2V 3X 7V 3X 4S275,27w 1S276,27w 1X 1V 5X 2V iX aV 2X 1V 6X 3V 3X 1V 4X 3V 2X 1V 1X 1V 2X",
    "3V 2X 3V 3X 3V cX 4V 5X 3V 3X 1V 4X 2V 1X 6V 1X eV lX 5V dX 1V 3X 1V nX 1V gX 2V 9X 1V 3X 1V",
    "4X 7V 2X 1V 3X 1V 2X 2V 4X 2V aX 7V mX 1V 3X 1V nX 1V aX 1V 5X 2V 9X 1V 3X 1V 4X 7V 2X 5V 3X",
    "1V 4X 2V aX 1V 3X cV dX 1V 3X 1V 1fX 1V 3X 1V 6X 4V gX 2V qX 1V 3X 1V iX 3V oX 1V 9X 1V 1X 2V",
    "7X 3V 1X 4V 6X 1V 1X 1V 8X 6V aX 2V 3X cV 1eS2tp,2sy 1V 7X 4V tX 11V 2X 1V 1X 1V 5X 1V oX 1V",
    "1X 1V cS2x9,2wi 1V aX 2V 5X 1V 1X 1V 7X 1V aX 2S2wb,2vt 1S2wb,2w1 1V 2X wV cO-1 1V 1iS30i,33r",
    "1V 4X 1V 4S30s,33r 1V 4S30x,33r 1V 4S312,33r 1V 4S317,33r 1V cS30g,33p 1V 3X 4V 2S31t,31u 1V",
    "1S31t,31w 1S33m,328 1S33m,31t,328 1S33n,328 1S33n,31t,328 1V 7S31t,328 1V hS32q,33r 1V 4X 1V",
    "4S330,33r 1V 4S335,33r 1V 4S33a,33r 1V 4S33f,33r 1V cS32o,33p 1V 3X 1V fX 1V dX 11V 4gO5ls 12X",
    "1O5ls 1X 5O5ls 1X 2V 18O-w 1V 2qI 2V 6gX 1V 4X 2V 7X 1V 1X 1V 4X 2V 15X 1V 4X 2V xX 1V 4X 2V",
    "7X 1V 1X 1V 4X 2V fX 1V 1lX 1V 4X 2V 1vX 2V wX 3V qX 6V 2eX 2O-8 6X 2V hsX 1V sX 3V 2hX 7V mX",
    "9V oX 9V kX cV dX 1V 3X 1V 2X cV 1gI 2V 14X 2V aX 6V aX 6V bI 5V aX 6V 2hX 7V 17X 5V 1yX aV vX",
    "1V cX 4V cX 4V 1X 3V 16X 2V 5X bV 18X 4V qX 6V bX 3V 1qX 2V 1tX 1V tX 2V bX 6V aX 6V eX 2V 1aX",
    "2V cX kV 25X 1V 4mX 8V 1oX 3V fX 3V 1fO-4su 1O-4st 1O-4sk 1O-4si 1Sua 2O-4sc 1O-4ro 1Or7n 1O1",
    "1V 1X 5O-2bk 17X 2O-2bk 3V 8X 8V 17X 5V 18O-5or 1O-5l3 1O-5os 1V 1O-5os 2O-5ed 1O-5os 8V",
    "1O-5ot 1O-5cq 1O-5ou 1O-5ot 1O-5os 2O-5or 1O-5pe 1O-5bo 2O-1w 1O-5ph 1O-5pg 2O-5bl 1O-5bk",
    "2O-5pi 1V 1O-5pg 1O-5pf 1O-5ja 1O-5pf 1O-5bz 1O-1q 2O-5pi 1O-5pf 2O-1o 1O-5bf 1O-5ph 1O-1j",
    "1O-52j 3O-522 2O-5q1 1O-5pt 1O-5pr 2O-52s 2O-52f 1O-52b 2V dO-4zf 1V yO-5e1 1O-5rt 1O-5e0",
    "1O-5ny 1O-5dv 1O-5ru 1O-5du 1O-5dt 1O-5dq 1O-5do 3O-18 1O-5cb 1O-5do 1O-11 1O-5cc 1O-5dn",
    "1O-5dp 1O-5do 4O-5dm 1O-5dd 2O-5je 1O-5d9 2O-4c 1O-5da 2O-5s1 1O-5d8 3O-553 1V 1sP 44O1 1V",
    "5S2p,ji 1O-1m 1V 2O-5vj 1V 1P 2mO1 1V 9O-8 8V 6X 2O-8 6X 2V 8O-8 8V 8O-8 8V 6X 2O-8 6X 2V 8X",
    "1O-8 1X 1O-8 1X 1O-8 1X 1O-8 1V 8O-8 8V 1O-5hh 1V 1O-5hi 1V 1O-5hj 1V 1O-5hk 1V 1O-5gt 1V",
    "1O-5gu 1V 1O-5gv 1X 2S64g,qh 1S64h,qh 1S64i,qh 1S64j,qh 1S64k,qh 1S64l,qh 1S64m,qh 1S64n,qh",
    "1S64g,qh 1S64h,qh 1S64i,qh 1S64j,qh 1S64k,qh 1S64l,qh 1S64m,qh 1S64n,qh 1S65c,qh 1S65d,qh",
    "1S65e,qh 1S65f,qh 1S65g,qh 1S65h,qh 1S65i,qh 1S65j,qh 1S65c,qh 1S65d,qh 1S65e,qh 1S65f,qh",
    "1S65g,qh 1S65h,qh 1S65i,qh 1S65j,qh 1S674,qh 1S675,qh 1S676,qh 1S677,qh 1S678,qh 1S679,qh",
    "1S67a,qh 1S67b,qh 1S674,qh 1S675,qh 1S676,qh 1S677,qh 1S678,qh 1S679,qh 1S67a,qh 1S67b,qh 1V",
    "2S67k,qh 1Sq9,qh 1Sq4,qh 1X 1V 1S69i,qh 1O-8 2O-22 1O-5jj 1Sq9,qh 1Sw,lv 1O-5j9 1Sw,lv 1Sw,n6",
    "1Sw,lk,n6 1S67o,qh 1Sqf,qh 1Sq6,qh 1X 1V 1S69y,qh 1O-2e 1O-5jw 1O-2e 1O-5jx 1Sqf,qh 1Sw,lv,lc",
    "1Sw,lv,ld 1Sw,lv,n6 1V 3O-5kz 1X 2V 2O-8 2O-2s 1O-5kc 1X 1Sw,lw,lc 1Sw,lw,ld 1Sw,lw,n6 1V",
    "3O-5kj 1V 4O-8 2O-34 1O-5jy 1O-7 1Sw,lk,lc 1Sw,lk,ld 1O-68f 1X 2S67w,qh 1Sqx,qh 1Sr2,qh 1X 1V",
    "1S6ba,qh 1O-3k 1O-5kd 1O-3i 1O-5kd 1Sqx,qh 1Sw,ld 1Sw,lw 1X 1Sw bI 1V 2X 2V 1O-1 1V 5Sw,mr 1V",
    "cX 3V 1X 7O-6bz 1V 3S6cy,6cy 1S6cy,6cy,6cy 1V 1S6d1,6d1 1S6d1,6d1,6d1 1V 4Sx,x 1V 1Sw,lh 1V",
    "8S1r,1r 1S1r,x 1Sx,1r 1V dS6cy,6cy,6cy,6cy 1V 7O-6db 1I 5X 5I 6O-6dc 1O-6bs 1X 2O-6dc 6O-6dr",
    "1Obb 1O-6db 1O-6dx 2O-6c1 1O-6ds aO-6e7 1Oav 1O-6dr 1O-6ed 2X 1O-6cv 1O-6cs 1O-6cj 1O-6cb",
    "1O-5yz 1O-6ct 1O-6cr 4O-6cq 1O-6co 2X 3V 8S36,37 1V pX eV xX fS2p,1b,2r 1S2p,1b,37 1O-6fz",
    "1S4w,2r 1V 1S2r,1b,33 1S2r,1b,39 1O-624 1V 1S4w,2u 1O-6g3 1S2w 4O-6aw 1S2x 2S30 2V 1O-6g7",
    "1S32,33 1V 2O-6g9 2S36 3V 2S37,31 1S38,2t,30 1S38,31 1V 1O-6ga 1V 1O-5st 1V 1O-6ge 1V 1O-6gv",
    "1O-6di 1O-6h6 2V 1S2t 2O-6h7 1Os 1O-6h2 1O-6h1 1O-5et 4O-6hc 1V 1S2u,2p,3c 1O-5to 1Sqb 2O-5tr",
    "1O5t 1V 4S2s 2O-6hu 1O-6hr 2V 6S1d,6dg,1j 1S1d,6dg,1l 1S1d,6dg,1d,1c 1S1d,6dg,1f 1S1e,6dg,1f",
    "1S1d,6dg,1h 1S1e,6dg,1h 1S1f,6dg,1h 1S1g,6dg,1h 1S1d,6dg,1i 1S1h,6dg,1i 1S1d,6dg,1k",
    "1S1f,6dg,1k 1S1h,6dg,1k 1S1j,6dg,1k 1S1d,6dg 1O-6if 1S2x,2x 1S2x,2x,2x 1S2x,3a 1O-6i6 1S3a,2x",
    "1S3a,2x,2x 1S3a,2x,2x,2x 1S2x,3c 1O-6i9 1S3c,2x 1S3c,2x,2x 1O-6io 1O-6iy 2O-6iq 1O-6iv 1S2x,2x",
    "1S2x,2x,2x 1S2x,3a 1O-6im 1S3a,2x 1S3a,2x,2x 1S3a,2x,2x,2x 1S2x,3c 1O-6ip 1S3c,2x 1S3c,2x,2x",
    "1O-6j4 1O-6je 2O-6j6 1V 3O1 1V 5S1c,6dg,1f 1V 2X 4V 4cS6qz,6qz 1S6qz,6qz,6qz 1V 1S6r2,6r2",
    "1S6r2,6r2,6r2 1V 6wO2jj 2V 73X mV bX lO-75b 9S1d,1c 1S1d,1d 1S1d,1e 1S1d,1f 1S1d,1g 1S1d,1h",
    "1S1d,1i 1S1d,1j 1S1d,1k 1S1d,1l 1S1e,1c 1S14,1d,15 1S14,1e,15 1S14,1f,15 1S14,1g,15 1S14,1h,15",
    "1S14,1i,15 1S14,1j,15 1S14,1k,15 1S14,1l,15 1S14,1d,1c,15 1S14,1d,1d,15 1S14,1d,1e,15",
    "1S14,1d,1f,15 1S14,1d,1g,15 1S14,1d,1h,15 1S14,1d,1i,15 1S14,1d,1j,15 1S14,1d,1k,15",
    "1S14,1d,1l,15 1S14,1e,1c,15 1X kS14,2p,15 1S14,2q,15 1S14,2r,15 1S14,2s,15 1S14,2t,15",
    "1S14,2u,15 1S14,2v,15 1S14,2w,15 1S14,2x,15 1S14,2y,15 1S14,2z,15 1S14,30,15 1S14,31,15",
    "1S14,32,15 1S14,33,15 1S14,34,15 1S14,35,15 1S14,36,15 1S14,37,15 1S14,38,15 1S14,39,15",
    "1S14,3a,15 1S14,3b,15 1S14,3c,15 1S14,3d,15 1S14,3e,15 1O-76d qO-773 qO-796 1V",
    "10hS6qz,6qz,6qz,6qz 1V 2vS1m,1m,1p 1S1p,1p 1S1p,1p,1p 1V 2tS8gt,mw 1V 47X 2V 3uO1c 1cV 1cO1 1V",
    "1O-8af 1O-2xy 1O-89z 1V 2P 6O-8bg 1O-8al 1O-8bj 1O-8bi 1V 1O1 1V 2O1 1V 6O-8pe 1O-8p3 1O-8cf",
    "2P 2qO1 1V 8O1 1V 1O1 1V 4O1 1V 1X 5V 19X 1V 1X 5V 1X 2V 1kX 7O-e 1V 1X eV oX 9V 7X 1V 7X 1V",
    "7X 1V 7X 1V 7X 1V 7X 1V 7X 1V 7X 1V 3iX yV qX 1V 4Oc32 1V 2bOm98 1X cO64g 1O65j 1O65w 1O664",
    "1O66t 1O680 1O686 1O68p 1O69e 1O6ra 1O6sb 1O6sg 1O6t2 1O6tl 1O6u5 1O6vl 1O6w5 1O6wf 1O70p",
    "1O73a 1O741 1O745 1O74y 1O756 1O75w 1O768 1O76w 1O78b 1O78s 1O79i 1O7uh 1O7wg 1O897 1O89t",
    "1O8a0 1O8aa 1O8ar 1O8cu 1O8q2 1O8rd 1O8uo 1O8va 1O8vs 1O8wd 1O8xu 1O8xw 1O97x 1O986 1O98h",
    "1O98t 1O9c0 1O9c7 1O9cb 1O9fj 1O9fs 1O9g4 1O9gb 1O9hz 1O9if 1O9iw 1O9l3 1Oa17 1Oa2g 1Oa30",
    "1Oanj 1Oann 1Oapx 1Oaqc 1Oaqo 1Oar8 1Oasa 1Oase 1Oazs 1Ob0f 1Ob1a 1Obth 1Obva 1Obvw 1Obxh",
    "1Oby4 1Obyc 1Obyi 1Obzx 1Oc01 1Oc0w 1Ocuu 1Od78 1Od7j 1Od7n 1Od7q 1Od7x 1Od8e 1Od8f 1Odan",
    "1Odgm 1Odgq 1Odq4 1Odqd 1Odrq 1Odrw 1Ods4 1Odsb 1Odut 1Oduz 1Oe1a 1Oe1g 1Oe2s 1Oe38 1Oe4i",
    "1Oeb2 1Oeb8 1Oebo 1Oekq 1Oeo7 1Oeoc 1Oetd 1Oevr 1Oex0 1Of7h 1Ofb5 1Ofr2 1Ofrs 1Oftc 1Ofuq",
    "1Ofwl 1Ofwv 1Ofx0 1Ofxw 1Ofzz 1Og08 1Og9t 1Og9z 1Oga7 1Ogaf 1Ogau 1Ogb8 1Ogbb 1Ogdh 1Ogdk",
    "1Ogdp 1Oh4x 1Oh5q 1Ohiq 1Ohj1 1Ohjn 1Ohrh 1Ohrt 1Ohtr 1Ohv0 1Oiaq 1Oib4 1Oibi 1Oicg 1Oidg",
    "1Oiiy 1Oij9 1Oil3 1Oiry 1Oiss 1Oiyk 1Oiz4 1Oiz8 1Oj5b 1Ojae 1Ojdu 1Ojdz 1Oje3 1Ok40 1Ok48",
    "1Ok8j 1Okcs 1Okcu 1Oke4 1Okh0 1Okhc 1Okhf 1Okhl 1Okka 1Okl7 1Oklc 1Oklp 1Okqb 1Okrp 1Okrs",
    "1Okwu 1Okww 1Okxe 1Ol4d 1Ol5o 1Ol5u 1Ol7r 1Ol80 1Ol82 1Ol8b 1Ol94 1Olk2 1Olv5 1Olve 1Olwf",
    "1Olx0 1Olx7 1Olxg 1Olxj 1Olym 1Olyp 1Olz5 1Olz9 1Olzl 1Om0b 1Om0p 1Om0w 1Om2i 1Om2w 1Om2z 1X",
    "16O-9gg 1V 1O-9g4 1V 1fO-10 1V 1O6x5 1O6x7 2V 5X 1V 2eX 2V 2Sw,9ll 1Sw,9lm 1V 2S9l4,9l6 1V",
    "2nS9mb,9mw 1X 5V 17X 1O-6cx 2O-689 1O-6cy 1O-689 2O-6d0 3O-68a 6O-6cm 1O-6d7 3O-6cj 1O-6d8",
    "aO-6b2 lI 1O-6dt 2O-68w 2O-68t 1O-68s 1O-68o 1O-68l 1O-68k 1O-6du 1O-68i 1O-68h 1O-6dw 2O-6dv",
    "1O-6du 2O-6dr 1O-6dq 1O-6dp 5O-6dn 1O-6dk 1O-6db 1O-6d5 1O-6d1 1O-68h 2O-6ct 3O-6bn 2O-6bl",
    "1O-6bd 2O-6bc 1O-6b3 1O-6b1 1X 1V 2O5m6 1O5q1 1O5md 1O7d2 1O5mc 1O5na 1O5mb 1Odcp 1O5of 1O5mm",
    "1O5lx 1O7t8 1O7f6 1O5qz 1V 1yX aV gS14,3cw,15 1S14,3cy,15 1S14,3cz,15 1S14,3d1,15 1S14,3d2,15",
    "1S14,3d3,15 1S14,3d5,15 1S14,3d7,15 1S14,3d8,15 1S14,3da,15 1S14,3db,15 1S14,3dc,15",
    "1S14,3dd,15 1S14,3de,15 1S14,xz4,15 1S14,yvs,15 1S14,zc4,15 1S14,108s,15 1S14,10p4,15",
    "1S14,115g,15 1S14,1224,15 1S14,12ys,15 1S14,13f4,15 1S14,14bs,15 1S14,14s4,15 1S14,158g,15",
    "1S14,15os,15 1S14,1654,15 1S14,13p8,15 1S14,1350,13ic,15 1S14,1350,16f8,15 1X 1S14,feo,15",
    "1S14,fik,15 1S14,fex,15 1S14,h5n,15 1S14,fis,15 1S14,g31,15 1S14,fer,15 1S14,g2z,15",
    "1S14,fh9,15 1S14,gg1,15 1S14,kco,15 1S14,m7f,15 1S14,ldg,15 1S14,kdk,15 1S14,ssx,15",
    "1S14,h7j,15 1S14,k4l,15 1S14,kkq,15 1S14,kcp,15 1S14,ny6,15 1S14,glp,15 1S14,mm1,15",
    "1S14,rs1,15 1S14,nz1,15 1S14,gc4,15 1S14,fkz,15 1S14,gos,15 1S14,i1y,15 1S14,nhf,15",
    "1S14,flt,15 1S14,rt3,15 1S14,ggk,15 1S14,nzh,15 1S14,fm9,15 1S14,pnu,15 1S14,po3,15 1O6x7",
    "1O8qf 1Oa4h 1Oeh4 1V 8S34,38,2t 1S1e,1d 1S1e,1e 1S1e,1f 1S1e,1g 1S1e,1h 1S1e,1i 1S1e,1j",
    "1S1e,1k 1S1e,1l 1S1f,1c 1S1f,1d 1S1f,1e 1S1f,1f 1S1f,1g 1S1f,1h 1O-6lc 1O-6lb 2O-6la 3O-6l9",
    "1O-6l8 2O-6l7 5Oo0i 1Oox5 1Opdg 1Oqa3 1Oqqe 1Or6p 1Os3c 1Oszz 1Otga 1Oucx 1Out8 1Ov9j 1Ovpu",
    "1Ow65 1S14c8,y5c 1S13p8,13dk 1Ot9u 1V 1O5fk 1O5jf 1O5fr 1O76g 1O5jk 1O63s 1O5fh 1O63o 1O5hx",
    "1O6go 1Oada 1Oc80 1Obe0 1Oae3 1Oitf 1O780 1Oa51 1Oal5 1Oad3 1Odyj 1O6m1 1Ocmc 1Ohsb 1Odza",
    "1O6cc 1Oe2n 1Od5p 1O7o8 1Oij1 1O619 1O6he 1Obih 1Ok11 1O5m8 1O647 1Ob7k 1O5eu 1O5fs 1O5et",
    "1O8jj 1O6kr 1O6fm 1O831 1O81n 1Odh3 1O5lg 1Ohsp 1O6g5 1O7l8 1S1f,1i 1S1f,1j 1S1f,1k 1S1f,1l",
    "1S1g,1c 1S1g,1d 1S1g,1e 1S1g,1f 1S1g,1g 1S1g,1h 1S1g,1i 1S1g,1j 1S1g,1k 1S1g,1l 1S1h,1c",
    "1S1d,kco 1S1e,kco 1S1f,kco 1S1g,kco 1S1h,kco 1S1i,kco 1S1j,kco 1S1k,kco 1S1l,kco 1S1d,1c,kco",
    "1S1d,1d,kco 1S1d,1e,kco 1S2w,2v 1S2t,36,2v 1S2t,3a 1S30,38,2s 1O-fi 1O-fh 1O-fg 1O-ff 1O-fe",
    "2O-fd 1O-fc 1O-fb 1O-fa 1O-f9 1O-f8 1O-f7 1O-f6 1O-f5 1O-f4 1O-f3 1O-f1 1O-f0 1O-ez 1O-ey",
    "6O-ew 1O-eu 1O-es 1O-eq 1O-eo 5O-en 1O-em 1O-el 6O-ek 4Sfl0,gp8 1S9lu,9n5,9oc,9mw",
    "1S9lu,9nv,9n9,9lt 1S9lu,9o3,9ne,9lu 1S9lu,9oc,9nv 1S9lw,9mz,9o3,9m8 1S9lw,9o3,9mp",
    "1S9ly,9m1,9o3 1S9m0,9mh,9m7,9oc,9mx 1S9m0,9oc,9m3,9oc 1S9m2,9o3,9mh 1S9m2,9oc,9nk",
    "1S9m3,9lw,9nu 1S9m3,9nt,9mr,9mw 1S9m3,9nx,9nu,9oc 1S9m4,9nx,9o3 1S9m4,9o3,9ni 1S9m6,9m4",
    "1S9m6,9mz,9oc 1S9m5,9np,9nu,9oc 1S9m6,9nv,9mo,9oc 1S9m5,9nx 1S9m5,9nx,9m8,9nt,9nk",
    "1S9m5,9nx,9nl,9oc,9mw,9nv 1S9m5,9nx,9nz,9mr,9mw 1S9m8,9nt,9nk 1S9m8,9nt,9nk,9mw,9o3",
    "1S9m7,9nv,9mk,9lw,9nx 1S9m7,9nx,9oc,9n1 1S9m9,9oc,9mh 1S9mb,9nv,9my 1S9mb,9oc,9nh",
    "1S9md,9lw,9m7,9nv 1S9md,9o3,9mp,9oc,9nk 1S9mf,9nu,9o3,9m8 1S9mj,9o3,9mp 1S9mj,9o3,9mw",
    "1S9mo,9oc,9mh 1S9mv,9mf 1S9mx,9nv 1S9mw,9o3 1S9my,9n2 1S9n2,9mr,9mw 1S9n3,9lw,9ms",
    "1S9n5,9oc,9mj,9o3,9mw 1S9n5,9oc,9ms 1S9n4,9oc,9nw,9nv 1S9n8,9lu,9mh,9mw,9nv 1S9n8,9m7,9nv",
    "1S9n8,9mb 1S9n7,9nv 1S9n9,9lt,9nt,9mr,9mx 1S9n9,9lv,9oc,9mw 1S9na,9mr,9mf,9lz,9nv",
    "1S9n9,9nt,9o3 1S9nc,9m7,9mn,9oc,9nv 1S9ne,9ml 1S9ne,9mz,9n6 1S9nc,9nv,9ms 1S9ne,9o3,9mh",
    "1S9ne,9oc,9mg 1S9nd,9oc,9mn 1S9nh,9lw,9o3,9mw 1S9ng,9nv,9mw 1S9nf,9o3 1S9nh,9o3,9mx",
    "1S9nf,9oc,9nv 1S9nf,9oc,9o3 1S9ni,9lw,9m7,9nx 1S9ni,9lw,9nv 1S9ni,9mr,9n3 1S9ni,9nv,9m7",
    "1S9ni,9o3,9mf,9nr,9o3 1S9nj,9m7,9nx,9o3 1S9nj,9nu 1S9nj,9nu,9n4,9oc,9nv 1S9nl,9m4",
    "1S9nl,9m4,9mw,9o3 1S9nl,9oc,9mw,9nv 1S9no,9oc,9mx 1S9no,9oc,9nv 1S9nq,9lu,9o3",
    "1S9nu,9mr,9mw,9nv 1S9nu,9nt 1S9nv,9n8,9oc 1S9nv,9oc,9na,9nv 1S9nw,9nk 1S9nw,9o3,9mw,9ma,9o3",
    "1S9nz,9mr,9mw 1S1c,m9l 1S1d,m9l 1S1e,m9l 1S1f,m9l 1S1g,m9l 1S1h,m9l 1S1i,m9l 1S1j,m9l 1S1k,m9l",
    "1S1l,m9l 1S1d,1c,m9l 1S1d,1d,m9l 1S1d,1e,m9l 1S1d,1f,m9l 1S1d,1g,m9l 1S1d,1h,m9l 1S1d,1i,m9l",
    "1S1d,1j,m9l 1S1d,1k,m9l 1S1d,1l,m9l 1S1e,1c,m9l 1S1e,1d,m9l 1S1e,1e,m9l 1S1e,1f,m9l",
    "1S1e,1g,m9l 1S2w,34,2p 1S2s,2p 1S2p,39 1S2q,2p,36 1S33,3a 1S34,2r 1S2s,31 1S2s,31,1e",
    "1S2s,31,1f 1S2x,39 1Sinn,jdc 1Sk6l,gp8 1Shlz,l7n 1Sk5q,lh7 1Skkq,irz,fmi,ny6 1S34,2p 1S32,2p",
    "1Sqk,2p 1S31,2p 1S2z,2p 1S2z,2q 1S31,2q 1S2v,2q 1S2r,2p,30 1S2z,2r,2p,30 1S34,2u 1S32,2u",
    "1Sqk,2u 1Sqk,2v 1S31,2v 1S2z,2v 1S2w,3e 1S2z,2w,3e 1S31,2w,3e 1S2v,2w,3e 1S38,2w,3e 1Sqk,30",
    "1S31,30 1S2s,30 1S2z,30 1S2u,31 1S32,31 1Sqk,31 1S31,31 1S2r,31 1S2z,31 1S31,31,1e 1S2r,31,1e",
    "1S31,1e 1S2z,31,1e 1S31,31,1f 1S2r,31,1f 1S31,1f 1S2z,31,1f 1S31,6qd,37 1S31,6qd,37,1e 1S34,2p",
    "1S2z,34,2p 1S31,34,2p 1S2v,34,2p 1S36,2p,2s 1S36,2p,2s,6qd,37 1S36,2p,2s,6qd,37,1e 1S34,37",
    "1S32,37 1Sqk,37 1S31,37 1S34,3a 1S32,3a 1Sqk,3a 1S31,3a 1S2z,3a 1S31,3a 1S34,3b 1S32,3b",
    "1Sqk,3b 1S31,3b 1S2z,3b 1S31,3b 1S2z,qx 1S31,qx 1X 1S2q,35 1S2r,2r 1S2r,2s 1S2r,6qd,2z,2v 1X",
    "1S2s,2q 1S2v,3d 1S2w,2p 1S2w,34 1S2x,32 1S2z,2z 1S2z,31 1S2z,38 1S30,31 1S30,32 1S30,33,2v",
    "1S30,3c 1S31,2q 1S31,2x,30 1S31,33,30 1S34,2w 1X 1S34,34,31 1S34,36 1S37,36 1S37,3a 1S3b,2q",
    "1S3a,6qd,31 1S2p,6qd,31 1S1d,k4l 1S1e,k4l 1S1f,k4l 1S1g,k4l 1S1h,k4l 1S1i,k4l 1S1j,k4l",
    "1S1k,k4l 1S1l,k4l 1S1d,1c,k4l 1S1d,1d,k4l 1S1d,1e,k4l 1S1d,1f,k4l 1S1d,1g,k4l 1S1d,1h,k4l",
    "1S1d,1i,k4l 1S1d,1j,k4l 1S1d,1k,k4l 1S1d,1l,k4l 1S1e,1c,k4l 1S1e,1d,k4l 1S1e,1e,k4l",
    "1S1e,1f,k4l 1S1e,1g,k4l 1S1e,1h,k4l 1S1e,1i,k4l 1S1e,1j,k4l 1S1e,1k,k4l 1S1e,1l,k4l",
    "1S1f,1c,k4l 1S1f,1d,k4l 1S2v,2p,30 1V m8dX 3V 1jX 9V 9oX kP 18O1 1V jP sO-w2a 1O-w29 1V 2iX 8V",
    "yP cO1 1V 3P 1qO-1 1V 8P 4O-r9g 1P 8O1 1V 4O1 1V 1O-wmg 1V 2O1 1V 1O1 1V 3P kO-wn8 1O-wnj",
    "1O-wnf 1O-wn5 1O-wn8 1V 1O-wlu 1O-wmi 1O-wlx 1Ops 1P gO-1c 1O-wn7 1O-raw 1P 4O-wo7 1P gO-wu9",
    "1X kO-x32 1O-x3j 1O-x3h 1O-x37 1O1 1V 2O-wy9 1O-wx2 1V 1fX 3V aX 6V 1kX 8V 1yX 8V cX 6V 38X bV",
    "uX 3V 26X 1V bX 4V xX 1V 1jX 9V eX 2V aX 2V 2vX oV sX aV 6X 2V 6X 2V 6X 9V 7X 1V 7X 1V 18O-tx",
    "1O-12 1O-xdf 1O-d 1V 9O-xcs 1V 2X 4O-tzk 28V 1aX 2V aX 6V 8mcX cV nX 4V 1dX 6isO-lh4 1O-sul",
    "1O-kzc 1O-ldn 1O-rar 1O-xqr 1O-wm9 1Svj0 2O-vjs 1O-ke1 1O-was 1O-vk4 1O-tuf 1O-pt1 1O-o0a",
    "1O-moh 1O-mdz 1O-m56 1O-kn8 1O-s9e 1O-rne 1O-qwt 1O-qbd 1O-n2z 1O-khb 1O-isp 1O-xp5 1O-wpz",
    "1O-s2h 1O-qo3 1O-mpe 1O-hz6 1O-us1 1O-r3r 1O-ms6 1O-m2o 1O-tp8 1O-nke 1O-mbs 1O-uhq 1O-suq",
    "1O-rls 1O-qi7 1O-km6 1O-xif 1O-x2v 1O-wup 1O-tbg 1O-s4e 1O-qoy 1O-pqk 1O-nxv 1O-mr3 1O-moq",
    "1O-l6w 1O-jd2 1O-iiy 1O-i0w 1O-pf3 1O-p8d 1O-of1 1O-n79 1O-k6z 1O-hxd 1O-lt7 1O-voj 1O-ugv",
    "1O-oo4 1O-nuv 1O-qn8 1O-pdp 1O-lfq 1O-jf6 1O-voy 1O-uzt 1O-sah 1O-rjn 1O-rb3 1O-oio 1O-obd",
    "1O-jk6 1O-ww0 1O-nuw 1O-x2w 1O-x3d 1O-p4q 1O-oex 1O-n6v 1O-jj8 1O-lp6 1O-tqk 1O-sbe 1O-lsv",
    "1O-xt1 1O-v3s 1O-ua6 1O-qfu 1O-q2a 1O-wuk 1O-pd5 1O-xie 1O-ud9 1O-xui 1O-rrw 1O-t81 1O-ojs",
    "1O-wq0 1O-vta 1O-prg 1O-n51 1O-lvp 1O-rzq 1O-kw1 1O-ru2 1O-tpx 1O-nf3 1O-tlh 1O-q35 1O-xqh",
    "1O-x73 1O-x4g 1O-smx 1O-olw 1O-nil 1O-luz 1O-khb 1O-wwa 1O-wn2 1O-vm6 1O-uja 1O-t6m 1O-r5y",
    "1O-pcr 1O-jq1 1O-isd 1O-hyp 1O-hx7 1O-wz3 1O-szp 1O-s2d 1O-kyz 1O-umy 1O-u0v 1O-txs 1O-tfb",
    "1O-rcf 1O-qx6 1O-qa3 1O-p8r 1O-of6 1O-nxk 1O-l0y 1O-n1n 1O-ktz 1O-k7l 1O-x39 1O-wze 1O-wkh",
    "1O-r13 1O-mam 1O-lx3 1O-ul5 1O-ucu 1O-tnt 1O-s1j 1O-ors 1O-qia 1O-xqc 1O-w4w 1O-v5v 1O-usx",
    "1O-uc0 1O-qgr 1O-qbp 1O-o45 1O-nze 1O-kfx 1O-ji4 1O-jfv 1O-ja4 1O-xm2 1O-pag 1O-kjn 1O-jk0",
    "1O-u6w 1O-xtg 1O-xcx 1O-v66 1O-v3y 1O-t9h 1O-se5 1O-quq 1O-pz3 1O-n2e 1O-ksn 1O-htj 1O-t31",
    "1O-jo8 1O-x1a 1O-swd 1O-st2 1O-rrd 1O-rhr 1O-qf7 1O-q5w 1O-pk3 1O-on3 1O-j8y 1O-x9g 1O-tyc",
    "1O-jmj 1O-xih 1O-uyk 1O-rn0 1O-l2l 1O-uh9 1O-u51 1O-ssj 1O-qj8 1O-jme 1O-x4k 1O-wr3 1O-v3u",
    "1O-t71 1O-syb 1O-soq 1O-rum 1O-qfy 1O-q2r 1O-o6l 1O-mc8 1O-mbr 1O-kkd 1O-jk8 1O-wx8 1O-rhu",
    "1O-wr4 1O-qvy 1O-qc7 1O-mwm 1O-jm6 1O-ihn 1O-i1g 1O-swt 1O-roq 1O-npq 1O-p4c 1O-p20 1O-orr",
    "1O-qpm 1O-r4y 1O-lus 1O-xtp 1O-ngo 1O-x51 1O-x6h 1O-uor 1O-tv3 1O-oq5 1O-vb3 1O-rtz 1O-t3m",
    "1O-l3g 1O-mgs 1O-jp8 1O-m7z 1O-uns 1O-xcc 1O-wgd 1V 2O-vxy 1V 1O-t5q 1V 2O-x87 1O-qng 1O-pxp",
    "1O-pgc 1O-pff 1O-pf9 1O-pe4 1O-jie 1O-orj 1O-o69 1V 1O-mxa 1V 1O-lyi 1V 2O-kx9 1O-krt 1V",
    "3O-j7f 1O-j73 1O-j5w 1O-i9l 1O-ksw 1O-jnc 1O-xoi 1O-xfu 1O-xd1 1O-x2i 1O-x1s 1O-wys 1O-wih",
    "1O-wfl 1O-wcw 1O-vzt 1O-vwy 1O-v6f 1O-v66 1O-ucp 1O-u6u 1O-u5t 1O-u32 1O-tf6 1O-tb4 1O-t6a",
    "1O-ssf 1O-rta 1O-ros 1O-rhh 1O-r16 1O-qvy 1O-qi0 1O-pmi 1O-phq 1O-phg 1O-phi 1O-phb 1O-ph6",
    "1O-ph0 1O-pfp 2O-pas 1O-p90 1O-p06 1O-okj 1O-ojz 1O-oig 1O-oa0 1O-o5y 1O-nsf 1Sprt 2O-nbc",
    "1O-mds 1O-ma3 1O-m01 1O-lyi 1O-ln5 1O-llp 1O-l2o 1O-kz3 1O-jnp 1O-jfu 1O-je7 1O-ueu 1O1sw2",
    "1O-nrp 1X 2O-y16 1O-xbw 1O-xe2 1O-xrn 1O-xf3 1O-xdh 1O-x4f 1O-x31 1O-wkb 1O-wmc 1O-wkh 1O-wih",
    "1O-w0y 1O-vyi 1O-vui 1O-vu3 1O-vmm 1O-vh5 1O-ur4 1O-uqy 1O-umz 1O-ul4 1O-ucu 1O-u9l 1O-ubk",
    "1O-u7v 1O-u96 1O-u55 1O-u3c 1O-ts9 1O-tpu 1O-tod 1O-th6 1O-t99 1O-t4r 1O-t4o 1O-t32 1O-s9o",
    "1O-s7w 1O-rx2 1O-rlp 1O-rm6 1O-rjs 1O-rct 1O-r3i 1O-pva 1O-qy1 1O-quo 1O-qra 1O-qi8 1O-qe4",
    "1O-qco 1O-q6f 1O-q6e 1O-q1o 1O-q18 1O-q0k 1O-py7 1O-pyi 1O-pnj 1O-pa3 1O-p2l 1O-oxf 1O-or8",
    "1O-on0 1O-odv 1O-o8d 1O-nkx 1O-ngl 1O-mrg 1O-met 1O-mcx 1O-mci 1O-m4a 1O-m2q 1O-m40 1O-m2j",
    "1O-m2n 1O-m35 1O-m12 1O-lyu 1O-lo9 1O-l8q 1O-l01 1O-krv 1O-klr 1O-jt6 1O-jqc 1O-jn6 1O-jji",
    "1O-jij 1O-ji8 1O-jgx 1O-iwr 1O-i0i 1O1njv 1O1njo 1O1ptw 1O-11rp 1O-10vv 1O-10uz 1O1vuc 1O1xx6",
    "1O24n0 1O-i39 1O-i17 1X 12S2u,2u 1S2u,2x 1S2u,30 1S2u,2u,2x 1S2u,2u,30 1S37,38 2X cS12s,12u",
    "1S12s,12d 1S12s,12j 1S132,12u 1S12s,12l 1X 5S15l,14k 1V 1S16a,14n 1O-1cfy 1O-1cgh 1O-1cgf",
    "2O-1cg9 3O-1cfz 1O-1cfy 1O-1dku 1S161,14x 1S161,14y 1S161,14s,14x 1S161,14s,14y 1S15c,14n",
    "1S15c,14o 1S15c,14s 1S15d,14s 1S15e,14s 1S15f,14s 1S15g,14s 1S15h,14s 1S15i,14s 1X 1S15k,14s",
    "1S15l,14s 1S15m,14s 1S15n,14s 1S15o,14s 1X 1S15q,14s 1X 1S15s,14s 1S15t,14s 1X 1S15v,14s",
    "1S15w,14s 1X 1S15y,14s 1S15z,14s 1S160,14s 1S161,14s 1S162,14s 1S15h,14p 1S15d,14v 1S15n,14v",
    "1S15w,14v 1S15c,15o 1S19t 2S1a3 4S1a6 4S1a8 4S1a2 4S1a7 4S1a1 4S1b8 4S1ba 4S1ac 4S1ab 4S1ae",
    "4S1af 4S1al 2S1ak 2S1am 2S1ag 2S1aw 2S1ap 2S1bd 4S1bj 4S1bn 4S1bl 4S1bu 2S1bv 4S1c0 2S1c1",
    "4S1by 4S1ci 2S1cj 2V xS1bh 4S1c7 2S1c6 2S1c8 2S1c7,19w 1S1cb 2S1c5 2S1c9 2S1cg 4S18p 2S17q,17r",
    "2S17q,1cl 2S17q,18o 2S17q,1c7 2S17q,1c6 2S17q,1c8 2S17q,1cg 3S17q,18p 3S1cc 4S17q,17w",
    "1S17q,17x 1S17q,18l 1S17q,18p 1S17q,18q 1S17s,17w 1S17s,17x 1S17s,17y 1S17s,18l 1S17s,18p",
    "1S17s,18q 1S17u,17w 1S17u,17x 1S17u,17y 1S17u,18l 1S17u,18p 1S17u,18q 1S17v,17w 1S17v,18l",
    "1S17v,18p 1S17v,18q 1S17w,17x 1S17w,18l 1S17x,17w 1S17x,18l 1S17y,17w 1S17y,17x 1S17y,18l",
    "1S183,17w 1S183,17x 1S183,17y 1S183,18l 1S185,17x 1S185,18l 1S186,17w 1S186,17x 1S186,17y",
    "1S186,18l 1S187,17x 1S187,18l 1S188,18l 1S189,17w 1S189,18l 1S18a,17w 1S18a,18l 1S18h,17w",
    "1S18h,17x 1S18h,17y 1S18h,18l 1S18h,18p 1S18h,18q 1S18i,17x 1S18i,18l 1S18i,18p 1S18i,18q",
    "1S18j,17r 1S18j,17w 1S18j,17x 1S18j,17y 1S18j,18k 1S18j,18l 1S18j,18p 1S18j,18q 1S18k,17w",
    "1S18k,17x 1S18k,17y 1S18k,18l 1S18k,18p 1S18k,18q 1S18l,17w 1S18l,17x 1S18l,17y 1S18l,18l",
    "1S18l,18p 1S18l,18q 1S18m,17w 1S18m,17x 1S18m,17y 1S18m,18l 1S18m,18p 1S18m,18q 1S18n,17w",
    "1S18n,18l 1S18n,18p 1S18n,18q 1S18q,17w 1S18q,17x 1S18q,17y 1S18q,18l 1S18q,18p 1S18q,18q",
    "1S180,19s 1S181,19s 1S18p,19s 1Sw,18s,18x 1Sw,18t,18x 1Sw,18u,18x 1Sw,18v,18x 1Sw,18w,18x",
    "1Sw,18x,19s 1S17q,181 1S17q,182 1S17q,18l 1S17q,18m 1S17q,18p 1S17q,18q 1S17s,181 1S17s,182",
    "1S17s,18l 1S17s,18m 1S17s,18p 1S17s,18q 1S17u,181 1S17u,182 1S17u,18l 1S17u,18m 1S17u,18p",
    "1S17u,18q 1S17v,181 1S17v,182 1S17v,18l 1S17v,18m 1S17v,18p 1S17v,18q 1S18h,18p 1S18h,18q",
    "1S18i,18p 1S18i,18q 1S18j,17r 1S18j,18k 1S18j,18l 1S18j,18p 1S18j,18q 1S18k,18l 1S18k,18p",
    "1S18k,18q 1S18l,17r 1S18l,18l 1S18m,181 1S18m,182 1S18m,18l 1S18m,18m 1S18m,18p 1S18m,18q",
    "1S18p,19s 1S18q,181 1S18q,182 1S18q,18l 1S18q,18m 1S18q,18p 1S18q,18q 1S17q,17w 1S17q,17x",
    "1S17q,17y 1S17q,18l 1S17q,18n 1S17s,17w 1S17s,17x 1S17s,17y 1S17s,18l 1S17s,18n 1S17u,17w",
    "1S17u,17x 1S17u,17y 1S17u,18l 1S17u,18n 1S17v,18l 1S17w,17x 1S17w,18l 1S17x,17w 1S17x,18l",
    "1S17y,17w 1S17y,18l 1S183,17w 1S183,17x 1S183,17y 1S183,18l 1S185,17x 1S185,17y 1S185,18l",
    "1S186,17w 1S186,17x 1S186,17y 1S186,18l 1S187,17x 1S188,18l 1S189,17w 1S189,18l 1S18a,17w",
    "1S18a,18l 1S18h,17w 1S18h,17x 1S18h,17y 1S18h,18l 1S18i,17x 1S18i,18l 1S18j,17w 1S18j,17x",
    "1S18j,17y 1S18j,18k 1S18j,18l 1S18k,17w 1S18k,17x 1S18k,17y 1S18k,18l 1S18k,18n 1S18l,17w",
    "1S18l,17x 1S18l,17y 1S18l,18l 1S18m,17w 1S18m,17x 1S18m,17y 1S18m,18l 1S18m,18n 1S18n,17w",
    "1S18n,18l 1S18n,19s 1S18q,17w 1S18q,17x 1S18q,17y 1S18q,18l 1S18q,18n 1S17q,18l 1S17q,18n",
    "1S17s,18l 1S17s,18n 1S17u,18l 1S17u,18n 1S17v,18l 1S17v,18n 1S183,18l 1S183,18n 1S184,18l",
    "1S184,18n 1S18j,18k 1S18j,18l 1S18k,18l 1S18m,18l 1S18m,18n 1S18q,18l 1S18q,18n 1S18g,18u,18x",
    "1S18g,18v,18x 1S18g,18w,18x 1S187,18p 1S187,18q 1S189,18p 1S189,18q 1S18a,18p 1S18a,18q",
    "1S183,18p 1S183,18q 1S184,18p 1S184,18q 1S17x,18p 1S17x,18q 1S17w,18p 1S17w,18q 1S17y,18p",
    "1S17y,18q 1S185,18p 1S185,18q 1S186,18p 1S186,18q 1S184,17w 1S184,17x 1S184,17y 1S184,18l",
    "1S184,181 1S183,181 1S185,181 1S186,181 1S187,18p 1S187,18q 1S189,18p 1S189,18q 1S18a,18p",
    "1S18a,18q 1S183,18p 1S183,18q 1S184,18p 1S184,18q 1S17x,18p 1S17x,18q 1S17w,18p 1S17w,18q",
    "1S17y,18p 1S17y,18q 1S185,18p 1S185,18q 1S186,18p 1S186,18q 1S184,17w 1S184,17x 1S184,17y",
    "1S184,18l 1S184,181 1S183,181 1S185,181 1S186,181 1S184,17w 1S184,17x 1S184,17y 1S184,18l",
    "1S183,18n 1S184,18n 1S187,18l 1S183,17w 1S183,17x 1S183,17y 1S184,17w 1S184,17x 1S184,17y",
    "1S187,18l 1S188,18l 1S17r,18r 2V iS17u,17w,18l 1S17u,17x,17w 2S17u,17x,18l 1S17u,17y,18l",
    "1S17u,18l,17w 1S17u,18l,17x 1S17u,18l,17y 1S17w,18l,17x 2S17x,18l,18q 1S17x,18l,18p",
    "1S183,17x,17w 1S183,17w,17x 1S183,17w,18p 1S183,18l,17x 2S183,18l,17w 1S183,18l,18l",
    "2S185,17x,17x 2S185,18l,18l 1S184,17x,18l 2S184,17w,18q 1S184,18l,17y 2S184,18l,18l",
    "2S186,17x,18p 1S186,17y,18l 2S187,18l,17x 2S187,18l,18l 1S187,18l,18q 1S189,17w,18l",
    "1S189,18l,18l 2S189,18l,18p 1S18a,18l,18l 1S18a,18l,18q 1S18a,18l,18p 1S18h,17y,18l",
    "2S18i,18l,17x 1S18i,18l,18l 1S18k,17x,18l 1S18k,17x,18q 1S18k,17x,18p 1S18k,17w,17w",
    "2S18k,17y,18l 2S18k,18l,17x 2S18l,17x,17w 1S18l,17x,18l 1S18l,17x,18q 1S18l,17w,17x",
    "1S18l,17w,18l 1S18l,17y,17w 1S18l,17y,18l 1V 2S18l,17w,17y 1S18n,18l,17w 1S18n,18l,18l",
    "1S18m,17x,18l 1S18m,17x,18p 1S18m,17w,18l 2S18m,17w,18p 1S18m,18l,18q 1S18m,18l,18p",
    "1S18q,18l,18l 2S17s,17y,18q 1S17u,17w,18q 1S17u,17w,18p 1S17u,17y,18q 1S17u,17y,18p",
    "1S17u,18l,18q 1S17u,18l,18p 1S17w,18l,18q 1S17w,17x,18p 1S17w,18l,18p 1S183,17y,18p",
    "1S185,17x,18q 1S184,17x,18q 1S186,17x,18q 1S18k,17w,18q 1S18k,18l,18q 1S18q,17x,18q",
    "1S18q,17w,18q 1S18q,18l,18q 1S18l,18l,18q 1S18i,18l,18q 1S18m,17x,18q 1S18i,18l,17x",
    "1S18k,17x,18l 1S189,18l,18q 1S18j,18l,18q 1S18m,17w,17x 1S18l,17y,18q 1S18k,17w,18l",
    "1S18j,18l,18l 1S18k,17w,18l 1S18m,17w,17x 1S17w,17x,18q 1S17x,17w,18q 1S18l,17w,18q",
    "1S18h,18l,18q 1S17s,17x,18q 1S18j,18l,18l 1S189,17w,18l 1S185,18l,18l 1S183,17y,18q",
    "1S18m,17w,18q 1V 8X wS185,18k,1ci 1S18i,18k,1ci 1S17r,18k,18k,18n 1S17r,18j,17s,181",
    "1S18l,17x,18l,17z 1S185,18k,189,18l 1S181,183,18o,18k 1S189,18k,18q,18n 1S18o,183,18k,18l",
    "1S185,18k,18p 1S185,18k,18p,w,17r,18k,18k,18n,w,189,18k,18q,18n,w,18o,183,18k,18l",
    "1S17w,18k,w,17w,18k,17r,18k,18n 1S181,1cc,17r,18k 1V 3I gO-1e5g 1O-14pc 1X 1O-1e55 2O-1e5w",
    "1O-1e53 1O-14ox 2X 7V gX 1O-17vh 1O-17vj 1S2n 2O-1e6l 2O-1e4c 1O-1e4b 1O-14px 2O-14q3 2O-14qb",
    "2O-14qf 2O-14qd 4V 2O-1e5o 1O-1e5n 1Sw,lh 4S2n 3O-1e78 1O-14r4 1X 2O-1e6x 1O-1e6z 1O-1e6v",
    "1O-1e7q 1O-17wk 1O-1e7l 2O-1e5c 1O-1e5b 1O-14qx 2O-1e7w 1O-1e7u 1O-1e7r 2O-1e7q 1O-1e7c",
    "1O-1e7b 1O-1e7d 1X 1O-1e6k 1O-1e85 2O-1e7f 1X 4Sw,18r 1S18g,18r 1Sw,18s 1V 1Sw,18t 1X 1Sw,18u",
    "1S18g,18u 1Sw,18v 1S18g,18v 1Sw,18w 1S18g,18w 1Sw,18x 1S18g,18x 1Sw,18y 1S18g,18y 1O-1d27",
    "1S17m 2S17n 2S17o 2S17p 2S17q 4S17r 2S17s 4S17t 2S17u 4S17v 4S17w 4S17x 4S17y 4S17z 2S180",
    "2S181 2S182 2S183 4S184 4S185 4S186 4S187 4S188 4S189 4S18a 4S18h 4S18i 4S18j 4S18k 4S18l",
    "4S18m 4S18n 4S18o 2S18p 2S18q 4S18k,17m 2S18k,17n 2S18k,17p 2S18k,17r 2X 2I 1X 1O-1ecg wO-1ebk",
    "qO-1ecg 10O-168q 2O-1eer 1O-14ye 2O-14yr 1O-14ru 1O-14s4 1O-14ue 1O-14ud 1O-14uc 1O-14ub",
    "1O-14ua 1O-14sp 1O-14so 1O-14sn 1O-14to 1O-14s4 1O-14un 1O-14um 1O-14ul 1O-14uk 1O-14uj",
    "2O-14ui 1O-14uh 1O-14ug 1O-14uf 1O-14ue 1O-14ud 1O-14uc 1O-14ub 1O-14ua 1O-14u9 1O-14u8",
    "1O-14u6 1O-14u5 1O-14u4 1O-14u3 6O-14u1 1O-14tz 1O-14tx 1O-14tv 1O-14tt 5O-14ts 1O-14tr",
    "1O-14tq 6O-14tp 1O-14tm 1O-14w5 2I 1O-1b4x 2O-1b09 1O-1b4y 1O-1b09 2O-1b50 3O-1b0a 6O-1b4m",
    "1O-1b57 3O-1b4j 1O-1b58 aX 3O-1b35 6X 2O-1b37 6X 2O-1b39 6X 2O-1b3b 3X 3O-1ef2 2O-1eeu 1Sw,lg",
    "1O-1ef2 1O-1ef4 1O-183h 1X 1O-178m 1O-17x5 4O-174d 1O-1737 1X hV cX 1V qX 1V jX 1V 2X 1V fX 2V",
    "eX yV 3fX 5V 3X 4V 19X 3V 2gX 1V dX 3V 1X 1bV 1aX 3mV tX 3V 1dX fV sX 4V 10X 9V uX 5V 17X 5V",
    "uX 1V 11X 4V eX 16O14 14V 3aX 2V aX 6O14 10X 4V 10X 4V 14X 8V 1gX bV 1O13 bX 1O13 fX 1O13 7X",
    "1O13 2X 1V bX 1V fX 1V 7X 1V 2X 3V 1gX cV 8nX 9V mX aV 8X oV 1O-1fht 2O-1fvh 1O-1fjf 1O-1fle",
    "1X 1O-1fj8 1O-i76 1O-1fj8 1O-1fja 1O-1flh 2O-1a7w 1O-1fli 1O-1fld 1O-1fjb 1O-1fl9 1O-1flc",
    "1O-1flf 1O-1fjt 1O-1fu6 1O-1fju 1O-1flc 1O-1fkk 1O-1fjj 2O-1flb 1O16js 1O-iz3 1O-1flc 1O16jq",
    "1O-1fki 1O16jp 1O-1fvu 1O-1fl9 2O-1fzo 1O-1fl8 1O16jl 1O-1fl7 2O-1fl6 1O-1fk3 1O-1fk6 1O-i86",
    "1O-1fk7 1O-1fl3 1O-17b3 1X 1O-1fkz 1O-1fki 2O-1fkt 1O-1fqu 3O16j5 1O16jo 1X 1xV 6X 2V 1X 1V",
    "18X 1V 2X 3V 1X 2V nX 1V 20X 8V 9X 1cV jX 1V 2X 5V xX 3V rX 5V rX 12V 1kX 4V kX 2V 1eX 1V 2X",
    "5V 8X 1V 3X 1V tX 2V 3X 4V aX 7V 9X 7V 1sX wV 13X 4V cX 9V 1iX 3V tX 2V rX 5V qX 7V 4X cV 7X",
    "28V 21X 1jO1s 1fX dV 1fX 7V 1aX 8V aX 6V gOw mX 3V tX 8V 2X 5sV vX 1V 16X 1V 3X 2V 2X gV 6X 8V",
    "9X xV 1aX 8V 16X mV qX 12V sX kV nX 9V 26X 4V 10X 9V 1qX 1V 5X dV pX 7V aX 6V 1hX 1V iX 8V 13X",
    "9V 2oX 1V kX bV iX 1V 1bX 1qV 7X 1V 1X 1V 4X 1V fX 1V bX 6V 1nX 5V aX 6V 4X 1V 8X 2V 2X 2V mX",
    "1V 7X 1V 2X 1V 5X 1V aX 2V 2X 2V 3X 2V 1X 6V 1X 5V 7X 2V 7X 3V 5X bV aX 1V 1X 2V 1X 1V 12X 1V",
    "aX 1V 1X 2V 1X 1V 4X 1V aX 1V 2X 8V 2X tV 2kX 1V 5X uV 20X 8V aX 4mV 1iX 2V 12X yV 1xX bV aX",
    "6V dX jV 1mX 6V aX 6V kX sV rX 2V fX 4V nX 55V 1oX 2sOw wV 1fX cV 8X 2V 1X 2V 8X 1V 2X 1V uX",
    "1V 2X 2V cX 9V aX 1yV 8X 2V 1aX 2V bX rV 20X 8V 2bX dV 21X 7V aX 2eV 8X 2gV yX eV aX 6V 9X 1V",
    "19X 1V eX aV tX 3V wX 2V mX 1V eX 21V 7X 1V 2X 1V 18X 3V 1X 1V 2X 1V 9X 8V aX 6V 6X 1V 2X 1V",
    "11X 1V 2X 1V 6X 7V aX 6V 18X 4V aX 6uV pX 7V hX 1V 15X 3V tX 2dV 1X fV 1eX dV pnX 2uV 33X 1V",
    "5X bV 5gX 218V 2rX dV tsX gV mX aV 32zX 5V g7X 5a1V 1mX 1c6V ftX 7V vX 1V aX 4V 29X 1V aX 6V",
    "uX 2V 6X aV 1yX aV aX 1V 7X 1V lX 5V jX c0V 1mX 5iOw wV 1nX 5Or pX 2V pX 18V 23X 4V 1lX 7V hX",
    "1sV 5X bV 7X 9V 5p2X 15V wX 2pV 37X 6ppV 4X 1V 7X 1V 2X 1V 83X fV 1X tV 3X 2V 1X eV 4X 8V b0X",
    "1s4V 2zX 5V dX 3V 9X 7V aX 2V 4I 4X 318V 5yO-2iyd qO-2j0g aV 3X 3V c4X 6V nX fV hX fV 1aX 2V",
    "nX 9V 38X 1oV 6uX aV 13X 2V 1hS2jx3,2jxh 1S2jx4,2jxh 1S2jx4,2jxh,2jxq 1S2jx4,2jxh,2jxr",
    "1S2jx4,2jxh,2jxs 1S2jx4,2jxh,2jxt 1S2jx4,2jxh,2jxu 1V eI 8V 1sS2jzt,2jxh 1S2jzu,2jxh",
    "1S2jzt,2jxh,2jxq 1S2jzu,2jxh,2jxq 1S2jzt,2jxh,2jxr 1S2jzu,2jxh,2jxr 1V 16X lV 1yX 3eV kX cV kX",
    "cV 2fX 9V pX 3rO-2kdb qO-2ke1 qO-2ker qO-2kfh 7X 1O-2kfh iO-2kg7 qO-2kgx qO-2khn 1X 1O-2khn 2X",
    "2O-2khn 1X 2O-2khn 2X 2O-2khn 4X 1O-2khn 8O-2kid 4X 1O-2kid 1X 1O-2kid 7X 1O-2kid bO-2kj3",
    "qO-2kjt qO-2kkj 2X 1O-2kkj 4X 2O-2kkj 8X 1O-2kkj 7X 1O-2kl9 qO-2klz 2X 1O-2klz 4X 1O-2klz 5X",
    "1O-2klz 1X 3O-2klz 7X 1O-2kmp qO-2knf qO-2ko5 qO-2kov qO-2kpl qO-2kqb qO-2kr1 qO-2krr qO-2ksh",
    "qO-2kt7 qO-2ktx qO-2kun qO-2kvd qO-2kqb 1O-2kj2 1X 2O-2k8n hO-2k8x 1O-2k8n 7O-2e9m 1O-2k9d",
    "hSqr 2O-2k9d 6O-2eah 1O-2k9z 1O-2k9x 1O-2k9w 1O-2k9l 1O-2k9r 1O-2k9t 1O-2ka9 hO-2kaj 1O-2ka9",
    "7O-2eb8 1O-2kaz hSqr 2O-2kaz 6O-2ec3 1O-2kbl 1O-2kbj 1O-2kbi 1O-2kb7 1O-2kbd 1O-2kbf 1O-2kbv",
    "hO-2kc5 1O-2kbv 7O-2ecu 1O-2kcl hSqr 2O-2kcl 6O-2edp 1O-2kd7 1O-2kd5 1O-2kd4 1O-2kct 1O-2kcz",
    "1O-2kd1 1O-2kdh hO-2kdr 1O-2kdh 7O-2eeg 1O-2ke7 hSqr 2O-2ke7 6O-2efb 1O-2ket 1O-2ker 1O-2keq",
    "1O-2kef 1O-2kel 1O-2ken 1O-2kf3 hO-2kfd 1O-2kf3 7O-2eg2 1O-2kft hSqr 2O-2kft 6O-2egx 1O-2kgf",
    "1O-2kgd 1O-2kgc 1O-2kg1 1O-2kg7 1O-2kg9 1Srh 2X 2O-2l5q aO-2l60 aO-2l6a aO-2l6k aO-2l6u aV i4X",
    "fV 5X 1V fX uoV vX 6V 6X 5xV 7X 1V hX 2V 7X 1V 2X 1V 5X 5O-2m0w 9O-2m0v 3O-2m0u bO-2m0s",
    "1O-2m0r 2O-1pz5 1O-2lwy 1O-2m0m 1O-2m0l 1O-2lwl 1O-2ly8 1O-2lxd 1O-2m1t 9O-2m1s 2O-2m1q",
    "2O-2m1p 1O-2m1o 6O-2m1n 2O-2lzq 1O-2m1e 1O-2m1g 1O-2m17 1O-2lz4 1O-1q1n 1O-2lz0 1X xV 1X 34V",
    "19X 3V eX 2V aX 4V 2X 8wV vX hV 1mX 5V 1X cwV 16X 5yV 17X 4V 1X 5cV vX 1V mX 8V 2X 68V 7X 1V",
    "4X 1V 2X 1V fX 1V 5hX 2V gX 15Oy yV 16X 4V aX 4V 2X ltV 1wX 24V 1pX 5eO-2od5 2O-2od2 1O-2od0",
    "1X 1O-2ocd 1O-2od0 1O-2od6 1O-2ocx 1O-2ocf 1O-2ocn 4O-2od7 1O-2od2 1O-2ocv 1O-2od8 1O-2ocw",
    "1O-2ode 1O-2odc 1O-2odn 2O-2odl 1O-2odk 1O-2odf 1O-2ode 1O-2odd 1O-2oby 1O-2o9v 1O-2oal",
    "1O-2oc0 1X 1O-2oe1 1O-2ody 1X 1O-2od9 1X 2O-2oe2 1X 1O-2odb 1O-2odj 4O-2oe3 1O-2ody 1O-2odr",
    "1O-2oe4 1O-2ods 1X 1O-2oe8 1O-2oej 2O-2oeh 1X 1O-2oeb 1X 1O-2oe9 1X 6O-2oeu 1X 4O-2oey 1X",
    "1O-2oe7 1X 1O-2oef 1X 1O-2oef 1O-2oez 1O-2oeu 1X 1O-2of0 1O-2oeo 1X 1O-2of4 1X 2O-2ofd 1X",
    "1O-2of7 1X 1O-2of5 1X 1O-2obn 1X 1O-2ods 1X 1O-2oft 1O-2ofq 1X 1O-2of1 1X 2O-2ofu 1O-2ofl",
    "1O-2of3 1O-2ofb 1X 1O-2ofb 2O-2ofv 1O-2ofq 1O-2ofj 1O-2ofw 1O-2ofk 1X 1O-2og0 1O-2ogb 2O-2og9",
    "1X 1O-2og3 1O-2og2 1O-2og1 1O-2oem 1X 1O-2od9 1X 1O-2ogp 2O-2ogm 1O-2ogk 1O-2ofx 2O-2ogk",
    "1O-2ogq 1O-2ogh 1O-2ofz 1X 1O-2og7 3O-2ogr 1O-2ogm 1O-2ogf 1O-2ogs 1O-2ogg 1O-2ogy 1O-2ogw",
    "1O-2oh7 2O-2oh5 1O-2oh4 1O-2ogz 1O-2ogy 1O-2ogx 1X 5O-2ohl 1O-2ohi 1O-2ohg 1X 1O-2ogt 1O-2ohg",
    "1O-2ohm 1O-2ohd 1O-2ogv 1X 1O-2oh3 3O-2ohn 1O-2ohi 1O-2ohb 1O-2oho 1O-2ohc 1O-2ohu 1O-2ohs",
    "1O-2oi3 2O-2oi1 1O-2oi0 1O-2ohv 1O-2ohu 1O-2oht 1X 1gV 2X 7iV 18X 4V 2sX cV fX 2V fX 1V fX 1V",
    "11X bS1c,18 1S1d,18 1S1e,18 1S1f,18 1S1g,18 1S1h,18 1S1i,18 1S1j,18 1S1k,18 1S1l,18 1V",
    "5S14,2p,15 1S14,2q,15 1S14,2r,15 1S14,2s,15 1S14,2t,15 1S14,2u,15 1S14,2v,15 1S14,2w,15",
    "1S14,2x,15 1S14,2y,15 1S14,2z,15 1S14,30,15 1S14,31,15 1S14,32,15 1S14,33,15 1S14,34,15",
    "1S14,35,15 1S14,36,15 1S14,37,15 1S14,38,15 1S14,39,15 1S14,3a,15 1S14,3b,15 1S14,3c,15",
    "1S14,3d,15 1S14,3e,15 1S9hw,37,9hx 1O-2q4o 1O-2q4a 1S2r,2s 1S3b,3e 1V 1O-2q4v qS2w,3a 1S31,3a",
    "1S37,2s 1S37,37 1S34,34,3a 1S3b,2r 1V qS31,2r 1S31,2s 1S31,36 1V zS2s,2y 1V tX 1kV qS9kr,9jf",
    "1S9mb,9mb 1O-2gr1 1X dO-26yt 1O-28ca 1O-29ty 1O-2gr0 1O-2avc 1O-28sb 1O-1z5f 1O-28ry 1O-2aus",
    "1O-267t 1O-241l 1O-26bm 1O-2a4v 1O-27ip 1O-2aa9 1O-26b3 1O-2a6b 1O-21nj 1O-239f 1O-1ym2",
    "1O-28tw 1O-29rg 1O-24gi 1O-26xe 1O-26s3 1O-2azt 1O-2azl 1O-1xwh 1O-27uu 1O-2ayo 1O-29tn",
    "1O-26ug 1O-1ygw 1O-26zi 1O-22ep 1O-227t 1O-29t8 1O-24l1 1O-2625 1O-2627 1O-239h 1O-2a4n",
    "1O-29hg 1O-1xpq 1X 4S9hw,kdo,9hx 1S9hw,fex,9hx 1S9hw,fik,9hx 1S9hw,i2x,9hx 1S9hw,m9l,9hx",
    "1S9hw,jf7,9hx 1S9hw,nh3,9hx 1S9hw,gd9,9hx 1S9hw,k0n,9hx 1X 7O-27jt 1O-29uq 1X eV 6X 4aV rdX 3V",
    "hX 3V dX 3V 62X 6V cX 4V 1X fV cX 4V 1kX 8V aX 6V 14X 8V uX 2V cX 4V 2X eV 9X 13V 9kX 8V eX 2V",
    "dX 3V bX 3V 1lX 1V 1X 4V gX 2V cX 4V aX 7V 43X 1V 2kO-2sao aV 1X slV wyoX wV 3dqX 2V 4geX 2V",
    "5rlX fV haX 1wiO-3qo3 1O-3qo9 1O-3qo1 1O-1crl 1O-3qg4 1O-3qdz 1O-3qdn 1O-3qbp 1O-3q8e 1O-3q7k",
    "1O-3q5f 1O-3q64 1O-3vqm 1O-1brn 1O-3q2p 1O-3q2j 1O-3q24 1O-3q1m 1O-1bzq 1O-3vq2 1O-3q25",
    "1O-3q14 1O-1byj 1O-3q0w 1O-3q0k 1O-3qkt 1O-3q0e 1O-3q06 1O-k71 1O-3pyg 1O-3py3 1O-3vpc 1O-3pwl",
    "1O-3pwb 1O-3pv4 1O-3pv0 1O-3vnz 1O-3psu 1O-3pst 1O-3ps3 1O-3pri 1O-3pr8 2O-3pqs 1O-3ppf",
    "1O-3pp8 1O-3pp0 1O-3poc 1O-3po3 1Sghr 3O-1b0o 1O-3jyd 1O-3pm4 1O-3plk 1O-1as5 1O-3pla 1O-3pl5",
    "1O-3pkl 1O-3pge 1O-3pj9 1O-3piu 1O-3phz 1O-3pge 1O-3pe3 1O-3pde 1O-3pbk 1O-3pb5 1Sgw4 2O-3p9q",
    "1O-3p99 1O-3p92 1O-3p8o 1O-3oz9 1O-3p6u 1O-3oza 1O-3p4t 1O-3p3v 1O-3pzd 1O-3omb 1O-3ouc",
    "1O-3otb 1O-3osn 1O-3owa 1O-3oro 1O-3orq 1O-3ooc 1O-18xh 1O-3omg 1O-3omc 1O-3oly 1O-3olf",
    "1O-3ol8 1O-3ojh 1O-18l4 1O-18jb 1O-3ofq 1O-3oeg 1O-3oe5 1O-3ogd 1O-3ocg 1O-3vcp 1O-3vcc",
    "1O-3o81 1Si0u 2O-17z8 1O-3o2y 1O-3o2e 1O-3o20 1O-3o1p 1O-17q1 1O-3o1f 1O-3o19 1O-3ndt 1O-3o0j",
    "1O-3v91 1O-3nyv 1O-3nyi 1O-3nw9 1O-3nxp 1O-176f 1O-3nsp 1O-176f 1O-3nrk 1O-3nro 1O-3nr8",
    "1O-3nog 2O-3v4k 1O-3nnr 1O-3nml 1O-3nm1 1O-3nku 1O-3v3a 1O-16h2 1O-3v2m 1O-3niz 1O-3nix",
    "1O-3niv 1O-3nic 1O-gsd 1O-3ngy 1S3035 2O-3gk2 1Sisi 2O-3v0v 1O-1333 1O-try 1O-3nef 1O-3ne7",
    "1O-3v08 1O-3ncy 1O-3nbk 1O-3nbb 1O-3nae 1O-3n6n 1O-3uxz 1O-3uyu 1O-3n67 1O-15g0 1O-3n4u",
    "1O-3n1a 1O-3n17 1O-3n16 1O-3n19 1O-3n00 1O-3mzh 1O-3myi 1O-3myx 1O-3myn 1O-3mxd 1O-3mwu",
    "1O-3mwr 1O-3mw2 1O-3mvs 1O-3mtz 1O-3mro 1O-3mqq 1O-3mnb 1O-14mk 1O-3mnw 1O-3mpq 1O-3mmr",
    "1O-3mm1 1O-3mjd 1O-14gd 1O-3mhp 1O-3mkb 1O-3ml4 1O-3us4 1O-3mfu 1O-3mfa 1O-3meg 1O-3mfj",
    "1O-3uqj 1O-3m9l 1O-3m8t 1O-13nk 1O-3m5k 1O-3lxw 1O-3m2s 1O-3ulx 1O-3m0u 1O-3umg 1O-3unh",
    "1O-3q68 1O-3q66 1O-3lxw 1O-3m0p 1O-3gvd 1O-3svy 1O-3lxd 1O-3lxa 1O-3lx5 1O-3lvh 1O-3lvt",
    "1O-12xm 1O-3ul1 1O-3lr9 1O-3luj 1O-3lov 1O-3lnh 1O-12t2 1O-3lna 1O-3lqe 1O-3ljm 1O-3uiy",
    "1O-3lie 1O-3lfq 1O-3lds 1O-3l8j 1O-12dl 1O-3l76 1O-3ufq 1O-3l5a 1O-11zd 1O-3l3x 1O-3uec",
    "1O-3l35 1O-3l1x 1O-3l17 2O-11m2 1O-17fx 1O-11j3 1O-3kx8 1O-116n 1O-3ku5 1O-3kts 1O-3kwn",
    "1O-3krt 1O-3kqq 1O-3kp6 1O-3kqp 1O-3kpm 1O-3kp8 1O-3kow 1O-1148 1O-3kr7 1O-3kk9 1O-3kij",
    "1O-3u8n 1O-3kg0 1O-3kg5 1O-10sc 1O-3klx 1O-3kbl 1O-10oi 1O-10n7 1O-3k98 1O-3k62 1O-3k6u",
    "1O-3k6y 1O-3u68 1O-3k5p 1O-3k4b 1O-3k4i 1O-3k31 1O-1c6u 1O-3jyv 1O-103e 1O-3jwi 1O-zuc 1O-3jso",
    "1O-3jsc 1O-3jrm 1O-zdn 1O-3jqc 1O-3jps 1O-z5d 1O-yz7 1O-3jji 1O-3jj2 1O-3tz2 1O-3jie 1Sce0",
    "2O-3jdz 1O-3jdf 1O-3jcv 1O-3jcc 1O-3jag 1O-3tw8 1O-3j80 1O-y67 1O-3j7c 1O-y3p 1O-3j60 1O-16l6",
    "1O-3j1m 1O-xi2 1O-xhg 1O-xdl 1O-3tqa 1O-3tpz 1O-3ivg 1O-x8u 1O-x8w 1O-x7u 1O-x75 1O-3iuf 1Snj3",
    "2O-3ita 1O-3tow 1O-3irj 1O-3tol 1O-3tme 1O-wmo 1O-3im8 1O-3ikj 1O-3iis 1O-3tke 1O-w8c 1O-3if1",
    "1O-w56 1O-w40 1O-3idj 1O-3ib0 1O-3tih 1O-3i8p 1O-3i8g 1O-3i8c 1O-vkw 1S3b1j 2O-3i41 1O-3tcu",
    "1O-v5i 1O-3hy4 1O-3hy2 1O-3tbx 1O-uzp 1O-3hqs 1O-3t8n 1O-3hq8 1O-3hqe 1O-3hpm 1O-ued 1O-3hmx",
    "1O-3t64 1O-3hk7 1O-3hil 1O-3hgr 1O-3t4t 1O-tvu 1O-tv0 1O-3t3v 1O-tr0 1O-3h8c 1O-to9 1O-3h7n",
    "1O-3h4v 1O-3h4l 1O-tcx 1O-tax 1O-3h25 1O-t7a 1O-3h1r 1O-134x 1O-3t0s 1O-3h00 1O-3gxs 1O-3szd",
    "1O-3gw7 1O-3oi9 1O-stc 1O-ssz 1O-133q 1O-133i 1O-3gqy 1O-3gqw 1O-3e27 1O-3swz 1O-3gn2 1O-3gn9",
    "1O-3gms 1O-3q3j 1O-3gma 1O-3gm9 1O-3gm0 1O-3gkw 1O-s4b 1O-3gkz 1O-3gjg 1O-3ghj 1O-3gfi 1O-3gjd",
    "1O-3gf4 1O-3gdz 1O-3gaw 1O-3gi5 1O-3gev 1O-3geu 1O-3gef 1O-rxq 1O-rp6 1O-rtd 1O-3ssc 1O-3g6v",
    "1O-3g6u 1O-3g5w 1O-qg1 1O-3g3s 1O-rcx 1O-3sr5 1O-3sr2 1O-r9b 1O-r1b 1O-3sqv 1O-3fxf 1O-3fx4",
    "1O-3fwu 1O-3fwt 1O-3fv2 1O-3fw0 1O-3fsb 1O-3ftk 1O-3fpe 1O-3fro 1O-3fpu 1O-3fp4 1O-3so8",
    "1O-3fmn 1O-3fls 1O-3snd 1O-3fj7 1O-3fj5 1O-py6 1O-3ffz 1O-3fft 1O-3slv 1O-3ff3 1O-3w27 1O-pi5",
    "1O-pd2 1O-3si7 1O-3shz 1O-3f3j 1O-3f1f 1O-3ex3 1O-3erh 1O-oq3 1O-3ep5 1O-3eok 1O-3em3 1O-3ejk",
    "1O-o89 1O-1brp 1O-3ehb 1O-3ehr 1O-3egc 1O-1blr 1O-3ea2 1O-3e7b 1O-mxa 1O-mwk 1O-3dxq 1O-3dv6",
    "1O-3dub 1O-mnr 1O-3du3 1O-3dm7 1O-3dht 2O-3dke 1O-3d9u 1O-3d93 1O-lpv 1O-3cyr 1O-3ryy 1O-3cxl",
    "1O-lfe 1O-3rws 1O-3cq8 1O-3o02 1O-3cnm 1O-koh 1O-kil 1O-3rt6 1O-3rsz 1O-3cii 1O-k4x 1O-3rre",
    "1O-k13 1Su17 2O-3cgn 1O-jt7 1O-3cbk 1O-3ro0 1O-3c9n 1O-3c66 1O-3c5g 1O-3c3t 1O-3rju 1O-iqh",
    "1O-3bw8 1O-3bnv 1O-3bin 1O-3rcv 1O-3rc1 1O-3bfs 1O-hmq 1O-3rbt 1O-hl9 1O-hdx 1O-hab 1O-3b6i",
    "1O-3r9c 1O-3b4u 1O-3b4q 1O-3b4k 1O-3b4b 1O-3b45 1O-3b35 1O-gm5 1X 15uV 3t7X 5V 6juX f62uI 6oX" ]

/-- The ranges of equal fate. -/
def fateTable : RangeTable Fate :=
  RangeTable.read Fate.read fateRows

/-- The characters that take the place of a character. -/
def replacement? (c : Char) : Option (List Char) :=
  if c.toNat < 0x80 then some [c.toLower]
  else match fateTable.findRow? c.toNat with
    | some (_, .stays) => some [c]
    | some (_, .goes) => some []
    | some (_, .shifted offset) => some [Char.ofNat (c.toNat + offset).toNat]
    | some (_, .replaced cs) => some (cs.map Char.ofNat)
    | some (start, .pairs) => some [if (c.toNat - start) % 2 = 0 then Char.ofNat (c.toNat + 1) else c]
    | some (_, .refused) => none
    | none => none

/-- Whether a character may stand in a name as it is. -/
def stays (c : Char) : Bool :=
  replacement? c = some [c]

/-- A name with every character replaced, unless one is not allowed. -/
def mapped? (cs : List Char) : Option (List Char) :=
  (cs.mapM replacement?).map List.flatten

end Wayfarer.Idna
