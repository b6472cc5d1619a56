import Wayfarer.Text.RangeTable

/-!
Canonical pairs: which characters are written as other characters.

* `Canonical.parts?`: the one or two characters that a character stands for;
* `Canonical.pair?`: the character that two characters make together.

The syllables of Hangul follow from their place in the code and are not listed.
-/

namespace Wayfarer.Canonical

/-- The characters with parts: after the mark `C` those that their parts make again, after `X`
those that they do not. -/
def rows : List String :=
  [ "5cC1t,lc 1C1t,ld 1C1t,le 1C1t,lf 1C1t,lk 1C1t,lm 2C1v,mf 1C1x,lc 1C1x,ld 1C1x,le 1C1x,lk",
    "1C21,lc 1C21,ld 1C21,le 1C21,lk 2C26,lf 1C27,lc 1C27,ld 1C27,le 1C27,lf 1C27,lk 3C2d,lc",
    "1C2d,ld 1C2d,le 1C2d,lk 1C2h,ld 3C2p,lc 1C2p,ld 1C2p,le 1C2p,lf 1C2p,lk 1C2p,lm 2C2r,mf",
    "1C2t,lc 1C2t,ld 1C2t,le 1C2t,lk 1C2x,lc 1C2x,ld 1C2x,le 1C2x,lk 2C32,lf 1C33,lc 1C33,ld",
    "1C33,le 1C33,lf 1C33,lk 3C39,lc 1C39,ld 1C39,le 1C39,lk 1C3d,ld 2C3d,lk 1C1t,lg 1C2p,lg",
    "1C1t,li 1C2p,li 1C1t,mg 1C2p,mg 1C1v,ld 1C2r,ld 1C1v,le 1C2r,le 1C1v,lj 1C2r,lj 1C1v,lo",
    "1C2r,lo 1C1w,lo 1C2s,lo 3C1x,lg 1C2t,lg 1C1x,li 1C2t,li 1C1x,lj 1C2t,lj 1C1x,mg 1C2t,mg",
    "1C1x,lo 1C2t,lo 1C1z,le 1C2v,le 1C1z,li 1C2v,li 1C1z,lj 1C2v,lj 1C1z,mf 1C2v,mf 1C20,le",
    "1C2w,le 3C21,lf 1C2x,lf 1C21,lg 1C2x,lg 1C21,li 1C2x,li 1C21,mg 1C2x,mg 1C21,lj 4C22,le",
    "1C2y,le 1C23,mf 1C2z,mf 2C24,ld 1C30,ld 1C24,mf 1C30,mf 1C24,lo 1C30,lo 5C26,ld 1C32,ld",
    "1C26,mf 1C32,mf 1C26,lo 1C32,lo 4C27,lg 1C33,lg 1C27,li 1C33,li 1C27,ln 1C33,ln 3C2a,ld",
    "1C36,ld 1C2a,mf 1C36,mf 1C2a,lo 1C36,lo 1C2b,ld 1C37,ld 1C2b,le 1C37,le 1C2b,mf 1C37,mf",
    "1C2b,lo 1C37,lo 1C2c,mf 1C38,mf 1C2c,lo 1C38,lo 3C2d,lf 1C39,lf 1C2d,lg 1C39,lg 1C2d,li",
    "1C39,li 1C2d,lm 1C39,lm 1C2d,ln 1C39,ln 1C2d,mg 1C39,mg 1C2f,le 1C3b,le 1C2h,le 1C3d,le",
    "1C2h,lk 1C2i,ld 1C3e,ld 1C2i,lj 1C3e,lj 1C2i,lo 1C3e,lo yC27,m3 1C33,m3 eC2d,m3 1C39,m3",
    "tC1t,lo 1C2p,lo 1C21,lo 1C2x,lo 1C27,lo 1C33,lo 1C2d,lo 1C39,lo 1C64,lg 1C70,lg 1C64,ld",
    "1C70,ld 1C64,lo 1C70,lo 1C64,lc 1C70,lc 2C5g,lg 1C6c,lg 1Cfa,lg 1Cfb,lg 1C5i,lg 1C6e,lg",
    "3C1z,lo 1C2v,lo 1C23,lo 1C2z,lo 1C27,mg 1C33,mg 1Cdm,lg 1Cdn,lg 1Cc7,lo 1Cia,lo 1C2y,lo",
    "4C1z,ld 1C2v,ld 3C26,lc 1C32,lc 1C5h,ld 1C6d,ld 1C5i,ld 1C6e,ld 1C60,ld 1C6w,ld 1C1t,lr",
    "1C2p,lr 1C1t,lt 1C2p,lt 1C1x,lr 1C2t,lr 1C1x,lt 1C2t,lt 1C21,lr 1C2x,lr 1C21,lt 1C2x,lt",
    "1C27,lr 1C33,lr 1C27,lt 1C33,lt 1C2a,lr 1C36,lr 1C2a,lt 1C36,lt 1C2d,lr 1C39,lr 1C2d,lt",
    "1C39,lt 1C2b,me 1C37,me 1C2c,me 1C38,me 3C20,lo 1C2w,lo 7C1t,lj 1C2p,lj 1C1x,mf 1C2t,mf",
    "1C5y,lg 1C6u,lg 1C5x,lg 1C6t,lg 1C27,lj 1C33,lj 1Cfi,lg 1Cfj,lg 1C2h,lg 1C3d,lg 7hXlc 1Xld",
    "2Xlv 1Xlk,ld 1cXjd aX1n 7C4o,ld 1Cpd,ld 1X53 1Cph,ld 1Cpj,ld 1Cpl,ld 2Cpr,ld 2Cpx,ld 1Cq1,ld",
    "1Cqy,ld qCpl,lk 1Cpx,lk 1Cq9,ld 1Cqd,ld 1Cqf,ld 1Cqh,ld 1Cqz,ld qCqh,lk 1Cqt,lk 1Cqn,ld",
    "1Cqt,ld 1Cqx,ld 5Cr6,ld 1Cr6,lk 18Ct1,lc 1Ct1,lk 2Csz,ld 4Csm,lk 5Ct6,ld 1Ct4,lc 1Ctf,li",
    "bCt4,li wCu0,li nCtx,lc 1Ctx,lk 2Ctv,ld 4Cuu,lk 5Cu2,ld 1Cu0,lc 1Cub,li oCvo,lr 1Cvp,lr",
    "22Ct2,li 1Cty,li eCsw,li 1Cts,li 1Csw,lk 1Cts,lk 3Ct1,li 1Ctx,li 3Cyg,lk 1Cyh,lk 1Ct2,lk",
    "1Cty,lk 1Ct3,lk 1Ctz,lk 3Ct4,lg 1Cu0,lg 1Ct4,lk 1Cu0,lk 1Cta,lk 1Cu6,lk 3Cyw,lk 1Cyx,lk",
    "1Ctp,lk 1Cul,lk 1Ctf,lg 1Cub,lg 1Ctf,lk 1Cub,lk 1Ctf,ln 1Cub,ln 1Ctj,lk 1Cuf,lk 3Ctn,lk",
    "1Cuj,lk 89C17r,18z 1C17r,190 1C18o,190 1C17r,191 1C18q,190 4aC1cl,190 2C1c1,190 hC1ci,190",
    "gmC1t4,1to 8C1tc,1to 3C1tf,1to 10X1sl,1to 1X1sm,1to 1X1sn,1to 1X1ss,1to 1X1sx,1to 1X1sy,1to",
    "1X1t7,1to 1X1tb,1to 30C1xj,1xa 1C1xj,1xz gX1wh,1x8 1X1wi,1x8 2X1wv,1x8 2cX20i,20s 3X20o,20s",
    "zX1zq,20s 1X1zr,20s 1X1zw,20s 3X20b,20s 6iC287,28m 3C287,27y 1C287,28n gX275,27w 1X276,27w",
    "1jC2aa,2c7 1iC2bq,2bi 1C2br,2bi 1C2bq,2c7 3gC2fa,2fq 3cC2in,2j9 7C2iu,2j9 1C2iu,2ja 2C2iu,2iq",
    "1C2iy,2j9 3jC2me,2m6 1C2mf,2m6 1C2me,2mv 3yC2qh,2q2 2C2qh,2q7 1C2qk,2q2 1C2qh,2qn 9xX30i,33r",
    "aX30s,33r 5X30x,33r 5X312,33r 5X317,33r dX30g,33p aX31t,31u 2X31t,31w 1X33m,328 2X33n,328",
    "9X31t,328 iX32q,33r aX330,33r 5X335,33r 5X33a,33r 5X33f,33r dX32o,33p 31C36t,372 25cC5c5,5dh",
    "2C5c7,5dh 2C5c9,5dh 2C5cb,5dh 2C5cd,5dh 4C5ch,5dh 15C5dm,5dh 2C5do,5dh 3C5dq,5dh 1C5dr,5dh",
    "2C5du,5dh jhC1t,md 1C2p,md 1C1u,lj 1C2q,lj 1C1u,mb 1C2q,mb 1C1u,mp 1C2q,mp 1C5j,ld 1C6f,ld",
    "1C1w,lj 1C2s,lj 1C1w,mb 1C2s,mb 1C1w,mp 1C2s,mp 1C1w,mf 1C2s,mf 1C1w,ml 1C2s,ml 1C7m,lc",
    "1C7n,lc 1C7m,ld 1C7n,ld 1C1x,ml 1C2t,ml 1C1x,mo 1C2t,mo 1Cfc,li 1Cfd,li 1C1y,lj 1C2u,lj",
    "1C1z,lg 1C2v,lg 1C20,lj 1C2w,lj 1C20,mb 1C2w,mb 1C20,lk 1C2w,lk 1C20,mf 1C2w,mf 1C20,mm",
    "1C2w,mm 1C21,mo 1C2x,mo 1C5r,ld 1C6n,ld 1C23,ld 1C2z,ld 1C23,mb 1C2z,mb 1C23,mp 1C2z,mp",
    "1C24,mb 1C30,mb 1C5yu,lg 1C5yv,lg 1C24,mp 1C30,mp 1C24,ml 1C30,ml 1C25,ld 1C31,ld 1C25,lj",
    "1C31,lj 1C25,mb 1C31,mb 1C26,lj 1C32,lj 1C26,mb 1C32,mb 1C26,mp 1C32,mp 1C26,ml 1C32,ml",
    "1C5x,ld 1C6t,ld 1C5x,lk 1C6t,lk 1C98,lc 1C99,lc 1C98,ld 1C99,ld 1C28,ld 1C34,ld 1C28,lj",
    "1C34,lj 1C2a,lj 1C36,lj 1C2a,mb 1C36,mb 1C5zu,lg 1C5zv,lg 1C2a,mp 1C36,mp 1C2b,lj 1C37,lj",
    "1C2b,mb 1C37,mb 1C9m,lj 1C9n,lj 1C9s,lj 1C9t,lj 1C602,lj 1C603,lj 1C2c,lj 1C38,lj 1C2c,mb",
    "1C38,mb 1C2c,mp 1C38,mp 1C2c,ml 1C38,ml 1C2d,mc 1C39,mc 1C2d,mo 1C39,mo 1C2d,ml 1C39,ml",
    "1Ca0,ld 1Ca1,ld 1Ca2,lk 1Ca3,lk 1C2e,lf 1C3a,lf 1C2e,mb 1C3a,mb 1C2f,lc 1C3b,lc 1C2f,ld",
    "1C3b,ld 1C2f,lk 1C3b,lk 1C2f,lj 1C3b,lj 1C2f,mb 1C3b,mb 1C2g,lj 1C3c,lj 1C2g,lk 1C3c,lk",
    "1C2h,lj 1C3d,lj 1C2i,le 1C3e,le 1C2i,mb 1C3e,mb 1C2i,mp 1C3e,mp 1C2w,mp 1C38,lk 1C3b,lm",
    "1C3d,lm 2Can,lj 5C1t,mb 1C2p,mb 1C1t,ll 1C2p,ll 1C5e,ld 1C6a,ld 1C5e,lc 1C6a,lc 1C5e,ll",
    "1C6a,ll 1C5e,lf 1C6a,lf 1C61s,le 1C61t,le 1C76,ld 1C77,ld 1C76,lc 1C77,lc 1C76,ll 1C77,ll",
    "1C76,lf 1C77,lf 1C61s,li 1C61t,li 1C1x,mb 1C2t,mb 1C1x,ll 1C2t,ll 1C1x,lf 1C2t,lf 1C5m,ld",
    "1C6i,ld 1C5m,lc 1C6i,lc 1C5m,ll 1C6i,ll 1C5m,lf 1C6i,lf 1C62g,le 1C62h,le 1C21,ll 1C2x,ll",
    "1C21,mb 1C2x,mb 1C27,mb 1C33,mb 1C27,ll 1C33,ll 1C5w,ld 1C6s,ld 1C5w,lc 1C6s,lc 1C5w,ll",
    "1C6s,ll 1C5w,lf 1C6s,lf 1C630,le 1C631,le 1Cbk,ld 1Cbl,ld 1Cbk,lc 1Cbl,lc 1Cbk,ll 1Cbl,ll",
    "1Cbk,lf 1Cbl,lf 1Cbk,mb 1Cbl,mb 1C2d,mb 1C39,mb 1C2d,ll 1C39,ll 1Cbz,ld 1Cc0,ld 1Cbz,lc",
    "1Cc0,lc 1Cbz,ll 1Cc0,ll 1Cbz,lf 1Cc0,lf 1Cbz,mb 1Cc0,mb 1C2h,lc 1C3d,lc 1C2h,mb 1C3d,mb",
    "1C2h,ll 1C3d,ll 1C2h,lf 1C3d,lf 7Cq9,lv 1Cq9,lw 1C64g,lc 1C64h,lc 1C64g,ld 1C64h,ld 1C64g,n6",
    "1C64h,n6 1Cpd,lv 1Cpd,lw 1C64o,lc 1C64p,lc 1C64o,ld 1C64p,ld 1C64o,n6 1C64p,n6 1Cqd,lv 1Cqd,lw",
    "1C64w,lc 1C64x,lc 1C64w,ld 1C64x,ld 3Cph,lv 1Cph,lw 1C654,lc 1C655,lc 1C654,ld 1C655,ld",
    "3Cqf,lv 1Cqf,lw 1C65c,lc 1C65d,lc 1C65c,ld 1C65d,ld 1C65c,n6 1C65d,n6 1Cpj,lv 1Cpj,lw 1C65k,lc",
    "1C65l,lc 1C65k,ld 1C65l,ld 1C65k,n6 1C65l,n6 1Cqh,lv 1Cqh,lw 1C65s,lc 1C65t,lc 1C65s,ld",
    "1C65t,ld 1C65s,n6 1C65t,n6 1Cpl,lv 1Cpl,lw 1C660,lc 1C661,lc 1C660,ld 1C661,ld 1C660,n6",
    "1C661,n6 1Cqn,lv 1Cqn,lw 1C668,lc 1C669,lc 1C668,ld 1C669,ld 3Cpr,lv 1Cpr,lw 1C66g,lc 1C66h,lc",
    "1C66g,ld 1C66h,ld 3Cqt,lv 1Cqt,lw 1C66o,lc 1C66p,lc 1C66o,ld 1C66p,ld 1C66o,n6 1C66p,n6",
    "2Cpx,lw 2C66x,lc 2C66x,ld 2C66x,n6 1Cqx,lv 1Cqx,lw 1C674,lc 1C675,lc 1C674,ld 1C675,ld",
    "1C674,n6 1C675,n6 1Cq1,lv 1Cq1,lw 1C67c,lc 1C67d,lc 1C67c,ld 1C67d,ld 1C67c,n6 1C67d,n6",
    "1Cq9,lc 1Xq4 1Cqd,lc 1Xq5 1Cqf,lc 1Xq6 1Cqh,lc 1Xq7 1Cqn,lc 1Xr0 1Cqt,lc 1Xr1 1Cqx,lc 1Xr2",
    "3C64g,n9 1C64h,n9 1C64i,n9 1C64j,n9 1C64k,n9 1C64l,n9 1C64m,n9 1C64n,n9 1C64o,n9 1C64p,n9",
    "1C64q,n9 1C64r,n9 1C64s,n9 1C64t,n9 1C64u,n9 1C64v,n9 1C65c,n9 1C65d,n9 1C65e,n9 1C65f,n9",
    "1C65g,n9 1C65h,n9 1C65i,n9 1C65j,n9 1C65k,n9 1C65l,n9 1C65m,n9 1C65n,n9 1C65o,n9 1C65p,n9",
    "1C65q,n9 1C65r,n9 1C674,n9 1C675,n9 1C676,n9 1C677,n9 1C678,n9 1C679,n9 1C67a,n9 1C67b,n9",
    "1C67c,n9 1C67d,n9 1C67e,n9 1C67f,n9 1C67g,n9 1C67h,n9 1C67i,n9 1C67j,n9 1Cq9,li 1Cq9,lg",
    "1C67k,n9 1Cq9,n9 1Cq4,n9 2Cq9,n6 1C69i,n9 1Cpd,li 1Cpd,lg 1Cpd,lc 1Xp2 1Cpd,n9 2Xqh 3C4o,n6",
    "1C67o,n9 1Cqf,n9 1Cq6,n9 2Cqf,n6 1C69y,n9 1Cph,lc 1Xp4 1Cpj,lc 1Xp5 1Cpj,n9 1C69r,lc 1C69r,ld",
    "1C69r,n6 1Cqh,li 1Cqh,lg 1Cqy,lc 1Xpc 3Cqh,n6 1Cqy,n6 1Cpl,li 1Cpl,lg 1Cpl,lc 1Xp6 2C6bi,lc",
    "1C6bi,ld 1C6bi,n6 1Cqt,li 1Cqt,lg 1Cqz,lc 1Xq8 1Cqp,lv 1Cqp,lw 1Cqt,n6 1Cqz,n6 1Cpx,li 1Cpx,lg",
    "1Cpx,lc 1Xpa 1Cpt,lw 1C4o,lc 1Xp1 1X2o 3C67w,n9 1Cqx,n9 1Cr2,n9 2Cqx,n6 1C6ba,n9 1Cpr,lc 1Xp8",
    "1Cq1,lc 1Xpb 1Cq1,n9 1X50 3X6bm 1X6bn 85Xq1 4X23 1X5h 33C6mo,mw 1C6mq,mw jC6ms,mw vC6og,mw",
    "1C6ok,mw 1C6oi,mw 1hC6pv,mw 5C6q0,mw 3C6q3,mw oC6qr,mw 2C6qt,mw rC6rg,mw 3C6rn,mw 3C6rp,mw",
    "2C6rs,mw nC1p,mw 2C6sh,mw bC6rx,mw 1C1o,mw 1C1q,mw 1C6sk,mw 1C6sl,mw 3C6sy,mw 1C6sz,mw",
    "3C6t2,mw 1C6t3,mw 7C6t6,mw 1C6t7,mw 3C6te,mw 1C6tf,mw 3C6ti,mw 1C6tj,mw zC6ua,mw 1C6ug,mw",
    "1C6uh,mw 1C6uj,mw 1dC6t8,mw 1C6t9,mw 1C6tt,mw 1C6tu,mw 7C6uq,mw 1C6ur,mw 1C6us,mw 1C6ut,mw",
    "1oX9hk 1X9hl 1iqX8gt,mw 12oC9jf,9ll 2C9jh,9ll 2C9jj,9ll 2C9jl,9ll 2C9jn,9ll 2C9jp,9ll",
    "2C9jr,9ll 2C9jt,9ll 2C9jv,9ll 2C9jx,9ll 2C9jz,9ll 2C9k1,9ll 3C9k4,9ll 2C9k6,9ll 2C9k8,9ll",
    "7C9kf,9ll 1C9kf,9lm 2C9ki,9ll 1C9ki,9lm 2C9kl,9ll 1C9kl,9lm 2C9ko,9ll 1C9ko,9lm 2C9kr,9ll",
    "1C9kr,9lm nC9ja,9ll aC9lp,9ll eC9m3,9ll 2C9m5,9ll 2C9m7,9ll 2C9m9,9ll 2C9mb,9ll 2C9md,9ll",
    "2C9mf,9ll 2C9mh,9ll 2C9mj,9ll 2C9ml,9ll 2C9mn,9ll 2C9mp,9ll 3C9ms,9ll 2C9mu,9ll 2C9mw,9ll",
    "7C9n3,9ll 1C9n3,9lm 2C9n6,9ll 1C9n6,9lm 2C9n9,9ll 1C9n9,9lm 2C9nc,9ll 1C9nc,9lm 2C9nf,9ll",
    "1C9nf,9lm nC9ly,9ll 3C9nz,9ll 1C9o0,9ll 1C9o1,9ll 1C9o2,9ll 4C9od,9ll 13iaXrpk 1Xkc4 1Xs7e",
    "1Xrt4 1Xlw1 1Xfg2 1Xgkl 1Xvj0 1Xvj0 1Xhn5 1Xssx 1Xgw7 1Xhmw 1Xjcm 1Xne1 1Xp6t 1Xqin 1Xqt6",
    "1Xr20 1Xsjz 1Xkxu 1Xljv 1Xmah 1Xmvy 1Xq4d 1Xsq2 1Xuep 1Xfia 1Xghh 1Xl50 1Xmjf 1Xqi5 1Xv8e",
    "1Xifk 1Xm3v 1Xqfh 1Xr50 1Xjih 1Xpnc 1Xqvz 1Xiq2 1Xkd3 1Xlm2 1Xmpo 1Xslq 1Xfpi 1Xg53 1Xgda",
    "1Xjwk 1Xl3n 1Xmj4 1Xnhj 1Xpa9 1Xqh2 1Xqjg 1Xs1b 1Xtv6 1Xupb 1Xv7e 1Xnt8 1Xnzz 1Xotc 1Xq15",
    "1Xt1g 1Xvb3 1Xrfa 1Xhjz 1Xiro 1Xokg 1Xpdq 1Xmle 1Xnuy 1Xrsy 1Xttj 1Xhjs 1Xi8y 1Xkyb 1Xlp6",
    "1Xlxr 1Xoq7 1Xoxj 1Xtor 1Xgcy 1Xpe3 1Xg64 1Xg5o 1Xo4c 1Xou6 1Xq29 1Xtpx 1Xrk0 1Xjin 1Xkxu",
    "1Xrge 1Xfg9 1Xi5j 1Xiz6 1Xmtj 1Xn74 1Xgev 1Xnwb 1Xfr3 1Xiw9 1Xff1 1Xlho 1Xk1k 1Xopu 1Xgjn",
    "1Xhge 1Xni9 1Xq4p 1Xre2 1Xla2 1Xsds 1Xlfs 1Xjjy 1Xput 1Xjog 1Xn6t 1Xfji 1Xg2x 1Xg5l 1Xkn5",
    "1Xoo7 1Xprj 1Xrf6 1Xssv 1Xgdx 1Xgn6 1Xho3 1Xir0 1Xk3p 1Xm4e 1Xnxm 1Xtkd 1Xui2 1Xvbr 1Xvda",
    "1Xgbf 1Xkau 1Xl87 1Xsbm 1Xino 1Xj9s 1Xjcw 1Xjve 1Xlyb 1Xmdl 1Xn0p 1Xo22 1Xovo 1Xpdb 1Xs9y",
    "1Xq9a 1Xsgz 1Xt3e 1Xg7r 1Xgbn 1Xgql 1Xma0 1Xr0i 1Xre2 1Xiq1 1Xiyd 1Xjnf 1Xl9q 1Xoji 1Xmt1",
    "1Xfl0 1Xh6h 1Xi5j 1Xiii 1Xizg 1Xmuq 1Xmzt 1Xp7e 1Xpc6 1Xsvo 1Xtti 1Xtvs 1Xu1k 1Xfpn 1Xo1a",
    "1Xss4 1Xtrs 1Xj4x 1Xfie 1Xfyy 1Xi5q 1Xi7z 1Xk2h 1Xkxu 1Xmha 1Xncy 1Xq9o 1Xsjg 1Xvil 1Xk94",
    "1Xtny 1Xgax 1Xkfv 1Xkj7 1Xlkx 1Xluk 1Xmx5 1Xn6h 1Xnsb 1Xopc 1Xu3i 1Xg31 1Xje6 1Xtq0 1Xfu3",
    "1Xie1 1Xlpm 1Xsa2 1Xivf 1Xj7o 1Xkk7 1Xmtj 1Xtqe 1Xg89 1Xglr 1Xi91 1Xk5v 1Xkem 1Xko8 1Xlid",
    "1Xmx2 1Xnaa 1Xp6h 1Xr0v 1Xr1d 1Xsss 1Xtsy 1Xgfz 1Xlve 1Xgm5 1Xmhc 1Xn14 1Xqgq 1Xtr7 1Xuvr",
    "1Xvbz 1Xkgn 1Xlor 1Xpns 1Xo97 1Xobk 1Xolu 1Xmo0 1Xm8p 1Xriw 1Xfk0 1Xpx2 1Xg8q 1Xg7b 1Xip2",
    "1Xjir 1Xonq 1Xi2t 1Xljy 1Xkac 1Xsaj 1Xqx8 1Xtot 1Xr63 1Xiqb 1Xg1s 1Xgxs 3Xhga 2Xk8k 3Xg66",
    "1Xmqy 1Xngq 1Xny4 1Xnz2 1Xnz9 1Xo0f 1Xtw6 1Xon2 1Xp8d 2Xqhe 2Xrg8 3Xshk 1Xsn1 4Xu7j 1Xu7w",
    "1Xu94 1Xv5g 1Xsm6 1Xtrr 1Xfqm 1Xfzb 1Xg25 1Xgcp 1Xgdg 1Xggh 1Xgwt 1Xgzq 1Xh2g 1Xhfk 1Xhig",
    "1Xi90 1Xi9a 1Xj2s 1Xj8o 1Xj9q 1Xjci 1Xk0f 1Xk4i 1Xk9d 1Xkn9 1Xlmf 1Xlqy 1Xlya 1Xmem 1Xmjv",
    "1Xmxu 1Xntd 1Xny6 1Xnyh 1Xnyg 1Xnyo 1Xnyu 1Xnz1 1Xo0d 1Xo0e 1Xo5c 1Xo75 1Xog0 1Xovo 1Xow9",
    "1Xoxt 1Xp6a 1Xpad 1Xpnx 1Xprt 1Xprt 1Xq53 1Xr2o 1Xr6e 1Xrgh 1Xri1 1Xrtf 1Xruw 1Xsdy 1Xshk",
    "1Xtsz 1Xu0v 1Xu2j 1Xj1x 1X36cu 1Xpp4 3Xffq 1Xg51 1Xg2w 1Xfpc 1Xg1x 1Xg3k 1Xgcn 1Xge2 1Xgwt",
    "1Xgut 1Xgwp 1Xgyq 1Xhga 1Xhir 1Xhms 1Xhn8 1Xhuq 1Xi08 1Xiqa 1Xiqh 1Xiuh 1Xiwd 1Xj4o 1Xj7y",
    "1Xj60 1Xj9q 1Xj8g 1Xjci 1Xjec 1Xjpg 1Xjrw 1Xjte 1Xk0m 1Xk8k 1Xkd3 1Xkd7 1Xkeu 1Xl89 1Xla2",
    "1Xlkx 1Xlwb 1Xlvv 1Xlya 1Xm5a 1Xmem 1Xnmv 1Xmk5 1Xmnj 1Xmqy 1Xn01 1Xn46 1Xn5n 1Xnbx 1Xnbz",
    "1Xngq 1Xnh7 1Xnhw 1Xnka 1Xnk0 1Xnv0 1Xo8h 1Xog0 1Xol7 1Xorf 1Xovo 1Xp4u 1Xpad 1Xpxu 1Xq27",
    "1Xqrd 1Xr41 1Xr5y 1Xr6e 1Xren 1Xrg8 1Xrez 1Xrgh 1Xrge 1Xrfx 1Xri1 1Xrka 1Xruw 1Xsag 1Xsj6",
    "1Xsrd 1Xsxi 1Xtq4 1Xtsz 1Xtw6 1Xtzv 1Xu0v 1Xu17 1Xu2j 1Xumq 1Xvj0 1X313e 1X3138 1X33dh 1Xbrx",
    "1Xcns 1Xcop 1X39e1 1X3bgw 1X3i6r 1Xvgj 1Xvim 1wX15l,14k 2X16a,14n bX161,14x 1X161,14y",
    "1X1dmx,14x 1X1dmx,14y 1X15c,14n 1X15c,14o 1X15c,14s 1X15d,14s 1X15e,14s 1X15f,14s 1X15g,14s",
    "1X15h,14s 1X15i,14s 2X15k,14s 1X15l,14s 1X15m,14s 1X15n,14s 1X15o,14s 2X15q,14s 2X15s,14s",
    "1X15t,14s 2X15v,14s 1X15w,14s 2X15y,14s 1X15z,14s 1X160,14s 1X161,14s 1X162,14s 1X15h,14p",
    "1X15d,14v 1X15n,14v 1X15w,14v 47gC1huh,1hve 2C1huj,1hve fC1hut,1hve 3nC1hyp,1hyf 1C1hyq,1hyf",
    "f0C1idj,1ida 1C1idj,1idz a7C1int,1inu 1C1int,1ink 2C1int,1inx 70C1iuw,1iun 1C1iux,1iun",
    "otC1jjp,1jjk 10diX2jx3,2jxh 1X2jx4,2jxh 1X2jxb,2jxq 1X2jxb,2jxr 1X2jxb,2jxs 1X2jxb,2jxt",
    "1X2jxb,2jxu 2fX2jzt,2jxh 1X2jzu,2jxh 1X2jzv,2jxq 1X2jzw,2jxq 1X2jzv,2jxr 1X2jzw,2jxr 1m4gXfgd",
    "1Xfg8 1Xfgh 1X2tcy 1Xfog 1Xfqm 1Xfqz 1Xfsy 1Xfwa 1Xfx5 1Xfzb 1Xfyn 1Xae6 1X2ud6 1Xg25 1Xg2c",
    "1Xg2s 1Xg3b 1X2u58 1Xaex 1Xg2v 1Xg3x 1X2u6j 1Xg47 1Xg4k 1Xfkc 1Xg4s 1Xg51 1X3ly7 1Xg6t 1Xg77",
    "1Xafz 1Xg8r 1Xg92 1Xgaa 1Xgaf 1Xahh 1Xgcn 1Xgcp 1Xgdg 1Xge2 1Xged 1Xgee 1Xgev 1Xgg9 1Xggh",
    "1Xggq 1Xghf 1Xghp 1Xghr 1Xghr 1Xghr 1X2v58 1Xm7k 1Xgju 1Xgkf 1X2vdv 1Xgkr 1Xgkx 1Xgli 1Xgpq",
    "1Xgmw 1Xgnc 1Xgo8 1Xgpu 1Xgs6 1Xgsw 1Xgur 1Xgv7 1Xgw4 1Xgw4 1Xgwp 1Xgx7 1Xgxf 1Xgxu 1Xh7a",
    "1Xgzq 1Xh7b 1Xh1t 1Xh2s 1Xg7b 1Xhke 1Xhce 1Xhdg 1Xhe5 1Xhaj 1Xhf6 1Xhf5 1Xhik 1X2x9g 1Xhki",
    "1Xhkn 1Xhl2 1Xhlm 1Xhlu 1Xhnm 1X2xm0 1X2xnu 1Xhrg 1Xhsr 1Xht3 1Xhqw 1Xhuu 1Xaum 1Xav0 1Xhzc",
    "1Xi0u 1Xi0u 1X2y88 1Xi4j 1Xi54 1Xi5j 1Xi5v 1X2yhk 1Xi67 1Xi6e 1Xitv 1Xi76 1Xayp 1Xi8w 1Xi9a",
    "1Xibk 1Xia5 1X2z1g 1Xif7 1X2z1i 1Xige 1Xigb 1Xigs 1Xijl 1Xijm 1Xb3j 1Xikd 1Xilk 1Xim5 1Xind",
    "1Xb4y 1X2zr7 1Xb5o 1Xipc 1Xipf 1Xipi 1Xiq2 1X3pg2 1Xiri 1X3035 1X3035 1Xpoh 1Xisi 1Xisi 1Xb7r",
    "1X335k 1X3cgq 1Xiua 1Xiuj 1Xb8j 1Xivu 1Xix9 1Xixj 1Xiyh 1Xj29 1Xbay 1Xba4 1Xj2s 1X30t0 1Xj47",
    "1Xj7s 1Xj7w 1Xj7y 1Xj7w 1Xj96 1Xj9q 1Xjaq 1Xjac 1Xjan 1Xjby 1Xjci 1Xjcm 1Xjdc 1Xjdn 1Xjfh",
    "1Xjht 1Xjis 1Xjm8 1X31n0 1Xjlp 1Xjjw 1Xjmw 1Xjnn 1Xjqc 1X31td 1Xjs2 1Xjph 1Xjop 1Xbhq 1Xju1",
    "1Xjum 1Xjvh 1Xjuf 1Xbjg 1Xk0f 1Xk18 1X32mi 1Xk4j 1Xkc8 1Xk7d 1Xbo9 1Xk9d 1Xbns 1Xbms 1Xg42",
    "1Xg45 1Xkcg 1Xk9o 1Xpf1 1Xdeh 1Xkd3 1Xkd7 1Xkdd 1Xkf2 1Xker 1X33cz 1Xbpl 1Xkje 1Xkg5 1Xklu",
    "1Xkn9 1X33hp 1Xkni 1Xkkf 1Xkr8 1Xbrx 1Xksi 1Xkv7 1Xkx6 1Xl2g 1X33xf 1Xl3v 1Xbvc 1Xl5t 1X34br",
    "1Xl78 1Xbwu 1Xl82 1Xl9b 1Xla2 1Xla3 1X34p9 1X2yvf 1X34sa 1Xle6 1X354s 1Xlhb 1Xlhp 1Xlev 1Xljq",
    "1Xlku 1Xlmf 1Xlkx 1Xlm1 1Xlmg 1Xlmt 1X357i 1Xlkk 1Xlrj 1Xlta 1Xc37 1Xlvv 1Xlvr 1X35jl 1Xlq1",
    "1Xm0e 1X35ni 1X35ou 1Xm2u 1Xm61 1Xm5a 1Xm57 1Xc5y 1Xm6i 1Xm7x 1Xm7r 1Xm99 1X2u5h 1Xmdh 1X368z",
    "1Xmfw 1X36i3 1Xmjs 1Xmk5 1Xmkw 1X36yw 1Xmm8 1Xmmt 1X3779 1X37dg 1Xmt6 1Xmtn 1Xcdo 1Xmud 1Xce0",
    "1Xce0 1Xmyv 1Xmzg 1Xn01 1Xn0l 1Xn2i 1Xcgr 1Xn50 1X386u 1Xn5q 1X389e 1Xn74 1X2zrz 1Xnbk 1X38v5",
    "1X38vs 1X38zo 1Xcn0 1Xcnc 1Xnhw 1X394j 1X394i 1X395l 1X396b 1Xnj2 1Xnj3 1Xnj3 1Xnka 1Xcop",
    "1Xnm3 1Xcp2 1Xcra 1X39r1 1Xnri 1Xnt8 1Xnv0 1Xctf 1X3a5i 1Xnyu 1X3a8q 1X3a9x 1Xo0f 1Xo2z 1Xcvj",
    "1Xo5c 1Xo5m 1Xo5r 1X3at8 1X3b1j 1X3b1j 1Xoa6 1Xd1e 1X3b8r 1Xog6 1Xog9 1Xd2f 1X3beo 1Xonm 1Xd5s",
    "1Xoo8 1Xoo3 1Xoow 1X3c06 1Xorn 1Xd8h 1Xouf 1Xow2 1Xoxx 1Xd9w 1X3ciw 1X3cjr 1Xdax 1X3cnt 1Xp6i",
    "1X3cqm 1Xp79 1Xpa2 1Xpad 1X3d22 1X3d43 1Xpcw 1X3d7s 1Xpdc 1X33a7 1Xded 1Xpf6 1Xphf 1Xdfv 1Xpj2",
    "1Xhx1 1X3dlz 1X3dmd 1X33bn 1X33bw 1Xpoh 1Xpok 1Xsda 1Xdij 1Xpsh 1Xpsb 1Xpst 1Xgc3 1Xptd 1Xptf",
    "1Xptp 1Xpuu 1X3ebg 1Xput 1Xpwd 1Xpyb 1Xq0d 1Xpwj 1Xq0t 1Xq1z 1Xq53 1Xpxv 1Xq16 1Xq18 1Xq1o",
    "1X3eie 1X3eqz 1X3emt 1Xdnv 1Xq9d 1Xq9f 1Xqae 1X3g0a 1Xqck 1X3f3g 1Xdp9 1Xdpd 1X3f75 1X3ff6",
    "1Xdpn 1Xqj4 1Xqjg 1Xqjr 1Xqjt 1Xqll 1Xqko 1Xqoe 1Xqn6 1Xqrd 1Xqp4 1Xqqz 1Xqrq 1Xdsn 1Xqu9",
    "1Xqv5 1Xdtl 1Xqxs 1Xqxv 1X3giv 1Xr13 1Xr1a 1Xdv9 1Xr22 1Xaez 1X3gz2 1X3h46 1Xdz2 1Xdzb 1Xrds",
    "1Xrfx 1Xrka 1Xrpx 1X3hrc 1Xrsb 1Xrsx 1Xrvf 1Xrxz 1X3i9b 1X2upw 1Xs0b 1Xrzw 1Xs1c 1X2uvy 1Xs7o",
    "1Xsag 1X3jki 1X3jl9 1Xsk4 1Xsmp 1Xsnl 1X3ju6 1Xsnv 1Xsvs 1Xt07 1Xt08 1Xsxo 1Xt89 1Xt91 1X3ksa",
    "1Xtjf 1Xej9 1Xtkn 1X3l2v 1Xeli 1Xts3 1Xiia 1Xtur 1X3ltx 1X3lzu 1Xepa 1Xepi 1Xu00 1X3mdm 1Xer6",
    "1X3mhi 1Xu17 1Xu17 1Xu21 1X3mpi 1Xu76 1Xeur 1Xu95 1Xucn 1Xude 1Xuf2 1Xez2 1X3nsg 1Xumq 1Xuv4",
    "1Xv0d 1Xf66 1Xf71 1Xv3b 1X3owe 1Xf7c 1X3oxx 1X3p5a 1X3p8x 1Xvcr 1Xf9y 1Xveh 1Xvem 1Xvet 1Xvf3",
    "1Xvfa 1Xvgb 1X3pxc" ]

/-- A character with parts. -/
structure Row where
  composes : Bool
  parts : List Nat
deriving Inhabited

/-- The characters with parts. -/
def table : RangeTable Row :=
  RangeTable.read (fun payload => ⟨payload.head? = some 'C', readNumbers (payload.drop 1)⟩) rows

/-- The pairs that make a character, with it. -/
def pairs : List (Nat × Nat × Nat) :=
  table.rows.toList.filterMap fun (c, row) =>
    match row.composes, row.parts with
    | true, [a, b] => some (a, b, c)
    | _, _ => none

/-- The parts of a Hangul syllable. -/
def syllableParts (n : Nat) : List Nat :=
  let s := n - 0xAC00
  let t := s % 28
  [0x1100 + s / 588, 0x1161 + s % 588 / 28] ++ (if t = 0 then [] else [0x11A7 + t])

/-- The characters that a character stands for. -/
def parts? (c : Nat) : Option (List Nat) :=
  if c < 0xC0 then none
  else if 0xAC00 ≤ c ∧ c < 0xAC00 + 11172 then some (syllableParts c)
  else match table.findRow? c with
    | some (start, row) => if start = c then some row.parts else none
    | none => none

/-- The character that two characters make together. -/
def pair? (a b : Nat) : Option Nat :=
  if b < 0x300 then none
  else if 0x1100 ≤ a ∧ a < 0x1100 + 19 ∧ 0x1161 ≤ b ∧ b < 0x1161 + 21 then
    some (0xAC00 + ((a - 0x1100) * 21 + (b - 0x1161)) * 28)
  else if 0xAC00 ≤ a ∧ a < 0xAC00 + 11172 ∧ (a - 0xAC00) % 28 = 0 ∧ 0x11A7 < b ∧ b < 0x11A7 + 28 then
    some (a + (b - 0x11A7))
  else (pairs.find? fun (x, y, _) => x = a ∧ y = b).map fun (_, _, c) => c

end Wayfarer.Canonical
