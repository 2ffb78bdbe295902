import SharedTerminal.Text.Runs

/-!
# The mapping of domain names

Before a domain name is spelled in ASCII, every character is looked up in a table of UTS #46:
it stays, goes, makes the name invalid, or is replaced, for example by its lower-case or its
compatible form.

The table covers all code points in order, as runs, each with a letter that says what happens to the
characters:

* `v`, the characters stay; `i`, they go; `x`, they are refused;
* `p` and `m`, they are replaced by the characters that are a distance further up or down;
* `q` and `n` likewise, but every second of them stays as it is;
* `s`, each is replaced by the characters listed.

The table is that of version 17 of Unicode without the rules for host names of STD 3, and the
characters that were once replaced for compatibility stay.
-/

namespace SharedTerminal.Url.Mapping

open Unicode (Run)

/-- What happens to a character. -/
inductive Fate where
  /-- It stays. -/
  | kept
  /-- It goes. -/
  | ignored
  /-- It makes the name invalid. -/
  | refused
  /-- Others take its place. -/
  | replaced (others : List Char)
deriving DecidableEq, Repr

/-- What happens to the characters of a run. -/
inductive Rule where
  /-- All have the same fate. -/
  | all (fate : Fate)
  /-- Each is replaced by the one at a distance. -/
  | shift (distance : Int)
  /-- The first, the third and so on are replaced by the one at a distance. -/
  | alternate (distance : Int)
deriving DecidableEq, Repr

/-! ## The notation -/

/-- The rule of a run. -/
def rule (run : Run) : Rule :=
  match run.letter with
  | 'v' => .all .kept
  | 'i' => .all .ignored
  | 'p' => .shift (Run.numeral run.argument)
  | 'm' => .shift (-(Run.numeral run.argument : Int))
  | 'q' => .alternate (Run.numeral run.argument)
  | 'n' => .alternate (-(Run.numeral run.argument : Int))
  | 's' => .all (.replaced ((run.argument.splitOn ',').map Run.character))
  | _ => .all .refused

/-! ## The table -/

/-- Part 1 of the table. -/
def part1 : String :=
  "41v 1ap20 25v 20x m80 7v s20,308 v m49 2v i v s20,304 2v 2m80 s20,301 p307 2v s20,327 m88 m4b v
    s31,2044,34 s31,2044,32 s33,2044,34 v 17p20 v 7p20 21v 2fq1 v s69,307 v 2s69,6a p1 v p1 2v 5q1 v
    2s6c,b7 7q1 v s2bc,6e 2dq1 v m79 5q1 v m10c v pd2 p1 v p1 v pce p1 v 2pcd p1 2v p4f pca pcb p1 v
    pcd pcf v pd3 pd1 p1 3v pd3 pd5 v pd6 5q1 v pda p1 v pda 2v p1 v pda p1 v 2pd9 p1 v p1 v pdb p1
    3v p1 7v 3s64,17e 3s6c,6a 3s6e,6a fq1 2v 11q1 2v 3s64,7a p1 v m61 m38 27q1 v m82 v 11q1 7v p2a2b
    p1 v ma3 p2a28 2v p1 v mc3 p45 p47 9q1 61v m248 m4b m248 m241 m3b m3a m35 m240 m23f 1fv s20,306
    s20,307 s20,30a s20,328 s20,303 s20,30b 2v m7d m275 m26f m26b m4f 5bv 2m40 v m30 s308,301 p74 9v
    i 20v p1 v p1 v mbb v p1 v 2x s20,3b9 3v m343 p74 4x s20,301 s20,308,301 p26 m2d0 3p25 x p40 x
    2p3f v 11p20 x 9p20 23v p8 m1e m19 md m6 m9 mf m16 v 17q1 v m36 m30 m2f v m3c m40 v p1 v m36 p1
    2v 3m82 10p50 20p20 30v 21q1 9v 35q1 v pf dq1 2v 5fq1 v x 26p30 2x 2ev s565,582 3v 2x 3v x 37v
    8x 1bv 4x 6v 11x 16v x 58v s627,674 s648,674 s6c7,674 s64a,674 64v x 30v 2x 3bv 2x 65v ex 3bv 2x
    31v 2x fv x 1cv 2x v x bv 5x 20v 7x 4bv x 75v s915,93c s916,93c s917,93c s91c,93c s921,93c
    s922,93c s92b,93c s92f,93c 24v x 8v 2x 2v 2x 16v x 7v x v 3x 4v 2x 9v 2x 2v 2x 4v 8x v 4x
    s9a1,9bc s9a2,9bc x s9af,9bc 4v 2x 19v 2x 3v x 6v 4x 2v 2x 16v x 7v x v sa32,a3c x v sa38,a3c x
    2v 2x v x 5v 4x 2v 2x 3v 3x v 7x sa16,a3c sa17,a3c sa1c,a3c v x sa2b,a3c 7x 11v ax 3v x 9v x 3v
    x 16v x 7v x 2v x 5v 2x av x 3v x 3v 2x v fx 4v 2x cv 7x 7v x 3v x 8v 2x 2v 2x 16v x 7v x 2v x
    5v 2x 9v 2x 2v 2x 3v 7x 3v 4x sb21,b3c sb22,b3c x 5v 2x 12v ax 2v x 6v 3x 3v x 4v 3x 2v x v x 2v
    3x 2v 3x 3v 3x cv 4x 5v 3x 3v x 4v 2x v 6x v ex 15v 5x dv x 3v x 17v x 10v 2x 9v x 3v x 4v 7x 2v
    x 3v x 2v 2x 4v 2x av 7x 16v x 3v x 17v x av x 5v 2x 9v x 3v x 4v 7x 2v 5x 3v x 4v 2x av x 3v cx
    dv x 3v x 33v x 3v x 6v 4x 10v 2x 1av x 3v x 12v 3x 18v x 9v x v 2x 7v 3x v 4x 6v x v x 8v 6x av
    2x 3v cx 32v se4d,e32 7v 4x 1dv 25x 2v x v x 5v x 18v x v x cv secd,eb2 av 2x 5v x v x 7v x av
    2x seab,e99 seab,ea1 2v 20x cv m1 36v sf42,fb7 4v x 4v sf4c,fb7 4v sf51,fb7 4v sf56,fb7 4v
    sf5b,fb7 cv sf40,fb5 3v 4x 2v sf71,f72 v sf71,f74 sfb2,f80 sfb2,f71,f80 sfb3,f80 sfb3,f71,f80 7v
    sf71,f80 11v sf92,fb7 4v x 4v sf9c,fb7 4v sfa1,fb7 4v sfa6,fb7 4v sfab,fb7 cv sf90,fb5 3v x fv x
    dv 25x a0v 26p1c60 x p1c60 5x p1c60 2x 2cv m20 62v 2i e8v x 4v 2x 7v x v x 4v 2x 29v x 4v 2x 21v
    x 4v 2x 7v x v x 4v 2x fv x 39v x 4v 2x 43v 2x 20v 3x 1av 6x 56v 2x 6m8 2x 280v x 1cv 3x 59v 7x
    16v 9x 18v 9x 14v cx dv x 3v x 2v cx 34v 2i 28v 2x av 6x av 6x bv 5i av 6x 59v 7x 2bv 5x 46v ax
    1fv x cv 4x cv 4x v 3x 2av 2x 5v bx 2cv 4x 1av 6x bv 3x 3ev 2x 41v x 1dv 2x bv 6x av 6x ev 2x
    2ev 2x cv 14x 4dv x a6v 8x 3cv 3x fv 3x 33v m184e m184d m1844 2m1842 m1843 m183c m1824 p89c3 p1
    v 5x 2bmbc0 2x 3mbc0 8v 8x 2bv 5x 2cv m1ccb m1c47 m1ccc v 2m1ccc m1b55 8m1ccc v m1ccd m1b1a
    m1cce m1ccd 2m1ccc m1ccb m1ce2 2m1af4 m44 m1ce5 2m1ce4 m1af1 2m1af0 m1ce6 v m1ce4 m1ce3 m1c06
    m1ce3 m1aff 2m3e m1ce6 2m1ce3 m3c m1aeb m1ce5 m37 3m19ab 2m199a m1cf9 m1cf1 2m1cef 2m19b4 m19a7
    2m19a3 dv m193b 22v m1b49 m1d39 m1b48 m1cae m1b43 m1d3a m1b42 m1b41 m1b3e 3m1b3c m2c m1b0b m1b3c
    m25 m1b0c m1b3b m1b3d 4m1b3c m1b3a 2m1b31 m1c0a 2m1b2d m9c 2m1b2e m1d41 3m1b2c m1a07 40v 95q1 5v
    s61,2be m3a 2v m1dbf v 5fq1 9v 8m8 6v 2x 6m8 2x 8v 8m8 8v 8m8 6v 2x 6m8 2x 8v x m8 x m8 x m8 x
    m8 8v 8m8 v m1bc5 v m1bc6 v m1bc7 v m1bc8 v m1bad v m1bae v m1baf 2x s1f00,3b9 s1f01,3b9
    s1f02,3b9 s1f03,3b9 s1f04,3b9 s1f05,3b9 s1f06,3b9 s1f07,3b9 s1f00,3b9 s1f01,3b9 s1f02,3b9
    s1f03,3b9 s1f04,3b9 s1f05,3b9 s1f06,3b9 s1f07,3b9 s1f20,3b9 s1f21,3b9 s1f22,3b9 s1f23,3b9
    s1f24,3b9 s1f25,3b9 s1f26,3b9 s1f27,3b9 s1f20,3b9 s1f21,3b9 s1f22,3b9 s1f23,3b9 s1f24,3b9
    s1f25,3b9 s1f26,3b9 s1f27,3b9 s1f60,3b9 s1f61,3b9 s1f62,3b9 s1f63,3b9 s1f64,3b9 s1f65,3b9
    s1f66,3b9 s1f67,3b9 s1f60,3b9 s1f61,3b9 s1f62,3b9 s1f63,3b9 s1f64,3b9 s1f65,3b9 s1f66,3b9
    s1f67,3b9 2v s1f70,3b9 s3b1,3b9 s3ac,3b9 x v s1fb6,3b9 2m8 m4a m1c0f s3b1,3b9 s20,313 m1c05
    s20,313 s20,342 s20,308,342 s1f74,3b9 s3b7,3b9 s3ae,3b9 x v s1fc6,3b9 m56 m1c1c m56 m1c1d
    s3b7,3b9 s20,313,300 s20,313,301 s20,313,342 3v m1c43 2x 2v 2m8 m64 m1c2c x s20,314,300
    s20,314,301 s20,314,342 3v m1c33 4v 2m8 m70 m1c1e m7 s20,308,300 s20,308,301 m1f8f 2x s1f7c,3b9
    s3c9,3b9 s3ce,3b9 x v s1ff6,3b9 m80 m1c2d m7e m1c2d s3c9,3b9 s20,301 s20,314 x m1fe0 m1fe1 m1fe2
    m1fe3 m1fe4 m1fe5 m1fe6 m1fe7 m1fe8 m1fe9 m1fea i 2v 2x v m1 5v s20,333 cv 3x v 7x m200f 3v
    s2032,2032 s2032,2032,2032 v s2035,2035 s2035,2035,2035 4v s21,21 v s20,305 8v s3f,3f s3f,21
    s21,3f dv s2032,2032,2032,2032 7v m203f 5i 5x 6i m2040 m2008 2x 6m2040 m204f p197 m203f 2m2055
    m2011 am2050 m205f p187 m204f 2m2065 x m202f m202c m2023 m201b m1e3b m202d 4m202b m202a 2m2028
    3x 8v s72,73 19v ex 21v fx s61,2f,63 s61,2f,73 m209f sb0,63 v s63,2f,6f s63,2f,75 m1eac v sb0,66
    2m20a3 m20a4 m20a5 m20a6 m1fe8 m20a7 m20a8 m20a6 m20a7 v m20a7 s6e,6f 2v 3m20a9 m20aa m20ab 2v
    s73,6d s74,65,6c s74,6d v m20aa v m1d5d v m20ae v m20bf m2046 2m20ca v m20ca 2m20cb p1c m20c6
    m20c5 4m1b65 m20d0 v s66,61,78 m1d7c m1d8a m1d8b m1d7f pd1 4v m20e1 2m20e2 2m20df 6v s31,2044,37
    s31,2044,39 s31,2044,31,30 s31,2044,33 s32,2044,33 s31,2044,35 s32,2044,35 s33,2044,35
    s34,2044,35 s31,2044,36 s35,2044,36 s31,2044,38 s33,2044,38 s35,2044,38 s37,2044,38 s31,2044
    m20f7 s69,69 s69,69,69 s69,76 m20ee s76,69 s76,69,69 s76,69,69,69 s69,78 m20f1 s78,69 s78,69,69
    m2100 2m210a m2102 m2107 s69,69 s69,69,69 s69,76 m20fe s76,69 s76,69,69 s76,69,69,69 s69,78
    m2101 s78,69 s78,69,69 m2110 2m211a m2112 3v p1 5v s30,2044,33 2v 4x 9cv s222b,222b
    s222b,222b,222b v s222e,222e s222e,222e,222e f8v 2pcdf ffv 16x bv 15x 9m242f s31,30 s31,31"

/-- Part 2 of the table. -/
def part2 : String :=
  "s31,32 s31,33 s31,34 s31,35 s31,36 s31,37 s31,38 s31,39 s32,30 s28,31,29 s28,32,29 s28,33,29
    s28,34,29 s28,35,29 s28,36,29 s28,37,29 s28,38,29 s28,39,29 s28,31,30,29 s28,31,31,29
    s28,31,32,29 s28,31,33,29 s28,31,34,29 s28,31,35,29 s28,31,36,29 s28,31,37,29 s28,31,38,29
    s28,31,39,29 s28,32,30,29 14x s28,61,29 s28,62,29 s28,63,29 s28,64,29 s28,65,29 s28,66,29
    s28,67,29 s28,68,29 s28,69,29 s28,6a,29 s28,6b,29 s28,6c,29 s28,6d,29 s28,6e,29 s28,6f,29
    s28,70,29 s28,71,29 s28,72,29 s28,73,29 s28,74,29 s28,75,29 s28,76,29 s28,77,29 s28,78,29
    s28,79,29 s28,7a,29 1am2455 1am246f m24ba 521v s222b,222b,222b,222b 67v s3a,3a,3d s3d,3d
    s3d,3d,3d 65v s2add,338 97v 2x 8av 30p30 30v p1 v m29f7 mee6 m29e7 2v 5q1 v m2a1c m29fd m2a1f
    m2a1e v p1 2v p1 6v m2c12 m2c07 2m2a3f 63q1 8v p1 v p1 4v p1 v 5x 2dv x v 5x v 2x 38v 7x me v ex
    18v 9x 7v x 7v x 7v x 7v x 7v x 7v x 7v x 7v x 7ev 22x 1av x 4v p3d2e 53v p70ac cx p1f00 p1f27
    p1f34 p1f3c p1f55 p1f80 p1f86 p1f99 p1fb2 p2236 p225b p2260 p2276 p2289 p229d p22d1 p22e5 p22ef
    p2389 p23e6 p2401 p2405 p2422 p242a p2444 p2450 p2468 p249b p24ac p24c6 p27b9 p2800 p29cb p29e1
    p29e8 p29f2 p2a03 p2a4e p2c2a p2c59 p2cd0 p2ce6 p2cf8 p2d0d p2d42 p2d44 p2ead p2eb6 p2ec1 p2ecd
    p2f40 p2f47 p2f4b p2fbf p2fc8 p2fd4 p2fdb p3017 p3027 p3038 p3087 p32cb p32f8 p330c p35ef p35f3
    p3645 p3654 p3660 p3674 p369a p369e p37a8 p37bf p37de p3bd5 p3c16 p3c2c p3c65 p3c7c p3c84 p3c8a
    p3cbd p3cc1 p3ce0 p4116 p42d4 p42df p42e3 p42e6 p42ed p42fe p42ff p434f p4426 p442a p457c p4585
    p45b6 p45bc p45c4 p45cb p4625 p462b p470e p4714 p4744 p4754 p4782 p486e p4874 p4884 p49ca p4a47
    p4a4c p4b01 p4b57 p4b84 p4cfd p4d81 p4fbe p4fd8 p5010 p5042 p5085 p508f p5094 p50b4 p50ff p5108
    p5261 p5267 p526f p5277 p5286 p5294 p5297 p52e5 p52e8 p52ed p56c1 p56de p58b2 p58bd p58d3 p59ed
    p59f9 p5a3f p5a6c p5ca2 p5cb0 p5cbe p5ce0 p5d04 p5dca p5dd5 p5e17 p5f0e p5f2c p5ffc p6010 p6014
    p60ef p61a6 p6222 p6227 p622b p65d0 p65d8 p6673 p670c p670e p673c p67a4 p67b0 p67b3 p67b9 p681a
    p683b p6840 p684d p68f3 p6925 p6928 p69de p69e0 p69f2 p6aed p6b1c p6b22 p6b67 p6b70 p6b72 p6b7b
    p6b98 p6d22 p6eb1 p6eba p6edf p6ef4 p6efb p6f04 p6f07 p6f2e p6f31 p6f41 p6f45 p6f51 p6f6b p6f79
    p6f80 p6fba p6fc8 p6fcb 2ax m2fe0 v m2fd4 33v m24 v p2309 2p230b 5v x 56v 2x 2v s20,3099
    s20,309a 2v s3088,308a 5fv s30b3,30c8 5x 2bv x 2m2031 m1f89 m2032 2m1f89 3m2034 6m1f8a m2026
    3m203b m2023 am203c 15m1fee i 2m2051 2m1fa0 m1f9d m1f9c m1f98 m1f95 m1f94 m2052 m1f92 m1f91
    2m2054 m2053 2m2052 m204f m204e 5m204d m204b m2048 m203f m2039 m2035 2m1f91 3m202d 2m2003 m2001
    2m1ff9 m1ff8 m1fef m1fed x 2v p1c6e p1cf9 p1c75 p2546 p1c74 p1c96 p1c73 p4399 p1cbf p1c7e p1c65
    p278c p2592 p1d1b 46v ax 10v s28,1100,29 s28,1102,29 s28,1103,29 s28,1105,29 s28,1106,29
    s28,1107,29 s28,1109,29 s28,110b,29 s28,110c,29 s28,110e,29 s28,110f,29 s28,1110,29 s28,1111,29
    s28,1112,29 s28,ac00,29 s28,b098,29 s28,b2e4,29 s28,b77c,29 s28,b9c8,29 s28,bc14,29 s28,c0ac,29
    s28,c544,29 s28,c790,29 s28,cc28,29 s28,ce74,29 s28,d0c0,29 s28,d30c,29 s28,d558,29 s28,c8fc,29
    s28,c624,c804,29 s28,c624,d6c4,29 x s28,4e00,29 s28,4e8c,29 s28,4e09,29 s28,56db,29 s28,4e94,29
    s28,516d,29 s28,4e03,29 s28,516b,29 s28,4e5d,29 s28,5341,29 s28,6708,29 s28,706b,29 s28,6c34,29
    s28,6728,29 s28,91d1,29 s28,571f,29 s28,65e5,29 s28,682a,29 s28,6709,29 s28,793e,29 s28,540d,29
    s28,7279,29 s28,8ca1,29 s28,795d,29 s28,52b4,29 s28,4ee3,29 s28,547c,29 s28,5b66,29 s28,76e3,29
    s28,4f01,29 s28,8cc7,29 s28,5354,29 s28,796d,29 s28,4f11,29 s28,81ea,29 s28,81f3,29 p230b p2c37
    p3341 p4948 8v s70,74,65 s32,31 s32,32 s32,33 s32,34 s32,35 s32,36 s32,37 s32,38 s32,39 s33,30
    s33,31 s33,32 s33,33 s33,34 s33,35 m2160 2m215f 3m215e m215d 2m215c 5m215b p7992 p7e29 p8074
    p850b p8756 p89a1 p8e38 p92cf p951a p99b1 p9bfc p9e47 pa092 pa2dd scc38,ace0 sc8fc,c758 p9432 v
    p1b80 p1c0b p1b87 p2458 p1c10 p1ee8 p1b7d p1ee4 p1bd5 p20b8 p347e p3de0 p39a8 p349b p5f43 p2490
    p3355 p3599 p3477 p46ab p2179 p3fe4 p5a0b p46c6 p201c p473f p429d p26d8 p5dcd p1e8d p20d2 p3a49
    p6565 p1c70 p1ef7 p38c0 p1b66 p1b88 p1b65 p2b3f p214b p2092 p28ed p28bb p4437 p1c54 p5a19 p20a5
    p266c s33,36 s33,37 s33,38 s33,39 s34,30 s34,31 s34,32 s34,33 s34,34 s34,35 s34,36 s34,37 s34,38
    s34,39 s35,30 s31,6708 s32,6708 s33,6708 s34,6708 s35,6708 s36,6708 s37,6708 s38,6708 s39,6708
    s31,30,6708 s31,31,6708 s31,32,6708 s68,67 s65,72,67 s65,76 s6c,74,64 m22e m22d m22c m22b 2m22a
    m229 m228 m227 m226 m225 m224 m223 m222 m221 m220 m21f m21d m21c m21b 6m21a m218 m216 m214 m212
    5m210 m20f m20e 6m20d 4m20c s4ee4,548c s30a2,30d1,30fc,30c8 s30a2,30eb,30d5,30a1
    s30a2,30f3,30da,30a2 s30a2,30fc,30eb s30a4,30cb,30f3,30b0 s30a4,30f3,30c1 s30a6,30a9,30f3
    s30a8,30b9,30af,30fc,30c9 s30a8,30fc,30ab,30fc s30aa,30f3,30b9 s30aa,30fc,30e0 s30ab,30a4,30ea
    s30ab,30e9,30c3,30c8 s30ab,30ed,30ea,30fc s30ac,30ed,30f3 s30ac,30f3,30de s30ae,30ac
    s30ae,30cb,30fc s30ad,30e5,30ea,30fc s30ae,30eb,30c0,30fc s30ad,30ed s30ad,30ed,30b0,30e9,30e0
    s30ad,30ed,30e1,30fc,30c8,30eb s30ad,30ed,30ef,30c3,30c8 s30b0,30e9,30e0
    s30b0,30e9,30e0,30c8,30f3 s30af,30eb,30bc,30a4,30ed s30af,30ed,30fc,30cd s30b1,30fc,30b9
    s30b3,30eb,30ca s30b3,30fc,30dd s30b5,30a4,30af,30eb s30b5,30f3,30c1,30fc,30e0
    s30b7,30ea,30f3,30b0 s30bb,30f3,30c1 s30bb,30f3,30c8 s30c0,30fc,30b9 s30c7,30b7 s30c9,30eb
    s30c8,30f3 s30ca,30ce s30ce,30c3,30c8 s30cf,30a4,30c4 s30d1,30fc,30bb,30f3,30c8 s30d1,30fc,30c4
    s30d0,30fc,30ec,30eb s30d4,30a2,30b9,30c8,30eb s30d4,30af,30eb s30d4,30b3 s30d3,30eb
    s30d5,30a1,30e9,30c3,30c9 s30d5,30a3,30fc,30c8 s30d6,30c3,30b7,30a7,30eb s30d5,30e9,30f3
    s30d8,30af,30bf,30fc,30eb s30da,30bd s30da,30cb,30d2 s30d8,30eb,30c4 s30da,30f3,30b9"

/-- Part 3 of the table. -/
def part3 : String :=
  "s30da,30fc,30b8 s30d9,30fc,30bf s30dd,30a4,30f3,30c8 s30dc,30eb,30c8 s30db,30f3 s30dd,30f3,30c9
    s30db,30fc,30eb s30db,30fc,30f3 s30de,30a4,30af,30ed s30de,30a4,30eb s30de,30c3,30cf
    s30de,30eb,30af s30de,30f3,30b7,30e7,30f3 s30df,30af,30ed,30f3 s30df,30ea
    s30df,30ea,30d0,30fc,30eb s30e1,30ac s30e1,30ac,30c8,30f3 s30e1,30fc,30c8,30eb s30e4,30fc,30c9
    s30e4,30fc,30eb s30e6,30a2,30f3 s30ea,30c3,30c8,30eb s30ea,30e9 s30eb,30d4,30fc
    s30eb,30fc,30d6,30eb s30ec,30e0 s30ec,30f3,30c8,30b2,30f3 s30ef,30c3,30c8 s30,70b9 s31,70b9
    s32,70b9 s33,70b9 s34,70b9 s35,70b9 s36,70b9 s37,70b9 s38,70b9 s39,70b9 s31,30,70b9 s31,31,70b9
    s31,32,70b9 s31,33,70b9 s31,34,70b9 s31,35,70b9 s31,36,70b9 s31,37,70b9 s31,38,70b9 s31,39,70b9
    s32,30,70b9 s32,31,70b9 s32,32,70b9 s32,33,70b9 s32,34,70b9 s68,70,61 s64,61 s61,75 s62,61,72
    s6f,76 s70,63 s64,6d s64,6d,32 s64,6d,33 s69,75 s5e73,6210 s662d,548c s5927,6b63 s660e,6cbb
    s682a,5f0f,4f1a,793e s70,61 s6e,61 s3bc,61 s6d,61 s6b,61 s6b,62 s6d,62 s67,62 s63,61,6c
    s6b,63,61,6c s70,66 s6e,66 s3bc,66 s3bc,67 s6d,67 s6b,67 s68,7a s6b,68,7a s6d,68,7a s67,68,7a
    s74,68,7a s3bc,6c s6d,6c s64,6c s6b,6c s66,6d s6e,6d s3bc,6d s6d,6d s63,6d s6b,6d s6d,6d,32
    s63,6d,32 s6d,32 s6b,6d,32 s6d,6d,33 s63,6d,33 s6d,33 s6b,6d,33 s6d,2215,73 s6d,2215,73,32
    s70,61 s6b,70,61 s6d,70,61 s67,70,61 s72,61,64 s72,61,64,2215,73 s72,61,64,2215,73,32 s70,73
    s6e,73 s3bc,73 s6d,73 s70,76 s6e,76 s3bc,76 s6d,76 s6b,76 s6d,76 s70,77 s6e,77 s3bc,77 s6d,77
    s6b,77 s6d,77 s6b,3c9 s6d,3c9 x s62,71 s63,63 s63,64 s63,2215,6b,67 x s64,62 s67,79 s68,61
    s68,70 s69,6e s6b,6b s6b,6d s6b,74 s6c,6d s6c,6e s6c,6f,67 s6c,78 s6d,62 s6d,69,6c s6d,6f,6c
    s70,68 x s70,70,6d s70,72 s73,72 s73,76 s77,62 s76,2215,6d s61,2215,6d s31,65e5 s32,65e5
    s33,65e5 s34,65e5 s35,65e5 s36,65e5 s37,65e5 s38,65e5 s39,65e5 s31,30,65e5 s31,31,65e5
    s31,32,65e5 s31,33,65e5 s31,34,65e5 s31,35,65e5 s31,36,65e5 s31,37,65e5 s31,38,65e5 s31,39,65e5
    s32,30,65e5 s32,31,65e5 s32,32,65e5 s32,33,65e5 s32,34,65e5 s32,35,65e5 s32,36,65e5 s32,37,65e5
    s32,38,65e5 s32,39,65e5 s33,30,65e5 s33,31,65e5 s67,61,6c 708dv 3x 37v 9x 15cv 14x 2dq1 13v 1bq1
    v ma252 ma251 5av 8x 22v dq1 3v 3dq1 v m1 8v p1 v p1 v m8a04 9q1 4v p1 v ma528 2v p1 v p1 3v
    13q1 v ma544 ma54f ma54b ma541 ma544 v ma512 ma52a ma515 p3a0 fq1 v m30 ma543 m8a38 p1 v p1 v
    ma567 fq1 v ma641 14x ma77e ma78f ma78d ma783 p1 2v ma6d1 ma6a6 33v 3x av 6x 38v 8x 46v 8x cv 6x
    74v bx 1ev 3x 4ev x bv 4x 21v x 37v 9x ev 2x av 2x 67v 18x 1cv ax 6v 2x 6v 2x 6v 9x 7v x 7v x
    2cv m435 m26 ma8f3 md 9v ma8dc 2v 4x 50m97d0 2ev 2x av 6x 2ba4v cx 17v 4x 31v 2104x m6cb8 m920d
    m6a38 m6c3b m8a33 maad3 ma521 m596b m596c m9fb8 m6739 ma384 m9fc4 m9717 m82a5 m798a m72d1 m7157
    m701a m6884 m8f12 m8bfa m883d m8539 m74db m67af m5f29 maa99 ma5a7 m8e19 m8703 m72f2 m5b02 m9bd1
    m8937 m7356 m6fc0 m965c m774e m7108 m9a5e m9212 m8bc0 m862f m685e ma9a7 ma777 ma651 m946c m8e5e
    m8722 m824c m7933 m732f m72da m6b48 m6206 m5dca m5b40 m80af m7fbd m7b9d m7575 m663b m5ac1 m6e6b
    ma063 m9a3f m7ce4 m78c7 m86e4 m807d m6c86 m6252 ma072 m9ce9 m8f39 m8b73 m8a3f m7c20 m7b19 m6306
    ma680 m78c8 ma778 ma789 m7f3a m7b99 m7567 m62e4 m6dda m968c m8f5a m6e5f mab25 m9d78 m994e m85da
    m83f2 ma64c m8069 ma9a6 m99bd mab5a m8c9c m93f1 m7c48 ma5a8 ma10e m826c m7525 m6ec5 m8db6 m69c1
    m8cea m9675 m768f m95d5 m8411 maac9 ma80f ma7b0 m90f9 m7c94 m770d m6eab m67af ma68a ma53e ma00e
    m9a96 m93be m8986 m805b m63d9 m5f1d m5af1 m5abb ma6ef m92c5 m8e15 m6a2b m9b1a m97ff m9790 m94f7
    m8a6f m884a m850b m7fcb m7ba2 m7928 m6a72 m74ab m6977 m6651 ma785 ma6fa ma4e1 m88d7 m70de m6ef7
    m9ad9 m99ae m9629 m8df7 m7d68 m8632 maac4 ma2b0 m9dc3 m9bf1 m9990 m85fb m8545 m7a15 m796a m677d
    m62bc m626b m619c maa2a m8008 m6803 m6300 m98d8 mab34 ma8e1 m9dce m9d7e m9425 m8fbd m87f2 m837f
    m74c6 m6947 m5a37 m933d m6398 ma73e m924d m91d6 m8c89 m8b2f m85c3 m8474 m8163 m7cbf m6172 ma864
    m97a4 m635b ma9a9 m9cbc m8bec m6aad m9a4d m9895 m91c3 m8654 m6356 ma7b4 ma5cf m9d7a m93cd m9293
    m913a m8cfe m85de m8403 m7a6d m7118 m7107 m681d m6308 ma6ac m8b32 ma5d0 m881e m8557 m73f6 m634e
    m5d9b m5b54 m925d m8c2a m780e m7f2c m7ed8 m7d67 m873a m8962 m6ea4 mab3d m76c8 ma7c5 ma7f9 m9b5b
    m972f m7d2d m9e7f m8ce7 m9352 m6acc m71bc m63bc m707f m9b38 ma8cc ma44d 2v ma1b6 v m939e 2v
    ma837 m86ec m834d m80dc m80bb m80b5 m808c m62c6 m7d5f m7a61 v m740e v m6f2a 2v m69ed m6929 3v
    m613b m612f m6104 m5c79 m6950 m6378 maa82 ma94a ma8e5 ma76a ma750 ma6e4 ma499 ma431 ma3d0 ma1f9
    ma192 m9dd7 m9dce m99a9 m98d6 m98b1 m984e m94f2 m9460 m93b2 m91bf m8cce m8c2c m8b25 m88da m881e
    m8628 m81ba m810e m8104 m8106 m80ff m80fa m80f4 2m80c5 m8014 m7fd4 m7e96 m7c63 m7c4f m7c18 m7ae8
    m7a56 m786f m77e4 m77e5 m7608 m7150 m70cb m6f61 m6f2a m6d91 m6d5d m6ab0 m6a2f m6385 m626a m622f
    m99f6 p14882 m7855 2x mac4a ma8bc ma90a maaf3 ma92f ma8f5 ma7af ma77d ma4db ma524 ma4e1 ma499
    ma222 ma1ca ma13a ma12b ma01e m9f59 m9bb0 m9baa m9b1b m9ad8 m99ae m9939 m9980 m98fb m992a m9899
    m9858 m96c9 m9672 m963d m953a m941d m937b m9378 m933e m8f1c m8edc m8d56 m8bbd m8bce m8b78 m8a7d
    m892e m82f6 m8869 m87f0 m8776 m8630 m859c m8568 m8487 m8486 m83dc m83cc m83b4 m835f m836a m81df
    m7ffb m7eed m7e33 m7d54 m7cbc m7b73 m7aad m7761 m76c5 m733c m7175 m7131 m7122 m6ffa m6fc2 m6ff0
    m6fbb m6fbf m6fd1 m6f86 m6f36 m6db9 m6b8a m6a51 m692b m684f m644a m63e4 m6372 m62ee m62cb m62c0
    m6291 m5fbb m5b32 p12d7b p12d74 p13904 mbf35 mbabb mba9b p15774 p161fa p183fc m5b95 m5b4b 26x
    s66,66 s66,69 s66,6c s66,66,69 s66,66,6c 2s73,74 cx s574,576 s574,565 s574,56b s57e,576 s574,56d
    5x s5d9,5b4 v s5f2,5b7 mf53e mf551 2mf54f 3mf549 mf53f mf53e mfafe s5e9,5c1 s5e9,5c2
    s5e9,5bc,5c1 s5e9,5bc,5c2 s5d0,5b7 s5d0,5b8 s5d0,5bc s5d1,5bc s5d2,5bc s5d3,5bc s5d4,5bc"

/-- Part 4 of the table. -/
def part4 : String :=
  "s5d5,5bc s5d6,5bc x s5d8,5bc s5d9,5bc s5da,5bc s5db,5bc s5dc,5bc x s5de,5bc x s5e0,5bc s5e1,5bc
    x s5e3,5bc s5e4,5bc x s5e6,5bc s5e7,5bc s5e8,5bc s5e9,5bc s5ea,5bc s5d5,5b9 s5d1,5bf s5db,5bf
    s5e4,5bf s5d0,5dc mf4df mf4e0 mf4d7 mf4d8 mf4d9 mf4da mf4d8 mf4d9 mf4da mf4db mf4da mf4db mf4dc
    mf4dd mf4e4 mf4e5 mf4e6 mf4e7 mf4e3 mf4e4 mf4e5 mf4e6 mf4ed mf4ee mf4ef mf4f0 mf4c6 mf4c7 mf4c8
    mf4c9 mf4c8 mf4c9 mf4ca mf4cb mf4ee mf4ef mf4f0 mf4f1 mf4f3 mf4f4 mf4f5 mf4f6 mf4f4 mf4f5 mf4f6
    2mf4f7 mf4f8 mf4f9 mf4fa mf4f5 mf4f6 mf4f8 mf4f9 mf4f8 mf4f9 mf500 mf501 mf4f2 mf4f3 mf4fb mf4fc
    mf4e5 mf4e6 mf4e7 mf4e8 mf4e3 mf4e4 mf4e5 mf4e6 mf4e3 mf4e4 mf4e5 mf4e6 mf4e9 mf4ea mf4eb mf4ec
    mf4e4 2mf4e5 mf4e6 mf4e7 mf4e8 mf4e4 2mf4e5 mf4e6 mf4e7 mf4e8 mf4ec mf4ed mf4ee mf4ef mf4dc
    2mf4dd mf4de 21v mf526 mf527 mf528 mf529 mf510 mf511 mf513 mf514 mf513 mf514 s6c7,674 mf513
    mf514 mf51b mf51c mf519 mf51a mf514 mf515 mf516 mf517 mf59f mf5a0 2s626,627 2s626,6d5 2s626,648
    2s626,6c7 2s626,6c6 2s626,6c8 3s626,6d0 3s626,649 mf530 mf531 mf532 mf533 s626,62c s626,62d
    s626,645 s626,649 s626,64a s628,62c s628,62d s628,62e s628,645 s628,649 s628,64a s62a,62c
    s62a,62d s62a,62e s62a,645 s62a,649 s62a,64a s62b,62c s62b,645 s62b,649 s62b,64a s62c,62d
    s62c,645 s62d,62c s62d,645 s62e,62c s62e,62d s62e,645 s633,62c s633,62d s633,62e s633,645
    s635,62d s635,645 s636,62c s636,62d s636,62e s636,645 s637,62d s637,645 s638,645 s639,62c
    s639,645 s63a,62c s63a,645 s641,62c s641,62d s641,62e s641,645 s641,649 s641,64a s642,62d
    s642,645 s642,649 s642,64a s643,627 s643,62c s643,62d s643,62e s643,644 s643,645 s643,649
    s643,64a s644,62c s644,62d s644,62e s644,645 s644,649 s644,64a s645,62c s645,62d s645,62e
    s645,645 s645,649 s645,64a s646,62c s646,62d s646,62e s646,645 s646,649 s646,64a s647,62c
    s647,645 s647,649 s647,64a s64a,62c s64a,62d s64a,62e s64a,645 s64a,649 s64a,64a s630,670
    s631,670 s649,670 s20,64c,651 s20,64d,651 s20,64e,651 s20,64f,651 s20,650,651 s20,651,670
    s626,631 s626,632 s626,645 s626,646 s626,649 s626,64a s628,631 s628,632 s628,645 s628,646
    s628,649 s628,64a s62a,631 s62a,632 s62a,645 s62a,646 s62a,649 s62a,64a s62b,631 s62b,632
    s62b,645 s62b,646 s62b,649 s62b,64a s641,649 s641,64a s642,649 s642,64a s643,627 s643,644
    s643,645 s643,649 s643,64a s644,645 s644,649 s644,64a s645,627 s645,645 s646,631 s646,632
    s646,645 s646,646 s646,649 s646,64a s649,670 s64a,631 s64a,632 s64a,645 s64a,646 s64a,649
    s64a,64a s626,62c s626,62d s626,62e s626,645 s626,647 s628,62c s628,62d s628,62e s628,645
    s628,647 s62a,62c s62a,62d s62a,62e s62a,645 s62a,647 s62b,645 s62c,62d s62c,645 s62d,62c
    s62d,645 s62e,62c s62e,645 s633,62c s633,62d s633,62e s633,645 s635,62d s635,62e s635,645
    s636,62c s636,62d s636,62e s636,645 s637,62d s638,645 s639,62c s639,645 s63a,62c s63a,645
    s641,62c s641,62d s641,62e s641,645 s642,62d s642,645 s643,62c s643,62d s643,62e s643,644
    s643,645 s644,62c s644,62d s644,62e s644,645 s644,647 s645,62c s645,62d s645,62e s645,645
    s646,62c s646,62d s646,62e s646,645 s646,647 s647,62c s647,645 s647,670 s64a,62c s64a,62d
    s64a,62e s64a,645 s64a,647 s626,645 s626,647 s628,645 s628,647 s62a,645 s62a,647 s62b,645
    s62b,647 s633,645 s633,647 s634,645 s634,647 s643,644 s643,645 s644,645 s646,645 s646,647
    s64a,645 s64a,647 s640,64e,651 s640,64f,651 s640,650,651 s637,649 s637,64a s639,649 s639,64a
    s63a,649 s63a,64a s633,649 s633,64a s634,649 s634,64a s62d,649 s62d,64a s62c,649 s62c,64a
    s62e,649 s62e,64a s635,649 s635,64a s636,649 s636,64a s634,62c s634,62d s634,62e s634,645
    s634,631 s633,631 s635,631 s636,631 s637,649 s637,64a s639,649 s639,64a s63a,649 s63a,64a
    s633,649 s633,64a s634,649 s634,64a s62d,649 s62d,64a s62c,649 s62c,64a s62e,649 s62e,64a
    s635,649 s635,64a s636,649 s636,64a s634,62c s634,62d s634,62e s634,645 s634,631 s633,631
    s635,631 s636,631 s634,62c s634,62d s634,62e s634,645 s633,647 s634,647 s637,645 s633,62c
    s633,62d s633,62e s634,62c s634,62d s634,62e s637,645 s638,645 2s627,64b 12v s62a,62c,645
    2s62a,62d,62c s62a,62d,645 s62a,62e,645 s62a,645,62c s62a,645,62d s62a,645,62e 2s62c,645,62d
    s62d,645,64a s62d,645,649 s633,62d,62c s633,62c,62d s633,62c,649 2s633,645,62d s633,645,62c
    2s633,645,645 2s635,62d,62d s635,645,645 2s634,62d,645 s634,62c,64a 2s634,645,62e 2s634,645,645
    s636,62d,649 2s636,62e,645 2s637,645,62d s637,645,645 s637,645,64a s639,62c,645 2s639,645,645
    s639,645,649 s63a,645,645 s63a,645,64a s63a,645,649 2s641,62e,645 s642,645,62d s642,645,645
    s644,62d,645 s644,62d,64a s644,62d,649 2s644,62c,62c 2s644,62e,645 2s644,645,62d s645,62d,62c
    s645,62d,645 s645,62d,64a s645,62c,62d s645,62c,645 s645,62e,62c s645,62e,645 2v s645,62c,62e
    s647,645,62c s647,645,645 s646,62d,645 s646,62d,649 2s646,62c,645 s646,62c,649 s646,645,64a
    s646,645,649 2s64a,645,645 s628,62e,64a s62a,62c,64a s62a,62c,649 s62a,62e,64a s62a,62e,649
    s62a,645,64a s62a,645,649 s62c,645,64a s62c,62d,649 s62c,645,649 s633,62e,649 s635,62d,64a
    s634,62d,64a s636,62d,64a s644,62c,64a s644,645,64a s64a,62d,64a s64a,62c,64a s64a,645,64a
    s645,645,64a s642,645,64a s646,62d,64a s642,645,62d s644,62d,645 s639,645,64a s643,645,64a
    s646,62c,62d s645,62e,64a s644,62c,645 s643,645,645 s644,62c,645 s646,62c,62d s62c,62d,64a
    s62d,62c,64a s645,62c,64a s641,645,64a s628,62d,64a s643,645,645 s639,62c,645 s635,645,645
    s633,62e,64a s646,62c,64a 8v 20x s635,644,6d2 s642,644,6d2 s627,644,644,647 s627,643,628,631
    s645,62d,645,62f s635,644,639,645 s631,633,648,644 s639,644,64a,647 s648,633,644,645
    s635,644,649 s635,644,649,20,627,644,644,647,20,639,644,64a,647,20,648,633,644,645"

/-- Part 5 of the table. -/
def part5 : String :=
  "s62c,644,20,62c,644,627,644,647 s631,6cc,627,644 3v 10i mfde4 mce10 x 2mfdd9 mfdf4 mfdd7 2mce01
    7x 10v x mde1d mde1f mfdd4 mfdd5 2mfe0d mfdbc mfdbb 2mce25 2mce2b 2mce33 2mce37 4mce35 2v mfdec
    mfdeb 4s20,305 mfdee mfdef mfdf0 mfe24 mce50 2x mfe19 mfe1b mfe17 mfe36 mde44 2mfe31 mfde0 mfddf
    2mce49 mfe3c mfe3a 2mfe37 mfe36 mfe28 mfe27 mfe29 x mfe0c 2mfe45 mfe2b 4x s20,64b s640,64b
    s20,64c v s20,64d x s20,64e s640,64e s20,64f s640,64f s20,650 s640,650 s20,651 s640,651 s20,652
    s640,652 2mf85f 2mf860 2mf861 2mf862 2mf863 mf864 mf865 2mf866 2mf867 mf868 mf869 2mf86a 2mf86b
    mf86c mf86d 2mf86e mf86f mf870 2mf871 mf872 mf873 2mf874 mf875 mf876 2mf877 mf878 mf879 2mf87a
    2mf87b 2mf87c 2mf87d 2mf87e mf87f mf880 2mf881 mf882 mf883 2mf884 mf885 mf886 2mf887 mf888 mf889
    2mf88a mf88b mf88c 2mf88d mf88e mf88f 2mf890 mf891 mf892 2mf893 mf894 mf895 mf896 mf890 mf891
    mf892 2mf893 mf894 mf895 2mf896 mf897 mf898 2mf899 mf89a mf89b 2mf89c mf89d mf89e 2mf89f mf8a0
    mf8a1 2mf8a2 mf8a3 mf8a4 2mf8a5 2mf8a6 2mf8a7 mf8a8 mf8a9 mf8aa 2s644,622 2s644,623 2s644,625
    2s644,627 2x i x 20mfee0 1amfec0 24mfee0 2md5da mff33 2mcf56 mcf63 mce6a mce74 mcec6 mcec5 mcec4
    mcec3 mcec2 mce89 mce88 mce87 mceac mce74 mcecf mcece mcecd mcecc 2mcecb mceca mcec9 mcec8 mcec7
    mcec6 mcec5 mcec4 mcec3 mcec2 mcec1 mcec0 mcebe mcebd mcebc 6mcebb mceb9 mceb7 mceb5 mceb3
    5mceb1 mceb0 mceaf 6mceae mcead mceaa 2mcf05 i 2meea1 medf9 meea2 2medf9 3meea4 6medfa mee96
    3meeab mee93 ameeac 3x 6mee61 2x 6mee63 2x 6mee65 2x 3mee67 3x 2mff3e mff36 s20,304 mff3e mff40
    mdf3d x mdae6 4mde59 mda4d mda23 11x cv x 1av x 13v x 2v x fv 2x ev 22x 7bv 5x 3v 4x 2dv 3x 58v
    x dv 3x v 2fx 2ev 82x 1dv 3x 31v fx 1cv 4x 24v 9x 1ev 5x 2bv 5x 1ev x 25v 4x ev 2ax 28p28 76v 2x
    av 6x 24p28 4x 24v 4x 28v 8x 34v bx v bp27 x fp27 x 7p27 x 2p27 x bv x fv x 7v x 2v 3x 34v cx
    137v 9x 16v ax 8v 18x v 2m104b1 m1069d m104eb m10532 x m104e4 m5c22 m104e4 m104e6 2m10535 me9fc
    m10536 m10531 m104e7 m1052d m10530 m10533 m104f9 m1066e m104fa m10530 m10514 2m104ef m1052f
    pd768 m600f m10530 pd766 m10512 pd765 m106aa 2m1052d m10734 m1052c pd761 2m1052b m1052a m10503
    m10506 m5c46 m10507 m10527 mdb3f x m10523 2m10512 m1051d 3m105f6 pd751 pd764 45x 6v 2x v x 2cv x
    2v 3x v 2x 17v x 48v 8x 9v 30x 13v x 2v 5x 21v 3x 1bv 5x 1bv 26x 38v 4x 14v 2x 32v x 2v 5x 8v x
    3v x 1dv 2x 3v 4x av 7x 9v 7x 40v 20x 27v 4x cv 9x 36v 3x 1dv 2x 1bv 5x 1av 7x 4v cx 7v 50x 49v
    37x 33p40 dx 33v 7x 2ev 8x av 6x 10v 16p20 3x 1dv 8x 2v d0x 1fv x 2av x 3v 2x 2v 10x 6v 8x 9v
    21x 2ev 8x 2av 16x 1av 26x 1cv 14x 17v 9x 4ev 4x 24v 9x 3ev x 5v dx 19v 7x av 6x 35v x 12v 8x
    27v 9x 60v x 14v bx 12v x 2fv 3ex 7v x v x 4v x fv x bv 6x 3bv 5x av 6x 4v x 8v 2x 2v 2x 16v x
    7v x 2v x 5v x av 2x 2v 2x 3v 2x v 6x v 5x 7v 2x 7v 3x 5v bx av x v 2x v x 26v x av x v 2x v x
    4v x av x 2v 8x 2v 1dx 5cv x 5v 1ex 48v 8x av a6x 36v 2x 26v 22x 45v bx av 6x dv 13x 3av 6x av
    6x 14v 1cx 1bv 2x fv 4x 17v b9x 3cv 64x 20p20 33v cx 8v 2x v 2x 8v x 2v x 1ev x 2v 2x cv 9x av
    46x 8v 2x 2ev 2x bv 1bx 48v 8x 53v dx 49v 7x av 56x 8v 58x 22v ex av 6x 9v x 2dv x ev ax 1dv 3x
    20v 2x 16v x ev 49x 7v x 2v x 2cv 3x v x 2v x 9v 8x av 6x 6v x 2v x 25v x 2v x 6v 7x av 6x 2cv
    4x av f6x 19v 7x 11v x 29v 3x 1dv 55x v fx 32v dx 39bv 66x 6fv x 5v bx c4v a4cx 63v dx 430v 10x
    16v ax f9bv 5x 247v 1ab9x 3av 6c6x 239v 7x 1fv x av 4x 51v x av 6x 1ev 2x 6v ax 46v ax av x 7v x
    15v 5x 13v 1b0x 3av c6x 20p20 3bv 5x 19p1b 2x 19v 2cx 4bv 4x 39v 7x 11v 40x 5v bx 7v 9x 1cd6v
    29x 20v 61x 73v 21fdx 4v x 7v x 2v x 123v fx v 1dx 3v 2x v ex 4v 8x 18cv 904x 6bv 5x dv 3x 9v 7x
    av 2x 4v 4i f5cx d6v 1am1cc75 am1ccc0 3v 3x 1b4v 6x 17v fx 11v fx 2ev 2x 17v 9x 74v 3cx f6v ax
    27v 2x 35v s1d157,1d165 s1d158,1d165 s1d158,1d165,1d16e s1d158,1d165,1d16f s1d158,1d165,1d170
    s1d158,1d165,1d171 s1d158,1d165,1d172 ev 8i 40v s1d1b9,1d165 s1d1ba,1d165 s1d1b9,1d165,1d16e
    s1d1ba,1d165,1d16e s1d1b9,1d165,1d16f s1d1ba,1d165,1d16f 2av 15x 46v 7ax 14v cx 14v cx 57v 9x
    19v 87x 1am1d39f 1am1d3b9 1am1d3d3 7m1d3ed x 12m1d3ed 1am1d407 1am1d421 m1d43b x 2m1d43b 2x
    m1d43b 2x 2m1d43b 2x 4m1d43b x 8m1d43b 4m1d455 x m1d455 x 7m1d455 x bm1d455 1am1d46f 1am1d489
    2m1d4a3 x 4m1d4a3 2x 8m1d4a3 x 7m1d4a3 x 1am1d4bd 2m1d4d7 x 4m1d4d7 x 5m1d4d7 x m1d4d7 3x
    7m1d4d7 x 1am1d4f1 1am1d50b 1am1d525 1am1d53f 1am1d559 1am1d573 1am1d58d 1am1d5a7 1am1d5c1
    1am1d5db 1am1d5f5 1am1d60f 1am1d629 m1d573 m1d46e 2x 11m1d2f7 m1d301 7m1d2f7 m1b4ba 11m1d311
    m1d310 7m1d311 m1b4d9 m1d327 m1d325 m1d324 m1d319 m1d31f m1d321 11m1d331 m1d33b 7m1d331 m1b4f4
    11m1d34b m1d34a 7m1d34b m1b513 m1d361 m1d35f m1d35e m1d353 m1d359 m1d35b 11m1d36b m1d375 7m1d36b
    m1b52e 11m1d385 m1d384 7m1d385 m1b54d m1d39b m1d399 m1d398 m1d38d m1d393 m1d395 11m1d3a5 m1d3af
    7m1d3a5 m1b568 11m1d3bf m1d3be 7m1d3bf m1b587 m1d3d5 m1d3d3 m1d3d2 m1d3c7 m1d3cd m1d3cf 11m1d3df
    m1d3e9 7m1d3df m1b5a2 11m1d3f9 m1d3f8 7m1d3f9 m1b5c1 m1d40f m1d40d m1d40c m1d401 m1d407 m1d409
    m1d3ed m1d3ee 2x am1d79e am1d7a8 am1d7b2 am1d7bc am1d7c6 28cv fx 5v x fv 450x 1fv 6x 6v d5x 7v x
    11v 2x 7v x 2v x 5v 5x 9m1dc00 3m1dbff bm1dbfe m1dbfc 2m1dbfb m139c1 m1db72 m1dbf6 m1dbf5 m1db65
    m1dba0 m1db81 9m1dc21 2m1dc20 2m1dc1e m1dc1d 6m1dc1c 2m1dc1b m1dbd6 m1dc12 m1dc14 m1dc0b m1dbc0
    m13a1b m1dbbc 21x v 70x 2dv 3x ev 2x av 4x 2v 140x 1fv 11x 3av 5x v 1d0x 2av d6x 2bv 4x v c0x
    1fv x 16v 8x 2v e0x 7v x 4v x 2v x fv x c5v 2x 10v 29x 22p22 2av 4x av 4x 2v 311x 44v 4cx 3dv
    c2x 2m1e7d9 m1e7d6 m1e7d4 x m1e7bd m1e7d4 m1e7da m1e7d1 m1e7bf 4m1e7c7 m1e7db m1e7d6 m1e7cf
    m1e7dc m1e7d0 m1e7e2 m1e7e0 2m1e7eb m1e7e9 m1e7e8 m1e7e3 m1e7e2 m1e7e1 m1e7ae m1e763 m1e77d
    m1e7b0 x m1e7f9 m1e7f6 x m1e7dd 2x m1e7fa x m1e7df 4m1e7e7 m1e7fb m1e7f6 m1e7ef m1e7fc m1e7f0 x
    m1e800 2m1e80b m1e809 x m1e803 x m1e801 6x m1e816 4x m1e81a x m1e7ff x m1e807 x m1e807 m1e81b"

/-- Part 6 of the table. -/
def part6 : String :=
  "m1e816 x m1e81c m1e810 x m1e820 2x m1e829 x m1e823 x m1e821 x m1e7a3 x m1e7f0 x m1e839 m1e836 x
    m1e81d 2x m1e83a m1e831 m1e81f m1e827 x 2m1e827 m1e83b m1e836 m1e82f m1e83c m1e830 x m1e840
    2m1e84b m1e849 x m1e843 m1e842 m1e841 m1e80e x m1e7dd x 2m1e859 m1e856 m1e854 2m1e83d m1e854
    m1e85a m1e851 m1e83f x 3m1e847 m1e85b m1e856 m1e84f m1e85c m1e850 m1e862 m1e860 2m1e86b m1e869
    m1e868 m1e863 m1e862 m1e861 5x m1e879 m1e876 m1e874 x m1e85d m1e874 m1e87a m1e871 m1e85f x
    3m1e867 m1e87b m1e876 m1e86f m1e87c m1e870 m1e882 m1e880 2m1e88b m1e889 m1e888 m1e883 m1e882
    m1e881 34x 2v 10ex 2cv 4x 64v cx fv 2x fv x fv x 25v bx s30,2c s31,2c s32,2c s33,2c s34,2c
    s35,2c s36,2c s37,2c s38,2c s39,2c 5v s28,61,29 s28,62,29 s28,63,29 s28,64,29 s28,65,29
    s28,66,29 s28,67,29 s28,68,29 s28,69,29 s28,6a,29 s28,6b,29 s28,6c,29 s28,6d,29 s28,6e,29
    s28,6f,29 s28,70,29 s28,71,29 s28,72,29 s28,73,29 s28,74,29 s28,75,29 s28,76,29 s28,77,29
    s28,78,29 s28,79,29 s28,7a,29 s3014,73,3015 m1f0c8 m1f0ba s63,64 s77,7a v 1am1f0cf s68,76 s6d,76
    s73,64 s73,73 s70,70,76 s77,63 1av s6d,63 s6d,64 s6d,72 23v s64,6a 1dv 38x 1av s307b,304b
    s30b3,30b3 m1c14d dx m18fc5 m196ba m19e46 m1c14c m1a388 m198fb m16833 m198ee m1a374 m18bf9
    m180f9 m18c82 m19fcf m19291 m1a091 m18c6f m1a003 m174df m17d03 m1657a m19934 m19dec m18312
    m18f92 m18ed3 m1a429 m1a421 m161e1 m19446 m1a400 m19e3b m18f28 m164c0 m18fde m178b1 m177b9
    m19e2c m183b5 m18b2d m18b2f m17d05 m19fc7 m19c84 m160ee 4x s3014,672c,3015 s3014,4e09,3015
    s3014,4e8c,3015 s3014,5b89,3015 s3014,70b9,3015 s3014,6253,3015 s3014,76d7,3015 s3014,52dd,3015
    s3014,6557,3015 7x m192b9 m19e62 ex 6v 9ax 3d9v 3x 11v 3x dv 3x dav 6x cv 4x v fx cv 4x 38v 8x
    av 6x 28v 8x 1ev 2x cv 4x 2v ex 9v 27x 158v 8x ev 2x dv 3x bv 3x 39v x v 4x 10v 2x cv 4x av 7x
    93v x 5cv am1fbc0 v 405x a6e0v 20x 111ev 2x 168ev 2x 1d31v fx 26ev 9a2x m2a9c3 m2a9c9 m2a9c1
    mf6e1 m2a8a4 m2a857 m2a84b m2a805 m2a78e m2a770 m2a723 m2a73c m2c36e mf1d3 m2a6c1 m2a6bb m2a6ac
    m2a69a mf2f6 m2c35a m2a6ad m2a688 mf2cb m2a680 m2a674 m2a94d m2a66e m2a666 m663d m2a628 m2a61b
    m2c340 m2a5e5 m2a5db m2a5b0 m2a5ac m2c30f m2a55e m2a55d m2a543 m2a52e 2m2a524 m2a514 m2a4e3
    m2a4dc m2a4d4 m2a4bc m2a4b3 m2a4b2 m2a4b3 m2a4b4 mee08 m287c5 m2a46c m2a458 mecd5 m2a44e m2a449
    m2a435 m2a39e m2a405 m2a3f6 m2a3d7 m2a39e m2a34b m2a332 m2a2f0 m2a2e1 m2a2c1 m2a2c2 m2a2ae
    m2a29d m2a296 m2a288 m2a135 m2a246 m2a136 m2a1fd m2a1db m2a649 m29f63 m2a084 m2a05f m2a047
    m2a0ca m2a024 m2a026 m29fac me375 m29f68 m29f64 m29f56 m29f43 m29f3c m29efd me1b8 me177 m29e76
    m29e48 m29e3d m29e8d m29e00 m2c179 m2c16c m29d61 m29d2c m29d2d mdea4 m29caa m29c96 m29c88 m29c7d
    mdd59 m29c73 m29c6d m29921 m29c53 m2c0f5 m29c17 m29c0a m29bb9 m29bed mda97 m29b39 mda97 m29b10
    m29b14 m29b04 2m29aa0 m2c054 m29a87 m29a5d m29a49 m29a1e m2c026 md706 m2c00e m299db m299d9
    m299d7 m299c4 m54fd m29992 md560 md561 m27692 m29972 m29973 m2bfcf mc5df m96be m29937 m2992f
    m2bfb8 m29902 m298d0 m298c7 m298a6 m2981f m2bf67 m2bf86 m2980f md1d0 m297de m2975e m2975b m2975a
    m2975d m29730 m2971d m296fa m29709 m296ff m296d1 m296be m296bb m296a2 m29698 m29657 m29604
    m295e2 m29567 mcdac m2957c m295be m29553 m29539 m294d9 mcccd m2949d m294fb m29518 m2be94 m2945a
    m29446 m29428 m2944f m2be5b m29379 m2935d mc8c0 m292e8 m291d4 m29284 m2bdb5 m2923e m2bdc8 m2bded
    m2a740 m2a73e m291d4 m29239 m27829 m2b4fe m291c1 m291be m291b9 m2917d m29189 mc51a m2bd95 m290e5
    m2915b m2908f m2905d mc476 m29056 m290c6 m28fd2 m2bd4a m28fa6 m28f46 m28f00 m28e43 mc249 m28e12
    m2bcd6 m28dce mc049 m28d9d m2bca4 m28d81 m28d55 2m28d3b mbe6a mdbed mbdff m28cac mbc3f m28c3d
    m28c30 m28c97 m28be9 m28bc2 m28b8a m28bc1 m28b9a m28b8c m28b80 mbbe8 m28bd3 m28ad9 m28a9b m2bbd7
    m28a40 m28a45 mba3c m28b15 m289a1 mb9b2 mb983 m2894c m288da m288f6 m288fa m2bb80 m288cd m2889b
    m288a2 m2886d mf3f6 m287d7 mb6ba m28782 mb574 m286f8 m286ec m286d2 mb31b m286a4 m28690 mb1f1
    mb113 m285ae m2859e m2ba7e m28586 m2ba74 m2ba75 m284e7 m284d3 m284bf m284ac m28468 m2ba18 m28410
    macff m283f8 maca5 m283c8 md79a m2832a ma99a ma984 ma8f9 m2b942 m2b937 m2824c ma84e ma850 ma82a
    ma811 2m28227 m28228 m281fe m2b910 m281bf m2b905 m2b8b6 ma530 m28100 m280c3 m28084 m2b86e ma32c
    m27ffd ma2ba ma290 m27fc7 m27f6c m2b829 m27f19 m27f10 m27f0c m9fe0 m9eb6 m9eb7 m27e71 m2b75e
    m9db6 m27d9c m27d9a m2b73d m9ce5 m27c94 m2b6c7 m27c80 m27c86 m27c6a m99e5 m27c09 m2b66c m27ba7
    m27b6d m27b2b m2b63d m974a m972c m2b61b m969c m279fc m9639 m279e3 m2797f m27975 m94a1 m9459
    m2791d m93d6 m2790f mc621 m2b5ac m278d0 m27880 m2b579 m27847 m29ed1 m91e0 m91d3 mc5f6 mc5ee
    m2778a m27788 m269ef m2b523 m276fe m27705 m276f4 m2a6df m276e2 m276e1 m276d8 m276b0 m8e5b m276b3
    m2767c m27637 m275ee m27679 m275e0 m275b7 m27548 m2764d m275d7 m275d6 m275c7 m8d6e m8c3a m8cd1
    m2b47c m274b7 m274b6 m27494 m85e1 m27448 m8a81 m2b451 m2b44e m89ff m88df m2b447 m27363 m27358
    m2734e m2734d m2730e m27330 m272ab m272d8 m27242 m27294 m27252 m27238 m2b3e8 m271df m271c0
    m2b3c9 m27163 m27161 m835e m270ef m270e9 m2b393 m270cf m2c50f m811d m8066 m2b30f m2b307 m26f2f
    m26ee3 m26e47 m26d7d m7d2b m26d29 m26d14 m26cbb m26c60 m7aa9 mf1d5 m26c0f m26c1f m26bec mf0ff
    m26b0a m26aa7 m740e m73f4 m2694e m268f2 m268d3 m72b7 m268cb m267af 2m26711 m2676e m265f2 m265d7
    m6df3 m26463 m2b05a m26439 m6c7a m2b00c m26330 m29c42 m262d2 m68b1 m67dd m2af8a m2af83 m2621a
    m65f1 m2af4a m6567 m261f3 m261f4 m261d7 m644b m26120 m2aed0 m260db m2605e m26044 m26009 m2ae3a
    m5ed9 m25ef8 m25dcb m25d0f m2ad3f m2ad21 m25ca8 m5942 m2ad19 m590d m5805 m5783 m25b5a m2acc0
    m25b1e m25b1a m25b14 m25b0b m25b05 m25ae1 m541d 5e2x 134bv 5x 212av acc86x f0i 2fe10x"

/-- The whole table. -/
def table : List Run := [part1, part2, part3, part4, part5, part6].flatMap Run.read

/-! ## Looking up -/

/-- The character at a distance from another. -/
def shifted (c : Char) (distance : Int) : Char := Char.ofNat (c.toNat + distance).toNat

/-- The fate of a character that is `place` code points into its run. -/
def Rule.apply (c : Char) (place : Nat) : Rule → Fate
  | .all fate => fate
  | .shift distance => .replaced [shifted c distance]
  | .alternate distance => if place % 2 = 0 then .replaced [shifted c distance] else .kept

/-- The fate of a character.  Among the ASCII characters only capital letters are replaced. -/
def fate (c : Char) : Fate :=
  if Unicode.isAscii c then if c.isUpper then .replaced [c.toLower] else .kept
  else match Run.find? c.toNat table with
    | some (place, run) => (rule run).apply c place
    | none => .refused

end SharedTerminal.Url.Mapping
