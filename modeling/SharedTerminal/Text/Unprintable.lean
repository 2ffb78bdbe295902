import SharedTerminal.Text.Runs

/-!
# Characters that do not print, and characters that combine

Two properties of characters in the Unicode Character Database:

* `isUnprintable`: the general categories of controls, formats, private use, unassigned code points,
  and separators of lines, paragraphs and words; but the space is printable;
* `isExtending`: Grapheme_Extend, the characters that join the one before them.
-/

namespace SharedTerminal.Unicode

/-- What is seen of all characters, as runs: `v` a form of its own, `x` nothing, `k` something that
joins the character before, `y` something that joins it but has no form. -/
def visibility : List Run := Run.read
  "21x 5ev 22x cv x 252v 70k 8v 2x 6v 4x 7v x v x 14v x e0v 7k a6v x 26v 2x 32v 2x 3v x 2dk v k v
    2k v 2k v k 8x 1bv 4x 6v 11x av bk v x 2ev 15k 10v k 65v 7k x v 6k 2v 2k v 4k 20v 2x v k 1ev
    1bk 2x 59v bk v ex 2bv 9k 7v 2x k 18v 4k v 9k v 3k v 5k 2x fv x 19v 3k 2x v x bv 5x 20v 7x 9k
    2av 18k x 20k 37v k v k 4v 8k 4v k 3v 7k av 2k 1dv k 2v x 8v 2x 2v 2x 16v x 7v x v 3x 4v 2x k
    v k 2v 4k 2x 2v 2x 2v k v 8x k 4x 2v x 3v 2k 2x 18v k 2x 2k v x 6v 4x 2v 2x 16v x 7v x 2v x 2v
    x 2v 2x k x 3v 2k 4x 2k 2x 3k 3x k 7x 4v x v 7x av 2k 3v k v ax 2k v x 9v x 3v x 16v x 7v x 2v
    x 5v 2x k 4v 5k x 2k v x 2v k 2x v fx 2v 2k 2x cv 7x v 6k x k 2v x 8v 2x 2v 2x 16v x 7v x 2v x
    5v 2x k v 2k v 4k 2x 2v 2x 2v k 7x 3k 4x 2v x 3v 2k 2x 12v ax k v x 6v 3x 3v x 4v 3x 2v x v x
    2v 3x 2v 3x 3v 3x cv 4x k v k 2v 3x 3v x 3v k 2x v 6x k ex 15v 5x k 3v k 8v x 3v x 17v x 10v
    2x k v 3k 4v x 3k x 4k 7x 2k x 3v x 2v 2x 2v 2k 2x av 7x av k bv x 3v x 17v x av x 5v 2x k 2v
    2k v k 2v x 3k x 4k 7x 2k 5x 3v x 2v 2k 2x av x 3v cx 2k bv x 3v x 29v 2k v k 2v 4k x 3v x 3v
    k 2v 4x 3v k av 2k 2x 1av x k 2v x 12v 3x 18v x 9v x v 2x 7v 3x k 4x k 2v 3k x k x 7v k 6x av
    2x 3v cx 30v k 2v 7k 4x 8v 8k dv 25x 2v x v x 5v x 18v x v x av k 2v 9k v 2x 5v x v x 7k x av
    2x 4v 20x 18v 2k 1bv k v k v k ev x 24v 4x ek v 5k v 2k 5v bk x 24k x 8v k 6v x dv 25x 2dv 4k
    v 6k v 2k 2v 2k 19v 2k 4v 3k 10v 4k dv k 2v 2k 6v k fv k 28v x v 5x v 2x 179v x 4v 2x 7v x v x
    4v 2x 29v x 4v 2x 21v x 4v 2x 7v x v x 4v 2x fv x 39v x 4v 2x 43v 2x 3k 1dv 3x 1av 6x 56v 2x
    6v 2x 280v x 1cv 3x 59v 7x 12v 4k 9x 13v 3k 2v 9x 12v 2k cx dv x 3v x 2k cx 34v 2k v 7k 8v k
    2v bk 9v k 2x av 6x av 6x bv 3k x k av 6x 59v 7x 5v 2k 22v k v 5x 46v ax 1fv x 3k 4v 2k 3v 4x
    2v k 6v 3k 4x v 3x 2av 2x 5v bx 2cv 4x 1av 6x bv 3x 39v 2k 2v k 2x 38v k v 7k x k v k 2v 8k 6v
    ak 2x k av 6x av 6x ev 2x 2ek 2x ck 14x 4k 30v ak 4v 3k 8v x 1dv 9k cv 2k 20v 4k 2v 6k 38v k v
    2k 3v k v 5k 8x 30v 8k 2v 2k 3x fv 3x 3ev 5x 2bv 2x bv 8x 3k v dk v 7k 4v k 6v k 3v 2k v 5x
    c0v 40k 116v 2x 6v 2x 26v 2x 6v 2x 8v x v x v x v x 1fv 2x 35v x fv x ev 2x 6v x 13v 2x 3v x
    9v dx y 3x 18v 8x 2fv 11x 2v 2x 1bv x dv 3x 22v ex 21k fx 8cv 4x 29av 16x bv 15x 714v 2x 179v
    3k 2v 5x 2dv x v 5x v 2x 38v 7x 2v ex k 17v 9x 7v x 7v x 7v x 7v x 7v x 7v x 7v x 7v x 20k 5ev
    22x 1av x 59v cx d6v 1ax 10v x 29v 6k 10v x 56v 2x 2k 65v 5x 2bv x 5ev x 56v 9x 30v x 726dv 3x
    37v 9x 15cv 14x 2fv 4k v ak 20v 2k 50v 2k 6v 8x ddv 14x 11v k 3v k 4v k 19v 2k 5v k 3x av 6x
    38v 8x 44v 2k 8x cv 6x 12k dv k 26v 8k 19v bk v k bx 1ev 3x 3k 30v k 2v 4k 2v 2k 2v k dv x bv
    4x 7v k 19v x 29v 6k 2v 2k 2v 2k 9x 3v k 8v k v 2x av 2x 20v k 33v k v 3k 2v 2k 5v 2k v k v
    18x 11v 2k 8v k ax 6v 2x 6v 2x 6v 9x 7v x 7v x 3cv 4x 75v k 2v k 4v k 2x av 6x 2ba4v cx 17v 4x
    31v 2104x 16ev 2x 6av 26x 7v cx 5v 5x v k 18v x 5v x v x 2v x 2v x 28av 20x 10v 10k av 6x 10k
    23v x 13v x 4v 4x 5v x 87v 4x 9dv 2k 1fv 3x 6v 2x 6v 2x 6v 2x 3v 3x 7v x 7v dx 2v 2x cv x 1av
    x 13v x 2v x fv 2x ev 22x 7bv 5x 3v 4x 2dv 3x 58v x dv 3x v 2fx 2dv k 82x 1dv 3x 31v fx k 1bv
    4x 24v 9x 1ev 5x 26v 5k 5x 1ev x 25v 4x ev 2ax 9ev 2x av 6x 24v 4x 24v 4x 28v 8x 34v bx cv x
    fv x 7v x 2v x bv x fv x 7v x 2v 3x 34v cx 137v 9x 16v ax 8v 18x 6v x 2av x 9v 45x 6v 2x v x
    2cv x 2v 3x v 2x 17v x 48v 8x 9v 30x 13v x 2v 5x 21v 3x 1bv 5x 1bv 26x 38v 4x 14v 2x 2fv 3k x
    2k 5x 4k 4v x 3v x 1dv 2x 3k 4x k 9v 7x 9v 7x 40v 20x 25v 2k 4x cv 9x 36v 3x 1dv 2x 1bv 5x 1av
    7x 4v cx 7v 50x 49v 37x 33v dx 33v 7x 2av 4k 8x av 6x 26v 3x 5k 18v 8x 2v d0x 1fv x 2av x 2k v
    2x 2v 10x 6v 8x 9v 21x 6k 28v 8x 16v bk 9v 16x 12v 4k 4v 26x 1cv 14x 17v 9x v k 36v fk 7v 4x
    1ev k 2v 2k v 9x 3k 31v 4k 2v 2k 2v x 4v k dx 19v 7x av 6x 3k 24v 5k v 8k x 12v 8x 23v k 3v 9x
    2k 34v 9k v k 8v 4k 2v k 10v x 14v bx 12v x 1cv 3k 2v 4k 6v k 2v k 3ex 7v x v x 4v x fv x bv
    6x 2fv k 3v 8k 5x av 6x 2k 2v x 8v 2x 2v 2x 16v x 7v x 2v x 5v x 2k v k v k 4v 2x 2v 2x 2v k
    2x v 6x k 5x 7v 2x 7k 3x 5k bx av x v 2x v x 26v x v k 2v 6k x k 2x k x 3k v x 2v 3k v k 3v x
    2v 8x 2k 1dx 38v 8k 2v 3k v k 15v x v k 3v 1ex 30v k 2v 6k v k 2v k v 2k v 2k 4v 8x av a6x 2fv
    k 2v 4k 2x 4v 2k v 2k 1bv 2k 22x 33v 8k 2v k v 2k 4v bx av 6x dv 13x 2bv k v k 2v 8k 2v 6x av
    6x 14v 1cx 1bv 2x k v k 2v 4k v 5k 4x 17v b9x 2fv 9k v 2k v 64x 53v cx 8v 2x v 2x 8v x 2v x
    18v k 5v x 2v 2x 4k 4v k 3v 9x av 46x 8v 2x 2av 4k 2x 2k 4v k 4v 1bx v ak 28v 6k 2v 4k 8v k 8x
    v 6k 2v 3k 2ev dk v 2k 9v dx 49v 7x av 56x k v 3k v k v 58x 22v ex av 6x 9v x 26v 7k x 6k v k
    6v ax 1dv 3x 20v 2x 16k x v 7k v 2k v 2k 49x 7v x 2v x 26v 6k 3x k x 2k x 7k v k 8x av 6x 6v x
    2v x 25v x 2k x 2v k v k v 7x av 6x 2cv 4x av f6x 13v 2k 4v 7x 2k fv x 24v 5k 3x 2v 3k 17v k
    55x v fx 32v dx 39bv 66x 6fv x 5v bx c4v a4cx 63v dx 430v 10x k 6v fk ax f9bv 5x 247v 1ab9x
    1ev ck 3v 3k av 6c6x 239v 7x 1fv x av 4x 51v x av 6x 1ev 2x 5k v ax 30v 7k fv ax av x 7v x 15v
    5x 13v 1b0x 3av c6x 5bv 5x 19v 2x 19v 2cx 4bv 4x k 38v 7x 4k dv 40x 4v k bx 2k 5v 9x 1cd6v 29x
    20v 61x 73v 21fdx 4v x 7v x 2v x 123v fx v 1dx 3v 2x v ex 4v 8x 18cv 904x 6bv 5x dv 3x 9v 7x
    av 2x v 2k v f60x fdv 3x 1b4v 6x 17v fx 11v fx 2ek 2x 17k 9x 74v 3cx f6v ax 27v 2x 3cv 5k 3v
    6k 8x 8k 2v 7k 1ev 4k 3dv 15x 42v 3k v 7ax 14v cx 14v cx 57v 9x 19v 87x 55v x 47v x 2v 2x v 2x
    2v 2x 4v x cv x v x 7v x 41v x 4v 2x 8v x 7v x 1cv x 4v x 5v x v 3x 7v x 154v 2x 124v 2x 232v
    37k 4v 32k 8v k ev k 7v fx 5k x fk 450x 1fv 6x 6v d5x 7k x 11k 2x 7k x 2k x 5k 5x 3ev 21x k
    70x 2dv 3x 7k 7v 2x av 4x 2v 140x 1ev k 11x 2cv 4k av 5x v 1d0x 1cv 4k av d6x 1ev 2k bv 4x v
    c0x 1fv x 3v k 2v k 7v 2k 5v k 8x 2v e0x 7v x 4v x 2v x fv x c5v 2x 9v 7k 29x 44v 7k v 4x av
    4x 2v 311x 44v 4cx 3dv c2x 4v x 1bv x 2v x v 2x v x av x 4v x v x v 6x v 4x v x v x v x 3v x
    2v x v 2x v x v x v x v x v x 2v x v 2x 4v x 7v x 4v x 4v x v x av x 11v 5x 3v x 5v x 11v 34x
    2v 10ex 2cv 4x 64v cx fv 2x fv x fv x 25v ax aev 38x 1dv dx 2cv 4x 9v 7x 2v ex 6v 9ax 3d9v 3x
    11v 3x dv 3x dav 6x cv 4x v fx cv 4x 38v 8x av 6x 28v 8x 1ev 2x cv 4x 2v ex 9v 27x 158v 8x ev
    2x dv 3x bv 3x 39v x v 4x 10v 2x cv 4x av 7x 93v x 67v 405x a6e0v 20x 111ev 2x 168ev 2x 1d31v
    fx 26ev 9a2x 21ev 5e2x 134bv 5x 212av acba6x 60y 80x f0k 2fe10x"

/-- What is seen of a character, as a letter of the table. -/
def visibilityOf (c : Char) : Char := (Run.of? c visibility).elim 'x' Run.letter

/-- Whether a character has no visible form of its own; the space counts as visible. -/
def isUnprintable (c : Char) : Bool :=
  if isAscii c then c.toNat < 0x20 || c.toNat = 0x7F else ['x', 'y'].contains (visibilityOf c)

/-- Whether a character joins the one before it, such as a combining accent. -/
def isExtending (c : Char) : Bool := !isAscii c && ['k', 'y'].contains (visibilityOf c)

/-- Among the ASCII characters controls are unprintable, and the others are not. -/
example : ∀ n ∈ List.range 128, isUnprintable (Char.ofNat n) = (n < 32 || n == 127) := by
  decide +kernel

end SharedTerminal.Unicode
