import SharedTerminal.Text.Runs

/-!
# The direction of writing

The characters that a domain name can hold, by the direction in which they are written, and whether
they are marks that join the character before them.  The classes are those of the bidirectional
algorithm of Unicode, as far as the rule of RFC 5893 for labels tells them apart.
-/

namespace SharedTerminal.Unicode

/-- How a character is written. -/
inductive Direction where
  /-- From left to right. -/
  | left
  /-- From left to right, as a mark that takes room. -/
  | spacingMark
  /-- From right to left. -/
  | right
  /-- As an Arabic digit. -/
  | arabicDigit
  /-- As a digit of any other kind. -/
  | digit
  /-- As a mark that takes the direction of what it joins. -/
  | mark
  /-- As what surrounds it. -/
  | neutral
deriving DecidableEq, Repr

namespace Direction

/-- The directions of all characters, as runs: `l` left, `h` spacing mark, `r` right, `n` Arabic
digit, `u` digit, `k` mark, `o` neutral. -/
def table : List Run := Run.read
  "30o au 27o 1al 64o 18l o 1c1l 2o 7l eo 2l 1co l 11o 71k 4l 2o 7fl 2o 8bl 8k ffl 7o 2dk r k r
    2k r 2k r 9k 36r 2o r 2o r o r 2o bk 30r 15k an o 2n 3r k 65r 8k o 6k 2r 2k o 4k 2r au 17r k
    1er 1dk 59r bk 3ar 9k 2r 4o 3r k 18r 4k r 9k r 3k r 7k 29r 5k 39r 9k 2ar 39k h 36l k h k l 3h
    8k 4h k 2h l fk 2l 2k 1dl k 3h 37l k l 3h 6k 6h k 9l 9h 2l 4k cl 2o 7l o 2l 5k 2h 37l 2k 3h
    1bk 14l 2k 3l k bl 2k 2h 37l k l 3h 8k 4h 3k 12l 4k bl 8o l 8k 3h 37l k l h k h 6k 6h ak 8h 3l
    4k 1cl k 3bl 2h k ch 3k 7l fh dl do k 3h k 37l k l 3k 5h 12k al 4k 12l 7o 2l k 2h 38l k l eh
    9k 7h 6l 4k dl dh 2k 2h 37l 2k l 3h 5k 7h k 9l h al 4k 1bl k 3h 45l 5k 3h 6k eh cl 2h 3dl k 2l
    bk o 7l 8k 62l k 2l 9k bl 8k 48l 2k 1bl k l k l k 4o 2h 31l ek h 5k l 2k 5l 31k 8l k 64l 2h 4k
    h 6k h 2k 2h 2k 17l 2h 2k 4l 3k l 3h 2l 7h 3l 4k dl k 2h 2k 6h k l h al 3h k 2bfl 3k 30l 10o
    60l o 29al 5o 72l 3k ah 13l 2k h 1dl ek 12l ek 36l h 7k 8h k 2h bk 7l o l 3k 10l 20o 75l 2k
    22l k 76l 3k 4h 2k 9h k 6h 7k 6o 98l 22o 17l 2k 2h 3k 37l h k h 9k h k 2h 8k 6h dk 30l 54k h
    2fl k h 5k h k 5h k 2h 26l 9k cl 2k h 1el h 4k 2h 2k h 3k 38l k h 2k 3h k h 3k ah 28l 8h 8k 2h
    5k 95l 3k l dk h 7k 4l k 6l k 2l h 2k c6l 41k 20bl b5o fl 34k 4ao 3cl 1aco 45l 1ao l 91o 19l
    26co l 153o 100l 296o l 99o b5l 7o 3l 4k 6l 7o 7fl k 60l 20k 205o 3l 19o 9l 4k 2h o 6l 4o 2l
    4o 58l 4k 3l o 5al o c4l 24o 1bdcl 40o 5690l 40o 13dl 3o 5fl 4k o ak 3o 1dl 2k 50l 2k el 23o
    65l o 79l k 3l k 4l k 17l 2h 2k h 4o 4k 8l 8o 34l co 2h 32l 10h ak 12l 12k dl k 26l 8k 19l bk
    dh 21l 3k h 2fl k 2h 4k 2h 2k 3h 24l k 43l 6k 2h 2k 2h bk 3l k 8l k 3h 2bl h k h 32l k l 3k 2l
    2k 5l 2k l k 29l h 2k 2h 5l h bk 69l 56o 23l 2h k 2h k 2h l h 3k 4f2el 94k 18cr 52o 3fr 51o
    25k 2eo 18dr 101l o 3el 4do 3l 40o 2dl 83k 60l k 1fu 76l ak 480l 11fr o e1r fk 28r 8k a5r 6k
    4er 7o 1e4r ck 10n 29r 5k f2r 20n 2br 2k 4dr 6k 46r bk 31r 4k 7ar h k h 35l fk bl 14o al k 2l
    2k al 3k h 2dl 3h 4k 2h 2k 7l ek 30l 3k 24l 5k h 9k fl 2h 2cl k cl 2k h 30l 3h 9k 2h 8l 4k l h
    k 5cl 3h 3k 2h k h 2k 6l k 2l 3fk 5fl k 3h dk 10l 2k 3h 36l 2k l 2h k fh 7l 6h 5l 4h 1ak 3bl
    7k cl k l k l k el 1fk 35l 3h 8k 2h 3k h k 17l k 51l 3h 6k h k 4h 2k h 2k ebl 3h 6k 4h 2k h 2k
    1bl 24k 30l 3h 8k 2h k h 2k 1fl 20o 2bl k h k 2h 6k h k 65l 3k 2h 4k h 9k fcl 3h 9k h 2k f5l
    bh 2k h k l h l h k 8dl 3h 8k 4h k 3l 1ch l 6k 2h 2k 28l 6k h l 4k 8l 9k l 6k 2h 3k 2el dk h
    2k c6l k l 3k l k c8l h ek 2h 52l 17k h 7k h 2k h 4bk 31l 15k l 9k 3al 6h 3k 2h k h k 15bl 2k
    2h 9l 2k l h 30l 2h 8k 2h k h k 17l 56k 25l 2ao 1441l k 6l 19k 2cbel ck 3l 3k 9c0l 5k 3bl 7k
    418l k l 3eh 4k 4fl o l ck 2h 4cabl 2k 1261l 50k 215l 2h 3k 3l eh 8k 2l 7k 1el 4k 3bl 59o 3k
    7bo 40l 60o 6a0l 37k 4l 32k 8l k el k 16l 465k 100l 100k 30l 7k 177l 12k 2cl 4k fl 1d1o 1cl 4k
    fel 2k f3l k 2l k 7l 2k 5l 9k 102l d0r 52k 22r 7k 5a5r 260o 1dl 3o 3dl 39o 7al 478o 4l 9bo 4l
    137o 4el 154o cl 29o 7l 2eo l 7o 8l eo 4l 9o 7l dbo f0435l"

/-- The direction for a letter of the table. -/
def ofLetter : Char → Direction
  | 'l' => left
  | 'h' => spacingMark
  | 'r' => right
  | 'n' => arabicDigit
  | 'u' => digit
  | 'k' => mark
  | _ => neutral

/-- The direction of a character. -/
def of (c : Char) : Direction :=
  if isAscii c then if c.isAlpha then left else if c.isDigit then digit else neutral
  else match Run.of? c table with
    | some run => ofLetter run.letter
    | none => neutral

/-- Whether a character of the direction is a mark. -/
def isMark : Direction → Bool
  | spacingMark | mark => true
  | _ => false

/-- Whether a name with a character of the direction is written in both directions. -/
def turns : Direction → Bool
  | right | arabicDigit => true
  | _ => false

/-- Whether a direction can occur in a label that begins from the right. -/
def fitsRight : Direction → Bool
  | left | spacingMark => false
  | _ => true

/-- Whether a direction can occur in a label that begins from the left. -/
def fitsLeft : Direction → Bool
  | right | arabicDigit => false
  | _ => true

/-- The last direction of a label, apart from marks at its end. -/
def last? (label : List Direction) : Option Direction :=
  (label.reverse.dropWhile (· == mark)).head?

/-- Whether the directions of a label keep the rule for names that are written in both. -/
def keepsRule (label : List Direction) : Bool :=
  match label with
  | [] => true
  | right :: _ =>
    label.all fitsRight && !(label.contains digit && label.contains arabicDigit)
      && [some right, some digit, some arabicDigit].contains (last? label)
  | left :: _ | spacingMark :: _ =>
    label.all fitsLeft
      && [some left, some spacingMark, some digit].contains (last? label)
  | _ => false

end Direction

end SharedTerminal.Unicode
