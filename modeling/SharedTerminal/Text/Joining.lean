import SharedTerminal.Text.Normal

/-!
# How letters join

In some scripts a letter changes its form where it joins its neighbours.  Two characters without a
form of their own ask for a join or forbid one.  In a domain name they can stand where they matter:
after a sign that silences a vowel, and the one that forbids also between letters that would join.
-/

namespace SharedTerminal.Unicode

/-- With which neighbours a character joins. -/
inductive Joining where
  /-- With none. -/
  | none
  /-- With the one that follows. -/
  | following
  /-- With the one before. -/
  | preceding
  /-- With both. -/
  | both
  /-- It lets its neighbours join each other. -/
  | transparent
deriving DecidableEq, Repr

namespace Joining

/-- How all characters join, as runs: `n` with none, `l` with the following one, `r` with the one
before, `w` with both, `t` transparent. -/
def table : List Run := Run.read
  "300n 71t 112n 8t 106n 2dt n t n 2t n 2t n 9t 40n bt 5n w n 4r w r w r 5w 4r 15w r 2w 15t en 2w
    t 3r 5n fw 12r 26w r 2w 9r w r w r 2w 2r n r 8t n 6t 2n 2t n 4t 2r an 3w 2n w 10n r t 3w 5r 4w
    r 9w r w r w r 2w r 1dt r bw 3r fw 2r 4w r w 2r 3w 2r 6w 26n bt 19n 21w 9t 6n 3w t 18n 4t n 9t
    n 3t n 7t 10n r 5w 2r w r aw r w 3r 5t 2n w n 4w n r w 1ar 4w 2n 5w r 8w 9t aw 3r n r 2w 2r 6w
    r fw n 39t 37n t n t 4n 8t 4n t 3n ft 2n 2t 1dn t 3an t 4n 6t 6n t 14n 4t 18n 5t 39n 2t 3n 1bt
    14n 2t 3n t bn 2t 39n t 4n 8t 4n 3t 12n 4t 14n 8t 3an t 2n t n 6t 6n at bn 4t 1cn t 3dn t cn
    3t 30n t 3n t 37n t n 3t 5n 12t an 4t 1bn t 3an t 2n t 6n t 5n 9t dn 4t 1an 2t 39n 2t 4n 5t 7n
    t 14n 4t 1bn t 48n 5t 3n 6t 59n t 2n bt 8n 8t 62n t 2n 9t bn 8t 48n 2t 1bn t n t n t 37n et n
    5t n 2t 5n 31t 8n t 66n 4t n 6t n 2t 2n 2t 19n 2t 4n 3t 10n 4t dn t 2n 2t 6n t fn t 2bfn 3t
    3b2n 3t 1dn 2t 1en et 12n et 37n 7t 8n t 2n bt 9n 3t 27n w 2n 6w 10n 60w 5n 2t 22w t 6w 70n 3t
    4n 2t 9n t 6n 7t d7n 2t 2n 3t 38n t n 9t n t 2n 8t 6n dt 30n 54t 30n t n 5t n t 5n t 28n 9t cn
    2t 20n 4t 2n 2t n 3t 38n t n 2t 3n t n 3t 3an 8t 2n 5t 95n 3t n dt n 7t 4n t 6n t 3n 2t c6n
    41t 20cn 3w c0n 34t bebn 4t 8cn t 60n 20t 22an 4t 6bn 4t 75d2n 4t n at 20n 2t 50n 2t 110n t 3n
    t 4n t 19n 2t 5n 4t 10n 32w l 51n at 12n 12t dn t 26n 8t 19n bt 2en 3t 30n t 2n 4t 2n 2t 27n t
    43n 6t 2n 2t 2n bt 3n t 8n t 2fn t 33n t n 3t 2n 2t 5n 2t n t 2an 2t 8n bt e4n t 2n t 4n 3t
    4f2en 94t 26en 25t 3b8n 83t 60n t 95n at 681n ft 28n 8t 80n 5w r n r n 2r 2n l 5r 4w l 5w r 3w
    r 2n r 6t 4w r 90n w r w 3r 3w r 2w r w 2r w 8r 10n 4r 2w 151n l 21w r w ct 39n 5t 13dn 2t 15n
    r 2w n aw 2an 6t 30n 3w r 11w n bt 3w r 1bn 4w 2r cw 4t 2an w n 2w 3r n w 2r 2w r 2w n w 2r w
    4n r w 15l 21n t 36n ft 29n t 2n 2t an 3t 31n 4t 2n 2t 7n et 30n 3t 24n 5t n 9t 3dn t cn 2t
    34n 9t an 4t 2n t 5fn 3t 2n t n 2t 6n t 2n 3ft 5fn t 3n dt 10n 2t 39n 2t 3n t 25n 1at 3bn 7t
    cn t n t n t en 1ft 38n 8t 2n 3t n t 17n t 54n 6t n t 4n 2t n 2t een 6t 4n 2t n 2t 1bn 24t 33n
    8t 2n t n 2t 6an t n t 2n 6t n t 65n t n t 2n 4t n 9t ffn 9t n 2t 100n 2t n t 4n t 90n 8t 4n t
    20n at 28n 6t 2n 4t 8n 9t n 6t 2n 3t 2en dt n 2t c6n t n 3t n t c9n et n t 52n 17t n 7t n 2t n
    4bt 31n 15t n 9t 40n 3t 2n t n t 15bn 2t bn 2t 34n 8t 2n t n t 17n 56t 1490n t 6n 19t 2cben ct
    3n 3t 9c0n 5t 3bn 7t 418n t 3fn 4t 51n ct 4cadn 2t 1261n 50t 217n 3t 11n 8t 2n 7t 1en 4t 94n
    3t 7bbn 37t 4n 32t 8n t en t 16n 465t 100n 100t 30n 7t 177n 12t 2cn 4t 1fcn 4t fen 2t f3n t 2n
    t 7n 2t 5n 9t 1d2n 52t 22w ct f16b0n"

/-- The way of joining for a letter of the table. -/
def ofLetter : Char → Joining
  | 'l' => following
  | 'r' => preceding
  | 'w' => both
  | 't' => transparent
  | _ => none

/-- How a character joins. -/
def of (c : Char) : Joining :=
  match Run.of? c table with
  | some run => ofLetter run.letter
  | Option.none => none

/-- The character that asks for a join. -/
def joiner : Char := '\u200d'

/-- The character that forbids a join. -/
def nonJoiner : Char := '\u200c'

/-- The combining class of the signs that silence a vowel. -/
def silencing : Nat := 9

/-- Whether the next character that is not transparent joins in one of some ways. -/
def meets (ways : List Joining) (text : List Char) : Bool :=
  ((text.map of).dropWhile (· == transparent)).head?.any ways.contains

/-- Whether the joiners of a text stand where they matter.  What stands before is given in
reverse. -/
def fits : (before : List Char) → List Char → Bool
  | _, [] => true
  | before, c :: rest =>
    let silenced := before.head?.any fun d => combiningClass d = silencing
    let here :=
      if c = joiner then silenced
      else if c = nonJoiner then
        silenced || (meets [following, both] before && meets [preceding, both] rest)
      else true
    here && fits (c :: before) rest

end Joining

end SharedTerminal.Unicode
