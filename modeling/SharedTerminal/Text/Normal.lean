import SharedTerminal.Text.Runs

/-!
# The composed form of a text

A letter with marks can be one character, or a letter that is followed by its marks.  `normalize`
gives Normalization Form C: it takes everything apart, puts marks that do not interact into the
order of their combining classes, and puts together what can be put together.

The tables hold the characters that a domain name can hold after its mapping.  Korean syllables are
put together by calculation.
-/

namespace SharedTerminal.Unicode

/-! ## The order of marks -/

/-- The combining classes of all characters, as runs: `o` for zero, `k` for the class behind it. -/
def classes : List Run := Run.read
  "300o 15ke6 ke8 4kdc ke8 kd8 5kdc 2kca 4kdc 2kca bkdc 5k1 4kdc ake6 3kdc 3ke6 3kdc 3ke6 4kdc
    ke6 ke8 2kdc ke6 ke9 2kea ke9 2kea ke9 eke6 112o 5ke6 109o kdc 4ke6 kdc 3ke6 kde kdc 6ke6 6kdc
    2ke6 kdc 2ke6 kde ke4 ke6 ka kb kc kd ke kf k10 k11 k12 2k13 k14 k15 k16 o k17 o k18 k19 o ke6
    kdc o 9k12 40o 8ke6 k1e k1f k20 30o k1b k1c k1d k1e k1f k20 k21 k22 2ke6 2kdc 5ke6 kdc 2ke6
    kdc 10o k23 65o 8ke6 o 4ke6 kdc ke6 2o 2ke6 o kdc 2ke6 kdc 23o k24 1eo ke6 kdc 2ke6 kdc 2ke6
    3kdc ke6 2kdc ke6 kdc 3ke6 kdc ke6 kdc ke6 kdc ke6 kdc 4ke6 9eo 7ke6 kdc ke6 9o kdc 18o 4ke6 o
    9ke6 o 3ke6 o 7ke6 29o 5kdc 3ao ke6 3kdc 4ke6 2ao 5ke6 5kdc fke6 kdc 2ke6 kdc 2ke6 kdc 3ke6
    3kdc k1b k1c k1d 3ke6 kdc 2ke6 2kdc 5ke6 3co k7 10o k9 3o ke6 kdc 2ke6 67o k7 10o k9 30o 3ke6
    3bo 2k7 fo 4k9 6bo k7 10o 3k9 6co k7 10o 8k9 78o 3k9 6co k7 10o 8k9 k54 2k5b 64o k7 10o 8k9
    66o 2k9 10o k9 7co 5k9 69o 2k67 5k9 9o 4k6b 6co 2k76 k9 do 4k7a 4co 2kdc 1bo kdc o kdc o kd8
    37o k81 2k82 6k84 4k82 2o 2k82 2ke6 k9 o 2ke6 3eo kdc 70o k7 o 2k9 52o kdc 2cfo 3ke6 3b4o bk9
    15o k9 9do k9 ao 3ke6 c9o ke4 8fo kde ke6 5kdc d7o ke6 kdc 47o k9 14o ake6 kdc 30o 5ke6 6kdc
    2ke6 kdc o 2kdc 2ke6 2kdc 5ke6 kdc 4ke6 65o k7 fo k9 26o ke6 kdc 7ke6 36o 2k9 3ao k7 bo ak9
    3bo 4k7 95o 3ke6 o k1 5kdc 2ke6 4kdc ke6 o 7k1 4o kdc 6o ke6 3o 2ke6 c6o 2ke6 kdc 7ke6 kdc
    2ke6 kea kd6 kdc kca 25ke6 ke8 2ke4 kdc kda ke6 ke9 kdc ke6 2kdc 2cfo 2ke6 2k1 4ke6 3k1 2ke6
    4o ke6 3o 2k1 ke6 kdc ke6 2k1 4kdc 14ke6 bebo 4ke6 8co k9 60o 20ke6 22ao kda ke4 ke8 kde 2ke0
    69o 4k8 75d2o ke6 4o ake6 20o 2ke6 50o 2ke6 114o k9 25o 4k9 94o k9 1bo 12ke6 39o 3kdc 25o ck9
    54o k7 co k9 efo ke6 o 2ke6 kdc 2o 2ke6 5o 2ke6 o ke6 34o bk9 eco 3k9 4f2eo 94k1a 26eo 7ke6
    7kdc 17ke6 3b8o 83kdc 60o kdc 95o ake6 68do kdc o ke6 28o ke6 k1 5kdc k9 a5o ke6 5kdc 239o
    cke6 17bo 2ke6 50o 3kdc 46o 2kdc 3ke6 kdc ke6 4kdc 31o ke6 kdc ke6 kdc c0o k9 29o k9 eo k9 39o
    k9 k7 45o 3ke6 30o 3k9 3do k7 4co k9 9o k7 6ao k9 k7 b2o k7 6k9 4bo 2k7 10o 3k9 16o 1ake6 c2o
    k9 3o k7 17o ke6 63o k9 k7 fbo k9 k7 7eo k9 76o k9 k7 73o 5k9 109o k9 k7 102o 2k9 4o k7 9co k9
    53o k9 12o 9k9 49o k9 1a5o k9 102o k7 o 2k9 51o k9 1a9o 2k9 4bado 5k1 3bo 7ke6 4b9o 2k6 4caco
    k1 14c6o 2kd8 3k1 3o ke2 dkd8 8kdc 2o 5ke6 2kdc 1eo 4ke6 94o 3ke6 dbbo 100ke6 30o 7ke6 177o
    12ke6 2co 4ke6 1fco 2ke8 kdc ke6 3e0o 52kdc 22o 6ke6 k7 f16b5o"

/-- The combining class of a character. -/
def combiningClass (c : Char) : Nat :=
  match Run.of? c classes with
  | some ⟨_, 'k', argument⟩ => Run.numeral argument
  | _ => 0

/-- Puts a character in front of an ordered text, behind the marks of lower classes. -/
def place (c : Char) : List Char → List Char
  | [] => [c]
  | d :: rest =>
    if 0 < combiningClass d && combiningClass d < combiningClass c then d :: place c rest
    else c :: d :: rest

/-- Puts marks in order; marks of one class keep theirs. -/
def order (text : List Char) : List Char := text.foldr place []

/-! ## Pairs -/

/-- A character that stands for two. -/
structure Pair where
  /-- The first of the two. -/
  first : Char
  /-- The second. -/
  second : Char
  /-- The character that stands for both. -/
  both : Char
deriving DecidableEq, Repr

/-- The pair that a word describes: the code points of its characters. -/
def Pair.ofWord (word : List Char) : Pair :=
  match (word.splitOn ',').map Run.character with
  | [first, second, both] => ⟨first, second, both⟩
  | _ => ⟨' ', ' ', ' '⟩

/-- The pairs. -/
def pairs : List Pair := (Run.words
  "61,300,e0 61,301,e1 61,302,e2 61,303,e3 61,308,e4 61,30a,e5 63,327,e7 65,300,e8 65,301,e9
    65,302,ea 65,308,eb 69,300,ec 69,301,ed 69,302,ee 69,308,ef 6e,303,f1 6f,300,f2 6f,301,f3
    6f,302,f4 6f,303,f5 6f,308,f6 75,300,f9 75,301,fa 75,302,fb 75,308,fc 79,301,fd 79,308,ff
    61,304,101 61,306,103 61,328,105 63,301,107 63,302,109 63,307,10b 63,30c,10d 64,30c,10f
    65,304,113 65,306,115 65,307,117 65,328,119 65,30c,11b 67,302,11d 67,306,11f 67,307,121
    67,327,123 68,302,125 69,303,129 69,304,12b 69,306,12d 69,328,12f 6a,302,135 6b,327,137
    6c,301,13a 6c,327,13c 6c,30c,13e 6e,301,144 6e,327,146 6e,30c,148 6f,304,14d 6f,306,14f
    6f,30b,151 72,301,155 72,327,157 72,30c,159 73,301,15b 73,302,15d 73,327,15f 73,30c,161
    74,327,163 74,30c,165 75,303,169 75,304,16b 75,306,16d 75,30a,16f 75,30b,171 75,328,173
    77,302,175 79,302,177 7a,301,17a 7a,307,17c 7a,30c,17e 6f,31b,1a1 75,31b,1b0 61,30c,1ce
    69,30c,1d0 6f,30c,1d2 75,30c,1d4 fc,304,1d6 fc,301,1d8 fc,30c,1da fc,300,1dc e4,304,1df
    227,304,1e1 e6,304,1e3 67,30c,1e7 6b,30c,1e9 6f,328,1eb 1eb,304,1ed 292,30c,1ef 6a,30c,1f0
    67,301,1f5 6e,300,1f9 e5,301,1fb e6,301,1fd f8,301,1ff 61,30f,201 61,311,203 65,30f,205
    65,311,207 69,30f,209 69,311,20b 6f,30f,20d 6f,311,20f 72,30f,211 72,311,213 75,30f,215
    75,311,217 73,326,219 74,326,21b 68,30c,21f 61,307,227 65,327,229 f6,304,22b f5,304,22d
    6f,307,22f 22f,304,231 79,304,233 3ca,301,390 3b1,301,3ac 3b5,301,3ad 3b7,301,3ae 3b9,301,3af
    3cb,301,3b0 3b9,308,3ca 3c5,308,3cb 3bf,301,3cc 3c5,301,3cd 3c9,301,3ce 438,306,439
    435,300,450 435,308,451 433,301,453 456,308,457 43a,301,45c 438,300,45d 443,306,45e
    475,30f,477 436,306,4c2 430,306,4d1 430,308,4d3 435,306,4d7 4d9,308,4db 436,308,4dd
    437,308,4df 438,304,4e3 438,308,4e5 43e,308,4e7 4e9,308,4eb 44d,308,4ed 443,304,4ef
    443,308,4f1 443,30b,4f3 447,308,4f5 44b,308,4f9 627,653,622 627,654,623 648,654,624
    627,655,625 64a,654,626 6d5,654,6c0 6c1,654,6c2 6d2,654,6d3 928,93c,929 930,93c,931
    933,93c,934 9c7,9be,9cb 9c7,9d7,9cc b47,b56,b48 b47,b3e,b4b b47,b57,b4c b92,bd7,b94
    bc6,bbe,bca bc7,bbe,bcb bc6,bd7,bcc c46,c56,c48 cbf,cd5,cc0 cc6,cd5,cc7 cc6,cd6,cc8
    cc6,cc2,cca cca,cd5,ccb d46,d3e,d4a d47,d3e,d4b d46,d57,d4c dd9,dca,dda dd9,dcf,ddc
    ddc,dca,ddd dd9,ddf,dde 1025,102e,1026 1b05,1b35,1b06 1b07,1b35,1b08 1b09,1b35,1b0a
    1b0b,1b35,1b0c 1b0d,1b35,1b0e 1b11,1b35,1b12 1b3a,1b35,1b3b 1b3c,1b35,1b3d 1b3e,1b35,1b40
    1b3f,1b35,1b41 1b42,1b35,1b43 61,325,1e01 62,307,1e03 62,323,1e05 62,331,1e07 e7,301,1e09
    64,307,1e0b 64,323,1e0d 64,331,1e0f 64,327,1e11 64,32d,1e13 113,300,1e15 113,301,1e17
    65,32d,1e19 65,330,1e1b 229,306,1e1d 66,307,1e1f 67,304,1e21 68,307,1e23 68,323,1e25
    68,308,1e27 68,327,1e29 68,32e,1e2b 69,330,1e2d ef,301,1e2f 6b,301,1e31 6b,323,1e33
    6b,331,1e35 6c,323,1e37 1e37,304,1e39 6c,331,1e3b 6c,32d,1e3d 6d,301,1e3f 6d,307,1e41
    6d,323,1e43 6e,307,1e45 6e,323,1e47 6e,331,1e49 6e,32d,1e4b f5,301,1e4d f5,308,1e4f
    14d,300,1e51 14d,301,1e53 70,301,1e55 70,307,1e57 72,307,1e59 72,323,1e5b 1e5b,304,1e5d
    72,331,1e5f 73,307,1e61 73,323,1e63 15b,307,1e65 161,307,1e67 1e63,307,1e69 74,307,1e6b
    74,323,1e6d 74,331,1e6f 74,32d,1e71 75,324,1e73 75,330,1e75 75,32d,1e77 169,301,1e79
    16b,308,1e7b 76,303,1e7d 76,323,1e7f 77,300,1e81 77,301,1e83 77,308,1e85 77,307,1e87
    77,323,1e89 78,307,1e8b 78,308,1e8d 79,307,1e8f 7a,302,1e91 7a,323,1e93 7a,331,1e95
    68,331,1e96 74,308,1e97 77,30a,1e98 79,30a,1e99 61,323,1ea1 61,309,1ea3 e2,301,1ea5
    e2,300,1ea7 e2,309,1ea9 e2,303,1eab 1ea1,302,1ead 103,301,1eaf 103,300,1eb1 103,309,1eb3
    103,303,1eb5 1ea1,306,1eb7 65,323,1eb9 65,309,1ebb 65,303,1ebd ea,301,1ebf ea,300,1ec1
    ea,309,1ec3 ea,303,1ec5 1eb9,302,1ec7 69,309,1ec9 69,323,1ecb 6f,323,1ecd 6f,309,1ecf
    f4,301,1ed1 f4,300,1ed3 f4,309,1ed5 f4,303,1ed7 1ecd,302,1ed9 1a1,301,1edb 1a1,300,1edd
    1a1,309,1edf 1a1,303,1ee1 1a1,323,1ee3 75,323,1ee5 75,309,1ee7 1b0,301,1ee9 1b0,300,1eeb
    1b0,309,1eed 1b0,303,1eef 1b0,323,1ef1 79,300,1ef3 79,323,1ef5 79,309,1ef7 79,303,1ef9
    3b1,313,1f00 3b1,314,1f01 1f00,300,1f02 1f01,300,1f03 1f00,301,1f04 1f01,301,1f05
    1f00,342,1f06 1f01,342,1f07 3b5,313,1f10 3b5,314,1f11 1f10,300,1f12 1f11,300,1f13
    1f10,301,1f14 1f11,301,1f15 3b7,313,1f20 3b7,314,1f21 1f20,300,1f22 1f21,300,1f23
    1f20,301,1f24 1f21,301,1f25 1f20,342,1f26 1f21,342,1f27 3b9,313,1f30 3b9,314,1f31
    1f30,300,1f32 1f31,300,1f33 1f30,301,1f34 1f31,301,1f35 1f30,342,1f36 1f31,342,1f37
    3bf,313,1f40 3bf,314,1f41 1f40,300,1f42 1f41,300,1f43 1f40,301,1f44 1f41,301,1f45 3c5,313,1f50
    3c5,314,1f51 1f50,300,1f52 1f51,300,1f53 1f50,301,1f54 1f51,301,1f55 1f50,342,1f56
    1f51,342,1f57 3c9,313,1f60 3c9,314,1f61 1f60,300,1f62 1f61,300,1f63 1f60,301,1f64
    1f61,301,1f65 1f60,342,1f66 1f61,342,1f67 3b1,300,1f70 3b5,300,1f72 3b7,300,1f74 3b9,300,1f76
    3bf,300,1f78 3c5,300,1f7a 3c9,300,1f7c 3b1,306,1fb0 3b1,304,1fb1 3b1,342,1fb6 3b7,342,1fc6
    3b9,306,1fd0 3b9,304,1fd1 3ca,300,1fd2 3b9,342,1fd6 3ca,342,1fd7 3c5,306,1fe0 3c5,304,1fe1
    3cb,300,1fe2 3c1,313,1fe4 3c1,314,1fe5 3c5,342,1fe6 3cb,342,1fe7 3c9,342,1ff6 2190,338,219a
    2192,338,219b 2194,338,21ae 21d0,338,21cd 21d4,338,21ce 21d2,338,21cf 2203,338,2204
    2208,338,2209 220b,338,220c 2223,338,2224 2225,338,2226 223c,338,2241 2243,338,2244
    2245,338,2247 2248,338,2249 3d,338,2260 2261,338,2262 224d,338,226d 3c,338,226e 3e,338,226f
    2264,338,2270 2265,338,2271 2272,338,2274 2273,338,2275 2276,338,2278 2277,338,2279
    227a,338,2280 227b,338,2281 2282,338,2284 2283,338,2285 2286,338,2288 2287,338,2289
    22a2,338,22ac 22a8,338,22ad 22a9,338,22ae 22ab,338,22af 227c,338,22e0 227d,338,22e1
    2291,338,22e2 2292,338,22e3 22b2,338,22ea 22b3,338,22eb 22b4,338,22ec 22b5,338,22ed
    304b,3099,304c 304d,3099,304e 304f,3099,3050 3051,3099,3052 3053,3099,3054 3055,3099,3056
    3057,3099,3058 3059,3099,305a 305b,3099,305c 305d,3099,305e 305f,3099,3060 3061,3099,3062
    3064,3099,3065 3066,3099,3067 3068,3099,3069 306f,3099,3070 306f,309a,3071 3072,3099,3073
    3072,309a,3074 3075,3099,3076 3075,309a,3077 3078,3099,3079 3078,309a,307a 307b,3099,307c
    307b,309a,307d 3046,3099,3094 309d,3099,309e 30ab,3099,30ac 30ad,3099,30ae 30af,3099,30b0
    30b1,3099,30b2 30b3,3099,30b4 30b5,3099,30b6 30b7,3099,30b8 30b9,3099,30ba 30bb,3099,30bc
    30bd,3099,30be 30bf,3099,30c0 30c1,3099,30c2 30c4,3099,30c5 30c6,3099,30c7 30c8,3099,30c9
    30cf,3099,30d0 30cf,309a,30d1 30d2,3099,30d3 30d2,309a,30d4 30d5,3099,30d6 30d5,309a,30d7
    30d8,3099,30d9 30d8,309a,30da 30db,3099,30dc 30db,309a,30dd 30a6,3099,30f4 30ef,3099,30f7
    30f0,3099,30f8 30f1,3099,30f9 30f2,3099,30fa 30fd,3099,30fe 11099,110ba,1109a
    1109b,110ba,1109c 110a5,110ba,110ab 11131,11127,1112e 11132,11127,1112f 11347,1133e,1134b
    11347,11357,1134c 114b9,114ba,114bb 114b9,114b0,114bc 114b9,114bd,114be 115b8,115af,115ba
    115b9,115af,115bb 11935,11930,11938").map Pair.ofWord

/-! ## Korean syllables -/

/-- The first syllable. -/
def firstSyllable : Nat := 0xAC00

/-- The first leading consonant. -/
def firstLead : Nat := 0x1100

/-- The first vowel. -/
def firstVowel : Nat := 0x1161

/-- The code point before the first closing consonant. -/
def beforeClosings : Nat := 0x11A7

/-- How many leading consonants, vowels, and closings, none being one of them, there are. -/
def leads : Nat := 19

@[inherit_doc leads] def vowels : Nat := 21

@[inherit_doc leads] def closings : Nat := 28

/-- The two parts of a syllable. -/
def syllableParts? (c : Char) : Option (Char × Char) :=
  let n := c.toNat - firstSyllable
  if c.toNat < firstSyllable ∨ leads * vowels * closings ≤ n then none
  else if n % closings = 0 then
    some (Char.ofNat (firstLead + n / closings / vowels),
      Char.ofNat (firstVowel + n / closings % vowels))
  else
    some (Char.ofNat (c.toNat - n % closings), Char.ofNat (beforeClosings + n % closings))

/-- The syllable of two parts. -/
def syllable? (a b : Char) : Option Char :=
  let lead := a.toNat - firstLead
  let vowel := b.toNat - firstVowel
  let n := a.toNat - firstSyllable
  let closing := b.toNat - beforeClosings
  if firstLead ≤ a.toNat ∧ lead < leads ∧ firstVowel ≤ b.toNat ∧ vowel < vowels then
    some (Char.ofNat (firstSyllable + (lead * vowels + vowel) * closings))
  else if firstSyllable ≤ a.toNat ∧ n < leads * vowels * closings ∧ n % closings = 0
      ∧ 0 < closing ∧ closing < closings then
    some (Char.ofNat (a.toNat + closing))
  else none

/-! ## Taking apart and putting together -/

/-- The two parts of a character. -/
def parts? (c : Char) : Option (Char × Char) :=
  match syllableParts? c with
  | some parts => some parts
  | none => (pairs.find? (·.both == c)).map fun pair => (pair.first, pair.second)

/-- The character that stands for two. -/
def joined? (a b : Char) : Option Char :=
  match syllable? a b with
  | some c => some c
  | none => (pairs.find? fun pair => pair.first == a && pair.second == b).map Pair.both

/-- How often a part can itself be taken apart. -/
def depth : Nat := 4

/-- All parts of a character. -/
def apart : Nat → Char → List Char
  | 0, c => [c]
  | n + 1, c =>
    match parts? c with
    | some (first, second) => apart n first ++ [second]
    | none => [c]

/-- What was put together so far. -/
structure Composed where
  /-- What is finished, in reverse. -/
  finished : List Char
  /-- The letter that can still change. -/
  letter : Option Char
  /-- The marks behind it that did not join it, in reverse. -/
  marks : List Char

namespace Composed

/-- Everything, in reverse. -/
def reversed (s : Composed) : List Char := s.marks ++ s.letter.toList ++ s.finished

/-- Takes another character.  It joins the letter unless a mark of its class or a higher one stands
in between. -/
def take (s : Composed) (c : Char) : Composed :=
  let free := s.marks.head?.all fun mark => combiningClass mark < combiningClass c
  match if free then s.letter.bind (joined? · c) else none with
  | some letter => { s with letter := some letter }
  | none =>
    if combiningClass c = 0 then ⟨s.reversed, some c, []⟩
    else { s with marks := c :: s.marks }

end Composed

/-- The composed form of a text.  ASCII characters have no parts and are parts of nothing that is
ASCII. -/
def normalize (text : List Char) : List Char :=
  if text.all isAscii then text
  else ((order (text.flatMap (apart depth))).foldl Composed.take ⟨[], none, []⟩).reversed.reverse

end SharedTerminal.Unicode
