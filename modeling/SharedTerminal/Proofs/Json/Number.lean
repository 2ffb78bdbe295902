import SharedTerminal.Proofs.Json.Grammar
import Mathlib.Data.List.TakeDrop
import Mathlib.Data.List.TakeWhile
import Mathlib.Tactic.Common

/-!
# Numbers are read as their grammar has them

The reader takes a number digit by digit and as far as it goes.  So it reads the text of a number just
if the text behind it would not go on with it (`Stops`), and what it reads is the text of a number
(`Number.read_sound` and `Number.Literal.IsWritten.read_eq`).

Each part of the reader has one equation, for a text that is cut where the part stops: `exponent_eq`,
`afterDigits_eq`, and `unsigned_point` and `unsigned_bare` for numbers with and without a point.
-/

namespace SharedTerminal.Json

open Shape (Fault)

variable {rest : List Char}

/-- A number would not go on with this text. -/
def Stops (rest : List Char) : Prop :=
  ∀ c ∈ rest.head?, Numeral.isDigit c = false ∧ c ≠ '.' ∧ c ≠ 'e' ∧ c ≠ 'E'

@[simp] lemma stops_nil : Stops [] := by simp [Stops]

namespace Number

variable {negative : Bool} {significand : Nat} {start : Int}

lemma spanDigits_sound {s digits : List Char} (h : spanDigits s = (digits, rest)) :
    s = digits ++ rest ∧ (∀ c ∈ digits, Numeral.isDigit c = true) ∧
      ∀ c ∈ rest.head?, Numeral.isDigit c = false := by
  rw [spanDigits, List.span_eq_takeWhile_dropWhile] at h
  obtain ⟨rfl, rfl⟩ := Prod.mk.inj h
  refine ⟨List.takeWhile_append_dropWhile.symm, fun c hc => List.mem_takeWhile_imp hc, ?_⟩
  intro c hc
  have hhead := List.head?_dropWhile_not Numeral.isDigit s
  rw [Option.mem_def.1 hc] at hhead
  simpa using hhead

lemma spanDigits_append {digits : List Char} (hdigits : ∀ c ∈ digits, Numeral.isDigit c = true)
    (hrest : ∀ c ∈ rest.head?, Numeral.isDigit c = false) :
    spanDigits (digits ++ rest) = (digits, rest) := by
  have hstop : rest.takeWhile Numeral.isDigit = [] ∧ rest.dropWhile Numeral.isDigit = rest := by
    rcases rest with _ | ⟨c, rest⟩
    · simp
    · simp [hrest c rfl]
  rw [spanDigits, List.span_eq_takeWhile_dropWhile, List.takeWhile_append_of_pos hdigits,
    List.dropWhile_append_of_pos hdigits, hstop.1, hstop.2, List.append_nil]

/-- What comes of a number that has a value, if it is finite, in front of a text. -/
def outcome (v : Option Value) (rest : List Char) : Except Fault (Value × List Char) :=
  v.elim (.error .malformed) fun v => .ok (v, rest)

lemma outcome_eq_ok_iff {v : Option Value} {w : Value} {rest' : List Char} :
    outcome v rest = .ok (w, rest') ↔ v = some w ∧ rest = rest' := by
  cases v <;> simp [outcome]

lemma ofParts_map (start : Int) (rest : List Char) :
    (·, rest) <$> ofParts negative significand start =
      outcome (ofParts negative significand start).toOption rest := by
  rw [ofParts]
  split <;> rfl

/-- A sign is an optional plus or minus, and what follows it does not begin with another one. -/
lemma exists_sign (s : List Char) :
    ∃ (sign : Option Char) (more : List Char), s = sign.toList ++ more ∧
      (∀ c ∈ sign, c = '+' ∨ c = '-') ∧
      (sign = none → ∀ c ∈ more.head?, c ≠ '+' ∧ c ≠ '-') := by
  rcases s with _ | ⟨c, s⟩
  · exact ⟨none, [], rfl, by simp, by simp⟩
  · by_cases hc : c = '+' ∨ c = '-'
    · exact ⟨some c, s, rfl, by simpa using hc, by simp⟩
    · exact ⟨none, c :: s, rfl, by simp, by simpa [not_or] using hc⟩

/-- An exponent behind a plus or a minus is read as its digits. -/
lemma exponent_cons {c : Char} (hc : c = '+' ∨ c = '-') {s : List Char} {x : Exponent}
    (hspan : spanDigits s = (x.digits, rest)) (hsign : x.sign = some '-' ↔ c = '-') :
    exponent negative significand start (c :: s) =
      if x.digits = [] then .error .malformed
      else outcome (scaled? negative significand start (some x)) rest := by
  have hsize : Numeral.ofDigits 10 (x.digits.map fun c => c.toNat - 48) = x.size := rfl
  by_cases hempty : x.digits = []
  · rcases hc with rfl | rfl <;> simp only [exponent, hspan, hempty, if_true] <;> rfl
  · by_cases hbig : greatestExponent < x.size
    · rcases hc with rfl | rfl <;> by_cases hzero : significand = 0 <;>
        simp [exponent, hspan, hempty, hsize, hbig, hzero, scaled?, hsign] <;> rfl
    · rcases hc with rfl | rfl <;>
        simp [exponent, hspan, hempty, hsize, hbig, scaled?, hsign, ofParts_map]

/-- An exponent is read as its sign and its digits. -/
lemma exponent_eq {x : Exponent} (hsign : ∀ c ∈ x.sign, c = '+' ∨ c = '-')
    {s : List Char} (hbare : x.sign = none → ∀ c ∈ s.head?, c ≠ '+' ∧ c ≠ '-')
    (hspan : spanDigits s = (x.digits, rest)) :
    exponent negative significand start (x.sign.toList ++ s) =
      if x.digits = [] then .error .malformed
      else outcome (scaled? negative significand start (some x)) rest := by
  rcases hx : x.sign with _ | c
  · -- No sign is read like a plus.
    rw [← exponent_cons (.inl rfl) hspan (by simp [hx])]
    rcases s with _ | ⟨c, s⟩
    · rfl
    · obtain ⟨hplus, hminus⟩ := hbare hx c rfl
      simp [exponent, hplus, hminus]
  · exact exponent_cons (hsign c hx) hspan (by simp [hx])

lemma IsDigits.head? {s : List Char} (h : IsDigits s) (rest : List Char) :
    ∀ c ∈ (s ++ rest).head?, Numeral.isDigit c = true := by
  obtain ⟨c, more, rfl⟩ := List.exists_cons_of_ne_nil h.1
  intro d hd
  obtain rfl : c = d := by simpa using hd
  exact h.2 c List.mem_cons_self

lemma afterDigits_of_none (hrest : ∀ c ∈ rest.head?, c ≠ 'e' ∧ c ≠ 'E') :
    afterDigits negative significand start rest =
      outcome (scaled? negative significand start none) rest := by
  rw [scaled?, ← ofParts_map]
  rcases rest with _ | ⟨c, rest⟩
  · simp [afterDigits]
  · obtain ⟨hlower, hupper⟩ := hrest c rfl
    simp [afterDigits, hlower, hupper]

/-- What may follow the digits of a significand is read as an exponent, if there is one. -/
lemma afterDigits_eq {x : Option Exponent} (hx : ∀ y ∈ x, y.IsWritten)
    (hdigit : ∀ c ∈ rest.head?, Numeral.isDigit c = false)
    (hmark : x = none → ∀ c ∈ rest.head?, c ≠ 'e' ∧ c ≠ 'E') :
    afterDigits negative significand start (x.elim [] Exponent.chars ++ rest) =
      outcome (scaled? negative significand start x) rest := by
  rcases x with _ | x
  · exact afterDigits_of_none (hmark rfl)
  · obtain ⟨hm, hsign, hdigits⟩ := hx x rfl
    have hspan := spanDigits_append hdigits.2 hdigit
    have hbare : x.sign = none → ∀ c ∈ (x.digits ++ rest).head?, c ≠ '+' ∧ c ≠ '-' := by
      intro _ c hc
      have hc := hdigits.head? rest c hc
      constructor <;> rintro rfl <;> exact absurd hc (by decide)
    have hread : exponent negative significand start (x.sign.toList ++ (x.digits ++ rest)) =
        outcome (scaled? negative significand start (some x)) rest := by
      rw [exponent_eq hsign hbare hspan, if_neg hdigits.1]
    rw [← hread, Option.elim_some, Exponent.chars, List.cons_append, List.append_assoc]
    rcases hm with hm | hm <;> rw [hm, afterDigits]

lemma afterDigits_sound {s : List Char} {v : Value}
    (h : afterDigits negative significand start s = .ok (v, rest)) :
    ∃ x : Option Exponent, (∀ y ∈ x, y.IsWritten) ∧ s = x.elim [] Exponent.chars ++ rest ∧
      scaled? negative significand start x = some v ∧
      (x = none → ∀ c ∈ rest.head?, c ≠ 'e' ∧ c ≠ 'E') := by
  by_cases hmark : ∃ c more, s = c :: more ∧ (c = 'e' ∨ c = 'E')
  · obtain ⟨mark, s, rfl, hmark⟩ := hmark
    have hread : exponent negative significand start s = .ok (v, rest) := by
      rcases hmark with rfl | rfl <;> exact h
    obtain ⟨sign, more, rfl, hsign, hbare⟩ := exists_sign s
    rcases hspan : spanDigits more with ⟨digits, rest'⟩
    obtain ⟨rfl, hdigits, -⟩ := spanDigits_sound hspan
    rw [exponent_eq (x := ⟨mark, sign, digits⟩) hsign hbare hspan] at hread
    split at hread
    · exact absurd hread (by simp)
    · next hsome =>
      obtain ⟨hv, rfl⟩ := outcome_eq_ok_iff.1 hread
      refine ⟨some ⟨mark, sign, digits⟩, ?_, by simp [Exponent.chars], hv, by simp⟩
      rintro _ ⟨⟩
      exact ⟨hmark, hsign, hsome, hdigits⟩
  · have hrest : ∀ c ∈ s.head?, c ≠ 'e' ∧ c ≠ 'E' := by
      intro c hc
      obtain ⟨more, rfl⟩ := List.head?_eq_some_iff.1 hc
      rw [← not_or]
      exact fun hc => hmark ⟨c, more, rfl, hc⟩
    rw [afterDigits_of_none hrest] at h
    obtain ⟨hv, rfl⟩ := outcome_eq_ok_iff.1 h
    exact ⟨none, by simp, rfl, hv, fun _ => hrest⟩

/-- The digits in front of a number: there is one, and a zero stands alone. -/
def IsFront (whole : List Char) : Prop := whole ≠ [] ∧ ∀ c more, whole ≠ '0' :: c :: more

/-- A number with a point is read as what follows its digits on both sides. -/
lemma unsigned_point {s r whole digits : List Char} (hspan : spanDigits s = (whole, '.' :: r))
    (hwhole : IsFront whole) (hfraction : spanDigits r = (digits, rest)) :
    unsigned negative s =
      if digits = [] then .error .malformed
      else afterDigits negative (absorb (absorb 0 whole).1 digits).1
        (((whole.length - (absorb 0 whole).2 : Nat) : Int) -
          (absorb (absorb 0 whole).1 digits).2) rest := by
  simp only [unsigned, hspan]
  split
  · exact absurd rfl hwhole.1
  · exact absurd rfl (hwhole.2 _ _)
  · simp only [hfraction]
    by_cases hempty : digits = []
    · simp only [hempty, List.isEmpty_nil, if_true]
      rfl
    · simp [hempty]

/-- The mark of an exponent is one of two letters. -/
lemma head?_notMem_marks_iff :
    rest.head? ∉ [some 'e', some 'E'] ↔ ∀ c ∈ rest.head?, c ≠ 'e' ∧ c ≠ 'E' := by
  rcases rest with _ | ⟨c, rest⟩ <;> simp

/-- A number without point is an integer if all its digits fit and no exponent follows. -/
lemma unsigned_bare {s whole : List Char} (hspan : spanDigits s = (whole, rest))
    (hwhole : IsFront whole) (hpoint : ∀ c ∈ rest.head?, c ≠ '.') :
    unsigned negative s =
      if whole.length - (absorb 0 whole).2 = 0 ∧ rest.head? ∉ [some 'e', some 'E'] then
        .ok (ofInteger negative (absorb 0 whole).1, rest)
      else
        afterDigits negative (absorb 0 whole).1 (whole.length - (absorb 0 whole).2 : Nat) rest := by
  simp only [unsigned, hspan]
  split
  · exact absurd rfl hwhole.1
  · exact absurd rfl (hwhole.2 _ _)
  · rcases rest with _ | ⟨c, rest⟩
    · by_cases hfits : whole.length - (absorb 0 whole).2 = 0 <;> simp [hfits, pure, Except.pure]
    · have hc : c ≠ '.' := hpoint c rfl
      by_cases hfits : whole.length - (absorb 0 whole).2 = 0 <;>
        by_cases hlower : c = 'e' <;> by_cases hupper : c = 'E' <;>
          simp_all [pure, Except.pure]

lemma isFront_of_unsigned {s whole : List Char} {v : Value} (hspan : spanDigits s = (whole, rest))
    {rest' : List Char} (h : unsigned negative s = .ok (v, rest')) : IsFront whole := by
  simp only [unsigned, hspan] at h
  split at h
  · exact absurd h (by simp [throw, throwThe, MonadExceptOf.throw])
  · exact absurd h (by simp [throw, throwThe, MonadExceptOf.throw])
  · next hsome hbare => exact ⟨hsome, hbare⟩

namespace Literal

lemma value?_bare {l : Literal} (h : l.fraction = none) :
    l.value? =
      if l.exponent = none ∧ l.whole.length - (absorb 0 l.whole).2 = 0 then
        some (ofInteger l.negative (absorb 0 l.whole).1)
      else scaled? l.negative (absorb 0 l.whole).1 (l.whole.length - (absorb 0 l.whole).2 : Nat)
        l.exponent := by
  simp [value?, h, absorb]

lemma value?_point {l : Literal} {digits : List Char} (h : l.fraction = some digits) :
    l.value? = scaled? l.negative (absorb (absorb 0 l.whole).1 digits).1
      (((l.whole.length - (absorb 0 l.whole).2 : Nat) : Int) -
        (absorb (absorb 0 l.whole).1 digits).2) l.exponent := by
  simp [value?, h]

/-- A number is read as its value behind its sign. -/
lemma unsigned_eq {l : Literal} (h : l.IsWritten) (hrest : Stops rest) :
    unsigned l.negative (l.unsignedChars ++ rest) = outcome l.value? rest := by
  have hdigit : ∀ c ∈ rest.head?, Numeral.isDigit c = false := fun c hc => (hrest c hc).1
  have hmark : ∀ c ∈ rest.head?, c ≠ 'e' ∧ c ≠ 'E' := fun c hc => (hrest c hc).2.2
  have hread : ∀ significand start, afterDigits l.negative significand start
      (l.exponent.elim [] Exponent.chars ++ rest) =
        outcome (scaled? l.negative significand start l.exponent) rest :=
    fun _ _ => afterDigits_eq h.exponent hdigit fun _ => hmark
  have hfront : IsFront l.whole := ⟨h.whole.1, h.bare⟩
  -- An exponent goes on neither with a digit nor with a point.
  have hbehind : ∀ c ∈ (l.exponent.elim [] Exponent.chars ++ rest).head?,
      Numeral.isDigit c = false ∧ c ≠ '.' := by
    rcases hx : l.exponent with _ | x
    · exact fun c hc => ⟨hdigit c hc, (hrest c hc).2.1⟩
    · rcases (h.exponent x hx).mark with hm | hm <;> simp [Exponent.chars, hm] <;> decide
  rcases hfraction : l.fraction with _ | digits
  · have hspan : spanDigits (l.unsignedChars ++ rest) =
        (l.whole, l.exponent.elim [] Exponent.chars ++ rest) := by
      rw [unsignedChars, hfraction, List.append_assoc]
      exact spanDigits_append h.whole.2 fun c hc => (hbehind c hc).1
    rw [unsigned_bare hspan hfront fun c hc => (hbehind c hc).2, value?_bare hfraction, hread]
    -- What follows begins with a mark just if there is an exponent.
    have hnone : (l.exponent.elim [] Exponent.chars ++ rest).head? ∉ [some 'e', some 'E'] ↔
        l.exponent = none := by
      rcases hx : l.exponent with _ | x
      · simpa using head?_notMem_marks_iff.2 hmark
      · rcases (h.exponent x hx).mark with hm | hm <;> simp [Exponent.chars, hm]
    by_cases hx : l.exponent = none ∧ l.whole.length - (absorb 0 l.whole).2 = 0
    · rw [if_pos ⟨hx.2, hnone.2 hx.1⟩, if_pos hx, hx.1]
      rfl
    · rw [if_neg fun hboth => hx ⟨hnone.1 hboth.2, hboth.1⟩, if_neg hx]
  · have hspan : spanDigits (l.unsignedChars ++ rest) =
        (l.whole, '.' :: (digits ++ (l.exponent.elim [] Exponent.chars ++ rest))) := by
      rw [unsignedChars, hfraction, List.append_assoc, List.append_assoc]
      refine spanDigits_append h.whole.2 ?_
      simp
      decide
    have hdigits : IsDigits digits := h.fraction digits hfraction
    rw [unsigned_point hspan hfront (spanDigits_append hdigits.2 fun c hc => (hbehind c hc).1),
      if_neg hdigits.1, hread, value?_point hfraction]

end Literal

lemma unsigned_sound {s : List Char} {v : Value} (h : unsigned negative s = .ok (v, rest)) :
    ∃ l : Literal, l.negative = negative ∧ l.IsWritten ∧ s = l.unsignedChars ++ rest ∧
      l.value? = some v := by
  rcases hspan : spanDigits s with ⟨whole, more⟩
  have hfront : IsFront whole := isFront_of_unsigned hspan h
  obtain ⟨rfl, hwhole, -⟩ := spanDigits_sound hspan
  by_cases hpoint : ∃ r, more = '.' :: r
  · obtain ⟨r, rfl⟩ := hpoint
    rcases hfraction : spanDigits r with ⟨digits, behind⟩
    rw [unsigned_point hspan hfront hfraction] at h
    obtain ⟨rfl, hdigits, -⟩ := spanDigits_sound hfraction
    split at h
    · exact absurd h (by simp)
    · next hsome =>
      obtain ⟨x, hx, rfl, hv, -⟩ := afterDigits_sound h
      refine ⟨⟨negative, whole, some digits, x⟩, rfl, ⟨⟨hfront.1, hwhole⟩, hfront.2, ?_, hx⟩,
        by simp [Literal.unsignedChars], ?_⟩
      · rintro _ ⟨⟩
        exact ⟨hsome, hdigits⟩
      · rwa [Literal.value?_point rfl]
  · have hbare : ∀ c ∈ more.head?, c ≠ '.' := by
      rintro c hc rfl
      obtain ⟨r, rfl⟩ := List.head?_eq_some_iff.1 hc
      exact hpoint ⟨r, rfl⟩
    rw [unsigned_bare hspan hfront hbare] at h
    split at h
    · next hboth =>
      obtain ⟨rfl, rfl⟩ : ofInteger negative (absorb 0 whole).1 = v ∧ more = rest := by
        simpa using h
      refine ⟨⟨negative, whole, none, none⟩, rfl, ⟨⟨hfront.1, hwhole⟩, hfront.2, by simp, by simp⟩,
        by simp [Literal.unsignedChars], ?_⟩
      rw [Literal.value?_bare rfl, if_pos ⟨rfl, hboth.1⟩]
    · next hboth =>
      obtain ⟨x, hx, rfl, hv, hmark⟩ := afterDigits_sound h
      refine ⟨⟨negative, whole, none, x⟩, rfl, ⟨⟨hfront.1, hwhole⟩, hfront.2, by simp, hx⟩,
        by simp [Literal.unsignedChars], ?_⟩
      rw [Literal.value?_bare rfl, if_neg]
      · exact hv
      · rintro ⟨hnone, hfits⟩
        obtain rfl : x = none := hnone
        exact hboth ⟨hfits, head?_notMem_marks_iff.2 (hmark rfl)⟩

lemma read_sound {s : List Char} {v : Value} (h : read s = .ok (v, rest)) :
    ∃ l : Literal, l.IsWritten ∧ s = l.chars ++ rest ∧ l.value? = some v := by
  rw [read.eq_def] at h
  split at h
  · obtain ⟨l, hnegative, hl, rfl, hv⟩ := unsigned_sound h
    exact ⟨l, hl, by simp [Literal.chars, hnegative], hv⟩
  · obtain ⟨l, hnegative, hl, rfl, hv⟩ := unsigned_sound h
    exact ⟨l, hl, by simp [Literal.chars, hnegative], hv⟩

/-- A number is read as an integer or as another number. -/
def IsNumber (v : Value) : Prop := (∃ i, v = .integer i) ∨ ∃ x, v = .fraction x

lemma isNumber_ofInteger (negative : Bool) (significand : Nat) :
    IsNumber (ofInteger negative significand) := by
  rw [ofInteger]
  split
  · exact .inl ⟨_, rfl⟩
  · split
    · exact .inr ⟨_, rfl⟩
    · exact .inl ⟨_, rfl⟩

lemma isNumber_of_ofParts {v : Value}
    (h : (ofParts negative significand start).toOption = some v) : IsNumber v := by
  rw [ofParts] at h
  split at h
  · exact .inr ⟨_, (Option.some.inj h).symm⟩
  · exact absurd h (by simp [Except.toOption])

lemma isNumber_of_scaled? {x : Option Exponent} {v : Value}
    (h : scaled? negative significand start x = some v) : IsNumber v := by
  rcases x with _ | x
  · exact isNumber_of_ofParts h
  · rw [scaled?] at h
    split at h
    · split at h
      · exact absurd h (by simp)
      · exact .inr ⟨_, (Option.some.inj h).symm⟩
    · exact isNumber_of_ofParts h

lemma Literal.isNumber_of_value? {l : Literal} {v : Value} (h : l.value? = some v) :
    IsNumber v := by
  rcases hfraction : l.fraction with _ | digits
  · rw [value?_bare hfraction] at h
    split at h
    · obtain rfl := Option.some.inj h
      exact isNumber_ofInteger _ _
    · exact isNumber_of_scaled? h
  · rw [value?_point hfraction] at h
    exact isNumber_of_scaled? h

lemma Literal.IsWritten.head? {l : Literal} (h : l.IsWritten) (rest : List Char) :
    ∃ c more, l.unsignedChars ++ rest = c :: more ∧ Numeral.isDigit c = true := by
  obtain ⟨c, more, hwhole⟩ := List.exists_cons_of_ne_nil h.whole.1
  exact ⟨c, _, by rw [unsignedChars, hwhole, List.cons_append, List.cons_append],
    h.whole.2 c (by simp [hwhole])⟩

lemma Literal.IsWritten.read_eq {l : Literal} (h : l.IsWritten) (hrest : Stops rest) :
    read (l.chars ++ rest) = outcome l.value? rest := by
  rw [← Literal.unsigned_eq h hrest, Literal.chars]
  rcases hnegative : l.negative with _ | _
  · -- A digit is no minus.
    obtain ⟨c, more, heq, hc⟩ := h.head? rest
    rw [if_neg (by decide), heq, read]
    rintro r ⟨⟩
    exact absurd hc (by decide)
  · rfl

end Number

end SharedTerminal.Json
