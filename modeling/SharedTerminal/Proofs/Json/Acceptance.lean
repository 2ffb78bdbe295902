import SharedTerminal.Proofs.Json.Number
import Mathlib.Data.Option.Basic
import Mathlib.Tactic.Common

/-!
# The reader and the grammar of JSON

The reader accepts what the grammar derives, with the same value, and nothing else.  It is greedy, so
a value is found only where the text stops behind it (`Stops`): a number would go on with a digit, a
point or an exponent.

Strings are read in two passes, so their grammar is split in two (`Text.Splits` and `Text.join`).
Arrays and objects are folded entry by entry; `Steps` says that a step of the fold takes the entries
of a relation, and the fold then takes lists of them (`Steps.foldEntries_sound` and
`Steps.foldEntries_complete`).  The main statements are `read_sound` and `read_complete`, and
`parse_eq_ok_iff` for documents.
-/

namespace SharedTerminal.Json

open Shape (Fault)

variable {rest : List Char}

/-! ## Space -/

lemma skipSpace_append {space : List Char} (h : IsBlank space) (s : List Char) :
    skipSpace (space ++ s) = skipSpace s :=
  List.dropWhile_append_of_pos h

lemma isBlank_append {s t : List Char} (hs : IsBlank s) (ht : IsBlank t) : IsBlank (s ++ t) :=
  fun c hc => (List.mem_append.1 hc).elim (hs c) (ht c)

lemma skipSpace_eq_nil_iff {s : List Char} : skipSpace s = [] ↔ IsBlank s :=
  List.dropWhile_eq_nil_iff

/-- A text is space and what is left without it. -/
lemma exists_blank_append_skipSpace (s : List Char) :
    ∃ space, IsBlank space ∧ s = space ++ skipSpace s :=
  ⟨s.takeWhile isSpace, fun _ hc => List.mem_takeWhile_imp hc, List.takeWhile_append_dropWhile.symm⟩

lemma skipSpace_of_isSpace {c : Char} (h : isSpace c = false) (s : List Char) :
    skipSpace (c :: s) = c :: s := by
  simp [skipSpace, h]

/-- A text begins with something else than space or a closing bracket. -/
def IsSolid (e : List Char) : Prop :=
  ∃ c more, e = c :: more ∧ isSpace c = false ∧ c ≠ ']' ∧ c ≠ '\x7d'

lemma IsSolid.skipSpace_append {e : List Char} (h : IsSolid e) (s : List Char) :
    skipSpace (e ++ s) = e ++ s := by
  obtain ⟨c, more, rfl, hc, -⟩ := h
  exact skipSpace_of_isSpace hc _

lemma stops_cons {c : Char} (hc : isSpace c = true ∨ c = ',' ∨ c = ']' ∨ c = '\x7d')
    (s : List Char) : Stops (c :: s) := by
  have hall : ∀ c ∈ [' ', '\n', '\t', '\r', ',', ']', '\x7d'],
      Numeral.isDigit c = false ∧ c ≠ '.' ∧ c ≠ 'e' ∧ c ≠ 'E' := by simp [Numeral.isDigit]
  intro d hd
  obtain rfl : c = d := by simpa using hd
  exact hall c (by simpa [isSpace, or_assoc] using hc)

/-- Space stops a number, and so does what stops it behind the space. -/
lemma stops_append {space : List Char} (h : IsBlank space) (hrest : Stops rest) :
    Stops (space ++ rest) := by
  rcases space with _ | ⟨c, space⟩
  · exact hrest
  · exact stops_cons (.inl (h c List.mem_cons_self)) _

/-! ## Strings -/

namespace Text

/-- What stands between two quotes is split into pieces. -/
inductive Splits : List Char → List Piece → Prop where
  /-- There is no piece. -/
  | nil : Splits [] []
  /-- A character that is written as itself. -/
  | plain {c : Char} {e : List Char} {ps : List Piece} (hc : 0x20 ≤ c.toNat) (hquote : c ≠ '"')
    (hslash : c ≠ '\\') (h : Splits e ps) : Splits (c :: e) (.char c :: ps)
  /-- A character that is written by a letter. -/
  | letter {l c : Char} {e : List Char} {ps : List Piece} (hl : letter? l = some c)
    (h : Splits e ps) : Splits ('\\' :: l :: e) (.char c :: ps)
  /-- A code unit that is written by four digits. -/
  | unit {a b c d : Char} {n : Nat} {e : List Char} {ps : List Piece}
    (hn : unit? a b c d = some n) (h : Splits e ps) :
    Splits ('\\' :: 'u' :: a :: b :: c :: d :: e) (.unit n :: ps)

lemma pieces_sound {s : List Char} {ps : List Piece} (h : pieces s = some (ps, rest)) :
    ∃ e, s = e ++ '"' :: rest ∧ Splits e ps := by
  induction s using pieces.induct generalizing ps rest with
  | case1 => simp [pieces] at h
  | case2 s =>
    obtain ⟨rfl, rfl⟩ : ps = [] ∧ s = rest := by simpa [pieces, eq_comm] using h
    exact ⟨[], rfl, .nil⟩
  | case3 a b c d s ih =>
    obtain ⟨n, hn, ps', rest', hps, hout⟩ : ∃ n, unit? a b c d = some n ∧ ∃ ps' rest',
        pieces s = some (ps', rest') ∧ .unit n :: ps' = ps ∧ rest' = rest := by
      simpa [pieces, Option.bind_eq_some_iff] using h
    obtain ⟨rfl, rfl⟩ := hout
    obtain ⟨e, rfl, he⟩ := ih hps
    exact ⟨_, rfl, .unit hn he⟩
  | case4 l s hu ih =>
    rw [pieces] at h
    · obtain ⟨c, hc, ps', rest', hps, hout⟩ : ∃ c, letter? l = some c ∧ ∃ ps' rest',
          pieces s = some (ps', rest') ∧ .char c :: ps' = ps ∧ rest' = rest := by
        simpa [Option.bind_eq_some_iff] using h
      obtain ⟨rfl, rfl⟩ := hout
      obtain ⟨e, rfl, he⟩ := ih hps
      exact ⟨_, rfl, .letter hc he⟩
    · exact hu
  | case5 c s hquote hunit hletter hbad =>
    rw [pieces, if_pos hbad] at h
    · exact absurd h (by simp)
    all_goals assumption
  | case6 c s hquote hunit hletter hbad ih =>
    rw [pieces, if_neg hbad] at h
    · obtain ⟨ps', rest', hps, hout⟩ : ∃ ps' rest',
          pieces s = some (ps', rest') ∧ .char c :: ps' = ps ∧ rest' = rest := by
        simpa [Option.bind_eq_some_iff] using h
      obtain ⟨rfl, rfl⟩ := hout
      obtain ⟨e, rfl, he⟩ := ih hps
      have hplain : 0x20 ≤ c.toNat ∧ c ≠ '\\' := by simpa [not_or] using hbad
      exact ⟨_, rfl, .plain hplain.1 hquote hplain.2 he⟩
    all_goals assumption

lemma Splits.pieces_eq {e : List Char} {ps : List Piece} (h : Splits e ps) (rest : List Char) :
    pieces (e ++ '"' :: rest) = some (ps, rest) := by
  induction h with
  | nil => simp [pieces]
  | @plain c e ps hc hquote hslash h ih =>
    have hgood : ¬ ((c.toNat < 0x20 || c == '\\') = true) := by simpa [hslash] using hc
    rw [List.cons_append, pieces, if_neg hgood, ih]
    · rfl
    · exact hquote
    · exact fun _ _ _ _ _ hc => absurd hc hslash
    · exact fun _ _ hc => absurd hc hslash
  | @letter l c e ps hl h ih =>
    have hu : l ≠ 'u' := by
      rintro rfl
      simp [letter?] at hl
    rw [List.cons_append, List.cons_append, pieces, hl, Option.bind_eq_bind, Option.bind_some, ih]
    · rfl
    · exact fun _ _ _ _ _ hl => absurd hl hu
  | @unit a b c d n e ps hn h ih =>
    simp only [List.cons_append]
    rw [pieces, hn, Option.bind_eq_bind, Option.bind_some, ih]
    rfl

lemma join_single {n : Nat} (h : isLeading n = false ∧ isTrailing n = false) (ps : List Piece) :
    join (.unit n :: ps) = (join ps).map (Char.ofNat n :: ·) := by
  rcases ps with _ | ⟨_ | _, ps⟩ <;> simp [join, h]

lemma Splits.denotes {e t : List Char} {ps : List Piece} (h : Splits e ps)
    (hjoin : join ps = some t) : Denotes e t := by
  induction ps using join.induct generalizing e t with
  | case1 =>
    obtain rfl : t = [] := by simpa [join, eq_comm] using hjoin
    cases h
    exact .nil
  | case2 c ps ih =>
    obtain ⟨t, ht, rfl⟩ : ∃ t', join ps = some t' ∧ c :: t' = _ := by simpa [join] using hjoin
    cases h with
    | plain hc hquote hslash h => exact .plain hc hquote hslash (ih h ht)
    | letter hl h => exact .letter hl (ih h ht)
  | case3 n m ps hleading htrailing ih =>
    obtain ⟨t, ht, rfl⟩ : ∃ t', join ps = some t' ∧ ofSurrogates n m :: t' = _ := by
      simpa [join, hleading, htrailing, ofSurrogates] using hjoin
    cases h with
    | unit hn h =>
      cases h with
      | unit hm h => exact .pair hn hm hleading htrailing (ih h ht)
  | case4 n m ps hleading htrailing => simp [join, hleading, htrailing] at hjoin
  | case5 n m ps hleading htrailing => simp [join, hleading, htrailing] at hjoin
  | case6 n m ps hleading htrailing ih =>
    have hsingle : isLeading n = false ∧ isTrailing n = false := by simp [hleading, htrailing]
    rw [join_single hsingle] at hjoin
    obtain ⟨t, ht, rfl⟩ := Option.map_eq_some_iff.1 hjoin
    cases h with
    | unit hn h => exact .unit hn hsingle (ih h ht)
  | case7 n ps hnext hbad =>
    rw [join, if_pos hbad] at hjoin
    · exact absurd hjoin (by simp)
    · exact hnext
  | case8 n ps hnext hbad ih =>
    have hsingle : isLeading n = false ∧ isTrailing n = false := by simpa using hbad
    rw [join_single hsingle] at hjoin
    obtain ⟨t, ht, rfl⟩ := Option.map_eq_some_iff.1 hjoin
    cases h with
    | unit hn h => exact .unit hn hsingle (ih h ht)

lemma Denotes.exists_splits {e t : List Char} (h : Denotes e t) :
    ∃ ps, Splits e ps ∧ join ps = some t := by
  induction h with
  | nil => exact ⟨[], .nil, by simp [join]⟩
  | plain hc hquote hslash h ih =>
    obtain ⟨ps, hps, hjoin⟩ := ih
    exact ⟨_, .plain hc hquote hslash hps, by simp [join, hjoin]⟩
  | letter hl h ih =>
    obtain ⟨ps, hps, hjoin⟩ := ih
    exact ⟨_, .letter hl hps, by simp [join, hjoin]⟩
  | unit hn hsingle h ih =>
    obtain ⟨ps, hps, hjoin⟩ := ih
    exact ⟨_, .unit hn hps, by simp [join_single hsingle, hjoin]⟩
  | pair hn hm hleading htrailing h ih =>
    obtain ⟨ps, hps, hjoin⟩ := ih
    exact ⟨_, .unit hn (.unit hm hps), by simp [join, hleading, htrailing, hjoin, ofSurrogates]⟩

lemma read_sound {s : List Char} {text : String} (h : read s = .ok (text, rest)) :
    ∃ e t, s = e ++ '"' :: rest ∧ Denotes e t ∧ text = String.ofList t := by
  rw [read] at h
  rcases hpieces : pieces s with _ | ⟨ps, rest'⟩
  · simp [hpieces] at h
  · rcases hjoin : join ps with _ | t
    · simp [hpieces, hjoin] at h
    · obtain ⟨rfl, rfl⟩ : String.ofList t = text ∧ rest' = rest := by
        simpa [hpieces, hjoin] using h
      obtain ⟨e, rfl, he⟩ := pieces_sound hpieces
      exact ⟨e, t, rfl, he.denotes hjoin, rfl⟩

lemma Denotes.read_eq {e t : List Char} (h : Denotes e t) (rest : List Char) :
    read (e ++ '"' :: rest) = .ok (String.ofList t, rest) := by
  obtain ⟨ps, hps, hjoin⟩ := h.exists_splits
  simp only [read, hps.pieces_eq, hjoin]

end Text

/-! ## Entries -/

/-- A step of a fold takes the entries of a relation, and puts each into the state or refuses it. -/
structure Steps {σ α : Type} (R : List Char → α → Prop) (put : σ → α → Option σ)
    (step : σ → List Char → Except Fault (σ × List Char)) : Prop where
  /-- An entry does not begin like the space around it. -/
  solid : ∀ {e a}, R e a → IsSolid e
  /-- What the step takes is an entry. -/
  sound : ∀ {s t text rest}, step s text = .ok (t, rest) →
    ∃ e a, skipSpace text = e ++ rest ∧ R e a ∧ put s a = some t
  /-- Every entry that the state allows is taken. -/
  complete : ∀ {s t e a rest}, R e a → put s a = some t → Stops rest →
    step s (e ++ rest) = .ok (t, rest)

variable {σ α : Type} {R : List Char → α → Prop} {put : σ → α → Option σ}
  {step : σ → List Char → Except Fault (σ × List Char)} {s t : σ} {as : List α} {close : Char}

lemma Follows.stops {more : List Char} (h : Follows R more as)
    (hclose : close = ']' ∨ close = '\x7d') (rest : List Char) :
    Stops (more ++ close :: rest) := by
  cases h with
  | nil hspace => exact stops_append hspace (stops_cons (.inr (.inr hclose)) rest)
  | cons hspace =>
    rw [List.append_assoc]
    exact stops_append hspace (stops_cons (.inr (.inl rfl)) _)

/-- What a step takes behind space is an entry behind space. -/
lemma Steps.sound_skipSpace (hsteps : Steps R put step) {text : List Char}
    (h : step s (skipSpace text) = .ok (t, rest)) :
    ∃ before e a, text = before ++ (e ++ rest) ∧ IsBlank before ∧ R e a ∧ put s a = some t := by
  obtain ⟨before, hbefore, htext⟩ := exists_blank_append_skipSpace text
  obtain ⟨e, a, htaken, he, hput⟩ := hsteps.sound h
  obtain ⟨again, hagain, hskip⟩ := exists_blank_append_skipSpace (skipSpace text)
  rw [htaken] at hskip
  refine ⟨before ++ again, e, a, ?_, isBlank_append hbefore hagain, he, hput⟩
  rw [List.append_assoc, ← hskip, ← htext]

/-- What is read behind an entry is more entries and the bracket that closes them. -/
lemma Steps.foldEntriesFrom_sound (hsteps : Steps R put step) {fuel : Nat} {text : List Char}
    (h : foldEntriesFrom close step false fuel s text = .ok (t, rest)) :
    ∃ more as, text = more ++ close :: rest ∧ Follows R more as ∧ as.foldlM put s = some t := by
  induction fuel generalizing s text with
  | zero => simp [foldEntriesFrom] at h
  | succ fuel ih =>
    obtain ⟨space, hspace, htext⟩ := exists_blank_append_skipSpace text
    rw [foldEntriesFrom] at h
    split at h
    · exact absurd h (by simp)
    · next c r hskip =>
      rw [hskip] at htext
      split at h
      · next hc =>
        obtain ⟨rfl, rfl⟩ : s = t ∧ r = rest := by simpa using h
        obtain rfl : c = close := by simpa using hc
        exact ⟨space, [], htext, .nil hspace, rfl⟩
      · by_cases hcomma : c = ','
        · subst hcomma
          by_cases hnext : (skipSpace r).head? = some close
          · simp [hnext] at h
          · rcases hstep : step s (skipSpace r) with f | ⟨u, r'⟩
            · simp [hnext, hstep] at h
            · have hrest : foldEntriesFrom close step false fuel u r' = .ok (t, rest) := by
                simpa [hnext, hstep] using h
              obtain ⟨before, e, a, rfl, hbefore, he, hput⟩ := hsteps.sound_skipSpace hstep
              obtain ⟨more, as, rfl, hmore, hfold⟩ := ih hrest
              refine ⟨_, a :: as, ?_, .cons hspace hbefore he hmore, ?_⟩
              · simpa using htext
              · simpa [hput] using hfold
        · simp [hcomma] at h

/-- What stands between two brackets is read as its entries. -/
lemma Steps.foldEntries_sound (hsteps : Steps R put step) {text : List Char}
    (h : foldEntries close step s text = .ok (t, rest)) :
    ∃ body as, text = body ++ close :: rest ∧ DenotesEntries R body as ∧
      as.foldlM put s = some t := by
  obtain ⟨space, hspace, htext⟩ := exists_blank_append_skipSpace text
  rw [foldEntries, foldEntriesFrom] at h
  split at h
  · exact absurd h (by simp)
  · next c r hskip =>
    rw [hskip] at htext
    split at h
    · next hc =>
      obtain ⟨rfl, rfl⟩ : s = t ∧ r = rest := by simpa using h
      obtain rfl : c = close := by simpa using hc
      exact ⟨space, [], htext, .nil hspace, rfl⟩
    · rw [← hskip] at h
      rcases hstep : step s (skipSpace text) with f | ⟨u, r'⟩
      · simp [hstep] at h
      · have hrest : foldEntriesFrom close step false text.length u r' = .ok (t, rest) := by
          simpa [hstep] using h
        obtain ⟨before, e, a, heq, hbefore, he, hput⟩ := hsteps.sound_skipSpace hstep
        obtain ⟨more, as, rfl, hmore, hfold⟩ := hsteps.foldEntriesFrom_sound hrest
        refine ⟨_, a :: as, ?_, .cons hbefore he hmore, ?_⟩
        · simpa using heq
        · simpa [hput] using hfold

lemma IsSolid.head?_ne {e : List Char} (h : IsSolid e) (hclose : close = ']' ∨ close = '\x7d')
    (rest : List Char) : ∃ c more, e ++ rest = c :: more ∧ c ≠ close := by
  obtain ⟨c, more, rfl, -, hbracket, hbrace⟩ := h
  refine ⟨c, _, List.cons_append .., ?_⟩
  rcases hclose with rfl | rfl
  · exact hbracket
  · exact hbrace

lemma Steps.foldEntriesFrom_complete (hsteps : Steps R put step)
    (hclose : close = ']' ∨ close = '\x7d') {more : List Char} (h : Follows R more as)
    (hfold : as.foldlM put s = some t) {fuel : Nat} (hfuel : as.length < fuel)
    (rest : List Char) :
    foldEntriesFrom close step false fuel s (more ++ close :: rest) = .ok (t, rest) := by
  have hsolid : isSpace close = false := by rcases hclose with rfl | rfl <;> decide
  induction h generalizing s fuel with
  | nil hspace =>
    obtain ⟨fuel, rfl⟩ := Nat.exists_eq_succ_of_ne_zero (by omega : fuel ≠ 0)
    obtain rfl : s = t := by simpa using hfold
    rw [foldEntriesFrom, skipSpace_append hspace, skipSpace_of_isSpace hsolid]
    simp
  | @cons space before e more a as hspace hbefore he hmore ih =>
    obtain ⟨fuel, rfl⟩ := Nat.exists_eq_succ_of_ne_zero (by omega : fuel ≠ 0)
    obtain ⟨u, hput, hrest⟩ : ∃ u, put s a = some u ∧ as.foldlM put u = some t := by
      simpa [Option.bind_eq_some_iff] using hfold
    have hcomma : ',' ≠ close := by rcases hclose with rfl | rfl <;> decide
    have hstops := hmore.stops hclose rest
    have htaken := hsteps.complete he hput hstops
    have hskip : skipSpace (before ++ (e ++ (more ++ close :: rest))) =
        e ++ (more ++ close :: rest) := by
      rw [skipSpace_append hbefore, (hsteps.solid he).skipSpace_append]
    obtain ⟨c, r, heq, hc⟩ := (hsteps.solid he).head?_ne hclose (more ++ close :: rest)
    have hagain := ih hrest (by simpa using hfuel)
    simp only [List.append_assoc, List.cons_append]
    rw [foldEntriesFrom, skipSpace_append hspace, skipSpace_of_isSpace (by decide)]
    simp only [hskip]
    rw [heq] at htaken ⊢
    simp [hcomma, hc, htaken, hagain]

lemma Follows.length_le {more : List Char} (h : Follows R more as) :
    as.length ≤ more.length := by
  induction h with
  | nil => simp
  | cons hspace hbefore he hmore ih =>
    simp only [List.length_cons, List.length_append]
    omega

/-- Entries are read between two brackets, if the state allows them. -/
lemma Steps.foldEntries_complete (hsteps : Steps R put step)
    (hclose : close = ']' ∨ close = '\x7d') {body : List Char} (h : DenotesEntries R body as)
    (hfold : as.foldlM put s = some t) (rest : List Char) :
    foldEntries close step s (body ++ close :: rest) = .ok (t, rest) := by
  rw [foldEntries]
  cases h with
  | nil hspace =>
    have hsolid : isSpace close = false := by rcases hclose with rfl | rfl <;> decide
    obtain rfl : s = t := by simpa using hfold
    rw [foldEntriesFrom, skipSpace_append hspace, skipSpace_of_isSpace hsolid]
    simp
  | @cons before e more a as hbefore he hmore =>
    obtain ⟨u, hput, hrest⟩ : ∃ u, put s a = some u ∧ as.foldlM put u = some t := by
      simpa [Option.bind_eq_some_iff] using hfold
    have htaken := hsteps.complete he hput (hmore.stops hclose rest)
    obtain ⟨c, r, heq, hc⟩ := (hsteps.solid he).head?_ne hclose (more ++ close :: rest)
    -- There are at most as many entries as characters.
    have hfuel : as.length < (before ++ (e ++ more) ++ close :: rest).length := by
      have hmany := hmore.length_le
      simp only [List.length_append, List.length_cons]
      omega
    have hagain := hsteps.foldEntriesFrom_complete hclose hmore hrest hfuel rest
    simp only [List.append_assoc] at hagain ⊢
    rw [foldEntriesFrom, skipSpace_append hbefore, (hsteps.solid he).skipSpace_append]
    rw [heq] at htaken hagain ⊢
    simpa [hc, htaken] using hagain

/-! ## Values -/

lemma word?_sound {text : List Char} {v : Value} (h : word? text = some (v, rest)) :
    ∃ e, text = e ++ rest ∧ DenotesScalar e v := by
  rw [word?.eq_def] at h
  split at h
  · obtain ⟨rfl, rfl⟩ := Prod.mk.inj (Option.some.inj h)
    exact ⟨_, rfl, .null⟩
  · obtain ⟨rfl, rfl⟩ := Prod.mk.inj (Option.some.inj h)
    exact ⟨_, rfl, .yes⟩
  · obtain ⟨rfl, rfl⟩ := Prod.mk.inj (Option.some.inj h)
    exact ⟨_, rfl, .no⟩
  · exact absurd h (by simp)

lemma scalar_sound {text : List Char} {v : Value} (h : scalar text = .ok (v, rest)) :
    ∃ e, text = e ++ rest ∧ DenotesScalar e v := by
  rw [scalar.eq_def] at h
  split at h
  · next text =>
    rcases hread : Text.read text with f | ⟨t, rest'⟩
    · simp [hread] at h
    · obtain ⟨rfl, rfl⟩ : .text t = v ∧ rest' = rest := by simpa [hread] using h
      obtain ⟨e, t, rfl, he, rfl⟩ := Text.read_sound hread
      exact ⟨_, by simp, .text he⟩
  · next c more hquote =>
    split at h
    · obtain ⟨l, hl, heq, hv⟩ := Number.read_sound h
      exact ⟨_, heq, .number hl hv⟩
    · split at h
      · next r hword =>
        obtain rfl : r = (v, rest) := by simpa using h
        exact word?_sound hword
      · exact absurd h (by simp)
  · exact absurd h (by simp)

lemma Number.Literal.IsWritten.exists_chars {l : Number.Literal} (h : l.IsWritten)
    (rest : List Char) :
    ∃ c more, l.chars ++ rest = c :: more ∧ (c = '-' ∨ Numeral.isDigit c = true) := by
  rcases hnegative : l.negative with _ | _
  · obtain ⟨c, more, heq, hc⟩ := h.head? rest
    exact ⟨c, more, by simp [chars, hnegative, heq], .inr hc⟩
  · exact ⟨'-', _, by rw [chars, hnegative, if_pos rfl, List.cons_append], .inl rfl⟩

/-- What begins a number is neither space nor a quote nor a bracket. -/
lemma ne_of_begins_number {c d : Char} (hc : c = '-' ∨ Numeral.isDigit c = true)
    (hd : d ∈ [' ', '\n', '\t', '\r', '"', '[', ']', '\x7b', '\x7d']) : c ≠ d := by
  have hall : ∀ d ∈ [' ', '\n', '\t', '\r', '"', '[', ']', '\x7b', '\x7d'],
      ¬ (d = '-' ∨ Numeral.isDigit d = true) := by simp [Numeral.isDigit]
  rintro rfl
  exact hall c hd hc

lemma DenotesScalar.scalar_eq {e : List Char} {v : Value} (h : DenotesScalar e v)
    (hrest : Stops rest) : scalar (e ++ rest) = .ok (v, rest) := by
  cases h with
  | null => simp [scalar, word?, Numeral.isDigit]
  | yes => simp [scalar, word?, Numeral.isDigit]
  | no => simp [scalar, word?, Numeral.isDigit]
  | text h =>
    rw [List.cons_append, List.append_assoc, List.singleton_append, scalar, h.read_eq]
  | @number l v h hv =>
    have hread := h.read_eq hrest
    obtain ⟨c, more, heq, hc⟩ := h.exists_chars rest
    have hquote : c ≠ '"' := ne_of_begins_number hc (by decide)
    have hnumber : (c == '-' || Numeral.isDigit c) = true := by simpa using hc
    rw [heq] at hread ⊢
    rw [scalar, if_pos hnumber, hread, hv]
    · rfl
    · exact hquote

/-- Where an array or an object cannot begin, a value is a scalar. -/
def OpensNone (text : List Char) : Prop := ∀ c ∈ text.head?, c ≠ '[' ∧ c ≠ '\x7b'

lemma OpensNone.append {e : List Char} (h : OpensNone e) (he : IsSolid e) (rest : List Char) :
    OpensNone (e ++ rest) := by
  obtain ⟨c, more, rfl, -⟩ := he
  exact h

lemma DenotesScalar.begins {e : List Char} {v : Value} (h : DenotesScalar e v) :
    IsSolid e ∧ OpensNone e := by
  have hfrom : ∀ c more, isSpace c = false → c ∉ ['[', ']', '\x7b', '\x7d'] →
      IsSolid (c :: more) ∧ OpensNone (c :: more) := by
    intro c more hspace hnot
    have hne : c ≠ '[' ∧ c ≠ ']' ∧ c ≠ '\x7b' ∧ c ≠ '\x7d' := by simpa using hnot
    refine ⟨⟨c, more, rfl, hspace, hne.2.1, hne.2.2.2⟩, ?_⟩
    rintro d ⟨⟩
    exact ⟨hne.1, hne.2.2.1⟩
  cases h with
  | null => exact hfrom _ _ (by decide) (by decide)
  | yes => exact hfrom _ _ (by decide) (by decide)
  | no => exact hfrom _ _ (by decide) (by decide)
  | text h => exact hfrom _ _ (by decide) (by decide)
  | @number l v h hv =>
    obtain ⟨c, more, heq, hc⟩ := h.exists_chars []
    rw [List.append_nil] at heq
    rw [heq]
    have hne : ∀ d ∈ [' ', '\n', '\t', '\r', '"', '[', ']', '\x7b', '\x7d'], c ≠ d :=
      fun d hd => ne_of_begins_number hc hd
    exact hfrom c more (by simp [isSpace, hne]) (by simp [hne])

lemma Denotes.isSolid {depth : Nat} {e : List Char} {v : Value} (h : Denotes depth e v) :
    IsSolid e := by
  cases depth with
  | zero => exact (DenotesScalar.begins h).1
  | succ depth =>
    rcases h with h | ⟨body, items, rfl, -⟩ | ⟨body, members, rfl, -⟩
    · exact h.begins.1
    · exact ⟨'[', _, rfl, by decide, by decide, by decide⟩
    · exact ⟨'\x7b', _, rfl, by decide, by decide, by decide⟩

lemma read_of_opensNone {text : List Char} (hopens : OpensNone (skipSpace text)) (depth : Nat) :
    Value.read depth text = scalar (skipSpace text) := by
  cases depth with
  | zero =>
    rw [Value.read]
    split
    · next hskip => exact absurd rfl (hopens '[' (by simp [hskip])).1
    · next hskip => exact absurd rfl (hopens '\x7b' (by simp [hskip])).2
    · rfl
  | succ depth =>
    rw [Value.read]
    split
    · next hskip => exact absurd rfl (hopens '[' (by simp [hskip])).1
    · next hskip => exact absurd rfl (hopens '\x7b' (by simp [hskip])).2
    · rfl

/-- A scalar is read at every depth. -/
lemma DenotesScalar.read_eq {e : List Char} {v : Value} (h : DenotesScalar e v)
    (hrest : Stops rest) (depth : Nat) : Value.read depth (e ++ rest) = .ok (v, rest) := by
  obtain ⟨hsolid, hopens⟩ := h.begins
  have hskip : skipSpace (e ++ rest) = e ++ rest := hsolid.skipSpace_append rest
  have hnone : OpensNone (skipSpace (e ++ rest)) := by
    rw [hskip]
    exact hopens.append hsolid rest
  rw [read_of_opensNone hnone, hskip, h.scalar_eq hrest]

/-- Space in front of a value does not matter. -/
lemma read_append {space : List Char} (h : IsBlank space) (depth : Nat) (text : List Char) :
    Value.read depth (space ++ text) = Value.read depth text := by
  cases depth <;> rw [Value.read, Value.read, skipSpace_append h]

/-! ### Arrays and objects -/

/-- A reader of values takes just the texts that a relation has. -/
structure Takes (item : List Char → Except Fault (Value × List Char))
    (R : List Char → Value → Prop) : Prop where
  /-- A value does not begin like the space around it. -/
  solid : ∀ {e v}, R e v → IsSolid e
  /-- What is read is in the relation. -/
  sound : ∀ {text v rest}, item text = .ok (v, rest) → ∃ e, skipSpace text = e ++ rest ∧ R e v
  /-- What is in the relation is read. -/
  complete : ∀ {e v rest}, R e v → Stops rest → item (e ++ rest) = .ok (v, rest)

variable {item : List Char → Except Fault (Value × List Char)} {R : List Char → Value → Prop}

lemma Takes.steps_pushItem (h : Takes item R) :
    Steps R (fun items v => some (v :: items)) (pushItem item) where
  solid := h.solid
  sound := by
    intro s t text rest hread
    rcases hitem : item text with f | ⟨v, rest'⟩
    · simp [pushItem, hitem, bind, Except.bind] at hread
    · obtain ⟨rfl, rfl⟩ : v :: s = t ∧ rest' = rest := by
        simpa [pushItem, hitem, bind, Except.bind, pure, Except.pure] using hread
      obtain ⟨e, htext, he⟩ := h.sound hitem
      exact ⟨e, v, htext, he, rfl⟩
  complete := by
    intro s t e v rest he hput hrest
    obtain rfl : v :: s = t := by simpa using hput
    simp [pushItem, h.complete he hrest, bind, Except.bind, pure, Except.pure]

lemma memberName_sound {text s : List Char} {name : String}
    (h : memberName text = .ok (name, s)) :
    ∃ e t, text = '"' :: (e ++ '"' :: s) ∧ Text.Denotes e t ∧ name = String.ofList t := by
  rw [memberName.eq_def] at h
  split at h
  · obtain ⟨e, t, rfl, he, rfl⟩ := Text.read_sound h
    exact ⟨e, t, rfl, he, rfl⟩
  · exact absurd h (by simp)

lemma colon_sound {text s : List Char} (h : colon text = .ok s) :
    ∃ before more, text = before ++ ':' :: more ∧ IsBlank before ∧ s = skipSpace more := by
  obtain ⟨before, hbefore, htext⟩ := exists_blank_append_skipSpace text
  rw [colon] at h
  split at h
  · next more hskip =>
    rw [hskip] at htext
    exact ⟨before, more, htext, hbefore, by simpa [eq_comm] using h⟩
  · exact absurd h (by simp)

lemma colon_append {before after e : List Char} (hbefore : IsBlank before)
    (hafter : IsBlank after) (he : IsSolid e) (rest : List Char) :
    colon (before ++ ':' :: (after ++ (e ++ rest))) = .ok (e ++ rest) := by
  rw [colon, skipSpace_append hbefore, skipSpace_of_isSpace (by decide)]
  simp only [skipSpace_append hafter, he.skipSpace_append]

/-- A name, a colon and a value are a member. -/
lemma exists_member {text s s' e : List Char} {name : String} {v : Value}
    (hname : memberName text = .ok (name, s)) (hcolon : colon s = .ok s')
    (hvalue : skipSpace s' = e ++ rest) (he : R e v) :
    ∃ entry, skipSpace text = entry ++ rest ∧ DenotesMember R entry (name, v) := by
  obtain ⟨spelled, t, rfl, ht, rfl⟩ := memberName_sound hname
  obtain ⟨before, more, rfl, hbefore, rfl⟩ := colon_sound hcolon
  obtain ⟨after, hafter, hmore⟩ := exists_blank_append_skipSpace more
  obtain ⟨again, hagain, hskip⟩ := exists_blank_append_skipSpace (skipSpace more)
  rw [hvalue] at hskip
  refine ⟨_, ?_, .mk ht hbefore (isBlank_append hafter hagain) he⟩
  rw [skipSpace_of_isSpace (by decide), hmore, hskip]
  simp

/-- A member is read as its name, and behind the colon stands its value. -/
lemma DenotesMember.exists_value (hsolid : ∀ {e v}, R e v → IsSolid e) {entry : List Char}
    {m : String × Value} (h : DenotesMember R entry m) (rest : List Char) :
    ∃ s e, memberName (entry ++ rest) = .ok (m.1, s) ∧ colon s = .ok (e ++ rest) ∧ R e m.2 := by
  obtain ⟨hname, hbefore, hafter, he⟩ := h
  refine ⟨_, _, ?_, colon_append hbefore hafter (hsolid he) rest, he⟩
  simp only [List.cons_append, List.append_assoc, memberName, hname.read_eq]

lemma DenotesMember.isSolid {entry : List Char} {m : String × Value}
    (h : DenotesMember R entry m) : IsSolid entry := by
  cases h
  exact ⟨'"', _, rfl, by decide, by decide, by decide⟩

lemma Takes.steps_pushMember (h : Takes item R) :
    Steps (DenotesMember R) (fun members m => some (m :: members)) (pushMember item) where
  solid := DenotesMember.isSolid
  sound := by
    intro s t text rest hread
    rcases hname : memberName text with f | ⟨name, text'⟩
    · simp [pushMember, hname, bind, Except.bind] at hread
    · rcases hcolon : colon text' with f | text''
      · simp [pushMember, hname, hcolon, bind, Except.bind] at hread
      · rcases hitem : item text'' with f | ⟨v, rest'⟩
        · simp [pushMember, hname, hcolon, hitem, bind, Except.bind] at hread
        · obtain ⟨rfl, rfl⟩ : (name, v) :: s = t ∧ rest' = rest := by
            simpa [pushMember, hname, hcolon, hitem, bind, Except.bind, pure, Except.pure]
              using hread
          obtain ⟨e, hvalue, he⟩ := h.sound hitem
          obtain ⟨entry, htext, hentry⟩ := exists_member hname hcolon hvalue he
          exact ⟨entry, (name, v), htext, hentry, rfl⟩
  complete := by
    intro s t entry m rest hentry hput hrest
    obtain rfl : m :: s = t := by simpa using hput
    obtain ⟨text, e, hname, hcolon, he⟩ := hentry.exists_value h.solid rest
    simp [pushMember, hname, hcolon, h.complete he hrest, bind, Except.bind, pure, Except.pure]

lemma foldlM_push (as before : List α) :
    as.foldlM (fun bs a => some (a :: bs)) before = some (as.reverse ++ before) := by
  induction as generalizing before with
  | nil => rfl
  | cons a as ih => simp [ih]

/-- **The reader of values takes just the texts of the grammar**, as far as the arrays and objects
inside each other are no more than it allows. -/
theorem takes_read (depth : Nat) : Takes (Value.read depth) (Denotes depth) := by
  induction depth with
  | zero =>
    refine ⟨Denotes.isSolid, ?_, ?_⟩
    · intro text v rest h
      rw [Value.read] at h
      split at h
      · exact absurd h (by simp)
      · exact absurd h (by simp)
      · exact scalar_sound h
    · intro e v rest h hrest
      exact DenotesScalar.read_eq h hrest 0
  | succ depth ih =>
    refine ⟨Denotes.isSolid, ?_, ?_⟩
    · intro text v rest h
      rw [Value.read] at h
      split at h
      · next text' hskip =>
        split at h
        · exact absurd h (by simp)
        · next items rest' hfold =>
          obtain ⟨rfl, rfl⟩ : .array items.reverse = v ∧ rest' = rest := by simpa using h
          obtain ⟨body, as, rfl, hbody, has⟩ := ih.steps_pushItem.foldEntries_sound hfold
          obtain rfl : as.reverse = items := by simpa [foldlM_push] using has
          exact ⟨_, by simpa using hskip, .inr (.inl ⟨body, as, rfl, by simp, hbody⟩)⟩
      · next text' hskip =>
        split at h
        · exact absurd h (by simp)
        · next members rest' hfold =>
          obtain ⟨rfl, rfl⟩ : .object members.reverse = v ∧ rest' = rest := by simpa using h
          obtain ⟨body, as, rfl, hbody, has⟩ := ih.steps_pushMember.foldEntries_sound hfold
          obtain rfl : as.reverse = members := by simpa [foldlM_push] using has
          exact ⟨_, by simpa using hskip, .inr (.inr ⟨body, as, rfl, by simp, hbody⟩)⟩
      · obtain ⟨e, htext, he⟩ := scalar_sound h
        exact ⟨e, htext, .inl he⟩
    · intro e v rest h hrest
      rcases h with h | ⟨body, items, rfl, rfl, hbody⟩ | ⟨body, members, rfl, rfl, hbody⟩
      · exact h.read_eq hrest (depth + 1)
      · have hread := ih.steps_pushItem.foldEntries_complete (.inl rfl) hbody
          (foldlM_push items []) rest
        rw [Value.read, List.cons_append, skipSpace_of_isSpace (by decide), List.append_assoc,
          List.singleton_append]
        simp only [hread]
        simp
      · have hread := ih.steps_pushMember.foldEntries_complete (.inr rfl) hbody
          (foldlM_push members []) rest
        rw [Value.read, List.cons_append, skipSpace_of_isSpace (by decide), List.append_assoc,
          List.singleton_append]
        simp only [hread]
        simp

/-! ## Documents -/

lemma finish_eq_ok_iff {r : α × List Char} {a : α} :
    finish r = .ok a ↔ r.1 = a ∧ IsBlank r.2 := by
  rw [finish, ← skipSpace_eq_nil_iff]
  by_cases hblank : skipSpace r.2 = [] <;> simp [hblank]

lemma stops_of_isBlank (h : IsBlank rest) : Stops rest := by
  simpa using stops_append h stops_nil

/-- **A document is read as the value that it denotes**, and nothing else is read. -/
theorem parse_eq_ok_iff (s : List Char) (v : Value) : Value.parse s = .ok v ↔ IsDocument s v := by
  constructor
  · intro h
    rw [Value.parse] at h
    split at h
    · exact absurd h (by simp)
    · next r hread =>
      obtain ⟨rfl, hafter⟩ := finish_eq_ok_iff.1 h
      obtain ⟨e, hskip, he⟩ := (takes_read greatestDepth).sound hread
      obtain ⟨before, hbefore, hs⟩ := exists_blank_append_skipSpace s
      exact ⟨before, e, r.2, by rw [← hskip, ← hs], hbefore, hafter, he⟩
  · rintro ⟨before, e, after, rfl, hbefore, hafter, he⟩
    have hread := (takes_read greatestDepth).complete he (stops_of_isBlank hafter)
    rw [Value.parse, read_append hbefore, hread]
    exact finish_eq_ok_iff.2 ⟨rfl, hafter⟩

/-- A document denotes one value. -/
lemma IsDocument.unique {s : List Char} {v w : Value} (hv : IsDocument s v)
    (hw : IsDocument s w) : v = w := by
  have hread := (parse_eq_ok_iff s v).2 hv
  rw [(parse_eq_ok_iff s w).2 hw] at hread
  exact (Except.ok.inj hread).symm

end SharedTerminal.Json
