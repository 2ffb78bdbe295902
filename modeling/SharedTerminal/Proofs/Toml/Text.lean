import SharedTerminal.Toml.Text
import Mathlib.Data.List.Basic
import Mathlib.Tactic.Common

/-!
# TOML strings come back

A text is written in one of four ways, and each is read to its end.  Where a backslash begins an
escape, one character is written as one piece that is read as this character (`basic?_piece`,
`longBasic?_piece`).  Between three quotes up to two of them may stand in a row, so how a quote is
read depends on what follows; the invariant of `longBasic?_longBody` and of `longLiteral?_text` is
about the quotes that the reader has before it and has not yet made up its mind about.

The main statement is `read?_encode`.
-/

namespace SharedTerminal.Toml.Text

variable {c quote : Char} {s : List Char} {q : Nat}

/-! ## Characters -/

lemma coded?_upperHexFixed :
    ∀ n < 0x80, coded? (Numeral.upperHexFixed 4 n) = some (Char.ofNat n) := by
  decide +kernel

/-- Only controls cannot stand for themselves. -/
lemma toNat_lt_of_isPlain_eq_false (h : isPlain c = false) : c.toNat < 0x80 := by
  simp only [isPlain, Bool.or_eq_false_iff, Bool.and_eq_false_iff, decide_eq_false_iff_not,
    bne_eq_false_iff_eq] at h
  omega

/-- How an escape is spelled, and what it is read as. -/
lemma escape_cases (h : isEscaped c = true) :
    (∃ l, escape c = ['\\', l] ∧ letter? l = some c ∧ l ≠ 'u' ∧ l ≠ 'U') ∨
    ∃ a b d e, escape c = ['\\', 'u', a, b, d, e] ∧ coded? [a, b, d, e] = some c := by
  by_cases hletter : c ∈ ['\x08', '\t', '\n', '\x0c', '\r', '"', '\\']
  · left
    simp only [List.mem_cons, List.not_mem_nil, or_false] at hletter
    rcases hletter with rfl | rfl | rfl | rfl | rfl | rfl | rfl <;>
      exact ⟨_, rfl, rfl, by decide, by decide⟩
  · right
    simp only [List.mem_cons, List.not_mem_nil, or_false, not_or] at hletter
    have hcode : escape c = ['\\', 'u'] ++ Numeral.upperHexFixed 4 c.toNat := by
      rw [escape.eq_def]
      split <;> simp_all
    have hcontrol : isPlain c = false := by simpa [isEscaped, hletter] using h
    refine ⟨_, _, _, _, hcode, ?_⟩
    have hread := coded?_upperHexFixed c.toNat (toNat_lt_of_isPlain_eq_false hcontrol)
    rw [Char.ofNat_toNat] at hread
    exact hread

/-- What stands for itself between double quotes is neither a quote nor a backslash. -/
lemma isEscaped_eq_false_iff :
    isEscaped c = false ↔ c ≠ '\t' ∧ c ≠ '"' ∧ c ≠ '\\' ∧ isPlain c = true := by
  simp [isEscaped, and_assoc]

lemma ne_of_isPlain {b : Char} (hc : isPlain c = true) (hb : isPlain b = false) : c ≠ b := by
  rintro rfl
  rw [hc] at hb
  exact absurd hb (by decide)

/-- The spelling of a character between double quotes. -/
def piece (c : Char) : List Char := if isEscaped c then escape c else [c]

lemma exists_piece (c : Char) :
    ∃ b more, piece c = b :: more ∧ b ≠ '"' ∧ b ≠ '\r' ∧ (b = '\n' → c = '\n') := by
  rw [piece]
  split
  · next he =>
    rcases escape_cases he with ⟨l, heq, -⟩ | ⟨a, b, d, e, heq, -⟩
    · exact ⟨_, _, heq, by decide, by decide, by simp⟩
    · exact ⟨_, _, heq, by decide, by decide, by simp⟩
  · next he =>
    obtain ⟨-, hquote, -, hplain⟩ := isEscaped_eq_false_iff.1 (by simpa using he)
    exact ⟨c, [], rfl, hquote, ne_of_isPlain hplain (by decide), id⟩

/-! ## One line -/

lemma basic?_piece (c : Char) (rest : List Char) :
    basic? (piece c ++ rest) = (basic? rest).map (cons c) := by
  rcases hc : isEscaped c with _ | _
  · obtain ⟨-, hquote, hslash, hplain⟩ := isEscaped_eq_false_iff.1 hc
    simp only [piece, hc, Bool.false_eq_true, if_false, List.singleton_append]
    rw [basic?, if_pos (by simp [hplain, hslash])]
    · exact hquote
    · exact fun _ _ _ _ _ heq => absurd heq hslash
    · exact fun _ _ _ _ _ _ _ _ _ heq => absurd heq hslash
    · exact fun _ _ heq => absurd heq hslash
  · simp only [piece, hc, if_true]
    rcases escape_cases hc with ⟨l, heq, hl, hu, hU⟩ | ⟨a, b, d, e, heq, hcode⟩
    · rw [heq, List.cons_append, List.singleton_append, basic?, hl]
      · cases basic? rest <;> rfl
      · exact fun _ _ _ _ _ hl => absurd hl hu
      · exact fun _ _ _ _ _ _ _ _ _ hl => absurd hl hU
    · rw [heq]
      simp only [List.cons_append, List.nil_append]
      rw [basic?, hcode]
      cases basic? rest <;> rfl

lemma basic?_text (s rest : List Char) :
    basic? (s.flatMap piece ++ '"' :: rest) = some (s, rest) := by
  induction s with
  | nil => rw [List.flatMap_nil, List.nil_append, basic?]
  | cons c s ih =>
    rw [List.flatMap_cons, List.append_assoc, basic?_piece, ih]
    rfl

lemma literal?_text (hs : ∀ c ∈ s, isPlain c = true ∧ c ≠ '\'') (rest : List Char) :
    literal? (s ++ '\'' :: rest) = some (s, rest) := by
  induction s with
  | nil => rw [List.nil_append, literal?]
  | cons c s ih =>
    obtain ⟨⟨hplain, hquote⟩, hs⟩ := List.forall_mem_cons.1 hs
    rw [List.cons_append, literal?, if_pos hplain, ih hs]
    · rfl
    · exact hquote

/-! ## Several lines -/

/-- Up to two quotes in front of the closing ones are read as part of the text. -/
lemma closing_replicate (hquote : quote ≠ '\n') (hq : q ≤ 2) (rest : List Char) :
    closing quote (List.replicate q quote ++ '\n' :: rest) =
      (List.replicate q quote, '\n' :: rest) := by
  obtain rfl | rfl | rfl : q = 0 ∨ q = 1 ∨ q = 2 := by omega
  · cases rest <;> simp [closing, hquote.symm]
  · simp [closing, hquote.symm]
  · simp [closing, List.replicate]

lemma replicate_append_cons (q : Nat) (c : Char) (rest : List Char) :
    List.replicate q c ++ c :: rest = List.replicate (q + 1) c ++ rest := by
  rw [List.replicate_succ', List.append_assoc, List.singleton_append]

/-- Quotes in front of the closing ones cannot be told from those behind them. -/
lemma replicate_append_closing (q : Nat) (c : Char) (rest : List Char) :
    List.replicate q c ++ c :: c :: c :: rest = c :: c :: c :: (List.replicate q c ++ rest) := by
  rw [replicate_append_cons, replicate_append_cons, replicate_append_cons]
  rfl

/-- If a quote is read as itself unless two more follow, then so are two quotes after which something
else comes. -/
lemma read_quotes {read : List Char → Option (List Char × List Char)}
    (hone : ∀ s, (∀ more, s ≠ quote :: quote :: more) →
      read (quote :: s) = (read s).map (cons quote))
    (hq : q ≤ 2) (hc : c ≠ quote) (rest : List Char) :
    read (List.replicate q quote ++ c :: rest) =
      (read (c :: rest)).map fun r => (List.replicate q quote ++ r.1, r.2) := by
  obtain rfl | rfl | rfl : q = 0 ∨ q = 1 ∨ q = 2 := by omega
  · simp
  · simp only [List.replicate, List.cons_append, List.nil_append]
    rw [hone _ (by simp [hc])]
    rfl
  · simp only [List.replicate, List.cons_append, List.nil_append]
    rw [hone _ (by simp [hc]), hone _ (by simp [hc]), Option.map_map]
    rfl

lemma longBasic?_quotes (hq : q ≤ 2) (hc : c ≠ '"') (rest : List Char) :
    longBasic? false (List.replicate q '"' ++ c :: rest) =
      (longBasic? false (c :: rest)).map fun r => (List.replicate q '"' ++ r.1, r.2) := by
  refine read_quotes (fun s hs => ?_) hq hc rest
  rw [longBasic?, if_neg (by decide), if_pos (by decide)]
  · exact fun more _ heq => hs more heq
  all_goals exact fun _ => by simp

lemma longLiteral?_quotes (hq : q ≤ 2) (hc : c ≠ '\'') (rest : List Char) :
    longLiteral? (List.replicate q '\'' ++ c :: rest) =
      (longLiteral? (c :: rest)).map fun r => (List.replicate q '\'' ++ r.1, r.2) := by
  refine read_quotes (fun s hs => ?_) hq hc rest
  rw [longLiteral?, if_pos (by decide)]
  · exact fun more _ heq => hs more heq
  all_goals exact fun _ => by simp

/-- The spelling of a character between three double quotes, unless it is a quote. -/
def longPiece (c : Char) : List Char := if c = '\n' then [c] else piece c

lemma longBody_cons (hc : c ≠ '"') (q : Nat) (s : List Char) :
    longBody q (c :: s) = longPiece c ++ longBody 0 s := by
  rw [longBody, if_neg hc, longPiece, piece]
  split
  · rfl
  · split <;> rfl

lemma longBasic?_escape (hc : isEscaped c = true) (rest : List Char) :
    longBasic? false (escape c ++ rest) = (longBasic? false rest).map (cons c) := by
  rcases escape_cases hc with ⟨l, heq, hl, hu, hU⟩ | ⟨a, b, d, e, heq, hcode⟩
  · rw [heq, List.cons_append, List.singleton_append, longBasic?, hl]
    · exact fun _ _ _ _ _ hl => absurd hl hu
    · exact fun _ _ _ _ _ _ _ _ _ hl => absurd hl hU
  · rw [heq]
    simp only [List.cons_append, List.nil_append]
    rw [longBasic?, hcode]
    cases longBasic? false rest <;> rfl

lemma longBasic?_longPiece (hc : c ≠ '"') (rest : List Char) :
    longBasic? false (longPiece c ++ rest) = (longBasic? false rest).map (cons c) := by
  by_cases hline : c = '\n'
  · subst hline
    rw [longPiece, if_pos rfl, List.singleton_append, longBasic?, if_pos (Or.inl rfl)]
    · rfl
    all_goals exact fun _ => by simp
  · rw [longPiece, if_neg hline, piece]
    rcases he : isEscaped c with _ | _
    · obtain ⟨-, -, hslash, hplain⟩ := isEscaped_eq_false_iff.1 he
      have hreturn : c ≠ '\r' := ne_of_isPlain hplain (by decide)
      rw [if_neg (by decide), List.singleton_append, longBasic?]
      · split
        · rfl
        · rw [if_pos (by simp [hplain, hslash])]
      · exact fun _ heq => absurd heq hc
      · exact fun _ _ _ _ _ heq => absurd heq hslash
      · exact fun _ _ _ _ _ _ _ _ _ heq => absurd heq hslash
      · exact fun _ _ heq => absurd heq hslash
      · exact fun _ heq => absurd heq hreturn
    · rw [if_pos rfl]
      exact longBasic?_escape he rest

/-- No spelling begins with a quote or with the first half of a line end. -/
lemma exists_longPiece (hc : c ≠ '"') :
    ∃ b more, longPiece c = b :: more ∧ b ≠ '"' ∧ b ≠ '\r' ∧ (b = '\n' → c = '\n') := by
  by_cases hline : c = '\n'
  · exact ⟨c, [], by rw [longPiece, if_pos hline], hc, by simp [hline], id⟩
  · obtain ⟨b, more, hpiece, hquote, hreturn, hsame⟩ := exists_piece c
    exact ⟨b, more, by rw [longPiece, if_neg hline, hpiece], hquote, hreturn, hsame⟩

/-- **A text between three double quotes is read to its end.**  The induction is on the text; the
reader has up to two quotes before it that are part of the text and were written as themselves. -/
theorem longBasic?_longBody (hq : q ≤ 2) (s rest : List Char) :
    longBasic? false (List.replicate q '"' ++ (longBody q s ++ '"' :: '"' :: '"' :: '\n' :: rest)) =
      some (List.replicate q '"' ++ s, '\n' :: rest) := by
  induction s generalizing q with
  | nil =>
    rw [longBody, List.nil_append, replicate_append_closing, longBasic?,
      closing_replicate (by decide) hq, List.append_nil]
  | cons c s ih =>
    by_cases hc : c = '"'
    · subst hc
      by_cases hfull : q = 2
      · -- The third quote in a row is escaped.
        subst hfull
        have hbody : longBody 2 ('"' :: s) = '\\' :: ('"' :: longBody 0 s) := rfl
        have hescape : '\\' :: '"' :: (longBody 0 s ++ '"' :: '"' :: '"' :: '\n' :: rest) =
            escape '"' ++ (longBody 0 s ++ '"' :: '"' :: '"' :: '\n' :: rest) := rfl
        have hrest := ih (q := 0) (by decide)
        rw [List.replicate_zero, List.nil_append, List.nil_append] at hrest
        rw [hbody, List.cons_append, List.cons_append, longBasic?_quotes hq (by decide), hescape,
          longBasic?_escape (by decide), hrest]
        rfl
      · -- One more quote waits.
        have hbody : longBody q ('"' :: s) = '"' :: longBody (q + 1) s := by
          rw [longBody, if_pos rfl, if_neg hfull]
        rw [hbody, List.cons_append, replicate_append_cons, replicate_append_cons]
        exact ih (by omega)
    · obtain ⟨b, more, hpiece, hb, -⟩ := exists_longPiece hc
      have hrest := ih (q := 0) (by decide)
      rw [List.replicate_zero, List.nil_append, List.nil_append] at hrest
      have hread := longBasic?_longPiece hc (longBody 0 s ++ '"' :: '"' :: '"' :: '\n' :: rest)
      rw [hpiece, List.cons_append] at hread
      rw [longBody_cons hc, hpiece, List.append_assoc, List.cons_append, longBasic?_quotes hq hb,
        hread, hrest]
      rfl

/-- The longest run is no shorter than the one that was begun before. -/
lemma le_longestRun (c : Char) (q : Nat) (s : List Char) : q ≤ longestRun c q s := by
  induction s generalizing q with
  | nil => exact Nat.le_refl q
  | cons d s ih =>
    rw [longestRun]
    split
    · exact Nat.le_trans (Nat.le_succ q) (ih (q + 1))
    · exact Nat.le_max_left _ _

/-- **A text between three single quotes is read to its end**, if no three of them are in it. -/
theorem longLiteral?_text (hs : ∀ c ∈ s, c = '\n' ∨ isPlain c = true)
    (hq : longestRun '\'' q s ≤ 2) (rest : List Char) :
    longLiteral? (List.replicate q '\'' ++ (s ++ '\'' :: '\'' :: '\'' :: '\n' :: rest)) =
      some (List.replicate q '\'' ++ s, '\n' :: rest) := by
  have hle : q ≤ 2 := Nat.le_trans (le_longestRun _ q s) hq
  induction s generalizing q with
  | nil =>
    rw [List.nil_append, replicate_append_closing, longLiteral?,
      closing_replicate (by decide) hle, List.append_nil]
  | cons c s ih =>
    obtain ⟨hc, htail⟩ := List.forall_mem_cons.1 hs
    by_cases hquote : c = '\''
    · subst hquote
      rw [longestRun, if_pos rfl] at hq
      rw [List.cons_append, replicate_append_cons, replicate_append_cons]
      exact ih htail hq (Nat.le_trans (le_longestRun _ _ s) hq)
    · rw [longestRun, if_neg hquote] at hq
      have hrest := ih (q := 0) htail (Nat.le_trans (Nat.le_max_right _ _) hq) (by decide)
      rw [List.replicate_zero, List.nil_append, List.nil_append] at hrest
      have hreturn : c ≠ '\r' := by
        rcases hc with rfl | hplain
        · decide
        · exact ne_of_isPlain hplain (by decide)
      rw [List.cons_append, longLiteral?_quotes hle hquote, longLiteral?, if_pos hc, hrest]
      · rfl
      · exact fun _ heq => absurd heq hquote
      · exact fun _ heq => absurd heq hreturn

/-! ## All four ways -/

lemma read?_encodeBasic (s rest : List Char) :
    read? (encodeBasic s ++ '\n' :: rest) = some (String.ofList s, '\n' :: rest) := by
  have hspelling : encodeBasic s ++ '\n' :: rest =
      '"' :: (s.flatMap piece ++ '"' :: '\n' :: rest) := by
    rw [encodeBasic, List.append_assoc]
    rfl
  have hread := basic?_text s ('\n' :: rest)
  rw [hspelling, read?, hread]
  · rfl
  · -- Two quotes are an empty text, unless a third one follows.
    intro more heq
    cases s with
    | nil => simp at heq
    | cons c s =>
      obtain ⟨b, tail, hpiece, hquote, -⟩ := exists_piece c
      rw [List.flatMap_cons, hpiece] at heq
      exact hquote (List.cons.inj heq).1

lemma read?_encodeLiteral (hs : ∀ c ∈ s, isPlain c = true ∧ c ≠ '\'') (rest : List Char) :
    read? (encodeLiteral s ++ '\n' :: rest) = some (String.ofList s, '\n' :: rest) := by
  have hspelling : encodeLiteral s ++ '\n' :: rest = '\'' :: (s ++ '\'' :: '\n' :: rest) := by
    simp [encodeLiteral]
  rw [hspelling, read?, literal?_text hs]
  · rfl
  · intro more heq
    cases s with
    | nil => simp at heq
    | cons c s => exact (hs c List.mem_cons_self).2 (List.cons.inj heq).1

/-- The line end in front of a text of several lines is dropped, and there is no other. -/
lemma dropLineEnd_leading {body : List Char} {b : Char} {more : List Char}
    (hbody : body = b :: more) (hreturn : b ≠ '\r') (hline : b = '\n' → s.contains '\n' = true) :
    dropLineEnd (leading s ++ body) = body := by
  rcases hs : s.contains '\n' with _ | _
  · have hb : b ≠ '\n' := by
      intro heq
      rw [hline heq] at hs
      exact absurd hs (by decide)
    have hnone : afterLineEnd? (b :: more) = none := by
      rw [afterLineEnd?]
      · exact fun _ heq => hb (List.cons.inj heq).1
      · exact fun _ heq => hreturn (List.cons.inj heq).1
    rw [leading, hs, if_neg (by decide), List.nil_append, hbody, dropLineEnd, hnone,
      Option.getD_none]
  · rw [leading, hs, if_pos rfl]
    rfl

lemma read?_encodeLongBasic (s rest : List Char) :
    read? (encodeLongBasic s ++ '\n' :: rest) = some (String.ofList s, '\n' :: rest) := by
  have hspelling : encodeLongBasic s ++ '\n' :: rest =
      '"' :: '"' :: '"' :: (leading s ++ (longBody 0 s ++ '"' :: '"' :: '"' :: '\n' :: rest)) := by
    simp [encodeLongBasic]
  have hdrop : dropLineEnd (leading s ++ (longBody 0 s ++ '"' :: '"' :: '"' :: '\n' :: rest)) =
      longBody 0 s ++ '"' :: '"' :: '"' :: '\n' :: rest := by
    cases s with
    | nil => exact dropLineEnd_leading (b := '"') rfl (by decide) (by decide)
    | cons c s =>
      by_cases hc : c = '"'
      · subst hc
        exact dropLineEnd_leading (b := '"') rfl (by decide) (by simp)
      · obtain ⟨b, more, hpiece, -, hreturn, hsame⟩ := exists_longPiece hc
        rw [longBody_cons hc, hpiece, List.cons_append, List.cons_append]
        exact dropLineEnd_leading rfl hreturn fun hb => by simp [hsame hb]
  have hread := longBasic?_longBody (q := 0) (by decide) s rest
  rw [List.replicate_zero, List.nil_append, List.nil_append] at hread
  rw [hspelling, read?, hdrop, hread]
  rfl

lemma read?_encodeLongLiteral (hs : ∀ c ∈ s, c = '\n' ∨ isPlain c = true)
    (hrun : longestRun '\'' 0 s ≤ 2) (rest : List Char) :
    read? (encodeLongLiteral s ++ '\n' :: rest) = some (String.ofList s, '\n' :: rest) := by
  have hspelling : encodeLongLiteral s ++ '\n' :: rest =
      '\'' :: '\'' :: '\'' :: (leading s ++ (s ++ '\'' :: '\'' :: '\'' :: '\n' :: rest)) := by
    simp [encodeLongLiteral]
  have hdrop : dropLineEnd (leading s ++ (s ++ '\'' :: '\'' :: '\'' :: '\n' :: rest)) =
      s ++ '\'' :: '\'' :: '\'' :: '\n' :: rest := by
    cases s with
    | nil => exact dropLineEnd_leading (b := '\'') rfl (by decide) (by decide)
    | cons c s =>
      refine dropLineEnd_leading rfl ?_ fun hb => by simp [hb]
      rcases hs c List.mem_cons_self with rfl | hplain
      · decide
      · exact ne_of_isPlain hplain (by decide)
  have hread := longLiteral?_text hs hrun rest
  rw [List.replicate_zero, List.nil_append, List.nil_append] at hread
  rw [hspelling, read?, hdrop, hread]
  rfl

/-- A character of which there is no run does not occur. -/
lemma notMem_of_longestRun_eq_zero (h : longestRun c 0 s = 0) : c ∉ s := by
  induction s with
  | nil => simp
  | cons d s ih =>
    rw [longestRun] at h
    split at h
    · have hle : 0 + 1 ≤ longestRun c (0 + 1) s := le_longestRun c (0 + 1) s
      omega
    · next hne =>
      have hrest : longestRun c 0 s = 0 := by omega
      simp [Ne.symm hne, ih hrest]

/-- **A text comes back**, whichever way it is written. -/
theorem read?_encode (s rest : List Char) :
    read? (encode s ++ '\n' :: rest) = some (String.ofList s, '\n' :: rest) := by
  -- What needs no escape is a line end, or stands for itself.
  have hplain : s.any needsEscape = false → ∀ c ∈ s, c = '\n' ∨ isPlain c = true := by
    intro hnone c hc
    have hfree := List.any_eq_false.1 hnone c hc
    by_cases hline : c = '\n'
    · exact Or.inl hline
    · right
      simpa [needsEscape, hline] using hfree
  rw [encode]
  split
  · exact read?_encodeBasic s rest
  · split
    · next h =>
      simp only [Bool.and_eq_true, Bool.not_eq_true', decide_eq_true_eq] at h
      obtain ⟨⟨hescapes, hlines⟩, hsingle⟩ := h
      refine read?_encodeLiteral (fun c hc => ⟨?_, ?_⟩) rest
      · refine (hplain hescapes c hc).resolve_left ?_
        rintro rfl
        simp [hc] at hlines
      · rintro rfl
        exact notMem_of_longestRun_eq_zero hsingle hc
    · split
      · exact read?_encodeLongBasic s rest
      · split
        · next h =>
          simp only [Bool.and_eq_true, Bool.not_eq_true', decide_eq_true_eq] at h
          exact read?_encodeLongLiteral (hplain h.1) h.2 rest
        · split
          · exact read?_encodeLongBasic s rest
          · exact read?_encodeBasic s rest

/-- A text is written with a quote at its front. -/
lemma exists_encode (s : List Char) :
    ∃ c more, encode s = c :: more ∧ (c = '"' ∨ c = '\'') := by
  rw [encode]
  split
  · exact ⟨'"', _, rfl, Or.inl rfl⟩
  · split
    · exact ⟨'\'', _, rfl, Or.inr rfl⟩
    · split
      · exact ⟨'"', _, rfl, Or.inl rfl⟩
      · split
        · exact ⟨'\'', _, rfl, Or.inr rfl⟩
        · split
          · exact ⟨'"', _, rfl, Or.inl rfl⟩
          · exact ⟨'"', _, rfl, Or.inl rfl⟩

end SharedTerminal.Toml.Text
