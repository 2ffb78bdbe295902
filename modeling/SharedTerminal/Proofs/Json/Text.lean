import SharedTerminal.Json.Text
import Mathlib.Data.List.Basic
import Mathlib.Tactic.Common

/-!
# JSON strings come back

Every character is spelled by a letter after a backslash, by a code unit that is no surrogate, or by
itself (`escape_cases`), and either way as one piece (`exists_isSpelledBy`).  So a reader that
stands behind the opening quote of a text finds that text, and stops behind its closing quote
(`read_encode`).  Nothing in the spelling is a control.
-/

namespace SharedTerminal.Json.Text

variable {c : Char}

/-- How a character is spelled. -/
lemma escape_cases (c : Char) :
    (∃ l, escape c = ['\\', l] ∧ letter? l = some c ∧ l ≠ 'u' ∧ 0x20 ≤ l.toNat) ∨
    (escape c = ['\\', 'u', '0', '0', Numeral.lowerDigit (c.toNat / 16),
      Numeral.lowerDigit (c.toNat % 16)] ∧ c.toNat < 0x20) ∨
    (escape c = [c] ∧ 0x20 ≤ c.toNat ∧ c ≠ '"' ∧ c ≠ '\\') := by
  by_cases hletter : c ∈ ['"', '\\', '\x08', '\t', '\n', '\x0c', '\r']
  · left
    simp only [List.mem_cons, List.not_mem_nil, or_false] at hletter
    rcases hletter with rfl | rfl | rfl | rfl | rfl | rfl | rfl <;>
      exact ⟨_, rfl, rfl, by decide, by decide⟩
  · right
    simp only [List.mem_cons, List.not_mem_nil, or_false, not_or] at hletter
    have hplain : escape c = if c.toNat < 0x20 then
        ['\\', 'u', '0', '0', Numeral.lowerDigit (c.toNat / 16),
          Numeral.lowerDigit (c.toNat % 16)] else [c] := by
      rw [escape.eq_def]
      split <;> simp_all
    rw [hplain]
    split
    · next h => exact Or.inl ⟨rfl, h⟩
    · next h => exact Or.inr ⟨rfl, by omega, hletter.1, hletter.2.1⟩

/-! ## Reading -/

/-- A piece is what the spelling of a character is read as, and it stands for that character. -/
structure IsSpelledBy (c : Char) (p : Piece) : Prop where
  /-- The spelling is read as the piece. -/
  reads : ∀ rest, pieces (escape c ++ rest) = (pieces rest).map fun r => (p :: r.1, r.2)
  /-- The piece stands for the character. -/
  joins : ∀ ps, join (p :: ps) = (join ps).map (c :: ·)

lemma unit?_control : ∀ n < 0x20,
    unit? '0' '0' (Numeral.lowerDigit (n / 16)) (Numeral.lowerDigit (n % 16)) = some n := by
  decide +kernel

/-- A code unit that is no surrogate stands alone. -/
lemma join_unit {n : Nat} (hn : n < 0xD800) (ps : List Piece) :
    join (.unit n :: ps) = (join ps).map (Char.ofNat n :: ·) := by
  have hleading : isLeading n = false := by simp [isLeading]; omega
  have htrailing : isTrailing n = false := by simp [isTrailing]; omega
  rcases ps with _ | ⟨_ | _, ps⟩ <;> simp [join, hleading, htrailing]

lemma exists_isSpelledBy (c : Char) : ∃ p, IsSpelledBy c p := by
  rcases escape_cases c with ⟨l, heq, hl, hu, -⟩ | ⟨heq, hc⟩ | ⟨heq, hc, hquote, hslash⟩
  · refine ⟨.char c, fun rest => ?_, fun ps => by rw [join]⟩
    rw [heq, List.cons_append, List.singleton_append, pieces, hl]
    · cases pieces rest <;> rfl
    · exact fun _ _ _ _ _ hl => absurd hl hu
  · refine ⟨.unit c.toNat, fun rest => ?_, fun ps => ?_⟩
    · rw [heq]
      simp only [List.cons_append, List.nil_append]
      rw [pieces, unit?_control _ hc]
      cases pieces rest <;> rfl
    · rw [join_unit (by omega), Char.ofNat_toNat]
  · refine ⟨.char c, fun rest => ?_, fun ps => by rw [join]⟩
    rw [heq, List.singleton_append, pieces, if_neg (by simpa [hslash] using hc)]
    · cases pieces rest <;> rfl
    · exact hquote
    · exact fun _ _ _ _ _ hc => absurd hc hslash
    · exact fun _ _ hc => absurd hc hslash

/-- The spelling of a text is read as pieces that stand for it. -/
lemma exists_pieces (text rest : List Char) :
    ∃ ps, pieces (text.flatMap escape ++ '"' :: rest) = some (ps, rest) ∧ join ps = some text := by
  induction text with
  | nil => exact ⟨[], by simp [pieces], by simp [join]⟩
  | cons c text ih =>
    obtain ⟨p, hp⟩ := exists_isSpelledBy c
    obtain ⟨ps, hps, hjoin⟩ := ih
    refine ⟨p :: ps, ?_, by rw [hp.joins, hjoin, Option.map_some]⟩
    rw [List.flatMap_cons, List.append_assoc, hp.reads, hps, Option.map_some]

lemma encode_eq (s : String) (rest : List Char) :
    encode s ++ rest = '"' :: (s.toList.flatMap escape ++ '"' :: rest) := by
  simp [encode]

/-- A text is read to its closing quote. -/
lemma read_encode (s : String) (rest : List Char) :
    read (s.toList.flatMap escape ++ '"' :: rest) = .ok (s, rest) := by
  obtain ⟨ps, hps, hjoin⟩ := exists_pieces s.toList rest
  simp only [read, hps, hjoin, String.ofList_toList]

/-! ## No controls -/

lemma le_toNat_lowerDigit : ∀ n < 16, 0x20 ≤ (Numeral.lowerDigit n).toNat := by
  decide

lemma le_toNat_of_mem_escape {x : Char} (hx : x ∈ escape c) : 0x20 ≤ x.toNat := by
  rcases escape_cases c with ⟨l, heq, -, -, hl⟩ | ⟨heq, hc⟩ | ⟨heq, hc, -⟩
  · rw [heq, List.mem_pair] at hx
    rcases hx with rfl | rfl
    · decide
    · exact hl
  · rw [heq] at hx
    have hhigh := le_toNat_lowerDigit (c.toNat / 16) (by omega)
    have hlow := le_toNat_lowerDigit (c.toNat % 16) (by omega)
    simp only [List.mem_cons, List.not_mem_nil, or_false] at hx
    rcases hx with rfl | rfl | rfl | rfl | rfl | rfl
    iterate 4 decide
    · exact hhigh
    · exact hlow
  · rw [heq, List.mem_singleton] at hx
    rwa [hx]

/-- No control character stands in a text as it is. -/
def IsPlain (s : List Char) : Prop := ∀ x ∈ s, 0x20 ≤ x.toNat

@[simp] lemma isPlain_nil : IsPlain [] := by simp [IsPlain]

@[simp] lemma isPlain_cons {s : List Char} : IsPlain (c :: s) ↔ 0x20 ≤ c.toNat ∧ IsPlain s := by
  simp [IsPlain]

@[simp] lemma isPlain_append {s t : List Char} : IsPlain (s ++ t) ↔ IsPlain s ∧ IsPlain t :=
  List.forall_mem_append

@[simp] lemma isPlain_encode (s : String) : IsPlain (encode s) := by
  intro x hx
  simp only [encode, List.mem_cons, List.cons_append, List.mem_append, List.mem_flatMap,
    List.not_mem_nil, or_false] at hx
  rcases hx with rfl | ⟨c, -, hc⟩ | rfl
  · decide
  · exact le_toNat_of_mem_escape hc
  · decide

end SharedTerminal.Json.Text
