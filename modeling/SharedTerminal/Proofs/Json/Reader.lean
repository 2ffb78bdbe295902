import SharedTerminal.Json.Decode
import SharedTerminal.Proofs.Json.Text
import Mathlib.Data.List.TakeDrop

/-!
# JSON values come back

What is written without space is read entry by entry.  `Folds` says that a step takes a list of
entries in turn, each up to the comma or bracket behind it, and then the reader of an array or an
object goes through all of them (`Folds.foldEntries_eq`).  Texts, numbers and objects are read up to
their ends (`read_encode`, `read_natural`, `read_object`).
-/

namespace SharedTerminal.Json

open Shape (Fault)

variable {c close : Char} {rest : List Char}

/-! ## Entries -/

/-- A text goes on with a comma or a closing bracket. -/
def IsDelimited (rest : List Char) : Prop :=
  ∃ c more, rest = c :: more ∧ (c = ',' ∨ c = ']' ∨ c = '\x7d')

lemma isDelimited_cons (hc : c = ',' ∨ c = ']' ∨ c = '\x7d') (more : List Char) :
    IsDelimited (c :: more) := ⟨c, more, rfl, hc⟩

lemma skipSpace_cons (hc : isSpace c = false) (rest : List Char) :
    skipSpace (c :: rest) = c :: rest := by
  simp [skipSpace, hc]

lemma isSpace_close (hclose : close = ']' ∨ close = '\x7d') : isSpace close = false := by
  rcases hclose with rfl | rfl <;> decide

/-- A step takes a list of entries in turn and brings one state to another. -/
inductive Folds {σ : Type} (close : Char) (step : σ → List Char → Except Fault (σ × List Char)) :
    σ → List (List Char) → σ → Prop where
  /-- There is no entry. -/
  | nil (s : σ) : Folds close step s [] s
  /-- The first entry begins with something else than space or the closing bracket. -/
  | cons {s t u : σ} {c : Char} {entry : List Char} {entries : List (List Char)}
    (hread : ∀ rest, IsDelimited rest → step s (c :: entry ++ rest) = .ok (t, rest))
    (hspace : isSpace c = false) (hclose : c ≠ close) (hrest : Folds close step t entries u) :
    Folds close step s ((c :: entry) :: entries) u

variable {σ : Type} {step : σ → List Char → Except Fault (σ × List Char)} {s t : σ}
  {entries : List (List Char)}

/-- Entries after the first one, each behind a comma. -/
def tail (entries : List (List Char)) : List Char := entries.flatMap (',' :: ·)

lemma intercalate_cons (entry : List Char) (entries : List (List Char)) :
    [','].intercalate (entry :: entries) = entry ++ tail entries := by
  induction entries generalizing entry with
  | nil => simp [tail]
  | cons next entries ih =>
    rw [List.intercalate_cons_cons, ih]
    simp [tail]

lemma length_le_length_tail (entries : List (List Char)) :
    entries.length ≤ (tail entries).length := by
  induction entries with
  | nil => simp
  | cons entry entries ih =>
    simp only [tail, List.flatMap_cons, List.length_append, List.length_cons] at ih ⊢
    omega

lemma isDelimited_tail (hclose : close = ']' ∨ close = '\x7d') (entries : List (List Char))
    (rest : List Char) : IsDelimited (tail entries ++ close :: rest) := by
  cases entries with
  | nil => exact isDelimited_cons (Or.inr hclose) rest
  | cons entry entries => exact isDelimited_cons (Or.inl rfl) _

lemma Folds.foldEntriesFrom_eq (h : Folds close step s entries t)
    (hclose : close = ']' ∨ close = '\x7d') {fuel : Nat} (hfuel : entries.length < fuel)
    (rest : List Char) :
    foldEntriesFrom close step false fuel s (tail entries ++ close :: rest) = .ok (t, rest) := by
  induction h generalizing fuel with
  | nil s =>
    obtain ⟨fuel, rfl⟩ := Nat.exists_eq_succ_of_ne_zero (by omega : fuel ≠ 0)
    simp [tail, foldEntriesFrom, skipSpace_cons (isSpace_close hclose)]
  | @cons s t u c entry entries hread hspace hne hrest ih =>
    obtain ⟨fuel, rfl⟩ := Nat.exists_eq_succ_of_ne_zero (by omega : fuel ≠ 0)
    have hcomma : (',' == close) = false := by
      rcases hclose with rfl | rfl <;> decide
    have htail : tail ((c :: entry) :: entries) ++ close :: rest =
        ',' :: (c :: entry ++ (tail entries ++ close :: rest)) := by
      simp [tail]
    rw [htail, foldEntriesFrom, skipSpace_cons (by decide)]
    have hstep := hread (tail entries ++ close :: rest) (isDelimited_tail hclose entries rest)
    rw [List.cons_append] at hstep
    simp only [hcomma, Bool.false_eq_true, if_false, beq_self_eq_true, if_true, List.cons_append,
      skipSpace_cons hspace, List.head?_cons, Option.some_beq_some, beq_eq_false_iff_ne.2 hne,
      hstep]
    exact ih (by simpa using hfuel)

/-- Entries between commas are folded up to the bracket that closes them. -/
lemma Folds.foldEntries_eq (h : Folds close step s entries t)
    (hclose : close = ']' ∨ close = '\x7d') (rest : List Char) :
    foldEntries close step s ([','].intercalate entries ++ close :: rest) = .ok (t, rest) := by
  cases h with
  | nil => simp [foldEntries, foldEntriesFrom, skipSpace_cons (isSpace_close hclose)]
  | @cons s t u c entry entries hread hspace hne hrest =>
    have hstep := hread (tail entries ++ close :: rest) (isDelimited_tail hclose entries rest)
    rw [List.cons_append] at hstep
    rw [intercalate_cons, List.append_assoc, foldEntries, foldEntriesFrom]
    simp only [List.cons_append, skipSpace_cons hspace, beq_eq_false_iff_ne.2 hne, hstep,
      Bool.false_eq_true, if_false, if_true]
    -- There are at most as many entries as characters.
    refine hrest.foldEntriesFrom_eq hclose ?_ rest
    have hmany := length_le_length_tail entries
    simp only [List.length_cons, List.length_append]
    omega

/-! ## Values -/

/-- A spelling is read as a value, with at most `depth` arrays and objects inside each other. -/
structure Spells (depth : Nat) (spelling : List Char) (v : Value) : Prop where
  /-- It begins with something else than space. -/
  solid : ∃ c more, spelling = c :: more ∧ isSpace c = false
  /-- It is read to its end. -/
  reads : ∀ rest, IsDelimited rest → Value.read depth (spelling ++ rest) = .ok (v, rest)

/-- What opens neither an array nor an object is read as a scalar. -/
lemma read_of_scalar (hspace : isSpace c = false) (harray : c ≠ '[') (hobject : c ≠ '\x7b')
    (depth : Nat) (rest : List Char) : Value.read depth (c :: rest) = scalar (c :: rest) := by
  cases depth with
  | zero =>
    rw [Value.read, skipSpace_cons hspace]
    split <;> simp_all
  | succ depth =>
    rw [Value.read, skipSpace_cons hspace]
    split <;> simp_all

lemma spells_text (depth : Nat) (s : String) : Spells depth (Text.encode s) (.text s) where
  solid := ⟨'"', _, by rw [Text.encode, List.cons_append], by decide⟩
  reads rest _ := by
    rw [Text.encode_eq, read_of_scalar (by decide) (by decide) (by decide), scalar,
      Text.read_encode]

/-! ## Numbers -/

lemma head?_toDigits (n : Nat) (hn : 0 < n) : (Nat.toDigits 10 n).head? ≠ some '0' := by
  induction n using Nat.strongRecOn with
  | _ n ih =>
    rw [Nat.toDigits_eq_if (by decide)]
    split
    · next h =>
      have hall : ∀ m < 10, 0 < m → [m.digitChar].head? ≠ some '0' := by decide
      exact hall n h hn
    · next h =>
      have hsome : ∃ d, (Nat.toDigits 10 (n / 10)).head? = some d := by
        rw [← Option.isSome_iff_exists, List.isSome_head?]
        simp [Nat.toDigits_ne_nil]
      obtain ⟨d, hd⟩ := hsome
      have hrest := ih (n / 10) (by omega) (by omega)
      rw [List.head?_append, hd, Option.some_or]
      rwa [hd] at hrest

lemma isDigit_of_mem_toDigits {n : Nat} (hc : c ∈ Nat.toDigits 10 n) :
    Numeral.isDigit c = true := by
  have h := Nat.isDigit_of_mem_toDigits (by decide) (by decide) hc
  simp only [Char.isDigit, Bool.and_eq_true, decide_eq_true_eq] at h
  simp only [Numeral.isDigit, Bool.and_eq_true, decide_eq_true_eq]
  exact h

/-- Digits are taken in as long as their number fits. -/
lemma absorb_eq (digits : List Char) (start : Nat)
    (h : Nat.ofDigitChars 10 digits start ≤ Number.greatestSignificand) :
    Number.absorb start digits = (Nat.ofDigitChars 10 digits start, digits.length) := by
  induction digits generalizing start with
  | nil => simp [Number.absorb]
  | cons c digits ih =>
    have hnext : start * 10 + (c.toNat - 48) = 10 * start + (c.toNat - '0'.toNat) := by
      have : '0'.toNat = 48 := rfl
      omega
    rw [Nat.ofDigitChars_cons, ← hnext] at h
    have hfits : start * 10 + (c.toNat - 48) ≤ Number.greatestSignificand := by
      rw [Nat.ofDigitChars_eq_ofDigitChars_zero] at h
      calc start * 10 + (c.toNat - 48)
          ≤ 10 ^ digits.length * (start * 10 + (c.toNat - 48)) :=
            Nat.le_mul_of_pos_left _ (Nat.pow_pos (by decide))
        _ ≤ _ := Nat.le_add_right _ _
        _ ≤ _ := h
    rw [Number.absorb, if_pos hfits, ih _ h, Nat.ofDigitChars_cons, ← hnext]
    rfl

/-- The digits of a number are read as that number, if it fits into 64 bits. -/
lemma unsigned_toDigits {n : Nat} (hn : n ≤ Number.greatestSignificand)
    (hrest : IsDelimited rest) :
    Number.unsigned false (Nat.toDigits 10 n ++ rest) = .ok (.integer n, rest) := by
  obtain ⟨b, more, rfl, hb⟩ := hrest
  have hspan : Number.spanDigits (Nat.toDigits 10 n ++ b :: more) =
      (Nat.toDigits 10 n, b :: more) := by
    have hstop : Numeral.isDigit b = false := by
      rcases hb with rfl | rfl | rfl <;> decide
    rw [Number.spanDigits, List.span_eq_takeWhile_dropWhile,
      List.takeWhile_append_of_pos fun c => isDigit_of_mem_toDigits,
      List.dropWhile_append_of_pos fun c => isDigit_of_mem_toDigits]
    simp [hstop]
  have habsorb : Number.absorb 0 (Nat.toDigits 10 n) = (n, (Nat.toDigits 10 n).length) := by
    rw [absorb_eq _ _ (by rwa [Nat.ofDigitChars_ten_toDigits]), Nat.ofDigitChars_ten_toDigits]
  have hzero : ∀ c digits, Nat.toDigits 10 n ≠ '0' :: c :: digits := by
    intro c digits heq
    rcases Nat.eq_zero_or_pos n with rfl | hpos
    · simp [Nat.toDigits_zero] at heq
    · exact head?_toDigits n hpos (by rw [heq, List.head?_cons])
  have hmark : (b == 'e' || b == 'E') = false ∧ b ≠ '.' := by
    rcases hb with rfl | rfl | rfl <;> decide
  simp only [Number.unsigned, hspan, habsorb, Nat.sub_self]
  split
  · next heq => exact absurd heq Nat.toDigits_ne_nil
  · next heq => exact absurd heq (hzero _ _)
  · split
    · next heq => exact absurd (List.cons.inj heq).1 hmark.2
    · next heq =>
      obtain ⟨rfl, rfl⟩ := List.cons.inj heq
      simp only [hmark.1]
      rfl
    · next heq => exact absurd heq (List.cons_ne_nil _ _)

@[simp] lemma isPlain_toDigits (n : Nat) : Text.IsPlain (Nat.toDigits 10 n) := by
  intro x hx
  have hdigit := isDigit_of_mem_toDigits hx
  simp only [Numeral.isDigit, Bool.and_eq_true, decide_eq_true_eq] at hdigit
  have hzero : '0'.toNat ≤ x.toNat := UInt32.le_iff_toNat_le.1 hdigit.1
  exact Nat.le_trans (by decide) hzero

lemma spells_natural (depth : Nat) {n : Nat} (hn : n ≤ Number.greatestSignificand) :
    Spells depth (toString n).toList (.integer n) := by
  have hdigits : (toString n).toList = Nat.toDigits 10 n := by
    rw [Nat.toString_eq_ofList_toDigits, String.toList_ofList]
  obtain ⟨c, more, heq⟩ := List.exists_cons_of_ne_nil (Nat.toDigits_ne_nil (n := n) (b := 10))
  have hdigit : Numeral.isDigit c = true := isDigit_of_mem_toDigits (n := n) (by simp [heq])
  have hne : ∀ b, Numeral.isDigit b = false → c ≠ b := by
    rintro b hb rfl
    exact absurd hdigit (by simp [hb])
  have hspace : isSpace c = false := by
    simp [isSpace, hne ' ' (by decide), hne '\n' (by decide), hne '\t' (by decide),
      hne '\r' (by decide)]
  rw [hdigits]
  refine ⟨⟨c, more, heq, hspace⟩, fun rest hrest => ?_⟩
  have hread := unsigned_toDigits hn hrest
  rw [heq, List.cons_append] at hread ⊢
  rw [read_of_scalar hspace (hne _ (by decide)) (hne _ (by decide)), scalar.eq_def]
  split
  · next heq => exact absurd (List.cons.inj heq).1 (hne _ (by decide))
  · next heq =>
    obtain ⟨rfl, rfl⟩ := List.cons.inj heq
    rw [if_pos (by simp [hdigit]), Number.read.eq_def]
    split
    · next heq => exact absurd (List.cons.inj heq).1 (hne _ (by decide))
    · exact hread
  · next heq => exact absurd heq (List.cons_ne_nil _ _)

/-! ## Objects -/

/-- A member of an object, with a name and the spelling of a value. -/
def member (name : String) (spelling : List Char) : List Char :=
  Text.encode name ++ ':' :: spelling

/-- An entry of an object is read as a member. -/
def SpellsMember (depth : Nat) (entry : List Char) (m : String × Value) : Prop :=
  ∃ spelling, entry = member m.1 spelling ∧ Spells depth spelling m.2

lemma member_append (name : String) (spelling rest : List Char) :
    member name spelling ++ rest =
      '"' :: (name.toList.flatMap Text.escape ++ '"' :: ':' :: (spelling ++ rest)) := by
  rw [member, List.append_assoc, Text.encode_eq, List.cons_append]

lemma memberName_member (name : String) (spelling rest : List Char) :
    memberName (member name spelling ++ rest) = .ok (name, ':' :: (spelling ++ rest)) := by
  rw [member_append, memberName, Text.read_encode]

lemma Spells.colon_cons {depth : Nat} {spelling : List Char} {v : Value}
    (h : Spells depth spelling v) (rest : List Char) :
    colon (':' :: (spelling ++ rest)) = .ok (spelling ++ rest) := by
  obtain ⟨c, more, rfl, hc⟩ := h.solid
  simp only [colon, skipSpace_cons (show isSpace ':' = false by decide), List.cons_append,
    skipSpace_cons hc]

lemma Folds.cons_member {s t u : σ} {name : String} {spelling : List Char}
    (hread : ∀ rest, IsDelimited rest → step s (member name spelling ++ rest) = .ok (t, rest))
    (hrest : Folds '\x7d' step t entries u) :
    Folds '\x7d' step s (member name spelling :: entries) u := by
  obtain ⟨more, hmore⟩ : ∃ more, member name spelling = '"' :: more :=
    ⟨_, by rw [← List.append_nil (member name spelling), member_append]⟩
  rw [hmore] at hread ⊢
  exact .cons hread (by decide) (by decide) hrest

/-- Members are folded one after the other by a step that takes each of them. -/
lemma folds_members (put : σ → String × Value → σ) {depth : Nat}
    {members : List (String × Value)} (h : List.Forall₂ (SpellsMember depth) entries members)
    (hstep : ∀ m ∈ members, ∀ s spelling, Spells depth spelling m.2 → ∀ rest, IsDelimited rest →
      step s (member m.1 spelling ++ rest) = .ok (put s m, rest)) (s : σ) :
    Folds '\x7d' step s entries (members.foldl put s) := by
  induction h generalizing s with
  | nil => exact .nil s
  | @cons entry m entries members hentry hrest ih =>
    obtain ⟨spelling, rfl, hspells⟩ := hentry
    exact .cons_member (hstep m List.mem_cons_self s spelling hspells)
      (ih (fun m hm => hstep m (List.mem_cons_of_mem _ hm)) _)

lemma pushMember_member {depth : Nat} {spelling : List Char} {v : Value}
    (h : Spells depth spelling v) (name : String) (members : List (String × Value))
    (hrest : IsDelimited rest) :
    pushMember (Value.read depth) members (member name spelling ++ rest) =
      .ok ((name, v) :: members, rest) := by
  simp only [pushMember, memberName_member, h.colon_cons, h.reads rest hrest, bind, Except.bind,
    pure, Except.pure]

/-- An object with members in a row is read as these members. -/
lemma spells_object {depth : Nat} {members : List (String × Value)}
    (h : List.Forall₂ (SpellsMember depth) entries members) :
    Spells (depth + 1) ('\x7b' :: ([','].intercalate entries ++ ['\x7d'])) (.object members) where
  solid := ⟨'\x7b', _, rfl, by decide⟩
  reads rest _ := by
    have hfold := folds_members (fun ms m => m :: ms) h
      (fun m _ s spelling hm rest hrest => pushMember_member hm m.1 s hrest) []
    have hread := hfold.foldEntries_eq (.inr rfl) rest
    rw [List.cons_append, List.append_assoc, List.singleton_append, Value.read,
      skipSpace_cons (by decide)]
    simp only [hread]
    simp

/-! ## Tagged records -/

lemma readName_encode {known : List String} {name : String} (hknown : known.contains name = true)
    (rest : List Char) : readName known (Text.encode name ++ rest) = .ok (name, rest) := by
  rw [Text.encode_eq]
  simp only [readName, Text.read_encode, knownName, hknown, if_true, bind, Except.bind, pure,
    Except.pure]

lemma pushTagged_tag {t : Tagging} {name : String} (hknown : t.known.contains name = true)
    (members : List (String × Value)) (rest : List Char) :
    pushTagged t ⟨none, members⟩ (member t.tag (Text.encode name) ++ rest) =
      .ok (⟨some name, members⟩, rest) := by
  have hcolon := (spells_text 0 name).colon_cons rest
  simp only [pushTagged, memberName_member, hcolon, readName_encode hknown, beq_self_eq_true,
    if_true, Option.isSome_none, Bool.false_eq_true, if_false, bind, Except.bind, pure, Except.pure]

lemma pushTagged_member {t : Tagging} {name : String} {spelling : List Char} {v : Value}
    (h : Spells (greatestDepth - 1) spelling v) (hname : name ≠ t.tag) (state : TaggedMembers)
    (hrest : IsDelimited rest) :
    pushTagged t state (member name spelling ++ rest) =
      .ok (⟨state.tag, (name, v) :: state.members⟩, rest) := by
  simp only [pushTagged, memberName_member, h.colon_cons, h.reads rest hrest,
    beq_eq_false_iff_ne.2 hname, Bool.false_eq_true, if_false, bind, Except.bind, pure, Except.pure]

lemma foldl_members (tag : Option String) (members before : List (String × Value)) :
    members.foldl (fun s m => (⟨s.tag, m :: s.members⟩ : TaggedMembers)) ⟨tag, before⟩ =
      ⟨tag, members.reverse ++ before⟩ := by
  induction members generalizing before with
  | nil => rfl
  | cons m members ih => simp [ih]

/-- A record whose tag comes first is read as its tag and its other members. -/
lemma readTagged_object (t : Tagging) (name : String) (hknown : t.known.contains name = true)
    {members : List (String × Value)}
    (h : List.Forall₂ (SpellsMember (greatestDepth - 1)) entries members)
    (hnames : ∀ m ∈ members, m.1 ≠ t.tag) (rest : List Char) :
    readTagged t ('\x7b' ::
        ([','].intercalate (member t.tag (Text.encode name) :: entries) ++ '\x7d' :: rest)) =
      .ok ((name, .members members), rest) := by
  have hfold : Folds '\x7d' (pushTagged t) ⟨some name, []⟩ entries
      ⟨some name, members.reverse ++ []⟩ := by
    rw [← foldl_members]
    exact folds_members (fun s m => ⟨s.tag, m :: s.members⟩) h
      (fun m hm s spelling hspells rest hrest => pushTagged_member hspells (hnames m hm) s hrest) _
  have hread := (Folds.cons_member (fun rest _ => pushTagged_tag hknown [] rest)
    hfold).foldEntries_eq (.inr rfl) rest
  rw [readTagged, skipSpace_cons (by decide)]
  simp only [hread, bind, Except.bind, pure, Except.pure, List.append_nil, List.reverse_reverse]

end SharedTerminal.Json
