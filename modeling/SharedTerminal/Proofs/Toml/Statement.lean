import SharedTerminal.Toml.Statement
import SharedTerminal.Proofs.Json.Reader
import SharedTerminal.Proofs.Toml.Text

/-!
# TOML lines come back

A document that is written consists of plain tables: a header with a bare name, and lines with a
bare key and a value without parts.  `Spells` says that a spelling is read as a value, up to the
end of its line; texts and whole numbers of 63 bits have such spellings (`spells_text`,
`spells_number`).  `Reads` says what statements a piece of a document is read as, whatever comes
after it.

The main statement is `exists_readAll?`.  What is nested too deep is not read (`value?_nested`).
-/

namespace SharedTerminal.Toml

variable {c : Char} {name rest : List Char} {n : Nat}

/-! ## Whole numbers -/

namespace Number

/-- The digits of a number. -/
lemma toList_toString (n : Nat) : (toString n).toList = Nat.toDigits 10 n := by
  rw [Nat.toString_eq_ofList_toDigits, String.toList_ofList]

lemma digitValue?_of_isDigit (hc : Numeral.isDigit c = true) :
    Numeral.digitValue? 10 c = some (c.toNat - '0'.toNat) := by
  have hvalue : Numeral.hexValue? c = some (c.toNat - 48) := if_pos hc
  have hnine : c ≤ '9' := by simpa using (Bool.and_eq_true_iff.1 hc).2
  have hlt : c.toNat ≤ 57 := UInt32.le_iff_toNat_le.1 hnine
  rw [Numeral.digitValue?, hvalue, Option.filter_some, if_pos]
  · rfl
  · simp only [decide_eq_true_eq]
    omega

lemma mapM_digitValue? {digits : List Char} (hd : ∀ c ∈ digits, Numeral.isDigit c = true) :
    digits.mapM (Numeral.digitValue? 10) = some (digits.map fun c => c.toNat - '0'.toNat) := by
  induction digits with
  | nil => rfl
  | cons c digits ih =>
    obtain ⟨hc, hd⟩ := List.forall_mem_cons.1 hd
    rw [List.mapM_cons, digitValue?_of_isDigit hc, ih hd]
    rfl

/-- The digits of a number are read as the number. -/
lemma value_toDigits (n : Nat) : value 10 (Nat.toDigits 10 n) = n := by
  have hdigits : ∀ c ∈ Nat.toDigits 10 n, Numeral.isDigit c = true := fun c hc =>
    Json.isDigit_of_mem_toDigits hc
  have hfold : ∀ (digits : List Char) (start : Nat),
      (digits.map fun c => c.toNat - '0'.toNat).foldl (fun acc d => acc * 10 + d) start =
        Nat.ofDigitChars 10 digits start := by
    intro digits
    induction digits with
    | nil => exact fun _ => rfl
    | cons c digits ih =>
      intro start
      rw [List.map_cons, List.foldl_cons, ih, Nat.ofDigitChars_cons, Nat.mul_comm]
  have hnonempty : (Nat.toDigits 10 n).isEmpty = false := by simp [Nat.toDigits_ne_nil]
  rw [value, Numeral.parse?, hnonempty, if_neg (by decide), mapM_digitValue? hdigits,
    Option.map_some, Option.getD_some, Numeral.ofDigits, hfold, Nat.ofDigitChars_ten_toDigits]

lemma ne_of_isDigit {b : Char} (hc : Numeral.isDigit c = true)
    (hb : Numeral.isDigit b = false) : c ≠ b := by
  rintro rfl
  rw [hc] at hb
  exact absurd hb (by decide)

/-- There is nothing but digits in the digits of a number. -/
lemma notMem_toDigits {b : Char} (hb : Numeral.isDigit b = false) (n : Nat) :
    b ∉ Nat.toDigits 10 n := fun hmem =>
  ne_of_isDigit (Json.isDigit_of_mem_toDigits hmem) hb rfl

/-- The digits of a number are a digit and the others. -/
lemma exists_toDigits (n : Nat) :
    ∃ c more, Nat.toDigits 10 n = c :: more ∧ Numeral.isDigit c = true := by
  obtain ⟨c, more, heq⟩ := List.exists_cons_of_ne_nil (Nat.toDigits_ne_nil (n := n) (b := 10))
  exact ⟨c, more, heq, Json.isDigit_of_mem_toDigits (n := n) (by simp [heq])⟩

lemma whole?_toDigits (n : Nat) : whole? (Nat.toDigits 10 n) = some (Nat.toDigits 10 n) := by
  have hsplit : (Nat.toDigits 10 n).splitOn '_' = [Nat.toDigits 10 n] :=
    List.splitOn_eq_singleton (notMem_toDigits (by decide) n)
  have hvalues : (Nat.toDigits 10 n).all
      (fun c => (Numeral.digitValue? 10 c).isSome) = true := by
    rw [List.all_eq_true]
    intro c hc
    rw [digitValue?_of_isDigit (Json.isDigit_of_mem_toDigits hc)]
    rfl
  have hdigits : digits? 10 (Nat.toDigits 10 n) = some (Nat.toDigits 10 n) := by
    simp [digits?, hsplit, hvalues, Nat.toDigits_ne_nil]
  -- Only the number zero begins with a zero, and it has one digit.
  have hzero : (decide (1 < (Nat.toDigits 10 n).length) &&
      (Nat.toDigits 10 n).head? == some '0') = false := by
    rcases Nat.eq_zero_or_pos n with rfl | hpos
    · decide
    · have hhead := Json.head?_toDigits n hpos
      simp [hhead]
  simp only [whole?, hdigits, Option.bind_eq_bind, Option.bind_some, hzero, Bool.false_eq_true,
    if_false]

lemma integer?_toDigits (hn : n < 0x8000000000000000) :
    integer? (Nat.toDigits 10 n) = some (n : Int) := by
  obtain ⟨c, more, heq, hc⟩ := exists_toDigits n
  have hsecond : ∀ b, Numeral.isDigit b = false → ∀ rest, Nat.toDigits 10 n ≠ '0' :: b :: rest := by
    intro b hb rest hsplit
    exact notMem_toDigits hb n (by simp [hsplit])
  have hsign : splitSign (Nat.toDigits 10 n) = (false, Nat.toDigits 10 n) := by
    rw [heq, splitSign]
    · exact fun _ hsplit => ne_of_isDigit hc (by decide) (List.cons.inj hsplit).1
    · exact fun _ hsplit => ne_of_isDigit hc (by decide) (List.cons.inj hsplit).1
  have hbound : bounded? (n : Int) = some (n : Int) := by
    rw [bounded?, if_pos]
    omega
  rw [integer?, hsign]
  · -- A tactic that unfolds the bound here makes the kernel count up to it.
    change (whole? (Nat.toDigits 10 n)).bind (fun digits =>
      bounded? (if false = true then -(value 10 digits : Int) else (value 10 digits : Int))) = _
    rw [whole?_toDigits, Option.bind_some, if_neg (by decide), value_toDigits, hbound]
  · exact hsecond 'x' (by decide)
  · exact hsecond 'o' (by decide)
  · exact hsecond 'b' (by decide)

end Number

/-- The digits of a number are no date and no time. -/
lemma isMoment_toDigits (n : Nat) : Moment.isMoment (Nat.toDigits 10 n) = false := by
  have hdate : Moment.isDate (Nat.toDigits 10 n) = false := by
    rw [Moment.isDate, List.splitOn_eq_singleton (Number.notMem_toDigits (by decide) n)]
  have htime : Moment.isTime (Nat.toDigits 10 n) = false := by
    rw [Moment.isTime, List.splitOn_eq_singleton (Number.notMem_toDigits (by decide) n)]
  rw [Moment.isMoment]
  split
  · rw [hdate, htime, Bool.or_self]
  · next c rest heq =>
    have hmem : c ∈ Nat.toDigits 10 n := List.mem_of_mem_drop (by rw [heq]; exact List.mem_cons_self)
    have hletter : (c == 'T' || c == 't') = false := by
      have hc := Json.isDigit_of_mem_toDigits hmem
      simp [Number.ne_of_isDigit hc (b := 'T') (by decide),
        Number.ne_of_isDigit hc (b := 't') (by decide)]
    rw [hletter, if_neg (by decide), htime]

/-- **A whole number comes back**, if it fits. -/
theorem read?_toDigits (hn : n < 0x8000000000000000) (rest : List Char) :
    Scalar.read? (Nat.toDigits 10 n ++ '\n' :: rest) = some (.integer n, '\n' :: rest) := by
  obtain ⟨c, more, heq, hc⟩ := Number.exists_toDigits n
  have htoken : ∀ c ∈ Nat.toDigits 10 n, Scalar.isTokenChar c = true := by
    intro c hmem
    have hdigit := Nat.isDigit_of_mem_toDigits (by decide) (by decide) hmem
    simp [Scalar.isTokenChar, Char.isAlphanum, hdigit]
  have htake : (Nat.toDigits 10 n ++ '\n' :: rest).takeWhile Scalar.isTokenChar =
      Nat.toDigits 10 n := by
    rw [List.takeWhile_append_of_pos htoken]
    simp [show Scalar.isTokenChar '\n' = false by decide]
  have hword : ∀ word : List Char, word.head?.all Numeral.isDigit = false →
      Nat.toDigits 10 n ≠ word := by
    rintro word hhead rfl
    simp [heq, hc] at hhead
  have htoken? : Scalar.ofToken? (Nat.toDigits 10 n) = some (.integer n) := by
    rw [Scalar.ofToken?, if_neg (hword _ (by decide)), if_neg (hword _ (by decide)),
      isMoment_toDigits, if_neg (by decide), Number.integer?_toDigits hn]
  simp [Scalar.read?, htake, htoken?]

/-! ## Keys -/

namespace Statement

/-- A name that can be a key without quotes. -/
structure IsBareName (name : List Char) : Prop where
  /-- It is not empty. -/
  nonempty : name ≠ []
  /-- It has nothing but letters, digits and two marks. -/
  bare : ∀ c ∈ name, isBare c = true

/-- Whether a name can be a key without quotes can be seen on its characters. -/
lemma IsBareName.of_all (h : (!name.isEmpty && name.all isBare) = true) : IsBareName name := by
  obtain ⟨hempty, hbare⟩ := Bool.and_eq_true_iff.1 h
  exact ⟨List.isEmpty_eq_false_iff.1 (by simpa using hempty), List.all_eq_true.1 hbare⟩

lemma ne_of_isBare {b : Char} (hc : isBare c = true) (hb : isBare b = false) : c ≠ b := by
  rintro rfl
  rw [hc] at hb
  exact absurd hb (by decide)

lemma isBlank_of_isBare (hc : isBare c = true) : Text.isBlank c = false := by
  simp [Text.isBlank, ne_of_isBare hc (b := ' ') (by decide),
    ne_of_isBare hc (b := '\t') (by decide)]

lemma skipBlanks_cons (hc : Text.isBlank c = false) (rest : List Char) :
    skipBlanks (c :: rest) = c :: rest := by
  simp [skipBlanks, hc]

lemma IsBareName.exists_cons (h : IsBareName name) :
    ∃ c more, name = c :: more ∧ isBare c = true := by
  obtain ⟨c, more, rfl⟩ := List.exists_cons_of_ne_nil h.nonempty
  exact ⟨c, more, rfl, h.bare c List.mem_cons_self⟩

/-- A bare name is read up to what ends it, and blanks behind it are skipped. -/
lemma IsBareName.key?_eq (h : IsBareName name) {b d : Char} {tail : List Char}
    (hb : isBare b = false) (hd : skipBlanks (b :: rest) = d :: tail) (hdot : d ≠ '.') :
    ∃ span, key? (name ++ b :: rest) = some (([], ⟨String.ofList name, span⟩), d :: tail) := by
  obtain ⟨c, more, hname, hc⟩ := h.exists_cons
  have htake : (name ++ b :: rest).takeWhile isBare = name := by
    rw [List.takeWhile_append_of_pos h.bare]
    simp [hb]
  have hsimple : ∃ span, simpleKey? (name ++ b :: rest) =
      some (⟨String.ofList name, span⟩, b :: rest) := by
    refine ⟨⟨(name ++ b :: rest).length, (b :: rest).length⟩, ?_⟩
    rw [simpleKey?.eq_def]
    split
    · next heq =>
      rw [hname] at heq
      exact absurd (List.cons.inj heq).1 (ne_of_isBare hc (by decide))
    · next heq =>
      rw [hname] at heq
      exact absurd (List.cons.inj heq).1 (ne_of_isBare hc (by decide))
    · simp [htake, h.nonempty]
  obtain ⟨span, hsimple⟩ := hsimple
  have hskip : skipBlanks (name ++ b :: rest) = name ++ b :: rest := by
    rw [hname]
    exact skipBlanks_cons (isBlank_of_isBare hc) _
  refine ⟨span, ?_⟩
  rw [key?, greatestDepth, keys?, hskip, hsimple]
  simp only [hd]
  split
  · next heq => exact absurd (List.cons.inj heq).1 hdot
  · rfl

end Statement

/-! ## Values -/

open Statement

/-- A spelling is read as a value to the end of its line.  Where the value stands depends on what
comes after it. -/
structure Spells (spelling : List Char) (makes : Span → Node) : Prop where
  /-- It begins with something else than a blank. -/
  solid : ∃ c more, spelling = c :: more ∧ Text.isBlank c = false
  /-- It is read to its end. -/
  reads : ∀ rest, ∃ span,
    value? greatestDepth (spelling ++ '\n' :: rest) = some (makes span, '\n' :: rest)

/-- What opens neither an array nor a table is read as a value without parts. -/
lemma value?_cons (harray : c ≠ '[') (htable : c ≠ '\x7b') (depth : Nat) (rest : List Char) :
    value? depth (c :: rest) = value?.simple? (c :: rest) := by
  cases depth with
  | zero => rfl
  | succ depth =>
    rw [value?]
    · exact fun _ heq => harray (List.cons.inj heq).1
    · exact fun _ heq => htable (List.cons.inj heq).1

lemma spells_text (value : String) : Spells (Text.encode value.toList) (.text value) := by
  obtain ⟨c, more, heq, hc⟩ := Text.exists_encode value.toList
  have hc' : Text.isBlank c = false ∧ c ≠ '[' ∧ c ≠ '\x7b' := by
    rcases hc with rfl | rfl <;> decide
  refine ⟨⟨c, more, heq, hc'.1⟩, fun rest => ?_⟩
  have hread := Text.read?_encode value.toList rest
  rw [heq, List.cons_append, String.ofList_toList] at hread
  rw [heq, List.cons_append, value?_cons hc'.2.1 hc'.2.2, value?.simple?]
  simp only [hc, if_true, hread]
  exact ⟨_, rfl⟩

lemma spells_number (hn : n < 0x8000000000000000) :
    Spells (toString n).toList (.scalar (.integer n)) := by
  obtain ⟨c, more, heq, hc⟩ := Number.exists_toDigits n
  have hne : ∀ b, Numeral.isDigit b = false → c ≠ b := fun b => Number.ne_of_isDigit hc
  have hblank : Text.isBlank c = false := by
    simp [Text.isBlank, hne ' ' (by decide), hne '\t' (by decide)]
  have hquote : ¬ (c = '"' ∨ c = '\'') := by
    simp [hne '"' (by decide), hne '\'' (by decide)]
  rw [Number.toList_toString]
  refine ⟨⟨c, more, heq, hblank⟩, fun rest => ?_⟩
  have hread := read?_toDigits hn rest
  rw [heq, List.cons_append] at hread
  rw [heq, List.cons_append, value?_cons (hne _ (by decide)) (hne _ (by decide)), value?.simple?]
  simp only [hquote, if_false, hread]
  exact ⟨_, rfl⟩

/-! ## Lines -/

/-- A line of a table: a key, the spelling of a value and the value. -/
structure Member where
  /-- The key. -/
  key : String
  /-- How the value is spelled. -/
  spelling : List Char
  /-- The value, when it is known where it stands. -/
  makes : Span → Node

/-- A table with its header. -/
structure Table where
  /-- The name in the header. -/
  name : String
  /-- Its lines. -/
  members : List Member

/-- The line of a member. -/
def Member.chars (m : Member) : List Char :=
  m.key.toList ++ [' ', '=', ' '] ++ m.spelling ++ ['\n']

/-- The lines of a table. -/
def Table.chars (t : Table) : List Char :=
  '[' :: t.name.toList ++ [']', '\n'] ++ t.members.flatMap Member.chars

/-- A line that can be read back. -/
structure Member.IsWritten (m : Member) : Prop where
  /-- The key needs no quotes. -/
  key : IsBareName m.key.toList
  /-- The value is spelled so. -/
  value : Spells m.spelling m.makes

/-- A table that can be read back. -/
structure Table.IsWritten (t : Table) : Prop where
  /-- The name needs no quotes. -/
  name : IsBareName t.name.toList
  /-- So can its lines. -/
  members : ∀ m ∈ t.members, m.IsWritten

/-- A statement is what the line of a member says. -/
def Member.Means (m : Member) (st : Statement) : Prop :=
  ∃ place span, st = .assign [] ⟨m.key, place⟩ (m.makes span)

/-- A statement is what the header of a table says. -/
def Table.Heads (t : Table) (st : Statement) : Prop :=
  ∃ place span, st = .header [] ⟨t.name, place⟩ span

/-- Statements are what the header of a table and its lines say. -/
def Table.Means (t : Table) (sts : List Statement) : Prop :=
  ∃ st more, sts = st :: more ∧ t.Heads st ∧ List.Forall₂ Member.Means t.members more

namespace Statement

lemma endLine?_lineEnd (rest : List Char) : endLine? ('\n' :: rest) = some rest := by
  rw [endLine?, skipBlanks_cons (by decide), skipComment]
  · rfl
  · exact fun _ heq => absurd (List.cons.inj heq).1 (by decide)

lemma line?_member {m : Member} (h : m.IsWritten) (rest : List Char) :
    ∃ st, line? (m.chars ++ rest) = some (st, rest) ∧ m.Means st := by
  obtain ⟨c, more, hname, hc⟩ := h.key.exists_cons
  obtain ⟨v, tail, hspelling, hv⟩ := h.value.solid
  have hchars : m.chars ++ rest =
      m.key.toList ++ ' ' :: '=' :: ' ' :: (m.spelling ++ '\n' :: rest) := by
    simp [Member.chars]
  have hequals : skipBlanks (' ' :: '=' :: ' ' :: (m.spelling ++ '\n' :: rest)) =
      '=' :: ' ' :: (m.spelling ++ '\n' :: rest) := rfl
  have hblank : skipBlanks (' ' :: (m.spelling ++ '\n' :: rest)) =
      m.spelling ++ '\n' :: rest := by
    rw [hspelling, List.cons_append]
    exact skipBlanks_cons hv _
  obtain ⟨place, hkey⟩ := h.key.key?_eq (b := ' ') (by decide) hequals (by decide)
  obtain ⟨span, hvalue⟩ := h.value.reads rest
  rw [String.ofList_toList] at hkey
  refine ⟨.assign [] ⟨m.key, place⟩ (m.makes span), ?_, place, span, rfl⟩
  rw [hchars]
  have hassign : assignment? (value? greatestDepth)
      (m.key.toList ++ ' ' :: '=' :: ' ' :: (m.spelling ++ '\n' :: rest)) =
      some ((([], ⟨m.key, place⟩), m.makes span), '\n' :: rest) := by
    simp only [assignment?, hkey, hblank, hvalue, Option.bind_eq_bind, Option.bind_some]
    rfl
  rw [line?.eq_def]
  split
  · next heq =>
    rw [hname] at heq
    exact absurd (List.cons.inj heq).1 (ne_of_isBare hc (by decide))
  · next heq =>
    rw [hname] at heq
    exact absurd (List.cons.inj heq).1 (ne_of_isBare hc (by decide))
  · simp only [hassign, endLine?_lineEnd, Option.bind_eq_bind, Option.bind_some]
    rfl

lemma line?_header {t : Table} (h : t.IsWritten) (rest : List Char) :
    ∃ st, line? ('[' :: (t.name.toList ++ ']' :: '\n' :: rest)) = some (st, rest) ∧
      t.Heads st := by
  obtain ⟨c, more, hname, hc⟩ := h.name.exists_cons
  have hclose : skipBlanks (']' :: '\n' :: rest) = ']' :: '\n' :: rest := rfl
  obtain ⟨place, hkey⟩ := h.name.key?_eq (b := ']') (by decide) hclose (by decide)
  rw [String.ofList_toList] at hkey
  have hheader : headerKey? [']'] (t.name.toList ++ ']' :: '\n' :: rest) =
      some (([], ⟨t.name, place⟩), '\n' :: rest) := by
    simp only [headerKey?, hkey, Option.bind_eq_bind, Option.bind_some]
    rfl
  let span : Span := ⟨('[' :: (t.name.toList ++ ']' :: '\n' :: rest)).length, rest.length + 1⟩
  refine ⟨.header [] ⟨t.name, place⟩ span, ?_, place, span, rfl⟩
  rw [line?.eq_def]
  split
  · next heq =>
    rw [hname] at heq
    exact absurd (List.cons.inj (List.cons.inj heq).2).1 (ne_of_isBare hc (by decide))
  · next heq =>
    obtain rfl := (List.cons.inj heq).2
    simp only [hheader, endLine?_lineEnd, Option.bind_eq_bind, Option.bind_some]
    rfl
  · next hno => exact absurd rfl (hno _)

/-! ## Several lines -/

/-- A piece of a document with so many lines is read as statements, whatever comes after it. -/
def Reads (text : List Char) (count : Nat) (meaning : List Statement → Prop) : Prop :=
  count ≤ text.length ∧
    ∀ fuel rest, ∃ sts, meaning sts ∧
      lines? (fuel + count) (text ++ rest) = (lines? fuel rest).map (sts ++ ·)

lemma reads_nil : Reads [] 0 (· = []) := by
  refine ⟨Nat.le_refl 0, fun fuel rest => ⟨[], rfl, ?_⟩⟩
  exact (congrFun Option.map_id (lines? fuel rest)).symm

lemma Reads.append {text more : List Char} {m n : Nat} {meaning also : List Statement → Prop}
    (h : Reads text m meaning) (hmore : Reads more n also) :
    Reads (text ++ more) (n + m)
      fun sts => ∃ first second, sts = first ++ second ∧ meaning first ∧ also second := by
  refine ⟨?_, fun fuel rest => ?_⟩
  · have hm := h.1
    have hn := hmore.1
    rw [List.length_append]
    omega
  · obtain ⟨first, hfirst, hread⟩ := h.2 (fuel + n) (more ++ rest)
    obtain ⟨second, hsecond, hrest⟩ := hmore.2 fuel rest
    refine ⟨first ++ second, ⟨first, second, rfl, hfirst, hsecond⟩, ?_⟩
    rw [List.append_assoc, ← Nat.add_assoc, hread, hrest, Option.map_map]
    exact congrArg (Option.map · (lines? fuel rest)) (funext fun sts => by simp)

lemma Reads.mono {text : List Char} {count : Nat} {meaning also : List Statement → Prop}
    (h : Reads text count meaning) (himp : ∀ sts, meaning sts → also sts) : Reads text count also :=
  ⟨h.1, fun fuel rest =>
    let ⟨sts, hmeaning, hread⟩ := h.2 fuel rest
    ⟨sts, himp sts hmeaning, hread⟩⟩

/-- What begins neither with a blank nor with a comment is read as a line. -/
lemma lines?_cons (hblank : Text.isBlank c = false) (hcomment : c ≠ '#')
    (hend : c ≠ '\n' ∧ c ≠ '\r') (fuel : Nat) (more : List Char) :
    lines? (fuel + 1) (c :: more) =
      (line? (c :: more)).bind fun (st, rest) => (lines? fuel rest).map (st :: ·) := by
  have hnone : Text.afterLineEnd? (c :: more) = none := by
    rw [Text.afterLineEnd?]
    · exact fun _ heq => hend.1 (List.cons.inj heq).1
    · exact fun _ heq => hend.2 (List.cons.inj heq).1
  rw [lines?, skipBlanks_cons hblank]
  split
  · next heq => cases heq
  · next heq => exact absurd (List.cons.inj heq).1 hcomment
  · simp only [hnone]
    rcases line? (c :: more) with _ | ⟨st, rest⟩
    · rfl
    · simp only [Option.bind_eq_bind, Option.bind_some]
      cases lines? fuel rest <;> rfl

/-- A line that begins neither with a blank nor with a comment is one statement. -/
lemma reads_line {line : List Char} {meaning : Statement → Prop} {more : List Char}
    (hline : line = c :: more) (hblank : Text.isBlank c = false) (hcomment : c ≠ '#')
    (hend : c ≠ '\n' ∧ c ≠ '\r')
    (hread : ∀ rest, ∃ st, line? (line ++ rest) = some (st, rest) ∧ meaning st) :
    Reads line 1 fun sts => ∃ st, sts = [st] ∧ meaning st := by
  refine ⟨by simp [hline], fun fuel rest => ?_⟩
  obtain ⟨st, hst, hmeaning⟩ := hread rest
  refine ⟨[st], ⟨st, rfl, hmeaning⟩, ?_⟩
  rw [hline, List.cons_append] at hst ⊢
  rw [lines?_cons hblank hcomment hend, hst]
  rfl

lemma reads_blank : Reads ['\n'] 1 (· = []) := by
  refine ⟨Nat.le_refl 1, fun fuel rest => ⟨[], rfl, ?_⟩⟩
  have hskip : skipBlanks (['\n'] ++ rest) = '\n' :: rest := skipBlanks_cons (by decide) rest
  have hread : lines? (fuel + 1) (['\n'] ++ rest) = lines? fuel rest := by
    rw [lines?, hskip]
    rfl
  rw [hread]
  exact (congrFun Option.map_id (lines? fuel rest)).symm

lemma reads_member {m : Member} (h : m.IsWritten) :
    Reads m.chars 1 fun sts => ∃ st, sts = [st] ∧ m.Means st := by
  obtain ⟨c, more, hname, hc⟩ := h.key.exists_cons
  have hchars : m.chars = c :: (more ++ ' ' :: '=' :: ' ' :: (m.spelling ++ ['\n'])) := by
    simp [Member.chars, hname]
  have hne : ∀ b, isBare b = false → c ≠ b := fun b => ne_of_isBare hc
  exact reads_line hchars (isBlank_of_isBare hc) (hne _ (by decide))
    ⟨hne _ (by decide), hne _ (by decide)⟩ (line?_member h)

lemma reads_members {members : List Member} (h : ∀ m ∈ members, m.IsWritten) :
    Reads (members.flatMap Member.chars) members.length
      fun sts => List.Forall₂ Member.Means members sts := by
  induction members with
  | nil => exact reads_nil.mono fun sts hsts => hsts ▸ .nil
  | cons m members ih =>
    obtain ⟨hm, h⟩ := List.forall_mem_cons.1 h
    refine ((reads_member hm).append (ih h)).mono ?_
    rintro sts ⟨_, second, rfl, ⟨st, rfl, hst⟩, hsecond⟩
    exact .cons hst hsecond

lemma reads_header {t : Table} (h : t.IsWritten) :
    Reads ('[' :: t.name.toList ++ [']', '\n']) 1 fun sts => ∃ st, sts = [st] ∧ t.Heads st := by
  refine reads_line rfl (by decide) (by decide) (by decide) fun rest => ?_
  have hchars : '[' :: t.name.toList ++ [']', '\n'] ++ rest =
      '[' :: (t.name.toList ++ ']' :: '\n' :: rest) := by simp
  rw [hchars]
  exact line?_header h rest

lemma reads_table {t : Table} (h : t.IsWritten) :
    Reads t.chars (t.members.length + 1) t.Means := by
  refine ((reads_header h).append (reads_members h.members)).mono ?_
  rintro sts ⟨_, second, rfl, ⟨st, rfl, hst⟩, hsecond⟩
  exact ⟨st, second, rfl, hst, hsecond⟩

/-- The lines of several tables, with a blank line between any two. -/
def tablesChars : List Table → List Char
  | [] => []
  | [t] => t.chars
  | t :: more => t.chars ++ '\n' :: tablesChars more

/-- Statements are what tables say, one after the other. -/
def Mean (tables : List Table) (sts : List Statement) : Prop :=
  ∃ parts, sts = parts.flatten ∧ List.Forall₂ Table.Means tables parts

/-- **Plain tables are read line by line.** -/
theorem reads_tables {tables : List Table} (h : ∀ t ∈ tables, t.IsWritten) :
    ∃ count, Reads (tablesChars tables) count (Mean tables) := by
  induction tables with
  | nil => exact ⟨0, reads_nil.mono fun sts hsts => ⟨[], hsts, .nil⟩⟩
  | cons t tables ih =>
    obtain ⟨ht, h⟩ := List.forall_mem_cons.1 h
    obtain ⟨count, hrest⟩ := ih h
    cases tables with
    | nil =>
      refine ⟨_, (reads_table ht).mono fun sts hsts => ⟨[sts], by simp, .cons hsts .nil⟩⟩
    | cons u tables =>
      refine ⟨_, ((reads_table ht).append (reads_blank.append hrest)).mono ?_⟩
      rintro sts ⟨first, second, rfl, hfirst, _, third, rfl, rfl, parts, rfl, hparts⟩
      exact ⟨first :: parts, by simp, .cons hfirst hparts⟩

/-! ## Lines that are not read -/

/-- What can only be a line with a value, and is none, spoils the document. -/
lemma readAll?_eq_none_of_assignment? (hblank : Text.isBlank c = false)
    (hc : c ∉ ['#', '\n', '\r', '[', '\uFEFF'])
    (hassign : assignment? (value? greatestDepth) (c :: rest) = none) :
    readAll? (c :: rest) = none := by
  simp only [List.mem_cons, List.not_mem_nil, or_false, not_or] at hc
  obtain ⟨hcomment, hnewline, hreturn, hbracket, hmark⟩ := hc
  have hline : line? (c :: rest) = none := by
    rw [line?.eq_def]
    split
    · next hsplit => exact absurd (List.cons.inj hsplit).1 hbracket
    · next hsplit => exact absurd (List.cons.inj hsplit).1 hbracket
    · rw [hassign]
      rfl
  have hdrop : dropMark (c :: rest) = c :: rest :=
    dropMark.eq_2 _ fun _ hsplit => hmark (List.cons.inj hsplit).1
  rw [readAll?, hdrop, lines?_cons hblank hcomment ⟨hnewline, hreturn⟩, hline]
  rfl

/-- A bare name at the front can only be the key of a value. -/
lemma IsBareName.readAll?_eq_none (hname : IsBareName name)
    (hassign : assignment? (value? greatestDepth) (name ++ rest) = none) :
    readAll? (name ++ rest) = none := by
  obtain ⟨c, more, rfl, hc⟩ := hname.exists_cons
  refine readAll?_eq_none_of_assignment? (isBlank_of_isBare hc) ?_ hassign
  intro hmem
  simp only [List.mem_cons, List.not_mem_nil, or_false] at hmem
  rcases hmem with rfl | rfl | rfl | rfl | rfl <;> exact absurd hc (by decide)

/-- A line whose value is not read spoils the document. -/
lemma readAll?_eq_none {name value : List Char} (hname : IsBareName name)
    (hvalue : value? greatestDepth (skipBlanks value) = none) :
    readAll? (name ++ ' ' :: '=' :: value) = none := by
  have hequals : skipBlanks (' ' :: '=' :: value) = '=' :: value := rfl
  obtain ⟨place, hkey⟩ := hname.key?_eq (b := ' ') (by decide) hequals (by decide)
  refine hname.readAll?_eq_none ?_
  simp only [assignment?, hkey, hvalue, Option.bind_eq_bind, Option.bind_some, Option.bind_none]

/-- A name with a colon behind it is the beginning of no document. -/
lemma readAll?_colon (hname : IsBareName name) (rest : List Char) :
    readAll? (name ++ ':' :: rest) = none := by
  have hcolon : skipBlanks (':' :: rest) = ':' :: rest := skipBlanks_cons (by decide) rest
  obtain ⟨place, hkey⟩ := hname.key?_eq (b := ':') (by decide) hcolon (by decide)
  refine hname.readAll?_eq_none ?_
  rw [assignment?, hkey]
  rfl

/-- An escape for a terminal is the beginning of no document. -/
lemma readAll?_escape (rest : List Char) : readAll? ('\x1b' :: rest) = none := by
  have hkey : key? ('\x1b' :: rest) = none := by
    have hskip : skipBlanks ('\x1b' :: rest) = '\x1b' :: rest := skipBlanks_cons (by decide) rest
    have hname : ('\x1b' :: rest).takeWhile isBare = [] := List.takeWhile_cons_of_neg (by decide)
    have hsimple : simpleKey? ('\x1b' :: rest) = none := by
      simp [simpleKey?, hname]
    rw [key?, greatestDepth, keys?, hskip, hsimple]
  refine readAll?_eq_none_of_assignment? (by decide) (by decide) ?_
  simp only [assignment?, hkey, Option.bind_eq_bind, Option.bind_none]

/-- A bracket is no value without parts. -/
lemma simple?_bracket (rest : List Char) : value?.simple? ('[' :: rest) = none := by
  have hempty : ('[' :: rest).takeWhile Scalar.isTokenChar = [] :=
    List.takeWhile_cons_of_neg (by decide)
  have htoken : Scalar.ofToken? [] = none := by decide
  simp [value?.simple?, Scalar.read?, hempty, htoken]

/-- **Arrays that are nested too deep are not read.** -/
theorem value?_nested {depth n : Nat} (h : depth < n) (rest : List Char) :
    value? depth (List.replicate n '[' ++ rest) = none := by
  induction depth generalizing n with
  | zero =>
    obtain ⟨k, rfl⟩ : ∃ k, n = k + 1 := ⟨n - 1, by omega⟩
    exact simple?_bracket _
  | succ depth ih =>
    obtain ⟨k, rfl⟩ : ∃ k, n = k + 1 + 1 := ⟨n - 2, by omega⟩
    -- The first item is nested one bracket less deep, and there is no other one.
    have hitem : value? depth (List.replicate (k + 1) '[' ++ rest) = none := ih (by omega)
    rw [List.replicate_succ, List.cons_append] at hitem ⊢
    have hskip : skip? ('[' :: (List.replicate k '[' ++ rest)) =
        some ('[' :: (List.replicate k '[' ++ rest)) := by
      rw [skip?, List.length_cons, skipLines?, skipBlanks_cons (by decide)]
      rfl
    have hitems : ∀ fuel, items? (value? depth) fuel [] ('[' :: (List.replicate k '[' ++ rest)) =
        none := by
      intro fuel
      cases fuel with
      | zero => rfl
      | succ fuel => simp [items?, hskip, hitem]
    rw [List.replicate_succ, List.cons_append, value?, hitems]
    rfl

end Statement

/-- A document of lines and tables. -/
structure Page where
  /-- The lines in front of the first header. -/
  members : List Member
  /-- The tables. -/
  tables : List Table

/-- The characters of a document. -/
def Page.chars (p : Page) : List Char :=
  p.members.flatMap Member.chars ++ Statement.tablesChars p.tables

/-- A document that can be read back. -/
structure Page.IsWritten (p : Page) : Prop where
  /-- The lines in front can. -/
  members : ∀ m ∈ p.members, m.IsWritten
  /-- So can the tables. -/
  tables : ∀ t ∈ p.tables, t.IsWritten

namespace Statement

lemma dropMark_chars {p : Page} (h : p.IsWritten) : dropMark p.chars = p.chars := by
  rcases p with ⟨_ | ⟨m, members⟩, tables⟩
  · rcases tables with _ | ⟨t, _ | ⟨u, tables⟩⟩ <;> rfl
  · obtain ⟨c, more, hname, hc⟩ := (h.members m List.mem_cons_self).key.exists_cons
    have hmark : c ≠ '\uFEFF' := ne_of_isBare hc (by decide)
    rw [Page.chars, List.flatMap_cons, Member.chars, hname]
    exact dropMark.eq_2 _ fun _ heq => hmark (List.cons.inj heq).1

/-- Lines and tables are read as what they say. -/
lemma exists_readAll? {p : Page} (h : p.IsWritten) :
    ∃ first parts, readAll? p.chars = some (first ++ parts.flatten) ∧
      List.Forall₂ Member.Means p.members first ∧ List.Forall₂ Table.Means p.tables parts := by
  obtain ⟨count, htables⟩ := reads_tables h.tables
  obtain ⟨hcount, hreads⟩ := (reads_members h.members).append htables
  -- There is one line more of fuel than there are lines.
  obtain ⟨fuel, hfuel⟩ : ∃ fuel, p.chars.length + 1 = fuel + 1 + (count + p.members.length) :=
    ⟨p.chars.length - (count + p.members.length), by rw [Page.chars]; omega⟩
  obtain ⟨_, ⟨first, _, rfl, hfirst, parts, rfl, hparts⟩, hread⟩ := hreads (fuel + 1) []
  have hend : lines? (fuel + 1) [] = some [] := rfl
  rw [List.append_nil, hend, Option.map_some, List.append_nil] at hread
  exact ⟨first, parts, by rw [readAll?, dropMark_chars h, hfuel]; exact hread, hfirst, hparts⟩

end Statement

end SharedTerminal.Toml
