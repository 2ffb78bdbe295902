import SharedTerminal.Machine
import SharedTerminal.Session.LogFile
import Mathlib.Data.List.Basic
import Mathlib.Logic.Function.Basic
import Mathlib.Tactic.Common

/-!
# Every context has a log file of its own

The name of a log file is made from the context by the encoding of HTML forms.  That can be undone:
`Percent.decode_formBytes_formEncode` gets the bytes of the context back, and UTF-8 takes no two
texts to the same bytes.  So different contexts have different files (`LogFile.name_injective`),
also by their paths in one directory (`LogFile.path_injective`).

The encoding writes no slash, and what stands around it keeps a name from being dots.  So the parts
of a path are those of the directory and the name (`LogFile.parts_path`), and no context leads out
of the directory.  The main statement is `LogFile.contexts_log_apart`.
-/

namespace SharedTerminal

lemma Utf8.encode_injective : Function.Injective Utf8.encode := by
  intro s t h
  have hbytes : (String.ofList s).toByteArray = (String.ofList t).toByteArray := by
    simp only [String.toByteArray_ofList, List.utf8Encode]
    exact congrArg List.toByteArray h
  exact String.ofList_injective (String.toByteArray_inj.1 hbytes)

namespace Percent

variable {c : Char}

/-- The bytes that a form sends, with a space for each plus sign. -/
def formBytes (spelled : List Char) : Bytes :=
  spelled.map fun c => if c = '+' then 0x20 else c.val.toUInt8

@[simp] lemma formBytes_append (s t : List Char) :
    formBytes (s ++ t) = formBytes s ++ formBytes t := List.map_append

/-! ## One character -/

lemma hexValue?_upperDigit : ∀ d < 16,
    Numeral.upperDigit d ≠ '+' ∧
      Numeral.hexValue? (Char.ofNat (Numeral.upperDigit d).val.toUInt8.toNat) = some d := by
  decide +kernel

lemma decode_formBytes_escape (b : UInt8) (rest : Bytes) :
    decode (formBytes (escape b) ++ rest) = b :: decode rest := by
  have hhigh := hexValue?_upperDigit (b.toNat / 16) (by have := b.toNat_lt; omega)
  have hlow := hexValue?_upperDigit (b.toNat % 16) (Nat.mod_lt _ (by decide))
  have hbyte : UInt8.ofNat (b.toNat / 16 * 16 + b.toNat % 16) = b := by
    rw [Nat.div_add_mod', UInt8.ofNat_toNat]
  have hpercent : formBytes (escape b) =
      [0x25, (Numeral.upperDigit (b.toNat / 16)).val.toUInt8,
        (Numeral.upperDigit (b.toNat % 16)).val.toUInt8] := by
    simp only [formBytes, escape, List.map_cons, List.map_nil, if_neg hhigh.1, if_neg hlow.1]
    rfl
  calc decode (formBytes (escape b) ++ rest)
      = UInt8.ofNat (b.toNat / 16 * 16 + b.toNat % 16) :: decode rest := by
        rw [hpercent, List.cons_append, List.cons_append, List.cons_append, List.nil_append,
          decode, hhigh.2, hlow.2]
    _ = b :: decode rest := by rw [hbyte]

lemma decode_formBytes_escapes (bytes rest : Bytes) :
    decode (formBytes (bytes.flatMap escape) ++ rest) = bytes ++ decode rest := by
  induction bytes with
  | nil => rfl
  | cons b bytes ih =>
    rw [List.flatMap_cons, formBytes_append, List.append_assoc, decode_formBytes_escape, ih]
    rfl

/-- A safe character is one byte, which is no plus and no percent sign. -/
lemma isFormSafe_cases (hc : isFormSafe c = true) :
    c.utf8Size = 1 ∧ c ≠ '+' ∧ c.val.toUInt8 ≠ 0x25 := by
  have hascii : c.toNat < 128 := by
    delta isFormSafe Char.isAlphanum Char.isAlpha Char.isUpper Char.isLower Char.isDigit at hc
    simp only [Bool.or_eq_true, Bool.and_eq_true, decide_eq_true_eq, beq_iff_eq,
      UInt32.le_iff_toNat_le] at hc
    rcases hc with ((((((hc | hc) | hc) | rfl) | rfl) | rfl) | rfl)
    · exact Nat.lt_of_le_of_lt hc.2 (by decide)
    · exact Nat.lt_of_le_of_lt hc.2 (by decide)
    · exact Nat.lt_of_le_of_lt hc.2 (by decide)
    all_goals decide
  have hall : ∀ n < 128, isFormSafe (Char.ofNat n) = true →
      (Char.ofNat n).utf8Size = 1 ∧ Char.ofNat n ≠ '+' ∧ (Char.ofNat n).val.toUInt8 ≠ 0x25 := by
    decide +kernel
  rw [← Char.ofNat_toNat c] at hc ⊢
  exact hall c.toNat hascii hc

lemma decode_cons {b : UInt8} (hb : b ≠ 0x25) (rest : Bytes) :
    decode (b :: rest) = b :: decode rest := by
  rw [decode]
  rintro h l rest' rfl
  exact absurd rfl hb

lemma decode_formBytes_formEscape (c : Char) (rest : Bytes) :
    decode (formBytes (formEscape c) ++ rest) = String.utf8EncodeChar c ++ decode rest := by
  unfold formEscape
  split
  · next hc =>
    obtain rfl : c = ' ' := by simpa using hc
    exact decode_cons (by decide) rest
  · split
    · next hc =>
      obtain ⟨hsize, hplus, hpercent⟩ := isFormSafe_cases hc
      simp only [formBytes, List.map_cons, List.map_nil, if_neg hplus, List.cons_append,
        List.nil_append, String.utf8EncodeChar_eq_singleton hsize, decode_cons hpercent]
    · exact decode_formBytes_escapes _ rest

/-! ## Whole texts -/

lemma decode_formBytes_formEncode (text : List Char) :
    decode (formBytes (formEncode text)) = Utf8.encode text := by
  induction text with
  | nil => simp [formEncode, formBytes, decode]
  | cons c text ih =>
    calc decode (formBytes (formEncode (c :: text)))
        = decode (formBytes (formEscape c) ++ formBytes (formEncode text)) := by
          rw [formEncode, List.flatMap_cons, formBytes_append]
          rfl
      _ = String.utf8EncodeChar c ++ Utf8.encode text := by
          rw [decode_formBytes_formEscape, ih]
      _ = Utf8.encode (c :: text) := (Utf8.encode_cons c text).symm

lemma formEncode_injective : Function.Injective formEncode := by
  intro s t h
  apply Utf8.encode_injective
  rw [← decode_formBytes_formEncode s, h, decode_formBytes_formEncode]

/-! ## The characters of an encoded text -/

lemma isFormSafe_upperDigit : ∀ d < 16, isFormSafe (Numeral.upperDigit d) = true := by
  decide

lemma isFormSafe_of_mem_escape {b : UInt8} (hc : c ∈ escape b) :
    c = '%' ∨ isFormSafe c = true := by
  simp only [escape, List.mem_cons, List.not_mem_nil, or_false] at hc
  rcases hc with rfl | rfl | rfl
  · exact .inl rfl
  · exact .inr (isFormSafe_upperDigit _ (by have := b.toNat_lt; omega))
  · exact .inr (isFormSafe_upperDigit _ (Nat.mod_lt _ (by decide)))

/-- A form is sent in safe characters, plus signs and percent signs. -/
lemma isFormSafe_of_mem_formEncode {text : List Char} (hc : c ∈ formEncode text) :
    c = '+' ∨ c = '%' ∨ isFormSafe c = true := by
  obtain ⟨d, -, hd⟩ := List.mem_flatMap.1 hc
  unfold formEscape at hd
  split at hd
  · exact .inl (List.mem_singleton.1 hd)
  · split at hd
    · next hsafe => exact .inr (.inr (List.mem_singleton.1 hd ▸ hsafe))
    · obtain ⟨b, -, hb⟩ := List.mem_flatMap.1 hd
      exact .inr (isFormSafe_of_mem_escape hb)

lemma slash_notMem_formEncode (text : List Char) : '/' ∉ formEncode text := by
  intro hmem
  rcases isFormSafe_of_mem_formEncode hmem with h | h | h
  · exact absurd h (by decide)
  · exact absurd h (by decide)
  · exact absurd h (by decide)

end Percent

namespace Machine

/-- The parts of a path end at a slash. -/
lemma parts_append_slash (path rest : List Char) :
    parts (path ++ '/' :: rest) = parts path ++ parts rest := by
  simp [parts, List.splitOn_append_cons_self]

/-- A name without slashes is one part, unless it is empty or a dot. -/
lemma parts_eq_singleton {name : List Char} (hslash : '/' ∉ name) (hne : name ≠ [])
    (hdot : name ≠ ['.']) : parts name = [name] := by
  simp [parts, List.splitOn_eq_singleton hslash, hne, hdot]

end Machine

namespace Session.LogFile

lemma toList_name_of_empty : (name "").toList = "default.log".toList := rfl

lemma toList_name {context : String} (h : context ≠ "") :
    (name context).toList =
      "context-".toList ++ Percent.formEncode context.toList ++ ".log".toList := by
  simp [name, h]

/-- Different contexts have different log files. -/
lemma name_injective : Function.Injective name := by
  intro s t h
  have hlists := congrArg String.toList h
  by_cases hs : s = "" <;> by_cases ht : t = ""
  · rw [hs, ht]
  · rw [hs, toList_name_of_empty, toList_name ht] at hlists
    simp at hlists
  · rw [ht, toList_name_of_empty, toList_name hs] at hlists
    simp at hlists
  · rw [toList_name hs, toList_name ht, List.append_left_inj, List.append_right_inj] at hlists
    exact String.toList_injective (Percent.formEncode_injective hlists)

/-- Different contexts log to different paths. -/
lemma path_injective (dir : String) : Function.Injective (path dir) := by
  intro s t h
  refine name_injective (String.toList_injective ?_)
  have hlists := congrArg String.toList h
  simp only [path, within] at hlists
  split at hlists
  · exact hlists
  · split at hlists <;> simpa using hlists

/-! ## Names of files, and where they lead -/

/-- A name of a file: it leads neither into another directory nor out of its own. -/
structure IsFileName (name : List Char) : Prop where
  /-- There is something to it. -/
  nonempty : name ≠ []
  /-- No slash separates parts of it. -/
  slash : '/' ∉ name
  /-- It does not stand for the directory itself. -/
  dot : name ≠ ['.']
  /-- It does not stand for the directory above. -/
  dots : name ≠ ['.', '.']

lemma isFileName_name (context : String) : IsFileName (name context).toList := by
  by_cases h : context = ""
  · rw [h, toList_name_of_empty]
    exact ⟨by decide, by decide, by decide, by decide⟩
  · rw [toList_name h]
    refine ⟨by simp, ?_, by simp, by simp⟩
    simp only [List.mem_append, not_or]
    exact ⟨⟨by decide, Percent.slash_notMem_formEncode _⟩, by decide⟩

/-- A file of a directory has the parts of the directory and its own name. -/
lemma parts_within (dir : String) {file : String} (hfile : IsFileName file.toList) :
    Machine.parts (within dir file).toList = Machine.parts dir.toList ++ [file.toList] := by
  have hone := Machine.parts_eq_singleton hfile.slash hfile.nonempty hfile.dot
  unfold within
  split
  · next hempty =>
    obtain rfl : dir = "" := by simpa using hempty
    exact hone
  · split
    · -- The slash between the two is the last character of the directory.
      next hlast =>
      obtain ⟨front, hfront⟩ := List.getLast?_eq_some_iff.1 (by simpa using hlast)
      have hnone := Machine.parts_append_slash front []
      rw [String.toList_append, hfront, List.append_assoc, List.singleton_append,
        Machine.parts_append_slash, hone, hnone]
      simp [Machine.parts]
    · rw [String.toList_append, String.toList_append, List.append_assoc]
      exact (Machine.parts_append_slash _ _).trans (congrArg (Machine.parts dir.toList ++ ·) hone)

lemma parts_path (dir context : String) :
    Machine.parts (path dir context).toList =
      Machine.parts dir.toList ++ [(name context).toList] :=
  parts_within dir (isFileName_name context)

lemma isAbsolute_path (dir context : String) :
    Machine.isAbsolute (path dir context).toList = Machine.isAbsolute dir.toList := by
  have hname : (name context).toList.head? ≠ some '/' := fun h =>
    (isFileName_name context).slash (List.mem_of_mem_head? h)
  unfold path within
  split
  · next hempty =>
    obtain rfl : dir = "" := by simpa using hempty
    simpa [Machine.isAbsolute] using hname
  · next hempty =>
    have hne : dir.toList ≠ [] := by simpa using hempty
    obtain ⟨first, rest, hdir⟩ := List.exists_cons_of_ne_nil hne
    split <;> simp [Machine.isAbsolute, hdir]

/-- **Contexts log apart, and in the directory.**  Different contexts have different paths, and they
remain different when slashes that are doubled and single dots are not counted.  Each path is the
directory joined with the name of a file: it has the parts of the directory and one more, which is
neither a dot nor two, and starts where the directory starts. -/
theorem contexts_log_apart (dir : String) :
    Function.Injective (path dir) ∧
    Function.Injective (fun context => Machine.parts (path dir context).toList) ∧
    ∀ context, path dir context = within dir (name context) ∧ IsFileName (name context).toList ∧
      Machine.parts (path dir context).toList =
        Machine.parts dir.toList ++ [(name context).toList] ∧
      Machine.isAbsolute (path dir context).toList = Machine.isAbsolute dir.toList := by
  refine ⟨path_injective dir, fun s t h => ?_, fun context => ?_⟩
  · have hparts : Machine.parts dir.toList ++ [(name s).toList] =
        Machine.parts dir.toList ++ [(name t).toList] := by
      rw [← parts_path, ← parts_path]
      exact h
    have hnames := List.singleton_inj.1 (List.append_cancel_left hparts)
    exact name_injective (String.toList_injective hnames)
  · exact ⟨rfl, isFileName_name context, parts_path dir context, isAbsolute_path dir context⟩

example : path "/var/log" "a b" = "/var/log/context-a+b.log" ∧
    path "/var/log/" "../ü" = "/var/log/context-..%2F%C3%BC.log" := by
  decide +kernel

end Session.LogFile

end SharedTerminal
