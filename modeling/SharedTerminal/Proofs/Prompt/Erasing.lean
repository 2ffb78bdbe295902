import SharedTerminal.Proofs.Prompt.Chunking
import SharedTerminal.Proofs.Text.Utf8

/-!
# Taking back a character

A line is edited byte by byte, but people type characters.  An erasing byte removes one byte of the
line, and so it takes back a character just if that is one byte long, which the ASCII characters
are.  Of any other character some bytes stay (`takeChunks_erased`), and nothing shows them: the
rubout of the echo clears the cell of the whole character.  They are read as one replacement
character at the end of the line, so that the command that is started is not the one that is seen.

The main statement is `erase_undoes_iff_ascii`; `not_forall_erase_undoes` gives a character that is
not taken back.
-/

namespace SharedTerminal.Prompt

/-- The characters that are no part of a line but edit it. -/
def editing : List Char := ['\r', '\n', '\x03', '\x08', '\x7F']

variable {starts : Launcher} {p : Prompt} {b : UInt8} {c : Char} {bytes erases : Bytes}

/-! ## Keys of a character -/

/-- A byte that edits the line is the code of an editing character. -/
lemma mem_editing_of_ofByte (hb : Key.ofByte b ≠ .other) :
    b.toNat < 0x80 ∧ Char.ofNat b.toNat ∈ editing := by
  have hcodes : b ∈ ([0x0D, 0x0A, 0x03, 0x08, 0x7F] : Bytes) := by
    by_contra hnone
    simp only [List.mem_cons, List.not_mem_nil, or_false, not_or] at hnone
    simp [Key.ofByte, hnone] at hb
  simp only [List.mem_cons, List.not_mem_nil, or_false] at hcodes
  rcases hcodes with rfl | rfl | rfl | rfl | rfl <;> decide

/-- **No byte of a character edits the line**, unless the character does. -/
theorem ofByte_eq_other (hc : c ∉ editing) (hb : b ∈ String.utf8EncodeChar c) :
    Key.ofByte b = .other := by
  by_contra hkey
  obtain ⟨hascii, hediting⟩ := mem_editing_of_ofByte hkey
  obtain ⟨first, rest, heq, hspells⟩ := Utf8.exists_spells c
  rw [heq, List.mem_cons] at hb
  rcases hb with rfl | hb
  · -- A byte this small is a character of its own.
    have hscan := hspells.scan []
    rw [Utf8.scan_one hascii, Utf8.Scan.char.injEq] at hscan
    exact hc (hscan.1 ▸ hediting)
  · have hcontinues := Utf8.isContinuation_iff.1 (hspells.continues b hb)
    omega

/-! ## Typing and erasing -/

lemma type_others_fst (hidle : p.running = none) (starts : Launcher) (echo : Bytes)
    (hbytes : ∀ b ∈ bytes, Key.ofByte b = .other) :
    (p.type starts echo bytes).1 = { p with line := p.line ++ bytes } := by
  induction bytes generalizing p echo with
  | nil => simp [type]
  | cons b rest ih =>
    obtain ⟨hb, hrest⟩ := List.forall_mem_cons.1 hbytes
    have hkey : (p.press starts echo b).1 = { p with line := p.line ++ [b] } := by
      simp [press, hb]
    rw [type_of_idle hidle, hkey]
    simpa using ih (p := { p with line := p.line ++ [b] }) hidle _ hrest

/-- Each erasing byte removes the last byte of the line, if there is one. -/
lemma type_erases_fst (hidle : p.running = none) (starts : Launcher) (echo : Bytes)
    (herases : ∀ b ∈ erases, Key.ofByte b = .erase) :
    (p.type starts echo erases).1 =
      { p with line := p.line.take (p.line.length - erases.length) } := by
  induction erases generalizing p echo with
  | nil => simp [type]
  | cons b rest ih =>
    obtain ⟨hb, hrest⟩ := List.forall_mem_cons.1 herases
    have hkey : (p.press starts echo b).1 = { p with line := p.line.dropLast } := by
      rcases hempty : p.line.isEmpty with _ | _
      · simp [press, hb, hempty]
      · have hline : p.line.dropLast = p.line := by simp [List.isEmpty_iff.1 hempty]
        simp [press, hb, hempty, hline]
    have hless : p.line.dropLast.take (p.line.dropLast.length - rest.length) =
        p.line.take (p.line.length - (rest.length + 1)) := by
      rw [List.dropLast_eq_take, List.take_take, List.length_take]
      congr 1
      omega
    have hnext := ih (p := { p with line := p.line.dropLast }) hidle (p.press starts echo b).2.1
      hrest
    rw [type_of_idle hidle, hkey, hnext]
    simp only [hless, List.length_cons]

/-- **What a character and some erasing bytes leave**, in whatever chunks they come: the first
bytes of the character, one less for each erasing byte. -/
theorem takeChunks_erased (hlive : p.stopped = false) (hidle : p.running = none)
    (hc : c ∉ editing) (herases : ∀ b ∈ erases, Key.ofByte b = .erase)
    (hfew : erases.length ≤ (String.utf8EncodeChar c).length) {chunks : List Bytes}
    (hchunks : chunks.flatten = String.utf8EncodeChar c ++ erases) :
    (p.takeChunks starts chunks).1 =
      { p with
        line := p.line ++
          (String.utf8EncodeChar c).take ((String.utf8EncodeChar c).length - erases.length) } := by
  have hothers : ∀ b ∈ String.utf8EncodeChar c, Key.ofByte b = .other :=
    fun b hb => ofByte_eq_other hc hb
  have hleft : p.line.length + (String.utf8EncodeChar c).length - erases.length =
      p.line.length + ((String.utf8EncodeChar c).length - erases.length) := by omega
  have hrest := type_erases_fst (p := { p with line := p.line ++ String.utf8EncodeChar c }) hidle
    starts [] herases
  rw [(takeChunks_eq starts p chunks).1, hchunks, react, if_neg (by simp [hlive]),
    (type_append (fun _ => rfl) starts _ _).1, type_others_fst hidle starts [] hothers, hrest]
  simp only [List.length_append, hleft, List.take_length_add_append]

/-- A character is taken back by as many erasing bytes as it has bytes. -/
lemma takeChunks_eq_self_iff (hlive : p.stopped = false) (hidle : p.running = none)
    (hc : c ∉ editing) (herases : ∀ b ∈ erases, Key.ofByte b = .erase)
    (hfew : erases.length ≤ (String.utf8EncodeChar c).length) {chunks : List Bytes}
    (hchunks : chunks.flatten = String.utf8EncodeChar c ++ erases) :
    (p.takeChunks starts chunks).1 = p ↔
      erases.length = (String.utf8EncodeChar c).length := by
  rw [takeChunks_erased hlive hidle hc herases hfew hchunks]
  constructor
  · intro heq
    have hline := congrArg Prompt.line heq
    rw [List.append_right_eq_self, List.take_eq_nil_iff] at hline
    have hpos := Char.utf8Size_pos c
    rw [← String.length_utf8EncodeChar] at hpos
    rcases hline with hnone | hnil
    · omega
    · simp [hnil] at hpos
  · intro hlength
    simp [hlength]

/-! ## What is read -/

/-- **What is left of a character is read as one replacement character.** -/
theorem lineText_erased (hlong : (String.utf8EncodeChar c).length ≠ 1) (text : List Char) :
    lineText (Utf8.encode text ++ (String.utf8EncodeChar c).dropLast) =
      String.ofList (Blank.trim (text ++ [Utf8.replacement])) := by
  have hmore : 1 < (String.utf8EncodeChar c).length := by
    have hpos := Char.utf8Size_pos c
    rw [String.length_utf8EncodeChar] at hlong ⊢
    omega
  have hne : String.utf8EncodeChar c ≠ [] := List.ne_nil_of_length_pos (by omega)
  have hcut := Utf8.decodeLossy_cut (List.dropLast_concat_getLast hne).symm
    (List.ne_nil_of_length_pos (by rw [List.length_dropLast]; omega)) (by simp)
  rw [lineText, Utf8.decodeLossy_encode_append, hcut]

/-- The end of a line starts the line, if it can be started, and nothing else. -/
lemma mem_react_enter (hlive : p.stopped = false) (hidle : p.running = none)
    (hb : Key.ofByte b = .enter) (task : Nat) (line : String) :
    .launch task line ∈ (p.react (fun _ _ => .ok ()) (.input [b])).2 ↔
      task = p.next ∧ line = lineText p.line ∧ line ≠ "" := by
  by_cases hempty : lineText p.line = ""
  · have hblank : (lineText p.line).isEmpty = true := by rw [hempty]; rfl
    simp only [react, hlive, type, hidle, press, hb, enter, hblank, flush]
    simp +contextual [hempty]
  · have hline : (lineText p.line).isEmpty = false := by simpa using hempty
    simp only [react, hlive, type, hidle, press, hb, enter, hline, launch, flush]
    simp +contextual [hempty]

/-- **An erasing byte takes back a character just if the character is ASCII.**  At a prompt whose
line is text, someone types a character that does not edit the line, and then an erasing byte.  All
bytes of the character but the last stay on the line.  So the line is what it was before just if the
character is one byte long, and just then the next end of the line has the same effect as without
the two.  Otherwise what is left is read as a replacement character, so that another line is
started.  It takes as many erasing bytes as the character has bytes to take it back. -/
theorem erase_undoes_iff_ascii (starts : Launcher) (hlive : p.stopped = false)
    (hidle : p.running = none) {text : List Char} (hline : p.line = Utf8.encode text)
    (hc : c ∉ editing) (hb : Key.ofByte b = .erase) {chunks : List Bytes}
    (hchunks : chunks.flatten = String.utf8EncodeChar c ++ [b]) :
    let q := (p.takeChunks starts chunks).1
    q = { p with line := p.line ++ (String.utf8EncodeChar c).dropLast } ∧
      (q = p ↔ c.toNat < 0x80) ∧
      (∀ e, Key.ofByte e = .enter →
        ((∀ later : Launcher, q.react later (.input [e]) = p.react later (.input [e])) ↔
          c.toNat < 0x80)) ∧
      (¬ c.toNat < 0x80 → lineText p.line = String.ofList (Blank.trim text) ∧
        lineText q.line = String.ofList (Blank.trim (text ++ [Utf8.replacement])) ∧
        lineText q.line ≠ lineText p.line) ∧
      ∀ erases others, (∀ b ∈ erases, Key.ofByte b = .erase) →
        erases.length ≤ (String.utf8EncodeChar c).length →
        others.flatten = String.utf8EncodeChar c ++ erases →
        ((p.takeChunks starts others).1 = p ↔
          erases.length = (String.utf8EncodeChar c).length) := by
  intro q
  have hone : ∀ x ∈ [b], Key.ofByte x = .erase := by simpa using hb
  have hfew : [b].length ≤ (String.utf8EncodeChar c).length := by
    rw [String.length_utf8EncodeChar]
    exact Char.utf8Size_pos c
  have hq : q = { p with line := p.line ++ (String.utf8EncodeChar c).dropLast } := by
    rw [List.dropLast_eq_take]
    exact takeChunks_erased hlive hidle hc hone hfew hchunks
  -- One erasing byte is enough just for a character of one byte.
  have hsame : q = p ↔ c.toNat < 0x80 := by
    rw [← Utf8.length_utf8EncodeChar_eq_one_iff, eq_comm (b := 1)]
    exact takeChunks_eq_self_iff hlive hidle hc hone hfew hchunks
  have hread : ¬ c.toNat < 0x80 → lineText p.line = String.ofList (Blank.trim text) ∧
      lineText q.line = String.ofList (Blank.trim (text ++ [Utf8.replacement])) ∧
      lineText q.line ≠ lineText p.line := by
    intro hlong
    rw [← Utf8.length_utf8EncodeChar_eq_one_iff] at hlong
    have hbefore : lineText p.line = String.ofList (Blank.trim text) := by
      rw [lineText, hline, Utf8.decodeLossy_encode]
    have hafter : lineText q.line =
        String.ofList (Blank.trim (text ++ [Utf8.replacement])) := by
      rw [hq]
      simp only [hline, lineText_erased hlong]
    refine ⟨hbefore, hafter, fun heq => ?_⟩
    rw [hbefore, hafter, String.ofList_inj] at heq
    exact Blank.trim_concat_ne (by decide) text heq
  refine ⟨hq, hsame, fun e he => ⟨fun hreact => ?_, fun hascii later => ?_⟩, hread,
    fun erases others herases hfew hothers =>
      takeChunks_eq_self_iff hlive hidle hc herases hfew hothers⟩
  · -- The line that is started tells the two apart.
    by_contra hlong
    obtain ⟨_, hafter, hne⟩ := hread hlong
    have hstarted : .launch q.next (lineText q.line) ∈
        (q.react (fun _ _ => .ok ()) (.input [e])).2 := by
      rw [mem_react_enter (by rw [hq]; exact hlive) (by rw [hq]; exact hidle) he]
      refine ⟨rfl, rfl, ?_⟩
      rw [hafter, Blank.trim_concat (by decide)]
      simp [← String.toList_inj]
    rw [hreact, mem_react_enter hlive hidle he] at hstarted
    exact hne hstarted.2.1
  · rw [hsame.2 hascii]

/-- Of an accented letter that comes in two chunks, with an erasing byte in the second, the first
byte stays. -/
theorem erase_leaves_accent :
    let starts : Launcher := fun _ _ => .ok ()
    let p : Prompt := { (Prompt.start 1).1 with line := utf8 "echo a" }
    let q := (p.takeChunks starts [[0xC3], [0xA9, 0x7F]]).1
    q = { p with line := utf8 "echo a" ++ [0xC3] } ∧ q ≠ p ∧
      lineText p.line = "echo a" ∧ lineText q.line = "echo a\uFFFD" := by
  intro starts p q
  have hchunks : [[0xC3], [0xA9, 0x7F]].flatten = String.utf8EncodeChar 'é' ++ [0x7F] := by
    decide
  obtain ⟨hq, hsame, _, hread, _⟩ := erase_undoes_iff_ascii starts (p := p) rfl rfl
    (show p.line = Utf8.encode "echo a".toList from rfl) (by decide) (by decide) hchunks
  obtain ⟨hbefore, hafter, _⟩ := hread (by decide)
  exact ⟨hq.trans (by decide), fun heq => absurd (hsame.1 heq) (by decide),
    hbefore.trans (by decide), hafter.trans (by decide)⟩

/-- An erasing byte does not always take back the character before it. -/
theorem not_forall_erase_undoes :
    ¬ ∀ (starts : Launcher) (p : Prompt) (text : List Char) (c : Char) (b : UInt8),
        p.stopped = false → p.running = none → p.line = Utf8.encode text → c ∉ editing →
        Key.ofByte b = .erase →
        (p.react starts (.input (String.utf8EncodeChar c ++ [b]))).1.line = p.line := by
  intro hall
  have hline := hall (fun _ _ => .ok ()) { (Prompt.start 1).1 with line := utf8 "echo a" }
    "echo a".toList 'é' 0x7F rfl rfl rfl (by decide) (by decide)
  exact absurd hline (by decide)

end SharedTerminal.Prompt
