import SharedTerminal.Text.Utf8
import Mathlib.Data.List.Basic
import Mathlib.Tactic.Common

/-!
# Characters in byte streams

A character is one lead byte and some continuation bytes, and a scan of its bytes gives it back
(`exists_spells`).  So text comes back from its bytes whole, by either way of reading them.

It does not come back from the pieces of a stream that is cut anywhere.  A cut inside a character
leaves continuation bytes in front of a piece, and they are read as characters of their own.
Counting lead bytes shows that this is never made up for: pieces that are read one by one give the
text of the whole stream just if each of them is text (`flatMap_decodeLossy_eq_iff`).
-/

namespace SharedTerminal.Utf8

variable {a b : UInt8} {bytes after : Bytes} {text : List Char} {chunks : List Bytes}

/-! ## One character -/

/-- Whether a byte goes on with a character that another byte began. -/
def isContinuation (b : UInt8) : Bool := 0x80 ≤ b && b ≤ 0xBF

lemma isContinuation_iff : isContinuation b = true ↔ 0x80 ≤ b.toNat ∧ b.toNat ≤ 0xBF := by
  simp [isContinuation, UInt8.le_iff_toNat_le]

lemma lead?_eq (b : UInt8) :
    lead? b =
      if 0xC2 ≤ b.toNat ∧ b.toNat ≤ 0xDF then some ⟨1, 0x80, 0xBF⟩
      else if b.toNat = 0xE0 then some ⟨2, 0xA0, 0xBF⟩
      else if b.toNat = 0xED then some ⟨2, 0x80, 0x9F⟩
      else if 0xE1 ≤ b.toNat ∧ b.toNat ≤ 0xEF then some ⟨2, 0x80, 0xBF⟩
      else if b.toNat = 0xF0 then some ⟨3, 0x90, 0xBF⟩
      else if 0xF1 ≤ b.toNat ∧ b.toNat ≤ 0xF3 then some ⟨3, 0x80, 0xBF⟩
      else if b.toNat = 0xF4 then some ⟨3, 0x80, 0x8F⟩
      else none := by
  simp [lead?, UInt8.le_iff_toNat_le, ← UInt8.toNat_inj]

lemma continuation_cons {acc n : Nat} {low high : UInt8} (hlow : low.toNat ≤ b.toNat)
    (hhigh : b.toNat ≤ high.toNat) (bytes : Bytes) :
    continuation acc (n + 1) low high (b :: bytes) =
      continuation (acc * 64 + b.toNat % 64) n 0x80 0xBF bytes := by
  simp [continuation, UInt8.le_iff_toNat_le, hlow, hhigh]

/-- After the first two bytes of a character any continuation byte is in order. -/
lemma continuation_cons_of_continues {acc n : Nat} (hb : isContinuation b = true)
    (bytes : Bytes) :
    continuation acc (n + 1) 0x80 0xBF (b :: bytes) =
      continuation (acc * 64 + b.toNat % 64) n 0x80 0xBF bytes := by
  have hlow : (0x80 : UInt8).toNat ≤ b.toNat := (isContinuation_iff.1 hb).1
  have hhigh : b.toNat ≤ (0xBF : UInt8).toNat := (isContinuation_iff.1 hb).2
  exact continuation_cons hlow hhigh bytes

lemma scan_of_lead? {n m : Nat} {low high : UInt8} (hl : lead? a = some ⟨n, low, high⟩)
    (hm : Nat.pow 2 (6 - n) = m) (bytes : Bytes) :
    scan a bytes = continuation (a.toNat % m) n low high bytes := by
  have ha : ¬ a < 0x80 := by
    intro ha
    rw [UInt8.lt_iff_toNat_lt] at ha
    simp only [UInt8.reduceToNat] at ha
    rw [lead?_eq] at hl
    repeat rw [if_neg (by omega)] at hl
    cases hl
  subst hm
  simp [scan, ha, hl]

lemma scan_one (ha : a.toNat < 0x80) (after : Bytes) :
    scan a after = .char (Char.ofNat a.toNat) after := by
  simp [scan, UInt8.lt_iff_toNat_lt, ha]

lemma scan_two (ha : 0xC2 ≤ a.toNat ∧ a.toNat ≤ 0xDF) (hb : isContinuation b = true)
    (after : Bytes) :
    scan a (b :: after) = .char (Char.ofNat (a.toNat % 32 * 64 + b.toNat % 64)) after := by
  have hl : lead? a = some ⟨1, 0x80, 0xBF⟩ := by rw [lead?_eq, if_pos ha]
  rw [scan_of_lead? hl (m := 32) (by decide), continuation_cons_of_continues hb, continuation]

lemma scan_three {d : UInt8} (ha : 0xE0 ≤ a.toNat ∧ a.toNat ≤ 0xEF)
    (hb : isContinuation b = true) (hd : isContinuation d = true)
    (hlow : a.toNat = 0xE0 → 0xA0 ≤ b.toNat) (hhigh : a.toNat = 0xED → b.toNat ≤ 0x9F)
    (after : Bytes) :
    scan a (b :: d :: after) =
      .char (Char.ofNat ((a.toNat % 16 * 64 + b.toNat % 64) * 64 + d.toNat % 64)) after := by
  rw [isContinuation_iff] at hb
  obtain ⟨low, high, hl, hlb, hbh⟩ : ∃ low high, lead? a = some ⟨2, low, high⟩ ∧
      low.toNat ≤ b.toNat ∧ b.toNat ≤ high.toNat := by
    rw [lead?_eq, if_neg (by omega)]
    split
    · next h => exact ⟨_, _, rfl, hlow h, hb.2⟩
    split
    · next h => exact ⟨_, _, rfl, hb.1, hhigh h⟩
    rw [if_pos (by omega)]
    exact ⟨_, _, rfl, hb.1, hb.2⟩
  rw [scan_of_lead? hl (m := 16) (by decide), continuation_cons hlb hbh,
    continuation_cons_of_continues hd, continuation]

lemma scan_four {d e : UInt8} (ha : 0xF0 ≤ a.toNat ∧ a.toNat ≤ 0xF4)
    (hb : isContinuation b = true) (hd : isContinuation d = true) (he : isContinuation e = true)
    (hlow : a.toNat = 0xF0 → 0x90 ≤ b.toNat) (hhigh : a.toNat = 0xF4 → b.toNat ≤ 0x8F)
    (after : Bytes) :
    scan a (b :: d :: e :: after) =
      .char (Char.ofNat (((a.toNat % 8 * 64 + b.toNat % 64) * 64 + d.toNat % 64) * 64
        + e.toNat % 64)) after := by
  rw [isContinuation_iff] at hb
  obtain ⟨low, high, hl, hlb, hbh⟩ : ∃ low high, lead? a = some ⟨3, low, high⟩ ∧
      low.toNat ≤ b.toNat ∧ b.toNat ≤ high.toNat := by
    rw [lead?_eq]
    repeat rw [if_neg (by omega)]
    split
    · next h => exact ⟨_, _, rfl, hlow h, hb.2⟩
    split
    · exact ⟨_, _, rfl, hb.1, hb.2⟩
    rw [if_pos (by omega)]
    exact ⟨_, _, rfl, hb.1, hhigh (by omega)⟩
  rw [scan_of_lead? hl (m := 8) (by decide), continuation_cons hlb hbh,
    continuation_cons_of_continues hd,
    continuation_cons_of_continues he, continuation]

/-- The bytes of a character: the first of them leads, the others go on with it, and a scan gives
the character back, whatever follows. -/
structure Spells (c : Char) (b : UInt8) (rest : Bytes) : Prop where
  /-- The first byte leads. -/
  leads : isContinuation b = false
  /-- The others go on. -/
  continues : ∀ x ∈ rest, isContinuation x = true
  /-- The character is read. -/
  scan : ∀ after, scan b (rest ++ after) = .char c after

/-- A byte made of a number that is small enough. -/
lemma toNat_ofNat_of_lt {n : Nat} (h : n < 256) : (UInt8.ofNat n).toNat = n := by
  simpa using h

lemma exists_spells (c : Char) :
    ∃ b rest, String.utf8EncodeChar c = b :: rest ∧ Spells c b rest := by
  have hchar : ∀ n, n = c.val.toNat → Char.ofNat n = c := by
    rintro n rfl
    exact Char.ofNat_toNat c
  have hvalid : c.val.toNat < 0xD800 ∨ 0xDFFF < c.val.toNat ∧ c.val.toNat < 0x110000 := c.valid
  rw [String.utf8EncodeChar.eq_def]
  generalize c.val.toNat = v at hchar hvalid
  have hlead : ∀ n, n < 0x80 ∨ 0xC0 ≤ n ∧ n < 256 → isContinuation (UInt8.ofNat n) = false := by
    intro n hn
    rw [← Bool.not_eq_true, isContinuation_iff, toNat_ofNat_of_lt (by omega)]
    omega
  have hcont : ∀ n, isContinuation (UInt8.ofNat (n % 64 + 128)) = true := by
    intro n
    rw [isContinuation_iff, toNat_ofNat_of_lt (by omega)]
    omega
  have htail : ∀ n, (UInt8.ofNat (n % 64 + 128)).toNat = n % 64 + 128 :=
    fun n => toNat_ofNat_of_lt (by omega)
  dsimp only
  split
  · next h =>
    have ha : (UInt8.ofNat v).toNat = v := toNat_ofNat_of_lt (by omega)
    refine ⟨_, _, rfl, hlead v (by omega), by simp, fun after => ?_⟩
    rw [List.nil_append, scan_one (by omega), hchar _ ha]
  split
  · next h =>
    have ha : (UInt8.ofNat (v / 64 % 32 + 192)).toNat = v / 64 % 32 + 192 :=
      toNat_ofNat_of_lt (by omega)
    refine ⟨_, _, rfl, hlead _ (by omega), ?_, fun after => ?_⟩
    · simp only [List.forall_mem_cons, hcont]
      simp
    rw [List.singleton_append, scan_two (by omega) (hcont _), hchar _ (by rw [ha, htail]; omega)]
  split
  · next h =>
    have ha : (UInt8.ofNat (v / 4096 % 16 + 224)).toNat = v / 4096 % 16 + 224 :=
      toNat_ofNat_of_lt (by omega)
    refine ⟨_, _, rfl, hlead _ (by omega), ?_, fun after => ?_⟩
    · simp only [List.forall_mem_cons, hcont]
      simp
    rw [List.cons_append, List.singleton_append,
      scan_three (by omega) (hcont _) (hcont _) (by rw [ha, htail]; omega)
        (by rw [ha, htail]; omega),
      hchar _ (by rw [ha, htail, htail]; omega)]
  · next h =>
    have ha : (UInt8.ofNat (v / 262144 % 8 + 240)).toNat = v / 262144 % 8 + 240 :=
      toNat_ofNat_of_lt (by omega)
    refine ⟨_, _, rfl, hlead _ (by omega), ?_, fun after => ?_⟩
    · simp only [List.forall_mem_cons, hcont]
      simp
    rw [List.cons_append, List.cons_append, List.singleton_append,
      scan_four (by omega) (hcont _) (hcont _) (hcont _) (by rw [ha, htail]; omega)
        (by rw [ha, htail]; omega),
      hchar _ (by rw [ha, htail, htail, htail]; omega)]

/-- A character is one byte long just if it is ASCII. -/
lemma length_utf8EncodeChar_eq_one_iff (c : Char) :
    (String.utf8EncodeChar c).length = 1 ↔ c.toNat < 0x80 := by
  rw [String.length_utf8EncodeChar, Char.utf8Size_eq_one_iff, UInt32.le_iff_toNat_le]
  exact Nat.lt_succ_iff.symm

/-! ## Whole texts -/

/-- Text that goes before other bytes comes back as it is. -/
lemma decodeLossy_encode_append (text : List Char) (after : Bytes) :
    decodeLossy (encode text ++ after) = text ++ decodeLossy after := by
  induction text with
  | nil => rfl
  | cons c text ih =>
    obtain ⟨b, rest, heq, hspells⟩ := exists_spells c
    rw [encode_cons, heq, List.cons_append, List.cons_append, List.append_assoc, decodeLossy]
    split
    · next found after hscan =>
      rw [hspells.scan] at hscan
      cases hscan
      rw [ih, List.cons_append]
    · next after hscan =>
      rw [hspells.scan] at hscan
      cases hscan

/-- Text comes back from its bytes. -/
@[simp] lemma decodeLossy_encode (text : List Char) : decodeLossy (encode text) = text := by
  simpa [decodeLossy] using decodeLossy_encode_append text []

/-- The bytes of a text are well-formed to the end. -/
@[simp] lemma validPrefix_encode (text : List Char) :
    validPrefix (encode text) = (text, true) := by
  induction text with
  | nil => rw [encode_nil, validPrefix]
  | cons c text ih =>
    obtain ⟨b, rest, heq, hspells⟩ := exists_spells c
    rw [encode_cons, heq, List.cons_append, validPrefix]
    split
    · next found after hscan =>
      rw [hspells.scan] at hscan
      cases hscan
      rw [ih]
    · next after hscan =>
      rw [hspells.scan] at hscan
      cases hscan

/-! ## Broken characters -/

/-- Continuation bytes that are read to the end are not enough without the last of them. -/
lemma continuation_cut {acc n : Nat} {low high : UInt8} {c : Char} {front back : Bytes}
    (hback : back ≠ []) (h : continuation acc n low high (front ++ back) = .char c []) :
    continuation acc n low high front = .broken [] := by
  induction n generalizing acc low high front with
  | zero =>
    rw [continuation, Scan.char.injEq] at h
    simp [hback] at h
  | succ n ih =>
    cases front with
    | nil => rfl
    | cons b front =>
      rw [List.cons_append, continuation] at h
      rw [continuation]
      split at h
      · next hrange =>
        rw [if_pos hrange]
        exact ih h
      · cases h

/-- **A character that ends too early is read as one replacement character**, no matter how many
of its bytes are there. -/
theorem decodeLossy_cut {c : Char} {front back : Bytes}
    (h : String.utf8EncodeChar c = front ++ back) (hfront : front ≠ []) (hback : back ≠ []) :
    decodeLossy front = [replacement] := by
  obtain ⟨b, rest, heq, hspells⟩ := exists_spells c
  rw [heq] at h
  obtain ⟨begun, rfl⟩ : ∃ begun, front = b :: begun := by
    cases front with
    | nil => exact absurd rfl hfront
    | cons a begun =>
      obtain ⟨rfl, -⟩ := List.cons.inj h
      exact ⟨begun, rfl⟩
  have hscan := hspells.scan []
  rw [List.append_nil, (List.cons.inj h).2] at hscan
  -- The scan that reads the character needs all of its bytes.
  have hbroken : scan b begun = .broken [] := by
    unfold scan at hscan ⊢
    split at hscan
    · rw [Scan.char.injEq] at hscan
      simp [hback] at hscan
    · next hlead =>
      rw [if_neg hlead]
      split at hscan
      · cases hscan
      · exact continuation_cut hback hscan
  rw [decodeLossy]
  split
  · next found after hchar =>
    rw [hbroken] at hchar
    cases hchar
  · next after hafter =>
    rw [hbroken] at hafter
    cases hafter
    rw [decodeLossy]

/-! ## Counting -/

/-- How many bytes do not go on with a character. -/
def leads (bytes : Bytes) : Nat := bytes.countP (!isContinuation ·)

@[simp] lemma leads_append (s t : Bytes) : leads (s ++ t) = leads s + leads t :=
  List.countP_append

lemma leads_cons_of_leads (h : isContinuation b = false) (bytes : Bytes) :
    leads (b :: bytes) = leads bytes + 1 := by
  simp [leads, h]

lemma leads_cons_of_continues (h : isContinuation b = true) (bytes : Bytes) :
    leads (b :: bytes) = leads bytes := by
  simp [leads, h]

lemma leads_eq_zero (h : ∀ b ∈ bytes, isContinuation b = true) : leads bytes = 0 := by
  simpa [leads, List.countP_eq_zero] using h

/-- A text has as many characters as its bytes lead. -/
lemma leads_encode (text : List Char) : leads (encode text) = text.length := by
  induction text with
  | nil => rfl
  | cons c text ih =>
    obtain ⟨b, rest, heq, hspells⟩ := exists_spells c
    rw [encode_cons, heq, List.cons_append, leads_cons_of_leads hspells.leads, leads_append,
      leads_eq_zero hspells.continues, ih, List.length_cons, Nat.zero_add]

/-- What a scan consumes beyond the first byte goes on with a character. -/
lemma exists_append_continuation (acc n : Nat) {low high : UInt8} (hlow : 0x80 ≤ low.toNat)
    (hhigh : high.toNat ≤ 0xBF) (bytes : Bytes) :
    ∃ used, bytes = used ++ (continuation acc n low high bytes).after ∧
      ∀ x ∈ used, isContinuation x = true := by
  induction n generalizing acc low high bytes with
  | zero => exact ⟨[], by simp [continuation, Scan.after]⟩
  | succ n ih =>
    cases bytes with
    | nil => exact ⟨[], by simp [continuation, Scan.after]⟩
    | cons b bytes =>
      rw [continuation]
      split
      · next h =>
        simp only [Bool.and_eq_true, decide_eq_true_eq, UInt8.le_iff_toNat_le] at h
        obtain ⟨used, hused, hall⟩ :=
          ih (acc * 64 + b.toNat % 64) (by decide : 0x80 ≤ (0x80 : UInt8).toNat)
            (by decide : (0xBF : UInt8).toNat ≤ 0xBF) bytes
        have hb : isContinuation b = true := isContinuation_iff.2 (by omega)
        exact ⟨b :: used, by rw [List.cons_append, ← hused], by simpa [hb] using hall⟩
      · exact ⟨[], rfl, by simp⟩

lemma exists_append_scan (b : UInt8) (bytes : Bytes) :
    ∃ used, bytes = used ++ (scan b bytes).after ∧ ∀ x ∈ used, isContinuation x = true := by
  unfold scan
  split
  · exact ⟨[], rfl, by simp⟩
  · rw [lead?_eq]
    split
    · exact ⟨[], rfl, by simp⟩
    · next l hl =>
      have hrange : 0x80 ≤ l.low.toNat ∧ l.high.toNat ≤ 0xBF := by
        repeat' split at hl
        all_goals first | cases hl; decide | cases hl
      exact exists_append_continuation _ _ hrange.1 hrange.2 bytes

/-- A scan gives one character, and what is left of the stream leads as often as the whole, but for
the first byte. -/
lemma length_decodeLossy_cons (b : UInt8) (bytes : Bytes) :
    (decodeLossy (b :: bytes)).length = (decodeLossy (scan b bytes).after).length + 1 := by
  rw [decodeLossy]
  split
  · next c after hscan => simp [hscan, Scan.after]
  · next after hscan => simp [hscan, Scan.after]

lemma leads_after_scan (b : UInt8) (bytes : Bytes) :
    leads (scan b bytes).after = leads bytes := by
  obtain ⟨used, hused, hall⟩ := exists_append_scan b bytes
  conv_rhs => rw [hused, leads_append, leads_eq_zero hall, Nat.zero_add]

/-- A stream is read as at least as many characters as its bytes lead. -/
lemma leads_le_length_decodeLossy (bytes : Bytes) :
    leads bytes ≤ (decodeLossy bytes).length := by
  have hstep : ∀ b bytes, leads (scan b bytes).after ≤ (decodeLossy (scan b bytes).after).length →
      leads (b :: bytes) ≤ (decodeLossy (b :: bytes)).length := by
    intro b bytes ih
    rw [length_decodeLossy_cons]
    rw [leads_after_scan] at ih
    rcases hb : isContinuation b with _ | _
    · rw [leads_cons_of_leads hb]
      omega
    · rw [leads_cons_of_continues hb]
      omega
  induction bytes using decodeLossy.induct with
  | case1 => simp [leads]
  | case2 b bytes c after hscan ih => exact hstep b bytes (by rwa [hscan])
  | case3 b bytes after hscan ih => exact hstep b bytes (by rwa [hscan])

/-- A stream that begins in the middle of a character is read as more characters than its bytes
lead. -/
lemma leads_lt_length_decodeLossy (hb : isContinuation b = true) (bytes : Bytes) :
    leads (b :: bytes) < (decodeLossy (b :: bytes)).length := by
  have hrest := leads_le_length_decodeLossy (scan b bytes).after
  rw [leads_after_scan] at hrest
  rw [length_decodeLossy_cons, leads_cons_of_continues hb]
  omega

/-! ## Streams in pieces -/

lemma leads_flatten_le (chunks : List Bytes) :
    leads chunks.flatten ≤ (chunks.flatMap decodeLossy).length := by
  induction chunks with
  | nil => simp [leads]
  | cons chunk chunks ih =>
    have hchunk := leads_le_length_decodeLossy chunk
    rw [List.flatten_cons, leads_append, List.flatMap_cons, List.length_append]
    omega

lemma leads_flatten_lt (hb : isContinuation b = true) (hchunks : chunks.flatten = b :: bytes) :
    leads chunks.flatten < (chunks.flatMap decodeLossy).length := by
  induction chunks with
  | nil => simp at hchunks
  | cons chunk chunks ih =>
    rw [List.flatten_cons, leads_append, List.flatMap_cons, List.length_append]
    cases chunk with
    | nil =>
      have hrest := ih (by simpa using hchunks)
      simpa [leads, decodeLossy] using hrest
    | cons first chunk =>
      obtain ⟨rfl, -⟩ := List.cons.inj hchunks
      have hchunk := leads_lt_length_decodeLossy hb chunk
      have hrest := leads_flatten_le chunks
      omega

/-- A text is cut between two characters or inside one, and then the second part begins with a
continuation byte. -/
lemma cut_encode {part rest : Bytes} (h : part ++ rest = encode text) :
    (∃ s t, text = s ++ t ∧ part = encode s ∧ rest = encode t) ∨
      ∃ b more, rest = b :: more ∧ isContinuation b = true := by
  induction text generalizing part with
  | nil =>
    obtain ⟨rfl, rfl⟩ := List.append_eq_nil_iff.1 h
    exact Or.inl ⟨[], [], rfl, rfl, rfl⟩
  | cons c text ih =>
    rw [encode_cons] at h
    rcases List.append_eq_append_iff.1 h with ⟨more, hc, hrest⟩ | ⟨more, hpart, hmore⟩
    · cases part with
      | nil => exact Or.inl ⟨[], c :: text, rfl, rfl, by simpa using h⟩
      | cons a part =>
        cases more with
        | nil =>
          refine Or.inl ⟨[c], text, rfl, ?_, by simpa using hrest⟩
          simpa using hc.symm
        | cons b more =>
          obtain ⟨lead, bytes, heq, hspells⟩ := exists_spells c
          rw [heq] at hc
          have hmem : b ∈ bytes := by
            rw [(List.cons.inj hc).2]
            simp
          exact Or.inr ⟨b, more ++ encode text, hrest, hspells.continues b hmem⟩
    · rcases ih hmore.symm with ⟨s, t, rfl, rfl, rfl⟩ | hcut
      · exact Or.inl ⟨c :: s, t, rfl, by rw [hpart, encode_cons], rfl⟩
      · exact Or.inr hcut

lemma encode_flatMap_decodeLossy (hall : ∀ chunk ∈ chunks, ∃ part, chunk = encode part) :
    encode (chunks.flatMap decodeLossy) = chunks.flatten := by
  induction chunks with
  | nil => rfl
  | cons chunk chunks ih =>
    obtain ⟨⟨part, rfl⟩, hrest⟩ := List.forall_mem_cons.1 hall
    rw [List.flatMap_cons, encode_append, decodeLossy_encode, ih hrest, List.flatten_cons]

/-- **A stream of text is read piece by piece as that text just if no cut is inside a
character.** -/
theorem flatMap_decodeLossy_eq_iff (h : chunks.flatten = encode text) :
    chunks.flatMap decodeLossy = text ↔ ∀ chunk ∈ chunks, ∃ part, chunk = encode part := by
  constructor
  · intro heq
    induction chunks generalizing text with
    | nil => simp
    | cons chunk chunks ih =>
      rw [List.flatten_cons] at h
      rw [List.flatMap_cons] at heq
      rcases cut_encode h with ⟨s, t, rfl, rfl, ht⟩ | ⟨b, more, hmore, hb⟩
      · rw [decodeLossy_encode, List.append_cancel_left_eq] at heq
        exact List.forall_mem_cons.2 ⟨⟨s, rfl⟩, ih ht heq⟩
      · -- A piece that begins inside a character makes the text too long.
        have hchunk := leads_le_length_decodeLossy chunk
        have hrest := leads_flatten_lt hb hmore
        have hlength := congrArg List.length heq
        rw [List.length_append, ← leads_encode text, ← h, leads_append] at hlength
        omega
  · intro hall
    rw [← decodeLossy_encode (chunks.flatMap decodeLossy), encode_flatMap_decodeLossy hall, h,
      decodeLossy_encode]

end SharedTerminal.Utf8
