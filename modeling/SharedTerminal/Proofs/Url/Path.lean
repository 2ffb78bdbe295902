import SharedTerminal.Url.Path
import Mathlib.Data.List.Basic
import Mathlib.Tactic.Common

/-!
# Which paths are read as they were written

Reading a path changes it: characters are encoded, left out or taken for slashes, and segments of
dots go.  A segment is *verbatim* if nothing of that happens to it.  The main statement is
`parse_text_of_isVerbatim`: a path of verbatim segments is read as just these.  In the other
direction, `isOwn_of_mem_parse` says that whatever was read consists of characters that mean
themselves.
-/

namespace SharedTerminal.Url.Path

/-- Whether a character means itself in a segment: it is not encoded, and no slash of either
kind. -/
def isOwn (c : Char) : Bool := isPathSafe c && c != '/' && c != '\\'

/-- Whether a segment stands in a path as it is. -/
def isVerbatim (segment : List Char) : Bool :=
  segment.all isOwn && !isDots segment && !isDot segment

lemma isOwn_iff {c : Char} : isOwn c = true ↔ isPathSafe c = true ∧ c ≠ '/' ∧ c ≠ '\\' := by
  simp [isOwn, and_assoc]

/-- A character that is left out is not one that can stand in a path. -/
lemma isLeftOut_of_isPathSafe {c : Char} (h : isPathSafe c = true) : isLeftOut c = false := by
  rw [← Bool.not_eq_true]
  intro hout
  simp only [isLeftOut, Bool.or_eq_true, beq_iff_eq] at hout
  rcases hout with (rfl | rfl) | rfl <;> exact absurd h (by decide)

lemma encode_of_forall {safe : Char → Bool} {text : List Char}
    (h : ∀ c ∈ text, safe c = true) : Percent.encode safe text = text := by
  induction text with
  | nil => rfl
  | cons c text ih =>
    have hc : safe c = true := h c List.mem_cons_self
    have hrest : Percent.encode safe text = text := ih fun d hd => h d (List.mem_cons_of_mem c hd)
    simp only [Percent.encode] at hrest
    simp only [Percent.encode, List.flatMap_cons, hc, if_true, hrest]
    rfl

/-! ## The text of a list of segments -/

@[simp] lemma text_nil : text [] = [] := rfl

@[simp] lemma text_cons (segment : List Char) (segments : List (List Char)) :
    text (segment :: segments) = '/' :: (segment ++ text segments) := rfl

lemma text_append (segments more : List (List Char)) :
    text (segments ++ more) = text segments ++ text more := by
  simp [text]

lemma text_eq_intercalate {segments : List (List Char)} (hne : segments ≠ []) :
    text segments = '/' :: ['/'].intercalate segments := by
  induction segments with
  | nil => exact absurd rfl hne
  | cons segment segments ih =>
    rw [text_cons]
    rcases segments with _ | ⟨next, segments⟩
    · simp
    · rw [ih (by simp), List.intercalate_cons_cons]
      simp

lemma splitOn_text {segments : List (List Char)} (h : ∀ segment ∈ segments, '/' ∉ segment) :
    (text segments).splitOn '/' = [] :: segments := by
  rcases segments with _ | ⟨segment, segments⟩
  · rfl
  · have hne : segment :: segments ≠ [] := by simp
    have hsplit :=
      List.splitOn_append_cons_self (a := '/') [] (['/'].intercalate (segment :: segments))
    rw [List.splitOn_intercalate '/' h hne] at hsplit
    rw [text_eq_intercalate hne]
    exact hsplit

/-- The characters of a path are slashes and those of its segments. -/
lemma mem_text {segments : List (List Char)} {c : Char} (hc : c ∈ text segments) :
    c = '/' ∨ ∃ segment ∈ segments, c ∈ segment := by
  simp only [text, List.mem_flatMap, List.mem_cons] at hc
  obtain ⟨segment, hsegment, rfl | hc⟩ := hc
  · exact Or.inl rfl
  · exact Or.inr ⟨segment, hsegment, hc⟩

/-! ## Reading what was written -/

/-- Reading a path of characters that mean themselves leaves the dots to be resolved, and nothing
else. -/
lemma parse_text {segments : List (List Char)} (hne : segments ≠ [])
    (h : ∀ segment ∈ segments, segment.all isOwn = true) :
    parse (text segments) = resolve [] segments := by
  have hown : ∀ segment ∈ segments, ∀ c ∈ segment, isOwn c = true := by
    intro segment hsegment
    exact List.all_eq_true.1 (h segment hsegment)
  -- Three of the four steps of reading change nothing here.
  have hkept : (text segments).filter (fun c => !isLeftOut c) = text segments := by
    rw [List.filter_eq_self]
    intro c hc
    rcases mem_text hc with rfl | ⟨segment, hsegment, hc⟩
    · decide
    · simp [isLeftOut_of_isPathSafe (isOwn_iff.1 (hown segment hsegment c hc)).1]
  have hunrooted : unrooted (text segments) = ['/'].intercalate segments := by
    rw [text_eq_intercalate hne]
    rfl
  have hslashes : (['/'].intercalate segments).map (fun c => if c = '\\' then '/' else c) =
      ['/'].intercalate segments := by
    rw [List.map_congr_left (g := id), List.map_id]
    intro c hc
    have hmem : c ∈ text segments := by
      rw [text_eq_intercalate hne]
      exact List.mem_cons_of_mem _ hc
    rcases mem_text hmem with rfl | ⟨segment, hsegment, hc⟩
    · rfl
    · simp [(isOwn_iff.1 (hown segment hsegment c hc)).2.2]
  have hsplit : (['/'].intercalate segments).splitOn '/' = segments := by
    refine List.splitOn_intercalate '/' (fun segment hsegment hslash => ?_) hne
    exact (isOwn_iff.1 (hown segment hsegment '/' hslash)).2.1 rfl
  simp only [parse, hkept, hunrooted, hslashes, hsplit]

lemma isVerbatim_iff {segment : List Char} :
    isVerbatim segment = true ↔
      segment.all isOwn = true ∧ isDots segment = false ∧ isDot segment = false := by
  simp [isVerbatim, and_assoc]

lemma encode_of_isVerbatim {segment : List Char} (h : isVerbatim segment = true) :
    Percent.encode isPathSafe segment = segment := by
  refine encode_of_forall fun c hc => ?_
  exact (isOwn_iff.1 (List.all_eq_true.1 (isVerbatim_iff.1 h).1 c hc)).1

/-- Verbatim segments are gone through one by one. -/
lemma resolve_append {segments rest : List (List Char)} (done : List (List Char))
    (h : ∀ segment ∈ segments, isVerbatim segment = true) (hne : rest ≠ []) :
    resolve done (segments ++ rest) = resolve (segments.reverse ++ done) rest := by
  induction segments generalizing done with
  | nil => rfl
  | cons segment segments ih =>
    obtain ⟨_, hdots, hdot⟩ := isVerbatim_iff.1 (h segment List.mem_cons_self)
    have hencode := encode_of_isVerbatim (h segment List.mem_cons_self)
    obtain ⟨next, more, heq⟩ := List.exists_cons_of_ne_nil (l := segments ++ rest) (by simp [hne])
    rw [List.cons_append, heq, resolve.eq_3 _ _ _ (by simp), ← heq, hdots, hdot, hencode]
    simp only [Bool.false_eq_true, if_false]
    rw [ih (segment :: done) fun other hother => h other (List.mem_cons_of_mem segment hother)]
    simp

lemma resolve_last {last : List Char} (done : List (List Char)) (h : isVerbatim last = true) :
    resolve done [last] = done.reverse ++ [last] := by
  obtain ⟨_, hdots, hdot⟩ := isVerbatim_iff.1 h
  simp [resolve, hdots, hdot, encode_of_isVerbatim h]

/-- **A path of verbatim segments is read as these segments.** -/
theorem parse_text_of_isVerbatim {segments : List (List Char)} (hne : segments ≠ [])
    (h : ∀ segment ∈ segments, isVerbatim segment = true) : parse (text segments) = segments := by
  rw [parse_text hne fun segment hsegment => (isVerbatim_iff.1 (h segment hsegment)).1]
  -- The last segment is treated apart from the others, and differs only if it is made of dots.
  have hsplit := List.dropLast_append_getLast hne
  rw [← hsplit, resolve_append [] _ (by simp), resolve_last]
  · simp
  · exact h _ (List.getLast_mem hne)
  · intro segment hsegment
    exact h segment (List.dropLast_subset segments hsegment)

/-! ## Dots -/

/-- The three ways to write a dot. -/
lemma eq_of_dot? {segment rest : List Char} (h : dot? segment = some rest) :
    segment = '.' :: rest ∨ segment = '%' :: '2' :: 'e' :: rest ∨
      segment = '%' :: '2' :: 'E' :: rest := by
  unfold dot? at h
  split at h
  · obtain rfl := Option.some.inj h
    exact Or.inl rfl
  · split at h
    · next he =>
      obtain rfl := Option.some.inj h
      rcases he with rfl | rfl
      · exact Or.inr (Or.inl rfl)
      · exact Or.inr (Or.inr rfl)
    · simp at h
  · simp at h

lemma all_isOwn_of_dot? {segment rest : List Char} (h : dot? segment = some rest)
    (hrest : rest.all isOwn = true) : segment.all isOwn = true := by
  have hdot : isOwn '.' = true ∧ isOwn '%' = true ∧ isOwn '2' = true ∧ isOwn 'e' = true ∧
      isOwn 'E' = true := by decide
  rcases eq_of_dot? h with rfl | rfl | rfl <;> simp [hdot, hrest]

/-- Dots are made of characters that mean themselves. -/
lemma all_isOwn_of_isDot {segment : List Char} (h : isDot segment = true) :
    segment.all isOwn = true :=
  all_isOwn_of_dot? (by simpa [isDot] using h) rfl

lemma all_isOwn_of_isDots {segment : List Char} (h : isDots segment = true) :
    segment.all isOwn = true := by
  rcases hdot : dot? segment with _ | rest
  · simp [isDots, hdot] at h
  · have hrest : isDot rest = true := by simpa [isDots, hdot] using h
    exact all_isOwn_of_dot? hdot (all_isOwn_of_isDot hrest)

/-- Two dots at the end take the segment before them along, and leave an empty one. -/
lemma resolve_dots_last {last : List Char} (done : List (List Char))
    (h : isDots last = true) : resolve done [last] = (ascend done).reverse ++ [[]] := by
  simp [resolve, h]

lemma resolve_dots {segment : List Char} (done : List (List Char)) {rest : List (List Char)}
    (h : isDots segment = true) (hne : rest ≠ []) :
    resolve done (segment :: rest) = resolve (ascend done) rest := by
  rw [resolve.eq_3 _ _ _ (by simpa using hne), h, if_pos rfl]

lemma isDots_eq_false_of_isDot {segment : List Char} (h : isDot segment = true) :
    isDots segment = false := by
  have hdot : dot? segment = some [] := by simpa [isDot] using h
  rw [isDots, hdot]
  rfl

/-- One dot at the end leaves an empty segment. -/
lemma resolve_dot_last {last : List Char} (done : List (List Char)) (h : isDot last = true) :
    resolve done [last] = done.reverse ++ [[]] := by
  simp [resolve, h, isDots_eq_false_of_isDot h]

lemma resolve_dot {segment : List Char} (done : List (List Char)) {rest : List (List Char)}
    (h : isDot segment = true) (hne : rest ≠ []) :
    resolve done (segment :: rest) = resolve done rest := by
  rw [resolve.eq_3 _ _ _ (by simpa using hne), isDots_eq_false_of_isDot h, h]
  simp

/-! ## What reading yields -/

lemma isOwn_upperDigit : ∀ d < 16, isOwn (Numeral.upperDigit d) = true := by decide

lemma isOwn_of_mem_escape {b : UInt8} {c : Char} (hc : c ∈ Percent.escape b) :
    isOwn c = true := by
  have hb : b.toNat < 256 := b.toNat_lt
  simp only [Percent.escape, List.mem_cons, List.not_mem_nil, or_false] at hc
  rcases hc with rfl | rfl | rfl
  · decide
  · exact isOwn_upperDigit _ (by omega)
  · exact isOwn_upperDigit _ (by omega)

/-- What is encoded for a path consists of characters that mean themselves, if there is no slash
in it. -/
lemma all_isOwn_encode {segment : List Char} (hslash : '/' ∉ segment) (hback : '\\' ∉ segment) :
    (Percent.encode isPathSafe segment).all isOwn = true := by
  rw [List.all_eq_true]
  intro c hc
  simp only [Percent.encode, List.mem_flatMap] at hc
  obtain ⟨d, hd, hc⟩ := hc
  split at hc
  · next hsafe =>
    obtain rfl : c = d := by simpa using hc
    refine isOwn_iff.2 ⟨hsafe, ?_, ?_⟩
    · rintro rfl
      exact hslash hd
    · rintro rfl
      exact hback hd
  · obtain ⟨b, _, hc⟩ := List.mem_flatMap.1 hc
    exact isOwn_of_mem_escape hc

lemma mem_of_mem_ascend {done : List (List Char)} {segment : List Char}
    (h : segment ∈ ascend done) : segment ∈ done := by
  unfold ascend at h
  split at h
  · exact h
  · split at h
    · exact h
    · exact List.mem_cons_of_mem _ h

lemma all_isOwn_resolve {done segments : List (List Char)}
    (hdone : ∀ segment ∈ done, segment.all isOwn = true)
    (h : ∀ segment ∈ segments, '/' ∉ segment ∧ '\\' ∉ segment) :
    ∀ segment ∈ resolve done segments, segment.all isOwn = true := by
  have hascend : ∀ done : List (List Char), (∀ segment ∈ done, segment.all isOwn = true) →
      ∀ segment ∈ ascend done, segment.all isOwn = true :=
    fun done hdone segment hsegment => hdone segment (mem_of_mem_ascend hsegment)
  have hcons : ∀ (done : List (List Char)) (first : List Char),
      (∀ segment ∈ done, segment.all isOwn = true) → first.all isOwn = true →
      ∀ segment ∈ first :: done, segment.all isOwn = true := by
    intro done first hdone hfirst segment hsegment
    rcases List.mem_cons.1 hsegment with rfl | hsegment
    · exact hfirst
    · exact hdone segment hsegment
  induction segments generalizing done with
  | nil => simpa [resolve] using hdone
  | cons first rest ih =>
    obtain ⟨hslash, hback⟩ := h first List.mem_cons_self
    have hfirst := all_isOwn_encode hslash hback
    have hrest : ∀ segment ∈ rest, '/' ∉ segment ∧ '\\' ∉ segment := fun segment hsegment =>
      h segment (List.mem_cons_of_mem first hsegment)
    rcases rest with _ | ⟨next, rest⟩
    · intro segment hsegment
      rw [resolve] at hsegment
      split at hsegment
      · exact hcons _ [] (hascend done hdone) rfl segment (List.mem_reverse.1 hsegment)
      · split at hsegment
        · exact hcons _ [] hdone rfl segment (List.mem_reverse.1 hsegment)
        · exact hcons _ _ hdone hfirst segment (List.mem_reverse.1 hsegment)
    · rw [resolve.eq_3 _ _ _ (by simp)]
      split
      · exact ih (hascend done hdone) hrest
      · split
        · exact ih hdone hrest
        · exact ih (hcons _ _ hdone hfirst) hrest

/-- The characters of a piece between slashes are those of the whole, and no slashes. -/
lemma mem_of_mem_splitOn {path segment : List Char} (h : segment ∈ path.splitOn '/') :
    ∀ c ∈ segment, c ∈ path ∧ c ≠ '/' := by
  induction path generalizing segment with
  | nil => simp_all
  | cons d path ih =>
    rw [List.splitOn_cons_eq_if_modifyHead] at h
    split at h
    · intro c hc
      rcases List.mem_cons.1 h with rfl | h
      · simp at hc
      · exact ⟨List.mem_cons_of_mem d (ih h c hc).1, (ih h c hc).2⟩
    · -- The character belongs to the first of the pieces that the rest is split into.
      next hd =>
      intro c hc
      obtain ⟨first, rest, hsplit⟩ := List.exists_cons_of_ne_nil (List.splitOn_ne_nil '/' path)
      rw [hsplit, List.modifyHead_cons] at h
      rcases List.mem_cons.1 h with rfl | h
      · rcases List.mem_cons.1 hc with rfl | hc
        · exact ⟨List.mem_cons_self, by simpa using hd⟩
        · have hfirst : first ∈ path.splitOn '/' := by simp [hsplit]
          exact ⟨List.mem_cons_of_mem d (ih hfirst c hc).1, (ih hfirst c hc).2⟩
      · have hrest : segment ∈ path.splitOn '/' := by simp [hsplit, h]
        exact ⟨List.mem_cons_of_mem d (ih hrest c hc).1, (ih hrest c hc).2⟩

/-- Whatever path is read, its segments consist of characters that mean themselves. -/
lemma isOwn_of_mem_parse (path : List Char) :
    ∀ segment ∈ parse path, segment.all isOwn = true := by
  refine all_isOwn_resolve (by simp) fun segment hsegment => ⟨fun hc => ?_, fun hc => ?_⟩
  · exact (mem_of_mem_splitOn hsegment '/' hc).2 rfl
  · obtain ⟨d, _, hd⟩ := List.mem_map.1 (mem_of_mem_splitOn hsegment '\\' hc).1
    split at hd
    · exact absurd hd (by decide)
    · next hne => exact hne hd

end SharedTerminal.Url.Path
