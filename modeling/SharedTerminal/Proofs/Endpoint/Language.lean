import SharedTerminal.Proofs.Endpoint.RoundTrip

/-!
# The paths of an endpoint

An endpoint has one path that is written and many that are read: after the family, slashes may be
repeated and may stand at the end.  `Stretches` says so of a text and another one, and
`Endpoint.IsSpelling` of the path of an endpoint.

The segments of a text do not depend on how it is stretched (`Stretches.segments_eq`), and every
text is stretched from the one that is written with its segments (`stretches_of_isRooted`).  So a
path is read as an endpoint just if it spells it, and the endpoint is canonical; this is the main
statement, `parse_eq_ok_iff_isSpelling`.
-/

namespace SharedTerminal.Endpoint

open Url (Path.text Path.splitOn_text)

/-! ## Slashes that do not count -/

/-- A text and the same text in which each slash may be repeated and slashes may follow. -/
inductive Stretches : List Char → List Char → Prop where
  /-- Slashes follow. -/
  | trail (n : Nat) : Stretches [] (List.replicate n '/')
  /-- Another character stands for itself. -/
  | keep {own rest : List Char} {c : Char} (hc : c ≠ '/') (h : Stretches own rest) :
      Stretches (c :: own) (c :: rest)
  /-- A slash stands there once or more often. -/
  | slashes {own rest : List Char} (n : Nat) (h : Stretches own rest) :
      Stretches ('/' :: own) (List.replicate (n + 1) '/' ++ rest)

/-- A path spells an endpoint: after the family it is the path of the endpoint, stretched. -/
def IsSpelling (e : Endpoint) (path : List Char) : Prop :=
  ∃ own rest, e.pathChars = e.family ++ own ∧ path = e.family ++ rest ∧ Stretches own rest

variable {own rest text : List Char} {e : Endpoint}

/-- Segments end at a slash. -/
lemma segments_append_slash (text rest : List Char) :
    segments (text ++ '/' :: rest) = segments text ++ segments rest := by
  simp [segments, List.splitOn_append_cons_self]

@[simp] lemma segments_slash (rest : List Char) : segments ('/' :: rest) = segments rest :=
  segments_append_slash [] rest

@[simp] lemma segments_replicate_append (n : Nat) (rest : List Char) :
    segments (List.replicate n '/' ++ rest) = segments rest := by
  induction n with
  | zero => rfl
  | succ n ih => rw [List.replicate_succ, List.cons_append, segments_slash, ih]

lemma segments_append_replicate (text : List Char) (n : Nat) :
    segments (text ++ List.replicate n '/') = segments text := by
  cases n with
  | zero => simp
  | succ n =>
    have hnone := segments_replicate_append n []
    rw [List.append_nil] at hnone
    rw [List.replicate_succ, segments_append_slash, hnone]
    simp [segments]

lemma segments_eq_singleton (hne : text ≠ []) (hslash : '/' ∉ text) :
    segments text = [text] := by
  simp [segments, List.splitOn_eq_singleton hslash, hne]

/-- Every segment has a character, and none is a slash. -/
lemma of_mem_segments {segment : List Char} (h : segment ∈ segments rest) :
    segment ≠ [] ∧ '/' ∉ segment := by
  refine ⟨by simpa using (List.mem_filter.1 h).2, fun hslash => ?_⟩
  exact (mem_of_mem_segments h '/' hslash).2 rfl

/-- However a text is stretched, it has the same segments. -/
lemma Stretches.segments_eq (h : Stretches own rest) : segments rest = segments own := by
  -- The characters read so far may belong to a segment that goes on.
  have hgoes : ∀ begun, segments (begun ++ rest) = segments (begun ++ own) := by
    induction h with
    | trail n =>
      intro begun
      rw [segments_append_replicate, List.append_nil]
    | @keep own rest c _ _ ih =>
      intro begun
      simpa using ih (begun ++ [c])
    | @slashes own rest n _ ih =>
      intro begun
      rw [List.replicate_succ, List.cons_append, segments_append_slash, segments_append_slash,
        segments_replicate_append]
      exact congrArg (segments begun ++ ·) (ih [])
  exact hgoes []

lemma Stretches.append (hslash : '/' ∉ text) (h : Stretches own rest) :
    Stretches (text ++ own) (text ++ rest) := by
  induction text with
  | nil => exact h
  | cons c text ih =>
    rw [List.mem_cons, not_or] at hslash
    exact .keep (Ne.symm hslash.1) (ih hslash.2)

/-- One more slash in front of others. -/
lemma Stretches.slash (h : Stretches own ('/' :: rest)) :
    Stretches own ('/' :: '/' :: rest) := by
  generalize hrest : '/' :: rest = slashed at h
  cases h with
  | trail n => exact .trail (n + 1)
  | keep hc _ => exact absurd (List.cons.inj hrest).1.symm hc
  | slashes n h => exact .slashes (n + 1) h

/-- A text behind a slash is stretched from the one that is written with its segments. -/
lemma stretches_segments (rest : List Char) :
    Stretches (Path.text (segments rest)) ('/' :: rest) := by
  induction hlength : rest.length using Nat.strongRecOn generalizing rest with
  | ind length ih =>
    subst hlength
    by_cases hslash : '/' ∈ rest
    · -- Up to the next slash there is a segment, or nothing.
      obtain ⟨segment, more, rfl, hnot⟩ := List.eq_append_cons_of_mem hslash
      have hmore := ih more.length (by simp; omega) more rfl
      rw [segments_append_slash]
      by_cases hne : segment = []
      · subst hne
        exact hmore.slash
      · rw [segments_eq_singleton hne hnot]
        exact .slashes 0 (hmore.append hnot)
    · by_cases hne : rest = []
      · subst hne
        exact .trail 1
      · rw [segments_eq_singleton hne hslash]
        have hword := (Stretches.trail 0).append hslash
        simpa using hword.slashes 0

lemma stretches_of_isRooted (h : isRooted rest = true) :
    Stretches (Path.text (segments rest)) rest := by
  cases rest with
  | nil => exact .trail 0
  | cons c rest =>
    obtain rfl : c = '/' := by simpa [isRooted] using h
    rw [segments_slash]
    exact stretches_segments rest

/-- What is stretched from something rooted is rooted. -/
lemma Stretches.isRooted (h : Stretches own rest) (hown : isRooted own = true) :
    Endpoint.isRooted rest = true := by
  cases h with
  | trail n => cases n <;> rfl
  | keep hc _ => exact absurd (by simpa [Endpoint.isRooted] using hown) hc
  | slashes n _ => rfl

/-! ## What is read -/

/-- How a path is read depends on the segments after the family only. -/
lemma parse?_family_append (e : Endpoint) (hrest : isRooted rest = true)
    (htext : isRooted text = true) (h : segments rest = segments text) :
    parse? (e.family ++ rest) = parse? (e.family ++ text) := by
  cases e with
  | command c mode readOnly =>
    rw [family, parse?_command mode hrest, parse?_command mode htext, h]
  | status c => rw [family, parse?_status hrest, parse?_status htext, h]

/-- An endpoint that has been made of segments is canonical, and these are its segments. -/
lemma of_ofStatusSegments? {parts : List (List Char)}
    (hparts : ∀ part ∈ parts, part ≠ [] ∧ '/' ∉ part) (h : ofStatusSegments? parts = some e) :
    e.isCanonical = true ∧ e.family = statusFamily ∧ e.tail = parts := by
  unfold ofStatusSegments? at h
  split at h
  · obtain rfl := Option.some.inj h
    exact ⟨rfl, rfl, rfl⟩
  · next c =>
    obtain rfl := Option.some.inj h
    obtain ⟨hne, hslash⟩ := hparts c List.mem_cons_self
    refine ⟨by simp [isCanonical, hslash], rfl, by simp [tail, contextSegments, hne]⟩
  · simp at h

lemma of_ofCommandSegments? {mode : Mode} {parts : List (List Char)}
    (hparts : ∀ part ∈ parts, part ≠ [] ∧ '/' ∉ part)
    (h : ofCommandSegments? mode parts = some e) :
    e.isCanonical = true ∧ e.family = commandFamily mode ∧ e.tail = parts := by
  unfold ofCommandSegments? at h
  split at h
  · obtain rfl := Option.some.inj h
    exact ⟨rfl, rfl, rfl⟩
  · next c =>
    split at h
    · next hro =>
      obtain rfl := Option.some.inj h
      exact ⟨rfl, rfl, by simp [tail, contextSegments, hro]⟩
    · next hro =>
      obtain rfl := Option.some.inj h
      obtain ⟨hne, hslash⟩ := hparts c List.mem_cons_self
      exact ⟨by simp [isCanonical, hslash, hro], rfl, by simp [tail, contextSegments, hne]⟩
  · next c r =>
    split at h
    · next hro =>
      obtain rfl := Option.some.inj h
      obtain ⟨hne, hslash⟩ := hparts c List.mem_cons_self
      exact ⟨by simp [isCanonical, hslash], rfl, by simp [tail, contextSegments, hne, hro]⟩
    · simp at h
  · simp at h

/-- What was read is canonical, and the path spells it. -/
lemma isSpelling_of_parse? {path : List Char} (h : parse? path = some e) :
    e.isCanonical = true ∧ e.IsSpelling path := by
  -- Whichever family was found, what follows it is stretched from the tail of the endpoint.
  have hspells : ∀ found rest, afterFamily? found path = some rest →
      e.isCanonical = true ∧ e.family = found ∧ e.tail = segments rest →
      e.isCanonical = true ∧ e.IsSpelling path := by
    rintro found rest hrest ⟨hcanonical, rfl, htail⟩
    obtain ⟨hpath, hrooted⟩ := eq_append_of_afterFamily? hrest
    refine ⟨hcanonical, Path.text e.tail, rest, pathChars_eq e, hpath, ?_⟩
    rw [htail]
    exact stretches_of_isRooted hrooted
  have hparts : ∀ rest, ∀ part ∈ segments rest, part ≠ [] ∧ '/' ∉ part :=
    fun rest part => of_mem_segments
  unfold parse? at h
  split at h
  · next rest hrest => exact hspells _ rest hrest (of_ofStatusSegments? (hparts rest) h)
  · split at h
    · next rest hrest => exact hspells _ rest hrest (of_ofCommandSegments? (hparts rest) h)
    · split at h
      · next rest hrest => exact hspells _ rest hrest (of_ofCommandSegments? (hparts rest) h)
      · simp at h

/-- However the path of a canonical endpoint is spelt, it is read as that endpoint. -/
lemma parse?_of_isSpelling {path : List Char} (hcanonical : e.isCanonical = true)
    (h : e.IsSpelling path) : parse? path = some e := by
  obtain ⟨own, rest, hown, rfl, hstretches⟩ := h
  rw [pathChars_eq, List.append_cancel_left_eq] at hown
  subst hown
  have hrooted := isRooted_text e.tail
  rw [parse?_family_append e (hstretches.isRooted hrooted) hrooted hstretches.segments_eq,
    ← pathChars_eq]
  exact parse?_pathChars hcanonical

lemma isSpelling_pathChars (h : e.isCanonical = true) : e.IsSpelling e.pathChars :=
  (isSpelling_of_parse? (parse?_pathChars h)).2

lemma parse_eq_ok_iff (path : String) (e : Endpoint) :
    parse path = .ok e ↔ e.isCanonical = true ∧ e.IsSpelling path.toList := by
  have hparse : parse path = .ok e ↔ parse? path.toList = some e := by
    unfold parse
    split
    · next read hread => simp [hread]
    · next hnone => simp [hnone]
  rw [hparse]
  exact ⟨isSpelling_of_parse?, fun h => parse?_of_isSpelling h.1 h.2⟩

lemma parse_eq_error_iff (path : String) :
    parse path = .error (.noEndpoint path) ↔ ∀ e, parse path ≠ .ok e := by
  unfold parse
  split
  · next read _ => simp
  · simp

/-- **A path is read as an endpoint just if the endpoint is canonical and the path spells it**, and
every other path is refused by its name.  So the path that is written for an endpoint is read as
this endpoint just if it is canonical, whatever is read is canonical, and a context of the name
that asks to watch can only be watched. -/
theorem parse_eq_ok_iff_isSpelling (path : String) :
    (∀ e, parse path = .ok e ↔ e.isCanonical = true ∧ e.IsSpelling path.toList) ∧
    (parse path = .error (.noEndpoint path) ↔
      ∀ e : Endpoint, ¬ (e.isCanonical = true ∧ e.IsSpelling path.toList)) ∧
    (∀ e, parse e.path = .ok e ↔ e.isCanonical = true) ∧
    (∀ e, parse path = .ok e → e.isCanonical = true) ∧
    (∀ mode readOnly, parse path = .ok (.command "ro" mode readOnly) → readOnly = true) := by
  refine ⟨parse_eq_ok_iff path, ?_, fun e => ?_, ?_, ?_⟩
  · rw [parse_eq_error_iff]
    exact forall_congr' fun e => not_congr (parse_eq_ok_iff path e)
  · rw [parse_eq_ok_iff, Endpoint.path, String.toList_ofList]
    exact ⟨fun h => h.1, fun h => ⟨h, isSpelling_pathChars h⟩⟩
  · exact fun e h => ((parse_eq_ok_iff path e).1 h).1
  · intro mode readOnly h
    have hcanonical := ((parse_eq_ok_iff path _).1 h).1
    simpa [isCanonical, readOnlySegment] using hcanonical

/-- Slashes count neither where they are repeated nor at the end. -/
example : parse "/socket/text//build///ro//" = .ok (.command "build" .text true) := by
  decide +kernel

end SharedTerminal.Endpoint
