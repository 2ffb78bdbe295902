import SharedTerminal.Endpoint
import SharedTerminal.Proofs.Url.Path

/-!
# Reading the path of an endpoint

The path of an endpoint is that of its family followed by segments, and it is read as the same
endpoint unless its context has a slash in it or would be taken for the wish to watch
(`parse?_pathChars`).  Whatever path is read, the context is made of its characters
(`mem_of_parse?`).
-/

namespace SharedTerminal.Endpoint

open Url (Path.text Path.splitOn_text Path.mem_of_mem_splitOn)

/-- The family of paths that an endpoint belongs to. -/
def family : Endpoint → List Char
  | command _ mode _ => commandFamily mode
  | status _ => statusFamily

/-- The segment of a context; the empty context has none. -/
def contextSegments (context : String) : List (List Char) :=
  if context.toList.isEmpty then [] else [context.toList]

/-- The segments after the family. -/
def tail : Endpoint → List (List Char)
  | command c _ readOnly => contextSegments c ++ (if readOnly then [readOnlySegment] else [])
  | status c => contextSegments c

/-- Whether the path of an endpoint tells it from all others. -/
def isCanonical : Endpoint → Bool
  | command c _ readOnly => !c.toList.contains '/' && (readOnly || c.toList != readOnlySegment)
  | status c => !c.toList.contains '/'

lemma slashed_eq_text (context : String) :
    slashed context.toList = Path.text (contextSegments context) := by
  unfold slashed contextSegments
  split <;> simp

lemma pathChars_eq (e : Endpoint) : e.pathChars = e.family ++ Path.text e.tail := by
  cases e with
  | command c mode readOnly =>
    rw [pathChars, family, tail, Url.Path.text_append, ← slashed_eq_text]
    cases readOnly <;> simp
  | status c => rw [pathChars, family, tail, slashed_eq_text]

/-! ## Families -/

lemma isPrefixOf?_append {α : Type} [BEq α] [LawfulBEq α] (front rest : List α) :
    front.isPrefixOf? (front ++ rest) = some rest := by
  induction front with
  | nil => rfl
  | cons a front ih => simp [List.isPrefixOf?, ih]

lemma eq_append_of_isPrefixOf? {α : Type} [BEq α] [LawfulBEq α] {front path rest : List α}
    (h : front.isPrefixOf? path = some rest) : path = front ++ rest := by
  induction front generalizing path with
  | nil => simpa [List.isPrefixOf?] using h
  | cons a front ih =>
    cases path with
    | nil => simp [List.isPrefixOf?] at h
    | cons b path =>
      simp only [List.isPrefixOf?] at h
      split at h
      · next hab =>
        rw [ih h, eq_of_beq hab, List.cons_append]
      · simp at h

/-- Nothing, or something that goes on with a slash: what may follow a family. -/
def isRooted (rest : List Char) : Bool := rest.isEmpty || rest.head? == some '/'

lemma isRooted_text (segments : List (List Char)) : isRooted (Path.text segments) = true := by
  rcases segments with _ | ⟨segment, segments⟩
  · rfl
  · simp [isRooted]

lemma afterFamily?_append (family : List Char) {rest : List Char} (h : isRooted rest = true) :
    afterFamily? family (family ++ rest) = some rest := by
  rw [afterFamily?, isPrefixOf?_append]
  exact if_pos h

lemma eq_append_of_afterFamily? {family path rest : List Char}
    (h : afterFamily? family path = some rest) : path = family ++ rest ∧ isRooted rest = true := by
  unfold afterFamily? at h
  split at h
  · simp at h
  · next hprefix =>
    split at h
    · next hrooted =>
      obtain rfl := Option.some.inj h
      exact ⟨eq_append_of_isPrefixOf? hprefix, hrooted⟩
    · simp at h

/-- No path of a command connection is taken for one of status, -/
lemma afterFamily?_status_command (mode : Mode) (rest : List Char) :
    afterFamily? statusFamily (commandFamily mode ++ rest) = none := by
  cases mode <;> rfl

/-- and none in text frames for one in binary frames. -/
lemma afterFamily?_binary_text (rest : List Char) :
    afterFamily? (commandFamily .binary) (commandFamily .text ++ rest) = none := rfl

/-! ## Segments -/

lemma segments_text {segments : List (List Char)} (h : ∀ segment ∈ segments, '/' ∉ segment) :
    Endpoint.segments (Path.text segments) = segments.filter fun segment => !segment.isEmpty := by
  rw [Endpoint.segments, Path.splitOn_text h]
  rfl

lemma parse?_status {rest : List Char} (h : isRooted rest = true) :
    parse? (statusFamily ++ rest) = ofStatusSegments? (segments rest) := by
  simp only [parse?, afterFamily?_append _ h]

lemma parse?_command (mode : Mode) {rest : List Char} (h : isRooted rest = true) :
    parse? (commandFamily mode ++ rest) = ofCommandSegments? mode (segments rest) := by
  rw [parse?, afterFamily?_status_command]
  cases mode with
  | binary => simp only [afterFamily?_append _ h]
  | text => simp only [afterFamily?_binary_text, afterFamily?_append _ h]

/-! ## Round trip -/

/-- The segments after the family are that of the context and the wish to watch. -/
lemma eq_of_mem_tail {e : Endpoint} {segment : List Char} (h : segment ∈ e.tail) :
    segment = e.context.toList ∨ segment = readOnlySegment := by
  have hcontext : ∀ c : String, segment ∈ contextSegments c → segment = c.toList := by
    intro c hc
    unfold contextSegments at hc
    split at hc
    · simp at hc
    · simpa using hc
  cases e with
  | command c mode readOnly =>
    rcases List.mem_append.1 h with h | h
    · exact Or.inl (hcontext c h)
    · cases readOnly with
      | false => simp at h
      | true => exact Or.inr (by simpa using h)
  | status c => exact Or.inl (hcontext c h)

/-- A context that is not empty has its segment first. -/
lemma tail_eq_cons {e : Endpoint} (h : e.context.toList ≠ []) :
    e.tail = e.context.toList ::
      (match e with
        | command _ _ true => [readOnlySegment]
        | _ => []) := by
  cases e with
  | command c mode readOnly =>
    have hc : c.toList.isEmpty = false := by simpa [context] using h
    cases readOnly <;> simp [tail, contextSegments, hc, context]
  | status c =>
    have hc : c.toList.isEmpty = false := by simpa [context] using h
    simp [tail, contextSegments, hc, context]

lemma notMem_context {e : Endpoint} (h : e.isCanonical = true) : '/' ∉ e.context.toList := by
  cases e with
  | command c mode readOnly =>
    simp only [isCanonical, Bool.and_eq_true, Bool.not_eq_true', List.contains_eq_mem,
      decide_eq_false_iff_not] at h
    exact h.1
  | status c =>
    simp only [isCanonical, Bool.not_eq_true', List.contains_eq_mem,
      decide_eq_false_iff_not] at h
    exact h

lemma notMem_of_mem_tail {e : Endpoint} (h : e.isCanonical = true) :
    ∀ segment ∈ e.tail, '/' ∉ segment := by
  intro segment hsegment
  rcases eq_of_mem_tail hsegment with rfl | rfl
  · exact notMem_context h
  · decide

/-- **The path of a canonical endpoint is read as that endpoint.** -/
theorem parse?_pathChars {e : Endpoint} (h : e.isCanonical = true) :
    parse? e.pathChars = some e := by
  have hslash := notMem_of_mem_tail h
  rw [pathChars_eq]
  cases e with
  | command c mode readOnly =>
    rw [family, parse?_command mode (isRooted_text _), segments_text hslash]
    simp only [isCanonical, Bool.and_eq_true, Bool.or_eq_true, bne_iff_ne, ne_eq] at h
    by_cases hc : c.toList = []
    · obtain rfl : c = "" := by rwa [String.toList_eq_nil_iff] at hc
      cases readOnly <;> rfl
    · cases readOnly with
      | false =>
        -- Here a context that spells the wish to watch would be taken for it.
        have hne : c.toList ≠ readOnlySegment := by simpa using h.2
        simp [tail, contextSegments, hc, ofCommandSegments?, hne]
      | true => simp [tail, contextSegments, hc, ofCommandSegments?, readOnlySegment]
  | status c =>
    rw [family, parse?_status (isRooted_text _), segments_text hslash]
    by_cases hc : c.toList = []
    · obtain rfl : c = "" := by rwa [String.toList_eq_nil_iff] at hc
      rfl
    · simp [tail, contextSegments, hc, ofStatusSegments?]

/-! ## What is read from any path -/

lemma mem_of_mem_segments {rest segment : List Char} (h : segment ∈ segments rest) :
    ∀ c ∈ segment, c ∈ rest ∧ c ≠ '/' :=
  Path.mem_of_mem_splitOn (List.mem_filter.1 h).1

lemma context_of_ofStatusSegments? {segments : List (List Char)} {e : Endpoint}
    (h : ofStatusSegments? segments = some e) :
    e.context = "" ∨ e.context.toList ∈ segments := by
  unfold ofStatusSegments? at h
  split at h
  · obtain rfl := Option.some.inj h
    exact Or.inl rfl
  · obtain rfl := Option.some.inj h
    simp [context]
  · simp at h

lemma context_of_ofCommandSegments? {mode : Mode} {segments : List (List Char)} {e : Endpoint}
    (h : ofCommandSegments? mode segments = some e) :
    e.context = "" ∨ e.context.toList ∈ segments := by
  unfold ofCommandSegments? at h
  split at h
  · obtain rfl := Option.some.inj h
    exact Or.inl rfl
  · split at h
    · obtain rfl := Option.some.inj h
      exact Or.inl rfl
    · obtain rfl := Option.some.inj h
      simp [context]
  · split at h
    · obtain rfl := Option.some.inj h
      simp [context]
    · simp at h
  · simp at h

/-- The context of an endpoint that was read is made of characters of the path. -/
lemma mem_of_parse? {path : List Char} {e : Endpoint} (h : parse? path = some e) :
    ∀ c ∈ e.context.toList, c ∈ path ∧ c ≠ '/' := by
  -- The three families are tried in turn, and the rest is a piece of the path in each case.
  have hafter : ∀ family rest, afterFamily? family path = some rest →
      e.context = "" ∨ e.context.toList ∈ segments rest →
      ∀ c ∈ e.context.toList, c ∈ path ∧ c ≠ '/' := by
    intro family rest hrest hcontext c hc
    rcases hcontext with hempty | hsegment
    · simp [hempty] at hc
    · have hin := mem_of_mem_segments hsegment c hc
      rw [(eq_append_of_afterFamily? hrest).1]
      exact ⟨List.mem_append_right family hin.1, hin.2⟩
  unfold parse? at h
  split at h
  · next rest hrest => exact hafter _ rest hrest (context_of_ofStatusSegments? h)
  · split at h
    · next rest hrest => exact hafter _ rest hrest (context_of_ofCommandSegments? h)
    · split at h
      · next rest hrest => exact hafter _ rest hrest (context_of_ofCommandSegments? h)
      · simp at h

end SharedTerminal.Endpoint
