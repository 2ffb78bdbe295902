import SharedTerminal.Network
import SharedTerminal.Proofs.Endpoint.RoundTrip

/-!
# Whether the daemon reads what the client means

A client writes the path of its endpoint into the URL of the daemon, by the rules of URLs, and the
daemon reads the path of the request as it comes.  Settings that pass the check have a context
without a slash that is not the wish to watch.  That is not enough: only a context that is verbatim
as a segment of a path arrives as it is.

The main statement is `isUnderstood_iff`.
-/

namespace SharedTerminal.Client.Settings

open Url (Path.isVerbatim Path.isDots Path.isDot Path.text Path.isOwn)
open Endpoint (statusFamily commandFamily readOnlySegment contextSegments)

/-- The daemon reads on both connections the endpoint that the client means. -/
def IsUnderstood (s : Settings) : Prop :=
  (∃ url, s.commandUrl = .ok url ∧
    Endpoint.parse (Network.requestPath url) = .ok s.commandEndpoint) ∧
  ∃ url, s.statusUrl = .ok url ∧
    Endpoint.parse (Network.requestPath url) = .ok s.statusEndpoint

/-! ## The segments of an endpoint's path -/

/-- The segments of the family of an endpoint. -/
def familySegments : Endpoint → List (List Char)
  | .command _ .binary _ => ["socket".toList, "term".toList]
  | .command _ .text _ => ["socket".toList, "text".toList]
  | .status _ => ["socket".toList, "process-status-updates".toList]

lemma family_eq_text (e : Endpoint) : e.family = Path.text (familySegments e) := by
  rcases e with ⟨c, _ | _, readOnly⟩ | c <;> rfl

lemma pathChars_eq_text (e : Endpoint) :
    e.pathChars = Path.text (familySegments e ++ e.tail) := by
  rw [Endpoint.pathChars_eq, family_eq_text, Url.Path.text_append]

lemma familySegments_ne_nil (e : Endpoint) : familySegments e ≠ [] := by
  rcases e with ⟨c, _ | _, readOnly⟩ | c <;> simp [familySegments]

lemma isVerbatim_of_mem_familySegments (e : Endpoint) :
    ∀ segment ∈ familySegments e, Path.isVerbatim segment = true := by
  rcases e with ⟨c, _ | _, readOnly⟩ | c <;> simp only [familySegments] <;> decide

/-! ## What arrives -/

/-- The endpoint that the daemon reads, if it reads one, when the client writes the path of
another. -/
def arrival (e : Endpoint) : Option Endpoint :=
  Endpoint.parse? (Path.text (Url.Path.parse e.pathChars))

/-- A verbatim context arrives. -/
lemma arrival_of_isVerbatim {e : Endpoint} (h : e.isCanonical = true)
    (hv : Path.isVerbatim e.context.toList = true) : arrival e = some e := by
  have hall : ∀ segment ∈ familySegments e ++ e.tail, Path.isVerbatim segment = true := by
    intro segment hsegment
    rcases List.mem_append.1 hsegment with hsegment | hsegment
    · exact isVerbatim_of_mem_familySegments e segment hsegment
    · rcases Endpoint.eq_of_mem_tail hsegment with rfl | rfl
      · exact hv
      · decide
  have hne : familySegments e ++ e.tail ≠ [] := by simp [familySegments_ne_nil]
  rw [arrival, pathChars_eq_text, Url.Path.parse_text_of_isVerbatim hne hall, ← pathChars_eq_text]
  exact Endpoint.parse?_pathChars h

/-- What arrives is made of characters that mean themselves. -/
lemma all_isOwn_of_arrival {e read : Endpoint} (h : arrival e = some read) :
    read.context.toList.all Path.isOwn = true := by
  rw [List.all_eq_true]
  intro c hc
  obtain ⟨hmem, hslash⟩ := Endpoint.mem_of_parse? h c hc
  rcases Url.Path.mem_text hmem with hc | ⟨segment, hsegment, hc⟩
  · exact absurd hc hslash
  · exact List.all_eq_true.1 (Url.Path.isOwn_of_mem_parse _ segment hsegment) c hc

/-- A context of dots is resolved against the family. -/
lemma arrival_eq_resolve {e : Endpoint} (hown : e.context.toList.all Path.isOwn = true)
    (hne : e.context.toList ≠ []) :
    arrival e =
      Endpoint.parse? (Path.text (Url.Path.resolve (familySegments e).reverse e.tail)) := by
  have hall : ∀ segment ∈ familySegments e ++ e.tail, segment.all Path.isOwn = true := by
    intro segment hsegment
    rcases List.mem_append.1 hsegment with hsegment | hsegment
    · exact (Url.Path.isVerbatim_iff.1 (isVerbatim_of_mem_familySegments e segment hsegment)).1
    · rcases Endpoint.eq_of_mem_tail hsegment with rfl | rfl
      · exact hown
      · decide
  have hpath : familySegments e ++ e.tail ≠ [] := by simp [familySegments_ne_nil]
  have htail : e.tail ≠ [] := by
    rw [Endpoint.tail_eq_cons hne]
    exact List.cons_ne_nil _ _
  rw [arrival, pathChars_eq_text, Url.Path.parse_text hpath hall,
    Url.Path.resolve_append [] (isVerbatim_of_mem_familySegments e) htail, List.append_nil]

/-- The same endpoint of the empty context. -/
def withoutContext : Endpoint → Endpoint
  | .command _ mode readOnly => .command "" mode readOnly
  | .status _ => .status ""

/-- In place of one dot, the empty context arrives. -/
lemma arrival_of_isDot {e : Endpoint} (h : Path.isDot e.context.toList = true) :
    arrival e = some (withoutContext e) := by
  have hne : e.context.toList ≠ [] := by
    intro hempty
    rw [hempty] at h
    exact absurd h (by decide)
  rw [arrival_eq_resolve (Url.Path.all_isOwn_of_isDot h) hne, Endpoint.tail_eq_cons hne]
  rcases e with ⟨c, mode, _ | _⟩ | c
  · rw [Url.Path.resolve_dot_last _ h]
    cases mode <;> rfl
  · rw [Url.Path.resolve_dot _ h (by simp)]
    cases mode <;> rfl
  · rw [Url.Path.resolve_dot_last _ h]
    rfl

/-- In place of two dots nothing arrives: they take the family along. -/
lemma arrival_of_isDots {e : Endpoint} (h : Path.isDots e.context.toList = true) :
    arrival e = none := by
  have hne : e.context.toList ≠ [] := by
    intro hempty
    rw [hempty] at h
    exact absurd h (by decide)
  -- One segment of the family is left, and no endpoint has a path that short.
  rw [arrival_eq_resolve (Url.Path.all_isOwn_of_isDots h) hne, Endpoint.tail_eq_cons hne]
  rcases e with ⟨c, mode, _ | _⟩ | c
  · rw [Url.Path.resolve_dots_last _ h]
    cases mode <;> rfl
  · rw [Url.Path.resolve_dots _ h (by simp)]
    cases mode <;> rfl
  · rw [Url.Path.resolve_dots_last _ h]
    rfl

/-- An endpoint that can be told from others arrives just if its context is verbatim. -/
lemma arrival_eq_some_self_iff {e : Endpoint} (h : e.isCanonical = true) :
    arrival e = some e ↔ Path.isVerbatim e.context.toList = true := by
  refine ⟨fun harrival => ?_, arrival_of_isVerbatim h⟩
  rw [Url.Path.isVerbatim_iff]
  refine ⟨all_isOwn_of_arrival harrival, ?_, ?_⟩
  · rw [← Bool.not_eq_true]
    intro hdots
    rw [arrival_of_isDots hdots] at harrival
    simp at harrival
  · rw [← Bool.not_eq_true]
    intro hdot
    -- What arrives is the empty context, which is not a dot.
    have hempty : e.context = "" := by
      rw [arrival_of_isDot hdot] at harrival
      rw [← Option.some.inj harrival]
      cases e <;> rfl
    rw [hempty] at hdot
    exact absurd hdot (by decide)

/-! ## Settings -/

variable {s : Settings}

/-- Settings pass the check if the address is that of a host by web sockets, the context can be
told from the rest of a path, and the client waits. -/
lemma check_eq_ok_iff (s : Settings) (url : Url) :
    s.check = .ok url ↔
      Url.parse s.base = .ok (.known url) ∧ url.scheme ∈ ["ws", "wss"] ∧
        isAddressable s.context = true ∧ s.readyTimeout.isZero = false := by
  unfold check
  rcases hp : Url.parse s.base with e | ⟨known⟩ | ⟨scheme⟩
  · simp [throw, throwThe, MonadExceptOf.throw]
  · simp only [throw, throwThe, MonadExceptOf.throw, bind, Except.bind, pure, Except.pure,
      Except.ok.injEq, Url.Parsed.known.injEq]
    by_cases hscheme : (Url.Parsed.known known).scheme ∈ ["ws", "wss"]
    · rw [if_neg (not_not_intro hscheme)]
      rcases ha : isAddressable s.context with _ | _
      · simp
      · rcases hz : s.readyTimeout.isZero with _ | _
        · simp only [Bool.not_true, Bool.false_eq_true, if_false, Except.ok.injEq, and_true]
          constructor
          · rintro rfl
            exact ⟨rfl, hscheme⟩
          · exact fun hurl => hurl.1
        · simp
    · -- Neither of the two schemes: the check stops here.
      rw [if_pos hscheme]
      simp only [reduceCtorEq, false_iff]
      rintro ⟨rfl, hin, _⟩
      exact hscheme hin
  · simp only [throw, throwThe, MonadExceptOf.throw, bind, Except.bind, Except.ok.injEq,
      reduceCtorEq, false_and, iff_false]
    split <;> simp

lemma isAddressable_of_check {url : Url} (h : s.check = .ok url) :
    isAddressable s.context = true :=
  ((check_eq_ok_iff s url).1 h).2.2.1

lemma isCanonical_commandEndpoint (h : isAddressable s.context = true) :
    s.commandEndpoint.isCanonical = true := by
  simp only [isAddressable, Bool.and_eq_true] at h
  simp only [commandEndpoint, Endpoint.isCanonical, h.1, h.2, Bool.or_true, Bool.and_self]

lemma isCanonical_statusEndpoint (h : isAddressable s.context = true) :
    s.statusEndpoint.isCanonical = true := by
  simp only [isAddressable, Bool.and_eq_true] at h
  exact h.1

/-- What the daemon reads on the connection of an endpoint. -/
lemma exists_urlOf_iff {url : Url} (h : s.check = .ok url) (e : Endpoint) :
    (∃ url, s.urlOf e = .ok url ∧ Endpoint.parse (Network.requestPath url) = .ok e) ↔
      arrival e = some e := by
  have hurl : s.urlOf e = .ok (url.withPath e.pathChars) := by
    rw [urlOf, h]
    rfl
  have hparse : Endpoint.parse (Network.requestPath (url.withPath e.pathChars)) = .ok e ↔
      arrival e = some e := by
    simp only [Endpoint.parse, Network.requestPath, Url.withPath, String.toList_ofList, arrival]
    split
    · next read hread => simp [hread]
    · next hnone => simp [hnone]
  simp [hurl, hparse]

/-- **The daemon reads what the client means just if the context is verbatim.**  The check of the
settings refuses only slashes and the wish to watch. -/
theorem isUnderstood_iff (s : Settings) (h : s.check.isOk = true) :
    s.IsUnderstood ↔ Path.isVerbatim s.context.toList = true := by
  rcases hcheck : s.check with err | url
  · simp [hcheck, Except.isOk, Except.toBool] at h
  · have haddress := isAddressable_of_check hcheck
    have hcommand := exists_urlOf_iff hcheck s.commandEndpoint
    have hstatus := exists_urlOf_iff hcheck s.statusEndpoint
    rw [arrival_eq_some_self_iff (isCanonical_commandEndpoint haddress)] at hcommand
    rw [arrival_eq_some_self_iff (isCanonical_statusEndpoint haddress)] at hstatus
    rw [IsUnderstood, commandUrl, statusUrl, hcommand, hstatus]
    exact and_self_iff

/-- A context of letters and a dash is understood. -/
theorem isUnderstood_build :
    (⟨"ws://[::1]:8080", "build-42", .text, true, defaultTimeout⟩ : Settings).IsUnderstood :=
  (isUnderstood_iff ⟨"ws://[::1]:8080", "build-42", .text, true, defaultTimeout⟩ rfl).2 (by decide)

/-- A context of one dot passes the check, and the daemon takes it for the empty context. -/
theorem not_isUnderstood_dot :
    ¬ ∀ s : Settings, s.check.isOk = true → s.IsUnderstood := by
  intro hall
  have hunderstood := hall ⟨"ws://[::1]:8080", ".", .binary, false, defaultTimeout⟩ rfl
  obtain ⟨url, hurl, hparse⟩ := hunderstood.1
  have hread : (commandUrl ⟨"ws://[::1]:8080", ".", .binary, false, defaultTimeout⟩).map
      (fun url => Endpoint.parse (Network.requestPath url)) =
      .ok (.ok (.command "" .binary false)) := by rfl
  rw [hurl] at hread
  simp only [Except.map, hparse, Except.ok.injEq, commandEndpoint] at hread
  exact absurd hread (by decide)

end SharedTerminal.Client.Settings
