import SharedTerminal.Proofs.Gateway.Projection
import SharedTerminal.Proofs.Text.Utf8

/-!
# What is written to a visitor

The gateway takes what waits for a visitor and writes it, a frame for each chunk.  For the sessions
this is no more than what visitors take and that some leave (`steps`), and nothing that matters to
a session depends on whom the gateway has stopped to write to (`muted`).

So a visitor of a terminal is written the chunks that its seat is given, one by one
(`written_eq`).  A visitor in text mode gets each chunk as text by itself, and the texts together
are the text of the stream just if no chunk ends inside a character.  The main statement is
`texts_eq_iff_chunks_are_text`.
-/

namespace SharedTerminal.Gateway

variable {g other : Gateway} {lasts : Nat → Option Task.Status} {visits others : List Visit}
  {visit : Visit} {k n i : Nat} {drives : Bool} {mode : Mode}

/-! ## Whom the gateway writes to -/

/-- The visitor, to whom nothing is written any more. -/
def Visit.muted (visit : Visit) : Visit := { visit with speaking := false }

/-- The gateway that writes to nobody any more. -/
def muted (g : Gateway) : Gateway := { g with visits := g.visits.map Visit.muted }

lemma exists_of_muted (heq : others.map Visit.muted = visits.map Visit.muted)
    (hk : visits[k]? = some visit) :
    ∃ same, others[k]? = some same ∧ same.purpose = visit.purpose ∧
      same.listening = visit.listening := by
  have hmuted := congrArg (·[k]?) heq
  simp only [List.getElem?_map, hk, Option.map_some] at hmuted
  obtain ⟨same, hsame, hvisit⟩ := Option.map_eq_some_iff.1 hmuted
  simp only [Visit.muted, Visit.mk.injEq] at hvisit
  exact ⟨same, hsame, hvisit.1, hvisit.2.2⟩

/-- It does not matter to a session whom the gateway writes to. -/
lemma IsUsed.of_muted {s : Session} {last : Option Task.Status} (h : IsUsed visits n s last)
    (heq : others.map Visit.muted = visits.map Visit.muted) : IsUsed others n s last where
  active := h.active
  silent := h.silent
  driven hd := by
    obtain ⟨k, visit, hvisit, hat, hdrives, hplaced⟩ := h.driven hd
    obtain ⟨same, hsame, hpurpose, hlistening⟩ := exists_of_muted heq hvisit
    refine ⟨k, same, hsame, ⟨hlistening.trans hat.1, ?_⟩, ?_, ?_⟩ <;> rw [hpurpose]
    · exact hat.2
    · exact hdrives
    · exact hplaced
  held hd k visit hvisit hat := by
    obtain ⟨same, hsame, hpurpose, hlistening⟩ := exists_of_muted heq.symm hvisit
    rw [← hpurpose]
    exact h.held hd k same hsame ⟨hlistening.trans hat.1, hpurpose ▸ hat.2⟩
  visited hd := by
    obtain ⟨visit, hmem, hat⟩ := h.visited hd
    obtain ⟨k, hvisit⟩ := List.getElem?_of_mem hmem
    obtain ⟨same, hsame, hpurpose, hlistening⟩ := exists_of_muted heq hvisit
    exact ⟨same, List.mem_of_getElem? hsame, hlistening.trans hat.1, hpurpose ▸ hat.2⟩

lemma IsKept.of_muted (h : IsKept lasts g) (heq : other.muted = g.muted) :
    IsKept lasts other := by
  have hhub : other.hub = g.hub := congrArg (·.hub) heq
  have hvisits : other.visits.map Visit.muted = g.visits.map Visit.muted := congrArg (·.visits) heq
  refine ⟨hhub ▸ h.sound, hhub ▸ h.complete, fun visit hmem m hm => ?_, hhub ▸ h.unborn,
    fun m hm hlive => ?_⟩
  · obtain ⟨k, hk⟩ := List.getElem?_of_mem hmem
    obtain ⟨same, hsame, hpurpose, -⟩ := exists_of_muted hvisits.symm hk
    rw [hhub]
    exact h.bound same (List.mem_of_getElem? hsame) m (hpurpose ▸ hm)
  · rw [hhub] at hm hlive ⊢
    exact (h.used m hm hlive).of_muted hvisits

lemma purposes_of_muted (heq : other.muted = g.muted) : other.purposes = g.purposes := by
  have hpurposes := congrArg purposes heq
  simpa [purposes, muted, Visit.muted, Function.comp_def] using hpurposes

lemma IsNumbered.of_muted (h : IsNumbered g) (heq : other.muted = g.muted) :
    IsNumbered other := by
  have hhub : other.hub = g.hub := congrArg (·.hub) heq
  have hpurposes := purposes_of_muted heq
  have hcount : other.visits.length = g.visits.length := by
    rw [← length_purposes, hpurposes, length_purposes]
  refine ⟨?_, ?_, ?_⟩
  · rw [hcount, hhub]
    exact h.names
  · rw [hpurposes, hhub]
    exact h.held
  · rw [hpurposes]
    exact h.once

/-! ## What is taken -/

/-- What happens when the gateway writes to a visitor. -/
def speaking (g : Gateway) (k : Nat) : List Operation :=
  match g.visits[k]? with
  | none => []
  | some visit =>
    if !visit.speaking then []
    else match visit.purpose with
      | .nothing _ => [.depart k]
      | .terminal n seat _ _ => [.transit n (.receive seat none) rfl]
      | .news n listener =>
        .transit n (.listen listener) rfl ::
          match ((g.hub.session n).listen listener).2 with
          | some heard => if heard.closed then [.depart k] else []
          | none => []

/-- When the gateway writes, a visitor of a terminal takes output and a listener what it is told, and
nobody but those who did not come to a terminal is let go of. -/
lemma speaking_cases {op : Operation} (hop : op ∈ g.speaking k) :
    ∃ visit, g.visits[k]? = some visit ∧
      ((∃ n i drives mode, visit.purpose = .terminal n i drives mode ∧
          op = .transit n (.receive i none) rfl) ∨
        (∃ n l, visit.purpose = .news n l ∧ op = .transit n (.listen l) rfl) ∨
        (∀ n i drives mode, visit.purpose ≠ .terminal n i drives mode) ∧ op = .depart k) := by
  unfold speaking at hop
  rcases hk : g.visits[k]? with _ | visit
  · simp [hk] at hop
  refine ⟨visit, rfl, ?_⟩
  rcases hs : visit.speaking with _ | _
  · simp [hk, hs] at hop
  rcases hp : visit.purpose with ⟨n, i, drives, mode⟩ | ⟨n, l⟩ | reason
  · simp only [hk, hs, hp, Bool.not_true, Bool.false_eq_true, if_false, List.mem_singleton] at hop
    exact Or.inl ⟨n, i, drives, mode, rfl, hop⟩
  · simp only [hk, hs, hp, Bool.not_true, Bool.false_eq_true, if_false, List.mem_cons] at hop
    rcases hop with rfl | hop
    · exact Or.inr (Or.inl ⟨n, l, rfl, rfl⟩)
    · refine Or.inr (Or.inr ⟨by simp, ?_⟩)
      split at hop
      · split at hop
        · simpa using hop
        · simp at hop
      · simp at hop
  · simp only [hk, hs, hp, Bool.not_true, Bool.false_eq_true, if_false, List.mem_singleton] at hop
    exact Or.inr (Or.inr ⟨by simp, hop⟩)

lemma muted_modify {f : Visit → Visit} (hf : ∀ visit, g.visits[k]? = some visit →
    (f visit).muted = visit.muted) : (g.modify k f).muted = g.muted := by
  have hvisits : (g.visits.modify k f).map Visit.muted = g.visits.map Visit.muted := by
    apply List.ext_getElem?
    intro j
    rw [List.getElem?_map, List.getElem?_map, List.getElem?_modify]
    rcases hj : g.visits[j]? with _ | visit
    · rfl
    · by_cases hkj : k = j
      · subst hkj
        simp [hf visit hj]
      · simp [hkj]
  simp only [muted, Gateway.modify, hvisits]

lemma receive_eq_self {s : Session} (h : (s.receive i none).2 = none) :
    (s.receive i none).1 = s := by
  unfold Session.receive at h ⊢
  split
  · rfl
  · next hi =>
    rw [hi] at h
    split
    · next hr => simp [hr] at h
    · rfl

lemma listen_eq_self {s : Session} {l : Nat} (h : (s.listen l).2 = none) :
    (s.listen l).1 = s := by
  have hsame : (s.listeners.receive l).1 = s.listeners := by
    simp only [Session.listen, Session.Listeners.receive] at h ⊢
    split
    · next hl =>
      rw [hl] at h
      split
      · next hr => simp [hr] at h
      · rfl
    · rfl
  simp only [Session.listen, hsame]

/-- To write is to take what waits, and to let go of a visitor to whom nothing more can come. -/
lemma muted_speak (g : Gateway) (k : Nat) :
    (g.speak k).1.muted = (g.evolve (g.speaking k)).muted := by
  unfold speak speaking
  rcases hk : g.visits[k]? with _ | visit
  · rfl
  rcases hs : visit.speaking with _ | _
  · simp [hs]
  rcases hp : visit.purpose with ⟨n, seat, drives, mode⟩ | ⟨n, l⟩ | reason
  · rcases hr : (g.hub.session n).receive seat none with ⟨s, _ | received⟩
    · have hsame : s = g.hub.session n := by simpa [hr] using receive_eq_self (congrArg (·.2) hr)
      simp [hs, hp, hr, hsame, Gateway.step, Hub.step, Hub.run, Session.perform, Hub.put_session]
    · have hmuted := muted_modify (g := { g with hub := g.hub.put n s }) (k := k)
        (f := fun visit => { visit with speaking := false }) fun _ _ => rfl
      rcases hc : received.closed with _ | _ <;>
        simp [hs, hp, hr, hc, hmuted, Gateway.step, Hub.step, Hub.run, Session.perform]
  · rcases hl : (g.hub.session n).listen l with ⟨s, _ | heard⟩
    · have hsame : s = g.hub.session n := by simpa [hl] using listen_eq_self (congrArg (·.2) hl)
      simp [hs, hp, hl, hsame, Gateway.step, Hub.step, Hub.run, Session.perform, Hub.put_session]
    · rcases hc : heard.closed with _ | _ <;>
        simp [hs, hp, hl, hc, Gateway.step, Hub.step, Hub.run, Session.perform]
  · -- There is nothing to let go of.
    rcases hl : visit.listening with _ | _
    · have hmuted := muted_modify (g := g) (k := k)
        (f := fun visit => { visit with speaking := false, listening := false }) (by
          intro other hother
          obtain rfl : visit = other := Option.some.inj (hk.symm.trans hother)
          simp [Visit.muted, hl])
      simp [hs, hp, hmuted, Gateway.step, Gateway.depart, hk, hl]
    · simp [hs, hp, Gateway.step, Gateway.depart, Gateway.release, hk, hl]

/-! ## Turns -/

/-- Whether something other than the gateway's own writing takes output out of a queue. -/
def Operation.takes : Operation → Bool
  | .transit _ op _ => op.takes
  | _ => false

/-- What goes on at a gateway that also writes. -/
inductive Turn where
  /-- Something happens, and nobody takes what is to be written. -/
  | happens (op : Operation) (hop : op.takes = false)
  /-- The gateway writes what waits for the visitor with a number. -/
  | speaks (k : Nat)

/-- What a turn comes to. -/
def steps (g : Gateway) : Turn → List Operation
  | .happens op _ => [op]
  | .speaks k => g.speaking k

/-- The gateway after a turn. -/
def turn (g : Gateway) : Turn → Gateway
  | .happens op _ => g.step op
  | .speaks k => (g.speak k).1

/-- The gateway after a list of turns. -/
def play (g : Gateway) (turns : List Turn) : Gateway := turns.foldl turn g

@[simp] lemma play_nil (g : Gateway) : g.play [] = g := rfl

@[simp] lemma play_cons (g : Gateway) (t : Turn) (turns : List Turn) :
    g.play (t :: turns) = (g.turn t).play turns := rfl

/-- What a list of turns does to the session with a number. -/
def deeds (n : Nat) (g : Gateway) : List Turn → List Session.Operation
  | [] => []
  | t :: turns => opsOn n g (g.steps t) ++ deeds n (g.turn t) turns

lemma muted_turn (g : Gateway) (t : Turn) :
    (g.turn t).muted = (g.evolve (g.steps t)).muted := by
  cases t with
  | happens op hop => rfl
  | speaks k => exact muted_speak g k

lemma purposes_turn (g : Gateway) (t : Turn) : g.purposes <+: (g.turn t).purposes := by
  rw [purposes_of_muted (muted_turn g t)]
  exact purposes_evolve g _

/-- What can be said of a gateway after each turn. -/
structure IsOrderly (g : Gateway) : Prop where
  /-- Sessions that live have a use. -/
  kept : ∃ lasts, IsKept lasts g
  /-- Names and spots are given once. -/
  numbered : IsNumbered g

lemma isOrderly_idle (settings : Settings) : IsOrderly (idle settings) :=
  ⟨⟨_, isKept_idle settings⟩, isNumbered_idle settings⟩

lemma IsOrderly.turn (h : IsOrderly g) (t : Turn) : IsOrderly (g.turn t) := by
  obtain ⟨lasts, hkept⟩ := h.kept
  exact ⟨⟨_, (hkept.evolve (g.steps t)).of_muted (muted_turn g t)⟩,
    (h.numbered.evolve hkept (g.steps t)).of_muted (muted_turn g t)⟩

lemma IsOrderly.play (h : IsOrderly g) (turns : List Turn) : IsOrderly (g.play turns) := by
  induction turns generalizing g with
  | nil => exact h
  | cons t turns ih => exact ih (h.turn t)

lemma IsOrderly.session_turn (h : IsOrderly g) (hn : n < g.hub.sessions.length) (t : Turn) :
    (g.turn t).hub.session n = (g.hub.session n).run (opsOn n g (g.steps t)) ∧
      n < (g.turn t).hub.sessions.length := by
  obtain ⟨lasts, hkept⟩ := h.kept
  have hhub : (g.turn t).hub = (g.evolve (g.steps t)).hub := congrArg (·.hub) (muted_turn g t)
  rw [hhub]
  exact ⟨hkept.session_evolve hn _, Nat.lt_of_lt_of_le hn (hkept.length_evolve _)⟩

/-- What goes on at a gateway is, for a session that there is, a list of operations. -/
lemma IsOrderly.session_play (h : IsOrderly g) (hn : n < g.hub.sessions.length)
    (turns : List Turn) :
    (g.play turns).hub.session n = (g.hub.session n).run (deeds n g turns) ∧
      n < (g.play turns).hub.sessions.length := by
  induction turns generalizing g with
  | nil => exact ⟨rfl, hn⟩
  | cons t turns ih =>
    obtain ⟨hsession, hlength⟩ := h.session_turn hn t
    rw [play_cons, deeds, Session.run_append, ← hsession]
    exact ih (h.turn t) hlength

/-! ## What is written -/

/-- The output that a signal carries, as a frame. -/
def Signal.output? : Signal → Option Frame
  | .frame (.text text) => some (.text text)
  | .frame (.binary bytes) => some (.binary bytes)
  | _ => none

/-- The output that the visitor with a number is written in a turn. -/
def output (k : Nat) (g : Gateway) : Turn → List Frame
  | .happens _ _ => []
  | .speaks j => if j = k then (g.speak j).2.filterMap Signal.output? else []

/-- The output that the visitor with a number is written in a list of turns. -/
def written (k : Nat) (g : Gateway) : List Turn → List Frame
  | [] => []
  | t :: turns => output k g t ++ written k (g.turn t) turns

lemma takes_opOn? {op : Operation} {sop : Session.Operation} (hop : op.takes = false)
    (hsop : opOn? n g op = some sop) : sop.takes = false := by
  obtain ⟨_, _, _, _, e, rfl, rfl⟩ | ⟨j, visit, rfl, -, -, rfl⟩ | ⟨event, rfl, rfl⟩ | ⟨hq, rfl⟩ :=
    opOn?_cases hsop
  · rcases e with ⟨_, _, _ | _⟩ | _ <;> rfl
  · rcases visit.purpose with ⟨_, _, _ | _, _⟩ | ⟨_, _⟩ | _ <;> rfl
  · cases event <;> rfl
  · exact hop

lemma takenIn_opsOn {ops : List Operation} (hops : ∀ op ∈ ops, op.takes = false) (s : Session) :
    Session.takenIn i s (opsOn n g ops) = [] := by
  induction ops generalizing g s with
  | nil => rfl
  | cons op ops ih =>
    obtain ⟨hop, hrest⟩ := List.forall_mem_cons.1 hops
    rw [opsOn]
    rcases hsop : opOn? n g op with _ | sop
    · exact ih hrest s
    · rw [Option.toList_some, List.singleton_append, Session.takenIn,
        Session.taken_of_not_takes (takes_opOn? hop hsop), ih hrest, List.nil_append]

lemma output?_chunkFrame (mode : Mode) (chunk : Bytes) :
    Signal.output? (.frame (chunkFrame mode chunk)) = some (chunkFrame mode chunk) := by
  cases mode <;> rfl

/-- What the gateway writes to a visitor of a terminal is what it takes from its seat. -/
lemma output_of_terminal (hk : g.visits[k]? = some visit) (hs : visit.speaking = true)
    (hp : visit.purpose = .terminal n i drives mode) :
    (g.speak k).2.filterMap Signal.output? =
      (Session.taken i (g.hub.session n) (.receive i none)).map (chunkFrame mode) := by
  rw [Session.taken_receive_all]
  rcases hr : (g.hub.session n).receive i none with ⟨s, _ | received⟩
  · simp [speak, hk, hs, hp, Hub.run, hr]
  · have hframes : (received.chunks.map fun chunk => Signal.frame (chunkFrame mode chunk)).filterMap
        Signal.output? = received.chunks.map (chunkFrame mode) := by
      simp [List.filterMap_map, output?_chunkFrame]
    have hclose : Signal.output? (.frame (.close none)) = none := rfl
    rcases hc : received.closed with _ | _ <;>
      simp [speak, hk, hs, hp, Hub.run, hr, hc, hframes, hclose, -List.filterMap_map]

lemma takes_speaking (hk : g.visits[k]? = some visit)
    (hp : ∀ n i drives mode, visit.purpose ≠ .terminal n i drives mode) :
    ∀ op ∈ g.speaking k, op.takes = false := by
  intro op hop
  obtain ⟨other, hother, ⟨n, i, drives, mode, hterminal, -⟩ | ⟨n, l, -, rfl⟩ | ⟨-, rfl⟩⟩ :=
    speaking_cases hop
  · obtain rfl : visit = other := Option.some.inj (hk.symm.trans hother)
    exact absurd hterminal (hp n i drives mode)
  · rfl
  · rfl

/-- A visitor of a terminal is written the chunks that its seat is given, a frame for each. -/
lemma IsOrderly.output_eq (h : IsOrderly g)
    (hk : g.purposes[k]? = some (.terminal n i drives mode)) (t : Turn) :
    output k g t = (Session.takenIn i (g.hub.session n) (opsOn n g (g.steps t))).map
      (chunkFrame mode) := by
  cases t with
  | happens op hop =>
    rw [steps, takenIn_opsOn (by simpa using hop)]
    rfl
  | speaks j =>
    simp only [steps, output]
    rcases hj : g.visits[j]? with _ | visit
    · simp [speak, speaking, hj, opsOn, Session.takenIn]
    have hpurpose : g.purposes[j]? = some visit.purpose := by simp [purposes, hj]
    by_cases hp : ∃ m seat drives mode, visit.purpose = .terminal m seat drives mode
    · obtain ⟨m, seat, drives', mode', hp⟩ := hp
      rw [hp] at hpurpose
      rcases hs : visit.speaking with _ | _
      · simp [speak, speaking, hj, hs, opsOn, Session.takenIn]
      have hsteps : g.speaking j = [.transit m (.receive seat none) rfl] := by
        simp [speaking, hj, hs, hp]
      rw [hsteps]
      by_cases hspot : Spot.seat m seat = .seat n i
      · -- Whoever has the seat is the visitor itself.
        obtain ⟨rfl, rfl⟩ := Spot.seat.inj hspot
        obtain rfl := h.numbered.once j k (.seat m seat) (by simp [hpurpose, Purpose.spot?])
          (by simp [hk, Purpose.spot?])
        obtain ⟨-, -, -, rfl⟩ := Purpose.terminal.inj (Option.some.inj (hpurpose.symm.trans hk))
        rw [if_pos rfl, output_of_terminal hj hs hp]
        simp [opsOn, opOn?, Session.takenIn]
      · have hne : j ≠ k := by
          rintro rfl
          obtain ⟨rfl, rfl, -, -⟩ :=
            Purpose.terminal.inj (Option.some.inj (hpurpose.symm.trans hk))
          exact hspot rfl
        rw [if_neg hne]
        by_cases hm : m = n
        · subst hm
          have hseat : seat ≠ i := fun heq => hspot (by rw [heq])
          simp [opsOn, opOn?, Session.takenIn, Session.taken_receive_of_ne hseat]
        · simp [opsOn, opOn?, Session.takenIn, hm]
    · -- Whoever came for something else is not the visitor, and takes no output.
      have hne : j ≠ k := by
        rintro rfl
        exact hp ⟨n, i, drives, mode, Option.some.inj (hpurpose.symm.trans hk)⟩
      rw [if_neg hne, takenIn_opsOn (takes_speaking hj fun m seat drives' mode' heq =>
        hp ⟨m, seat, drives', mode', heq⟩), List.map_nil]

/-- In all that goes on a visitor of a terminal is written the chunks that its seat is given, a
frame for each. -/
lemma IsOrderly.written_eq (h : IsOrderly g)
    (hk : g.purposes[k]? = some (.terminal n i drives mode)) (turns : List Turn) :
    written k g turns =
      (Session.takenIn i (g.hub.session n) (deeds n g turns)).map (chunkFrame mode) := by
  induction turns generalizing g with
  | nil => rfl
  | cons t turns ih =>
    have hn := (h.numbered.held k (.seat n i) (by simp [hk, Purpose.spot?])).1
    have hnext : (g.turn t).purposes[k]? = some (.terminal n i drives mode) := by
      obtain ⟨more, hmore⟩ := purposes_turn g t
      rw [← hmore, List.getElem?_append_left (List.getElem?_eq_some_iff.1 hk).1, hk]
    rw [written, deeds, h.output_eq hk, ih (h.turn t) hnext, Session.takenIn_append,
      List.map_append, (h.session_turn hn t).1]

/-! ## Text -/

/-- The text of frames one after the other, where they carry text. -/
def textOf (frames : List Frame) : String :=
  String.join (frames.filterMap fun
    | .text text => some text
    | _ => none)

lemma toList_textOf (chunks : List Bytes) :
    (textOf (chunks.map (chunkFrame .text))).toList = chunks.flatMap Utf8.decodeLossy := by
  simp [textOf, String.toList_join, List.filterMap_map, chunkFrame, Function.comp_def,
    List.flatMap_map]

/-- The texts of chunks are the text of them all just if each chunk is text. -/
lemma textOf_eq_iff {chunks : List Bytes} {text : String} (h : chunks.flatten = utf8 text) :
    textOf (chunks.map (chunkFrame .text)) = text ↔
      ∀ chunk ∈ chunks, ∃ part : String, chunk = utf8 part := by
  rw [← String.toList_inj, toList_textOf, Utf8.flatMap_decodeLossy_eq_iff h]
  refine forall_congr' fun chunk => imp_congr_right fun _ => ⟨?_, ?_⟩
  · rintro ⟨part, rfl⟩
    exact ⟨String.ofList part, by simp [utf8]⟩
  · rintro ⟨part, rfl⟩
    exact ⟨part.toList, rfl⟩

/-- **A visitor in text mode sees the text of the stream just if no chunk ends inside a character.**
Whoever comes to a terminal is written the chunks that its seat is given, a frame for each, in the
framing that it asked for.  These are, with what still waits, what the session produces for it from
then on until it parts.  In text mode each chunk is read as text by itself.  If the chunks together
are a text, then the frames together are that text just if each chunk is a text. -/
theorem texts_eq_iff_chunks_are_text (settings : Settings) (before after : List Turn)
    (path : String) (starts : Except Session.Error Unit) (logCapacity : Option Nat)
    (capacity n i : Nat) (drives : Bool) (mode : Mode)
    (hvisit : (((idle settings).play before).step
        (.arrive path starts logCapacity capacity)).visits[((idle settings).play
          before).visits.length]? = some ⟨.terminal n i drives mode, true, true⟩) :
    let g := (idle settings).play before
    let arrived := g.step (.arrive path starts logCapacity capacity)
    let s := arrived.hub.session n
    let ops := deeds n arrived after
    let chunks := Session.takenIn i s ops
    let frames := written g.visits.length arrived after
    (∃ context readOnly, Endpoint.parse path = .ok (.command context mode readOnly)) ∧
    (arrived.play after).hub.session n = s.run ops ∧
    Session.IsDelivered i (roleOf drives) [] s ops ∧
    frames = chunks.map (chunkFrame mode) ∧
    (mode = .text → ∀ text, chunks.flatten = utf8 text →
      (textOf frames = text ↔ ∀ chunk ∈ chunks, ∃ part : String, chunk = utf8 part)) := by
  intro g arrived s ops chunks frames
  have hbefore : IsOrderly g := (isOrderly_idle settings).play before
  have harrived : IsOrderly arrived :=
    hbefore.turn (.happens (.arrive path starts logCapacity capacity) rfl)
  obtain ⟨lasts, hkept⟩ := hbefore.kept
  obtain ⟨lasts', hkept'⟩ := harrived.kept
  have hk : arrived.purposes[g.visits.length]? = some (.terminal n i drives mode) := by
    simp [arrived, purposes, g, hvisit]
  obtain ⟨e, he, -, ⟨hn, -⟩, hanswer, hnext⟩ := hkept.exists_of_arrive hvisit rfl
  obtain ⟨hi, hattaches, context, readOnly, rfl⟩ := attaches_of_answer hanswer
  have hseat : s.seats[i]? =
      some ⟨roleOf drives, .fresh (channelName g.visits.length) capacity⟩ := by
    rw [hi, show s = _ from hnext]
    exact hattaches.getElem?_step
  obtain ⟨hrun, hlast⟩ := harrived.session_play hn after
  have hframes : frames = chunks.map (chunkFrame mode) := harrived.written_eq hk after
  have hids : (s.run ops).ids.Nodup := by
    rw [← hrun]
    exact ((harrived.play after).numbered.names n hlast).nodup
  refine ⟨⟨context, readOnly, he⟩, hrun, ?_, hframes, ?_⟩
  · exact Session.isDelivered_run (hkept'.sound.sessions n) hseat (Or.inl rfl) ops hids
  · rintro rfl text htext
    rw [hframes]
    exact textOf_eq_iff htext

/-- Engines start, and four chunks wait for a visitor at most. -/
def usual : Settings := ⟨⟨.ok [], none⟩, 4⟩

/-- The first visitor of a gateway has come to a terminal, in text mode. -/
def opened : Gateway := (idle usual).step (.arrive "/socket/text/x" (.ok ()) none 4)

/-- The engine of the first session sends chunks, and each is written to the first visitor. -/
def outputs (chunks : List Bytes) : List Turn :=
  chunks.flatMap fun chunk => [.happens (.pump 0 (.output chunk)) rfl, .speaks 0]

/-- Cut after each character, a text comes through. -/
theorem texts_eq_of_whole_characters :
    opened.visits[0]? = some ⟨.terminal 0 0 true .text, true, true⟩ ∧
      textOf (written 0 opened (outputs [utf8 "é", utf8 "ß"])) = "éß" := by
  have hvisit : opened.visits[0]? = some ⟨.terminal 0 0 true .text, true, true⟩ := by decide
  obtain ⟨-, -, -, -, htext⟩ := texts_eq_iff_chunks_are_text usual []
    (outputs [utf8 "é", utf8 "ß"]) "/socket/text/x" (.ok ()) none 4 0 0 true .text hvisit
  have hchunks : Session.takenIn 0 (opened.hub.session 0)
      (deeds 0 opened (outputs [utf8 "é", utf8 "ß"])) = [utf8 "é", utf8 "ß"] := by decide
  have hflatten := (congrArg List.flatten hchunks).trans
    (show _ = utf8 "éß" by decide)
  refine ⟨hvisit, (htext rfl "éß" hflatten).2 fun chunk hmem => ?_⟩
  have hmem' : chunk ∈ [utf8 "é", utf8 "ß"] := hchunks ▸ hmem
  simp only [List.mem_cons, List.not_mem_nil, or_false] at hmem'
  rcases hmem' with rfl | rfl
  · exact ⟨"é", rfl⟩
  · exact ⟨"ß", rfl⟩

/-- A character whose bytes come one by one does not. -/
theorem not_forall_texts_eq :
    ¬ ∀ (settings : Settings) (before after : List Turn) (path : String)
      (starts : Except Session.Error Unit) (logCapacity : Option Nat) (capacity n i : Nat)
      (drives : Bool) (text : String),
      let g := (idle settings).play before
      let arrived := g.step (.arrive path starts logCapacity capacity)
      arrived.visits[g.visits.length]? = some ⟨.terminal n i drives .text, true, true⟩ →
      (Session.takenIn i (arrived.hub.session n) (deeds n arrived after)).flatten = utf8 text →
      textOf (written g.visits.length arrived after) = text := by
  intro h
  have htext : textOf (written 0 opened (outputs [[0xC3], [0xA9]])) = "é" :=
    h usual [] (outputs [[0xC3], [0xA9]]) "/socket/text/x" (.ok ()) none 4 0 0 true "é"
      (by decide) (by decide)
  have hopened : IsOrderly opened :=
    (isOrderly_idle usual).turn (.happens (.arrive "/socket/text/x" (.ok ()) none 4) rfl)
  have hvisitor : opened.purposes[0]? = some (.terminal 0 0 true .text) := by decide
  have hchunks : Session.takenIn 0 (opened.hub.session 0)
      (deeds 0 opened (outputs [[0xC3], [0xA9]])) = [[0xC3], [0xA9]] := by decide
  have hlossy : [[0xC3], [0xA9]].flatMap Utf8.decodeLossy = ['\uFFFD', '\uFFFD'] := by cbv
  rw [hopened.written_eq hvisitor, hchunks, ← String.toList_inj, toList_textOf, hlossy] at htext
  exact absurd htext (by decide)

end SharedTerminal.Gateway
