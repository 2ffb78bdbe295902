import SharedTerminal.Proofs.Envelope.RoundTrip
import SharedTerminal.Proofs.Json.Records

/-!
# Envelopes are read by their members

A text that opens an object is read as an envelope just if it is a document whose members carry that
envelope: its tag and its members stand there once each, wherever they stand, however their strings are
spelled, and whatever stands under other names (`Action.ofBytes_eq_ok_iff` and
`Task.Change.parse_eq_ok_iff`).  The flaws of a message are those that leave nothing to be carried, and
a text whose members have such a flaw is refused, as is one that no document spells.

The main statement is `envelopes_read_by_members`.
-/

namespace SharedTerminal

open Shape (Fault)
open Json (Value Body Field HasOnce IsDocument OpensObject Denotes bind_eq_ok_iff check_of_eq_ok_iff
  asText_eq_ok_iff asName_eq_ok_iff)

/-! ## Actions -/

namespace Action

/-- Members carry an action: its tag and its own members stand there once each. -/
def IsCarriedBy (a : Action) (ms : List (String × Value)) : Prop :=
  ∀ m ∈ ("action", .text a.tag) :: a.members, HasOnce ms m.1 m.2

lemma asWord16_eq_ok_iff {v : Value} {w : UInt16} :
    v.asWord16 = .ok w ↔ v = .integer w.toNat := by
  constructor
  · intro h
    cases v with
    | integer i =>
      rw [Value.asWord16] at h
      split at h
      · next hrange =>
        obtain rfl := Except.ok.inj h
        simp only [Bool.and_eq_true, decide_eq_true_eq] at hrange
        rw [UInt16.toNat_ofNat_of_lt' (by rw [UInt16.size]; omega), Int.toNat_of_nonneg hrange.1]
      · exact absurd h (by simp)
    | _ => exact absurd h (by simp [Value.asWord16])
  · rintro rfl
    exact asWord16_toNat w

lemma ofTagged_read_eq_ok_iff {ms : List (String × Value)} {a : Action} :
    ofTagged "read" (.members ms) = .ok a ↔ ∃ text, a = input text ∧
      HasOnce ms "data" (.text text) := by
  have hfields : ([Field.of "data" Value.asText].map Field.name).Nodup := by decide
  simp only [ofTagged, beq_self_eq_true, if_true, bind_eq_ok_iff,
    Json.fields_members_eq_ok_iff hfields, List.forall₂_cons_left_iff, List.forall₂_nil_left_iff,
    check_of_eq_ok_iff, asText_eq_ok_iff]
  constructor
  · rintro ⟨_, ⟨_, _, ⟨honce, text, rfl⟩, rfl, rfl⟩, h⟩
    have ha : Except.ok (input text) = (.ok a : Except Fault Action) := h
    exact ⟨text, (Except.ok.inj ha).symm, honce⟩
  · rintro ⟨text, rfl, honce⟩
    exact ⟨_, ⟨_, _, ⟨honce, text, rfl⟩, rfl, rfl⟩, rfl⟩

lemma ofTagged_resize_eq_ok_iff {ms : List (String × Value)} {a : Action} :
    ofTagged "resize" (.members ms) = .ok a ↔ ∃ cols rows, a = resize cols rows ∧
      HasOnce ms "cols" (.integer cols.toNat) ∧ HasOnce ms "rows" (.integer rows.toNat) := by
  have hfields : ([Field.of "cols" Value.asWord16, .of "rows" Value.asWord16].map
    Field.name).Nodup := by decide
  have htag : ("resize" == "read") = false := by decide
  simp only [ofTagged, htag, Bool.false_eq_true, if_false, bind_eq_ok_iff,
    Json.fields_members_eq_ok_iff hfields, List.forall₂_cons_left_iff, List.forall₂_nil_left_iff,
    check_of_eq_ok_iff, asWord16_eq_ok_iff]
  constructor
  · rintro ⟨_, ⟨_, _, ⟨hcols, cols, rfl⟩, ⟨_, _, ⟨hrows, rows, rfl⟩, rfl, rfl⟩, rfl⟩, h⟩
    simp only [asWord16_toNat] at h
    have ha : Except.ok (resize cols rows) = (.ok a : Except Fault Action) := h
    exact ⟨cols, rows, (Except.ok.inj ha).symm, hcols, hrows⟩
  · rintro ⟨cols, rows, rfl, hcols, hrows⟩
    refine ⟨_, ⟨_, _, ⟨hcols, cols, rfl⟩, ⟨_, _, ⟨hrows, rows, rfl⟩, rfl, rfl⟩, rfl⟩, ?_⟩
    simp only [asWord16_toNat]
    rfl

lemma isCarriedBy_input {text : String} {ms : List (String × Value)} :
    (input text).IsCarriedBy ms ↔
      HasOnce ms "action" (.text "read") ∧ HasOnce ms "data" (.text text) := by
  simp [IsCarriedBy, tag, members]

lemma isCarriedBy_resize {cols rows : UInt16} {ms : List (String × Value)} :
    (resize cols rows).IsCarriedBy ms ↔ HasOnce ms "action" (.text "resize") ∧
      HasOnce ms "cols" (.integer cols.toNat) ∧ HasOnce ms "rows" (.integer rows.toNat) := by
  simp [IsCarriedBy, tag, members]

lemma parse_eq (s : List Char) : parse s = Json.parseTagged tagging ofTagged s := rfl

/-- An object is read as an action just if it is a document whose members carry it. -/
lemma parse_eq_ok_iff {s : List Char} (hopens : OpensObject s) (a : Action) :
    parse s = .ok a ↔ ∃ ms, IsDocument s (.object ms) ∧ a.IsCarriedBy ms := by
  have hother : ∀ {ms : List (String × Value)} {name : String} {v : Value}, name ≠ "action" →
      (HasOnce (ms.filter fun m => m.1 != "action") name v ↔ HasOnce ms name v) :=
    Json.hasOnce_filter_ne
  rw [parse_eq, Json.parseTagged_eq_ok_iff hopens]
  constructor
  · rintro ⟨ms, tag, hs, honce, hknown, ha⟩
    have htag : tag = "read" ∨ tag = "resize" := by simpa [tagging] using hknown
    refine ⟨ms, hs, ?_⟩
    rcases htag with rfl | rfl
    · obtain ⟨text, rfl, hdata⟩ := ofTagged_read_eq_ok_iff.1 ha
      exact isCarriedBy_input.2 ⟨honce, (hother (by decide)).1 hdata⟩
    · obtain ⟨cols, rows, rfl, hcols, hrows⟩ := ofTagged_resize_eq_ok_iff.1 ha
      exact isCarriedBy_resize.2
        ⟨honce, (hother (by decide)).1 hcols, (hother (by decide)).1 hrows⟩
  · rintro ⟨ms, hs, ha⟩
    cases a with
    | input text =>
      obtain ⟨honce, hdata⟩ := isCarriedBy_input.1 ha
      exact ⟨ms, "read", hs, honce, by decide,
        ofTagged_read_eq_ok_iff.2 ⟨text, rfl, (hother (by decide)).2 hdata⟩⟩
    | resize cols rows =>
      obtain ⟨honce, hcols, hrows⟩ := isCarriedBy_resize.1 ha
      exact ⟨ms, "resize", hs, honce, by decide, ofTagged_resize_eq_ok_iff.2
        ⟨cols, rows, rfl, (hother (by decide)).2 hcols, (hother (by decide)).2 hrows⟩⟩

lemma ofBytes_encode (s : List Char) : ofBytes (Utf8.encode s) = parse s := by
  simp only [ofBytes, Utf8.validPrefix_encode]
  rcases parse s with f | a <;> simp [bind, Except.bind, pure, Except.pure]

end Action

/-! ## Announcements -/

namespace Task

/-- A value spells a status: by its name, or as an object with nothing under the name. -/
def Status.IsNamedBy (s : Status) (v : Value) : Prop :=
  v = .text s.name ∨ v = .object [(s.name, .null)] ∨ v = .object [(s.name, .object [])]

lemma Status.ofChecked_eq_ok_iff {name : String} {s : Status} :
    ofChecked name = .ok s ↔ name = s.name := by
  constructor
  · intro h
    rw [ofChecked] at h
    split at h
    · next hname =>
      obtain rfl := Except.ok.inj h
      have hfound := List.find?_some hname
      exact (eq_of_beq hfound).symm
    · exact absurd h (by simp)
  · rintro rfl
    rw [ofChecked, ofName?_name]

lemma Status.ofValue_eq_ok_iff {v : Value} {s : Status} : ofValue v = .ok s ↔ s.IsNamedBy v := by
  have hknown : names.contains s.name = true := by cases s <;> decide
  simp only [ofValue, bind_eq_ok_iff, ofChecked_eq_ok_iff, exists_eq_right, asName_eq_ok_iff, hknown,
    true_and, IsNamedBy]

namespace Change

/-- The fields of a change, with the values that spell its two statuses. -/
def membersWith (c : Change) (before after : Value) : List (String × Value) :=
  [("taskId", .text c.task), ("oldStatus", before), ("newStatus", after), ("context", .text c.context)]

/-- A value is the event of a change: an object with its fields once each, or an array of them. -/
def IsEvent (c : Change) (v : Value) : Prop :=
  ∃ before after, c.before.IsNamedBy before ∧ c.after.IsNamedBy after ∧
    ((∃ es, v = .object es ∧ ∀ m ∈ c.membersWith before after, HasOnce es m.1 m.2) ∨
      v = .array ((c.membersWith before after).map Prod.snd))

/-- Members carry a change: its tag and its event stand there once each. -/
def IsCarriedBy (c : Change) (ms : List (String × Value)) : Prop :=
  HasOnce ms "action" (.text "status-update") ∧ ∃ v, HasOnce ms "event" v ∧ c.IsEvent v

/-- The change with the values of all fields. -/
def ofFields : List Value → Except Fault Change
  | [task, before, after, context] => do
    return ⟨← task.asText, ← Status.ofValue before, ← Status.ofValue after, ← context.asText⟩
  | _ => throw .malformed

lemma ofFields_eq_ok_iff {vs : List Value} {c : Change} :
    ofFields vs = .ok c ↔ ∃ before after, c.before.IsNamedBy before ∧ c.after.IsNamedBy after ∧
      vs = (c.membersWith before after).map Prod.snd := by
  constructor
  · intro h
    rw [ofFields.eq_def] at h
    split at h
    · simp only [bind_eq_ok_iff, asText_eq_ok_iff, Status.ofValue_eq_ok_iff, pure, Except.pure,
        Except.ok.injEq] at h
      obtain ⟨task, rfl, before, hbefore, after, hafter, context, rfl, rfl⟩ := h
      exact ⟨_, _, hbefore, hafter, rfl⟩
    · simp [throw, throwThe, MonadExceptOf.throw] at h
  · rintro ⟨before, after, hbefore, hafter, rfl⟩
    simp only [membersWith, List.map_cons, List.map_nil, ofFields, bind_eq_ok_iff,
      asText_eq_ok_iff, Status.ofValue_eq_ok_iff, pure, Except.pure]
    exact ⟨_, rfl, _, hbefore, _, hafter, _, rfl, rfl⟩

lemma ofValue_eq (v : Value) :
    ofValue v = (v.asBody "struct StatusUpdateEvent" >>= fun body =>
      body.fields "struct StatusUpdateEvent with 4 elements" fields >>= ofFields) := rfl

lemma nodup_fields : (fields.map Field.name).Nodup := by decide

/-- The values of the fields of a change pass their checks. -/
lemma forall₂_membersWith {c : Change} {before after : Value} (hbefore : c.before.IsNamedBy before)
    (hafter : c.after.IsNamedBy after) {P : String → Value → Prop}
    (h : ∀ m ∈ c.membersWith before after, P m.1 m.2) :
    List.Forall₂ (fun field v => P field.name v ∧ field.check v = .ok ()) fields
      ((c.membersWith before after).map Prod.snd) := by
  have hcheck : ∀ {name : String} {v : Value} {s : String}, v = .text s →
      (Field.of name Value.asText).check v = .ok () :=
    fun hv => check_of_eq_ok_iff.2 ⟨_, asText_eq_ok_iff.2 hv⟩
  have hstatus : ∀ {name : String} {v : Value} {s : Status}, s.IsNamedBy v →
      (Field.of name Status.ofValue).check v = .ok () :=
    fun hv => check_of_eq_ok_iff.2 ⟨_, Status.ofValue_eq_ok_iff.2 hv⟩
  simp only [membersWith, List.forall_mem_cons] at h
  obtain ⟨htask, hold, hnew, hcontext, -⟩ := h
  exact .cons ⟨htask, hcheck rfl⟩ <| .cons ⟨hold, hstatus hbefore⟩ <| .cons ⟨hnew, hstatus hafter⟩ <|
    .cons ⟨hcontext, hcheck rfl⟩ .nil

lemma ofValue_eq_ok_iff {v : Value} {c : Change} : ofValue v = .ok c ↔ c.IsEvent v := by
  simp only [ofValue_eq, bind_eq_ok_iff, ofFields_eq_ok_iff]
  constructor
  · rintro ⟨body, hbody, _, hvs, before, after, hbefore, hafter, rfl⟩
    refine ⟨before, after, hbefore, hafter, ?_⟩
    rw [Json.Value.asBody.eq_def] at hbody
    split at hbody
    · next es =>
      obtain rfl := Except.ok.inj hbody
      rw [Json.fields_members_eq_ok_iff nodup_fields] at hvs
      simp only [fields, membersWith, List.map_cons, List.map_nil, List.forall₂_cons] at hvs
      obtain ⟨⟨htask, -⟩, ⟨hold, -⟩, ⟨hnew, -⟩, ⟨hcontext, -⟩, -⟩ := hvs
      refine .inl ⟨es, rfl, ?_⟩
      simp only [membersWith, List.forall_mem_cons]
      exact ⟨htask, hold, hnew, hcontext, by simp⟩
    · obtain rfl := Except.ok.inj hbody
      obtain ⟨-, rfl⟩ := (Json.fields_items_eq_ok_iff _ _ _).1 hvs
      exact .inr rfl
    · exact absurd hbody (by simp)
  · rintro ⟨before, after, hbefore, hafter, ⟨es, rfl, hes⟩ | rfl⟩
    · exact ⟨.members es, rfl, _, (Json.fields_members_eq_ok_iff nodup_fields _ _ _).2
        (forall₂_membersWith hbefore hafter hes), before, after, hbefore, hafter, rfl⟩
    · have hchecked := forall₂_membersWith hbefore hafter (P := fun _ _ => True) fun _ _ => trivial
      exact ⟨.items _, rfl, _, (Json.fields_items_eq_ok_iff _ _ _).2
        ⟨hchecked.imp fun _ _ h => h.2, rfl⟩, before, after, hbefore, hafter, rfl⟩

/-- The change that the contents of a tagged record stand for. -/
def ofBody (body : Body) : Except Fault Change := do
  match ← body.fields "struct variant StatusMessage::StatusUpdate with 1 element"
      [.of "event" ofValue] with
  | [event] => ofValue event
  | _ => throw .malformed

lemma ofBody_eq_ok_iff {ms : List (String × Value)} {c : Change} :
    ofBody (.members ms) = .ok c ↔ ∃ v, HasOnce ms "event" v ∧ c.IsEvent v := by
  have hfields : ([Field.of "event" ofValue].map Field.name).Nodup := by decide
  simp only [ofBody, bind_eq_ok_iff, Json.fields_members_eq_ok_iff hfields,
    List.forall₂_cons_left_iff, List.forall₂_nil_left_iff, check_of_eq_ok_iff,
    ofValue_eq_ok_iff]
  constructor
  · rintro ⟨_, ⟨v, _, ⟨honce, -⟩, rfl, rfl⟩, h⟩
    exact ⟨v, honce, ofValue_eq_ok_iff.1 h⟩
  · rintro ⟨v, honce, hv⟩
    exact ⟨_, ⟨v, _, ⟨honce, c, hv⟩, rfl, rfl⟩, ofValue_eq_ok_iff.2 hv⟩

lemma parse_eq (s : List Char) : parse s = Json.parseTagged tagging (fun _ => ofBody) s := by
  rw [parse, Json.parseTagged]
  rcases Json.readTagged tagging s with f | ⟨⟨tag, body⟩, rest⟩
  · rfl
  · simp only [ofBody, bind, Except.bind]
    rcases body.fields "struct variant StatusMessage::StatusUpdate with 1 element"
      [.of "event" ofValue] with f | _ | ⟨event, _ | _⟩ <;> rfl

/-- An object is read as a change just if it is a document whose members carry it. -/
lemma parse_eq_ok_iff {s : List Char} (hopens : OpensObject s) (c : Change) :
    parse s = .ok c ↔ ∃ ms, IsDocument s (.object ms) ∧ c.IsCarriedBy ms := by
  have hother : ∀ {ms : List (String × Value)} {v : Value},
      HasOnce (ms.filter fun m => m.1 != "action") "event" v ↔ HasOnce ms "event" v :=
    Json.hasOnce_filter_ne (by decide)
  rw [parse_eq, Json.parseTagged_eq_ok_iff hopens]
  constructor
  · rintro ⟨ms, tag, hs, honce, hknown, hc⟩
    obtain rfl : tag = "status-update" := by simpa [tagging] using hknown
    obtain ⟨v, hevent, hv⟩ := ofBody_eq_ok_iff.1 hc
    exact ⟨ms, hs, honce, v, hother.1 hevent, hv⟩
  · rintro ⟨ms, hs, honce, v, hevent, hv⟩
    exact ⟨ms, "status-update", hs, honce, by decide,
      ofBody_eq_ok_iff.2 ⟨v, hother.2 hevent, hv⟩⟩

end Change

end Task

/-! ## Flaws -/

/-- Members have a flaw of an action: no known tag stands there once, or with its tag the text is not
there once, or with its tag columns or rows are not there once with a number of 16 bits. -/
inductive Action.IsFlawed (ms : List (String × Value)) : Prop where
  /-- The tag is missing, repeated or unknown. -/
  | tag (h : ∀ name ∈ tagging.known, ¬ HasOnce ms tagging.tag (.text name))
  /-- What was typed is missing, repeated or no text. -/
  | data (htag : HasOnce ms tagging.tag (.text "read"))
    (h : ∀ text, ¬ HasOnce ms "data" (.text text))
  /-- A size is missing, repeated or no number of 16 bits. -/
  | size (htag : HasOnce ms tagging.tag (.text "resize")) {name : String}
    (hname : name ∈ ["cols", "rows"]) (h : ∀ n ≤ 65535, ¬ HasOnce ms name (.integer (n : Nat)))

/-- Members have a flaw of an announcement: its tag or its event is not there once, or a field of the
event is not there once, or a status of the event has an unknown name. -/
inductive Task.Change.IsFlawed (ms : List (String × Value)) : Prop where
  /-- The tag is missing, repeated or unknown. -/
  | tag (h : ¬ HasOnce ms tagging.tag (.text "status-update"))
  /-- The event is missing or repeated. -/
  | event (h : ∀ v, ¬ HasOnce ms "event" v)
  /-- A field of the event is missing or repeated. -/
  | field {es : List (String × Value)} (hevent : HasOnce ms "event" (.object es)) {name : String}
    (hname : name ∈ fields.map Field.name) (h : ∀ v, ¬ HasOnce es name v)
  /-- A status of the event has a name that is not known. -/
  | status {es : List (String × Value)} (hevent : HasOnce ms "event" (.object es)) {name : String}
    (hname : name ∈ ["oldStatus", "newStatus"]) {v : Value} (hv : HasOnce es name v)
    (h : ∀ s : Task.Status, ¬ s.IsNamedBy v)

/-- Members have a flaw of an action just if they carry none. -/
lemma Action.isFlawed_iff (ms : List (String × Value)) :
    Action.IsFlawed ms ↔ ∀ a : Action, ¬ a.IsCarriedBy ms := by
  constructor
  · intro h a ha
    have htag : HasOnce ms tagging.tag (.text a.tag) := ha _ List.mem_cons_self
    cases h with
    | tag h =>
      have hknown : a.tag ∈ tagging.known := by cases a <;> simp [Action.tag, tagging]
      exact h a.tag hknown htag
    | data hread h =>
      cases a with
      | input text => exact h text (isCarriedBy_input.1 ha).2
      | resize cols rows => exact absurd (htag.unique hread) (by simp [Action.tag])
    | size hresize hname h =>
      cases a with
      | input text => exact absurd (htag.unique hresize) (by simp [Action.tag])
      | resize cols rows =>
        obtain ⟨-, hcols, hrows⟩ := isCarriedBy_resize.1 ha
        have hbound : ∀ w : UInt16, w.toNat ≤ 65535 := fun w => Nat.le_of_lt_succ w.toNat_lt
        simp only [List.mem_cons, List.not_mem_nil, or_false] at hname
        rcases hname with rfl | rfl
        · exact h cols.toNat (hbound cols) hcols
        · exact h rows.toNat (hbound rows) hrows
  · intro hnone
    by_cases hread : HasOnce ms tagging.tag (.text "read")
    · exact .data hread fun text hdata => hnone (input text) (isCarriedBy_input.2 ⟨hread, hdata⟩)
    · by_cases hresize : HasOnce ms tagging.tag (.text "resize")
      · by_cases hcols : ∃ n ≤ 65535, HasOnce ms "cols" (.integer (n : Nat))
        · refine .size hresize (List.mem_cons_of_mem _ List.mem_cons_self) fun rows hle hrows => ?_
          obtain ⟨cols, hcols_le, hcols⟩ := hcols
          have hword : ∀ n ≤ 65535, (UInt16.ofNat n).toNat = n := fun n hn =>
            UInt16.toNat_ofNat_of_lt' (Nat.lt_succ_of_le hn)
          refine hnone (resize (UInt16.ofNat cols) (UInt16.ofNat rows))
            (isCarriedBy_resize.2 ⟨hresize, ?_, ?_⟩)
          · rwa [hword cols hcols_le]
          · rwa [hword rows hle]
        · exact .size hresize List.mem_cons_self fun n hle hn => hcols ⟨n, hle, hn⟩
      · refine .tag fun name hname => ?_
        simp only [tagging, List.mem_cons, List.not_mem_nil, or_false] at hname
        rcases hname with rfl | rfl
        · exact hread
        · exact hresize

/-- Members with a flaw of an announcement carry none. -/
lemma Task.Change.IsFlawed.not_isCarriedBy {ms : List (String × Value)}
    (h : Task.Change.IsFlawed ms) (c : Task.Change) : ¬ c.IsCarriedBy ms := by
  rintro ⟨htag, v, hevent, before, after, hbefore, hafter, hv⟩
  -- An event with members has each field once.
  have hfields : ∀ es, HasOnce ms "event" (.object es) →
      ∀ m ∈ c.membersWith before after, HasOnce es m.1 m.2 := by
    intro es hes
    obtain rfl := hevent.unique hes
    rcases hv with ⟨es', heq, hall⟩ | heq
    · obtain rfl := Value.object.inj heq
      exact hall
    · exact absurd heq (by simp)
  cases h with
  | tag h => exact h htag
  | event h => exact h v hevent
  | @field es hes name hname h =>
    have hnames : (c.membersWith before after).map Prod.fst = fields.map Field.name := rfl
    rw [← hnames] at hname
    obtain ⟨m, hm, rfl⟩ := List.mem_map.1 hname
    exact h m.2 (hfields es hes m hm)
  | @status es hes name hname w hw h =>
    have hold : HasOnce es "oldStatus" before := hfields es hes ("oldStatus", before) (by
      simp [membersWith])
    have hnew : HasOnce es "newStatus" after := hfields es hes ("newStatus", after) (by
      simp [membersWith])
    simp only [List.mem_cons, List.not_mem_nil, or_false] at hname
    rcases hname with rfl | rfl
    · exact h c.before (hw.unique hold ▸ hbefore)
    · exact h c.after (hw.unique hnew ▸ hafter)

/-! ## What is read of an object -/

lemma opensObject_of_isDocument {s : List Char} {ms : List (String × Value)}
    (h : IsDocument s (.object ms)) : OpensObject s := by
  obtain ⟨before, e, after, rfl, hbefore, -, he⟩ := h
  obtain ⟨body, rfl, -⟩ := Denotes.of_object he
  rw [OpensObject, Json.skipSpace_append hbefore, List.cons_append,
    Json.skipSpace_of_isSpace (by decide)]
  rfl

/-- A document has one list of members. -/
lemma exists_document_iff {s : List Char} {ms : List (String × Value)}
    (h : IsDocument s (.object ms)) {P : List (String × Value) → Prop} :
    (∃ ms, IsDocument s (.object ms) ∧ P ms) ↔ P ms := by
  constructor
  · rintro ⟨ms', h', hP⟩
    obtain rfl : ms = ms' := by simpa using h.unique h'
    exact hP
  · exact fun hP => ⟨ms, h, hP⟩

lemma opensObject_toJson (a : Action) : OpensObject a.toJson.toList := by
  rw [Action.toList_toJson, OpensObject, Json.skipSpace_of_isSpace (by decide)]
  rfl

lemma Task.Change.opensObject_toJson (c : Task.Change) : OpensObject c.toJson.toList := by
  rw [toList_toJson, OpensObject, Json.skipSpace_of_isSpace (by decide)]
  rfl

/-- What is refused is unreadable, and why is said. -/
lemma exists_unreadable {α : Type} {r : Except Fault α} (h : ∀ a, r ≠ .ok a) :
    ∃ reason, r.mapError WireError.ofFault = .error (.unreadable reason) := by
  rcases r with f | a
  · exact ⟨f.message, rfl⟩
  · exact absurd rfl (h a)

/-- **Envelopes are read by their members.**  A document that is an object is read as an action or as
an announcement just if its members carry it: whatever the order of the members, the space between
them and the spelling of their strings, and whatever else stands there under other names.  What is
written of an envelope is such a document.  Any other text that opens an object, and any document
whose members have a flaw, is unreadable. -/
theorem envelopes_read_by_members :
    (∀ (s : List Char) (ms : List (String × Value)), IsDocument s (.object ms) →
      (∀ a : Action, Action.ofBytes (Utf8.encode s) = .ok a ↔ a.IsCarriedBy ms) ∧
      (∀ c : Task.Change, Task.Change.parse s = .ok c ↔ c.IsCarriedBy ms)) ∧
    (∀ a : Action, ∃ ms, IsDocument a.toJson.toList (.object ms) ∧ a.IsCarriedBy ms) ∧
    (∀ c : Task.Change, ∃ ms, IsDocument c.toJson.toList (.object ms) ∧ c.IsCarriedBy ms) ∧
    (∀ s : List Char, OpensObject s →
      ((∀ ms, IsDocument s (.object ms) → Action.IsFlawed ms) → ∃ reason,
        (Action.ofBytes (Utf8.encode s)).mapError WireError.ofFault =
          .error (.unreadable reason)) ∧
      ((∀ ms, IsDocument s (.object ms) → Task.Change.IsFlawed ms) → ∃ reason,
        (Task.Change.parse s).mapError WireError.ofFault = .error (.unreadable reason))) := by
  refine ⟨fun s ms hs => ⟨fun a => ?_, fun c => ?_⟩, fun a => ?_, fun c => ?_, fun s hopens =>
    ⟨fun hflawed => exists_unreadable fun a ha => ?_,
      fun hflawed => exists_unreadable fun c hc => ?_⟩⟩
  · rw [Action.ofBytes_encode, Action.parse_eq_ok_iff (opensObject_of_isDocument hs),
      exists_document_iff hs]
  · rw [Task.Change.parse_eq_ok_iff (opensObject_of_isDocument hs), exists_document_iff hs]
  · have hread : Action.parse a.toJson.toList = .ok a := by
      rw [← Action.ofBytes_encode]
      exact Action.ofBytes_toJson a
    exact (Action.parse_eq_ok_iff (opensObject_toJson a) a).1 hread
  · exact (Task.Change.parse_eq_ok_iff c.opensObject_toJson c).1 c.parse_toJson
  · rw [Action.ofBytes_encode] at ha
    obtain ⟨ms, hs, hcarried⟩ := (Action.parse_eq_ok_iff hopens a).1 ha
    exact (Action.isFlawed_iff ms).1 (hflawed ms hs) a hcarried
  · obtain ⟨ms, hs, hcarried⟩ := (Task.Change.parse_eq_ok_iff hopens c).1 hc
    exact (hflawed ms hs).not_isCarriedBy c hcarried

example : Action.parse
      "\x7b \"x\":[1e3,\x7b\x7d],\"data\":\"\\u0061\" ,\"\\u0061ction\":\"read\"\x7d".toList =
    .ok (.input "a") := by
  rfl

end SharedTerminal
