import SharedTerminal.Envelope
import SharedTerminal.Proofs.Json.Reader
import SharedTerminal.Proofs.Text.Utf8

/-!
# Envelopes come back

The announcement of a change and the bytes of an action are read as what they were written from
(`Task.Change.parse_toJson`, `Action.ofBytes_toJson`).  Different envelopes are thus written
differently, and no control character is written as it is.
-/

namespace SharedTerminal

open Json (Value Body Field SpellsMember member greatestDepth spells_text spells_natural
  spells_object)

/-! ## Announcements -/

namespace Task

lemma Status.ofValue_name (s : Status) : ofValue (.text s.name) = .ok s := by
  cases s <;> rfl

namespace Change

/-- The members of the event that an announcement carries. -/
def members (c : Change) : List (String × Value) :=
  [("taskId", .text c.task), ("oldStatus", .text c.before.name), ("newStatus", .text c.after.name),
    ("context", .text c.context)]

lemma ofValue_members (c : Change) : ofValue (.object c.members) = .ok c := by
  simp [ofValue, Value.asBody, members, Body.fields, Json.checkMembers, List.lookup_cons,
    fields, Field.of, Value.asText, Status.ofValue_name, Except.map, bind, Except.bind, pure,
    Except.pure]

/-- A member with a text is spelled by the text. -/
lemma spellsMember_textMember (depth : Nat) (name value : String) :
    SpellsMember depth (textMember name value) (name, .text value) :=
  ⟨Json.Text.encode value, by simp [textMember, member], spells_text depth value⟩

/-- The spelling of the event that an announcement carries. -/
def event (c : Change) : List Char :=
  '\x7b' :: ([','].intercalate [textMember "taskId" c.task, textMember "oldStatus" c.before.name,
    textMember "newStatus" c.after.name, textMember "context" c.context] ++ ['\x7d'])

lemma spells_event (c : Change) : Json.Spells (greatestDepth - 1) c.event (.object c.members) :=
  spells_object <| .cons (spellsMember_textMember _ _ _) <| .cons (spellsMember_textMember _ _ _) <|
    .cons (spellsMember_textMember _ _ _) <| .cons (spellsMember_textMember _ _ _) .nil

lemma toList_toJson (c : Change) :
    c.toJson.toList = '\x7b' :: ([','].intercalate
      [member "action" (Json.Text.encode "status-update"), member "event" c.event] ++
        ['\x7d']) := by
  simp [toJson, event, member, textMember, List.intercalate]

/-- An announcement is read as the change that it was written from. -/
lemma parse_toJson (c : Change) : parse c.toJson.toList = .ok c := by
  have hread : Json.readTagged tagging c.toJson.toList =
      .ok (("status-update", .members [("event", .object c.members)]), []) := by
    have hevent : List.Forall₂ (SpellsMember (greatestDepth - 1)) [member "event" c.event]
        [("event", .object c.members)] :=
      .cons ⟨c.event, rfl, c.spells_event⟩ .nil
    rw [toList_toJson]
    exact Json.readTagged_object tagging "status-update" (by decide) hevent (by simp [tagging]) []
  simp [parse, hread, Body.fields, Json.checkMembers, List.lookup_cons, Field.of, ofValue_members,
    Json.finish, Json.skipSpace, Except.map, bind, Except.bind, pure, Except.pure]

lemma isPlain_toJson (c : Change) : Json.Text.IsPlain c.toJson.toList := by
  simp [toJson, textMember, List.intercalate]

end Change

end Task

/-! ## Actions -/

namespace Action

/-- A number of 16 bits is a value of its own. -/
lemma asWord16_toNat (w : UInt16) : (Value.integer w.toNat).asWord16 = .ok w := by
  have hw : w.toNat < 65536 := w.toNat_lt
  have hrange : (0 ≤ (w.toNat : Int) && (w.toNat : Int) ≤ 65535) = true := by
    simp only [Bool.and_eq_true, decide_eq_true_eq]
    omega
  simp only [Value.asWord16, hrange, if_true, Int.toNat_natCast, UInt16.ofNat_toNat]

lemma spellsMember_word (depth : Nat) (name : String) (w : UInt16) :
    SpellsMember depth (member name (toString w.toNat).toList) (name, .integer w.toNat) := by
  have hw : w.toNat < 65536 := w.toNat_lt
  have hfits : w.toNat ≤ Json.Number.greatestSignificand := by
    rw [Json.Number.greatestSignificand]
    omega
  exact ⟨_, rfl, spells_natural depth hfits⟩

/-- The tag of an action. -/
def tag : Action → String
  | input _ => "read"
  | resize _ _ => "resize"

/-- The members of an action behind its tag. -/
def members : Action → List (String × Value)
  | input text => [("data", .text text)]
  | resize cols rows => [("cols", .integer cols.toNat), ("rows", .integer rows.toNat)]

/-- The spellings of the members behind the tag. -/
def entries : Action → List (List Char)
  | input text => [Task.Change.textMember "data" text]
  | resize cols rows =>
    [member "cols" (toString cols.toNat).toList, member "rows" (toString rows.toNat).toList]

lemma spellsMembers (a : Action) :
    List.Forall₂ (SpellsMember (greatestDepth - 1)) a.entries a.members := by
  cases a with
  | input text => exact .cons (Task.Change.spellsMember_textMember _ _ _) .nil
  | resize cols rows => exact .cons (spellsMember_word _ _ _) (.cons (spellsMember_word _ _ _) .nil)

lemma toList_toJson (a : Action) :
    a.toJson.toList = '\x7b' ::
      ([','].intercalate (member "action" (Json.Text.encode a.tag) :: a.entries) ++ ['\x7d']) := by
  cases a <;>
    simp [toJson, tag, entries, member, Task.Change.textMember, List.intercalate]

lemma ofTagged_members (a : Action) : ofTagged a.tag (.members a.members) = .ok a := by
  cases a with
  | input text =>
    simp [ofTagged, tag, members, Body.fields, Json.checkMembers, List.lookup_cons, Field.of,
      Value.asText, Except.map, bind, Except.bind, pure, Except.pure]
  | resize cols rows =>
    simp [ofTagged, tag, members, Body.fields, Json.checkMembers, List.lookup_cons, Field.of,
      asWord16_toNat, Except.map, bind, Except.bind, pure, Except.pure]

/-- The bytes of an action are read as the action. -/
lemma ofBytes_toJson (a : Action) : ofBytes (utf8 a.toJson) = .ok a := by
  have hread : Json.readTagged tagging a.toJson.toList = .ok ((a.tag, .members a.members), []) := by
    have htag : tagging.known.contains a.tag = true := by
      cases a <;> simp [tag, tagging]
    have hnames : ∀ m ∈ a.members, m.1 ≠ tagging.tag := by
      cases a <;> simp [members, tagging]
    rw [toList_toJson]
    exact Json.readTagged_object tagging a.tag htag a.spellsMembers hnames []
  simp [ofBytes, utf8, parse, hread, ofTagged_members, Json.finish, Json.skipSpace, bind,
    Except.bind, pure, Except.pure]

lemma isPlain_toJson (a : Action) : Json.Text.IsPlain a.toJson.toList := by
  cases a <;> simp [toJson, Task.Change.textMember]

end Action

/-! ## What is written on the wire -/

open SharedTerminal.Task (Change) in
/-- The two kinds of envelope differ in the eleventh character behind their opening bracket. -/
lemma toJson_ne_toJson (c : Change) (a : Action) : c.toJson ≠ a.toJson := by
  have hchange : c.toJson.toList[11]? = some 's' := by
    rw [Change.toList_toJson, Json.intercalate_cons]
    rfl
  have haction : a.toJson.toList[11]? = some 'r' := by
    rw [Action.toList_toJson, Json.intercalate_cons]
    cases a <;> simp only [Action.tag] <;> rfl
  intro h
  rw [h, haction] at hchange
  exact absurd hchange (by decide)

open SharedTerminal.Task (Change) in
/-- **Envelopes come back.**  Every announcement and every action is read as what it was written
from, so that no two envelopes are written alike.  No control character is written as it is. -/
theorem envelopes_come_back :
    (∀ c : Change, Change.parse c.toJson.toList = .ok c) ∧
    (∀ a : Action, Action.ofBytes (utf8 a.toJson) = .ok a) ∧
    Function.Injective Change.toJson ∧ Function.Injective Action.toJson ∧
    (∀ (c : Change) (a : Action), c.toJson ≠ a.toJson) ∧
    (∀ c : Change, ∀ x ∈ c.toJson.toList, 0x20 ≤ x.toNat) ∧
    (∀ a : Action, ∀ x ∈ a.toJson.toList, 0x20 ≤ x.toNat) := by
  refine ⟨Change.parse_toJson, Action.ofBytes_toJson, fun c d h => ?_, fun a b h => ?_,
    toJson_ne_toJson, Change.isPlain_toJson, Action.isPlain_toJson⟩
  · have hc := Change.parse_toJson c
    rw [h, Change.parse_toJson] at hc
    exact (Except.ok.inj hc).symm
  · have ha := Action.ofBytes_toJson a
    rw [h, Action.ofBytes_toJson] at ha
    exact (Except.ok.inj ha).symm

end SharedTerminal
