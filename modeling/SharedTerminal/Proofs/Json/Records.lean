import SharedTerminal.Json.Decode
import SharedTerminal.Proofs.Json.Acceptance
import Mathlib.Data.List.Forall2
import Mathlib.Data.List.Nodup

/-!
# Records are read by their members

A record is read just if each of its fields stands once among the members with a value that its check
accepts.  Neither the order of the members matters nor members under other names
(`fields_members_eq_ok_iff`).  A tagged record is an object that has its tag once, and the tag is a text
that is known; it may stand anywhere, because the other members are kept until the object is closed
(`readTagged_sound` and `readTagged_complete`).
-/

namespace SharedTerminal.Json

open Shape (Fault)

lemma bind_eq_ok_iff {ε α β : Type} {x : Except ε α} {f : α → Except ε β} {b : β} :
    x >>= f = .ok b ↔ ∃ a, x = .ok a ∧ f a = .ok b := by
  cases x <;> simp [bind, Except.bind]

/-! ## Members -/

/-- One member stands under a name, and it has this value. -/
def HasOnce (ms : List (String × Value)) (name : String) (v : Value) : Prop :=
  ms.filter (fun m => m.1 == name) = [(name, v)]

variable {ms : List (String × Value)} {name : String} {v w : Value}

lemma filter_name_eq_nil_iff :
    ms.filter (fun m => m.1 == name) = [] ↔ ∀ m ∈ ms, m.1 ≠ name := by
  simp [List.filter_eq_nil_iff]

lemma hasOnce_cons_self :
    HasOnce ((name, v) :: ms) name w ↔ v = w ∧ ∀ m ∈ ms, m.1 ≠ name := by
  rw [HasOnce, List.filter_cons_of_pos (by simp), List.cons.injEq, filter_name_eq_nil_iff]
  simp

lemma hasOnce_cons_of_ne {m : String × Value} (h : m.1 ≠ name) :
    HasOnce (m :: ms) name v ↔ HasOnce ms name v := by
  rw [HasOnce, List.filter_cons_of_neg (by simpa using h), HasOnce]

/-- Members under another name do not matter. -/
lemma hasOnce_filter_ne {other : String} (h : name ≠ other) :
    HasOnce (ms.filter fun m => m.1 != other) name v ↔ HasOnce ms name v := by
  have hboth : ∀ m : String × Value, (m.1 == name && m.1 != other) = (m.1 == name) := by
    intro m
    by_cases hm : m.1 = name <;> simp [hm, h]
  simp only [HasOnce, List.filter_filter, hboth]

lemma HasOnce.mem (h : HasOnce ms name v) : (name, v) ∈ ms := by
  have hmem : (name, v) ∈ ms.filter fun m => m.1 == name := by
    rw [h]
    exact List.mem_cons_self
  exact (List.mem_filter.1 hmem).1

lemma HasOnce.unique (hv : HasOnce ms name v) (hw : HasOnce ms name w) : v = w := by
  rw [HasOnce, hv] at hw
  simpa using hw

lemma HasOnce.lookup_eq (h : HasOnce ms name v) : ms.lookup name = some v := by
  induction ms with
  | nil => exact absurd h (by simp [HasOnce])
  | cons m ms ih =>
    obtain ⟨n, w⟩ := m
    by_cases hn : n = name
    · subst hn
      obtain ⟨rfl, -⟩ := hasOnce_cons_self.1 h
      simp
    · rw [List.lookup_cons, beq_eq_false_iff_ne.2 fun heq => hn heq.symm]
      exact ih ((hasOnce_cons_of_ne hn).1 h)

lemma exists_mem_of_lookup (h : ms.lookup name = some v) : ∃ m ∈ ms, m.1 = name := by
  induction ms with
  | nil => simp at h
  | cons m ms ih =>
    obtain ⟨n, w⟩ := m
    by_cases hn : n = name
    · exact ⟨(n, w), List.mem_cons_self, hn⟩
    · rw [List.lookup_cons, beq_eq_false_iff_ne.2 fun heq => hn heq.symm] at h
      obtain ⟨m, hm, hname⟩ := ih h
      exact ⟨m, List.mem_cons_of_mem _ hm, hname⟩

/-! ## Records -/

/-! ### Values of fields -/

lemma check_of_eq_ok_iff {α : Type} {name : String} {decode : Value → Except Fault α}
    {v : Value} :
    (Field.of name decode).check v = .ok () ↔ ∃ a, decode v = .ok a := by
  have hmap : (Field.of name decode).check v = (decode v).map fun _ => () := rfl
  rw [hmap]
  rcases decode v with f | a <;> simp [Except.map]

lemma asText_eq_ok_iff {v : Value} {s : String} : v.asText = .ok s ↔ v = .text s := by
  cases v <;> simp [Value.asText]

lemma knownName_eq_ok_iff {known : List String} {s s' : String} :
    knownName known s = .ok s' ↔ s = s' ∧ known.contains s = true := by
  rw [knownName]
  split <;> simp_all

lemma asUnit_eq_ok_iff {v : Value} : v.asUnit = .ok () ↔ v = .null ∨ v = .object [] := by
  constructor
  · intro h
    rcases v with _ | _ | _ | _ | _ | _ | ⟨_ | _⟩
    · exact .inl rfl
    iterate 5 exact absurd h (by simp [Value.asUnit])
    · exact .inr rfl
    · exact absurd h (by simp [Value.asUnit])
  · rintro (rfl | rfl) <;> rfl

lemma asName_eq_ok_iff {known : List String} {name : String} {v : Value} :
    v.asName known = .ok name ↔ known.contains name = true ∧
      (v = .text name ∨ v = .object [(name, .null)] ∨ v = .object [(name, .object [])]) := by
  constructor
  · intro h
    rw [Value.asName.eq_def] at h
    split at h
    · obtain ⟨rfl, hknown⟩ := knownName_eq_ok_iff.1 h
      exact ⟨hknown, .inl rfl⟩
    · simp only [bind_eq_ok_iff, pure, Except.pure, Except.ok.injEq] at h
      obtain ⟨_, hname, _, hunit, rfl⟩ := h
      obtain ⟨rfl, hknown⟩ := knownName_eq_ok_iff.1 hname
      rcases asUnit_eq_ok_iff.1 hunit with rfl | rfl
      · exact ⟨hknown, .inr (.inl rfl)⟩
      · exact ⟨hknown, .inr (.inr rfl)⟩
    · exact absurd h (by simp)
    · exact absurd h (by simp)
  · rintro ⟨hknown, hv⟩
    have hname : knownName known name = .ok name := knownName_eq_ok_iff.2 ⟨rfl, hknown⟩
    rcases hv with rfl | rfl | rfl
    · exact hname
    · simp only [Value.asName, hname]
      rfl
    · simp only [Value.asName, hname]
      rfl

/-! ### Fields -/

variable {fields : List Field} {seen : List String}

lemma checkMembers_of_unknown (h : ∀ field ∈ fields, field.name ≠ name) :
    checkMembers fields seen ((name, v) :: ms) = checkMembers fields seen ms := by
  have hfind : fields.find? (·.name == name) = none := by simpa using h
  simp only [checkMembers, hfind]

lemma checkMembers_of_known {known : Field}
    (hfind : fields.find? (·.name == known.name) = some known) :
    checkMembers fields seen ((known.name, v) :: ms) = .ok () ↔
      known.name ∉ seen ∧ known.check v = .ok () ∧
        checkMembers fields (known.name :: seen) ms = .ok () := by
  rw [checkMembers, hfind]
  by_cases hseen : known.name ∈ seen
  · simp [hseen, throw, throwThe, MonadExceptOf.throw, bind, Except.bind]
  · have hunit : (∃ u, known.check v = .ok u) ↔ known.check v = .ok () :=
      ⟨fun ⟨_, h⟩ => h, fun h => ⟨(), h⟩⟩
    simp [hseen, bind_eq_ok_iff, hunit]

/-- The check of an object passes just if each field is absent, or stands there once with a value that
is in order and was not seen before. -/
lemma checkMembers_eq_ok_iff (hfields : (fields.map Field.name).Nodup) (seen : List String)
    (ms : List (String × Value)) :
    checkMembers fields seen ms = .ok () ↔ ∀ field ∈ fields,
      (∀ m ∈ ms, m.1 ≠ field.name) ∨
      (field.name ∉ seen ∧ ∃ v, HasOnce ms field.name v ∧ field.check v = .ok ()) := by
  induction ms generalizing seen with
  | nil => simp [checkMembers]
  | cons m ms ih =>
    obtain ⟨name, v⟩ := m
    rcases hfind : fields.find? (·.name == name) with _ | known
    · -- The member is under none of the names.
      have hother : ∀ field ∈ fields, field.name ≠ name := by
        simpa using List.find?_eq_none.1 hfind
      rw [checkMembers_of_unknown hother, ih]
      refine forall₂_congr fun field hfield => ?_
      have hne : name ≠ field.name := (hother field hfield).symm
      simp [hasOnce_cons_of_ne (m := (name, v)) hne, hne]
    · have hknown : known ∈ fields := List.mem_of_find?_eq_some hfind
      obtain rfl : known.name = name := by simpa using List.find?_some hfind
      rw [checkMembers_of_known hfind, ih]
      -- No other field has its name.
      have hother : ∀ field ∈ fields, field ≠ known → known.name ≠ field.name :=
        fun field hfield hne heq => hne (List.inj_on_of_nodup_map hfields hfield hknown heq.symm)
      constructor
      · rintro ⟨hseen, hcheck, hrest⟩ field hfield
        by_cases heq : field = known
        · subst heq
          have habsent : ∀ m ∈ ms, m.1 ≠ field.name := by simpa using hrest field hfield
          exact .inr ⟨hseen, v, hasOnce_cons_self.2 ⟨rfl, habsent⟩, hcheck⟩
        · have hne := hother field hfield heq
          simpa [hasOnce_cons_of_ne (m := (known.name, v)) hne, hne, hne.symm]
            using hrest field hfield
      · intro hall
        obtain ⟨hseen, w, honce, hcheck⟩ : known.name ∉ seen ∧ ∃ w,
            HasOnce ((known.name, v) :: ms) known.name w ∧ known.check w = .ok () := by
          simpa using hall known hknown
        obtain ⟨rfl, habsent⟩ := hasOnce_cons_self.1 honce
        refine ⟨hseen, hcheck, fun field hfield => ?_⟩
        by_cases heq : field = known
        · exact .inl (heq ▸ habsent)
        · have hne := hother field hfield heq
          simpa [hasOnce_cons_of_ne (m := (known.name, v)) hne, hne, hne.symm]
            using hall field hfield

lemma mapM_eq_ok_iff {α β : Type} {f : α → Except Fault β} {as : List α} {bs : List β} :
    as.mapM f = .ok bs ↔ List.Forall₂ (fun a b => f a = .ok b) as bs := by
  induction as generalizing bs with
  | nil => simp [pure, Except.pure, eq_comm]
  | cons a as ih =>
    rw [List.mapM_cons, List.forall₂_cons_left_iff]
    simp only [bind_eq_ok_iff, ih, pure, Except.pure, Except.ok.injEq]
    constructor
    · rintro ⟨b, hb, bs', hbs, rfl⟩
      exact ⟨b, bs', hb, hbs, rfl⟩
    · rintro ⟨b, bs', hb, hbs, rfl⟩
      exact ⟨b, hb, bs', hbs, rfl⟩

lemma forall₂_congr_of_mem {α β : Type} {P Q : α → β → Prop} {as : List α} {bs : List β}
    (h : ∀ a ∈ as, ∀ b, P a b ↔ Q a b) : List.Forall₂ P as bs ↔ List.Forall₂ Q as bs := by
  induction as generalizing bs with
  | nil => simp
  | cons a as ih =>
    have hrest : ∀ bs, List.Forall₂ P as bs ↔ List.Forall₂ Q as bs :=
      fun _ => ih fun a ha => h a (List.mem_cons_of_mem _ ha)
    simp only [List.forall₂_cons_left_iff, h a List.mem_cons_self, hrest]

/-- **An object is a record** just if each field stands there once, with a value that is in order. -/
theorem fields_members_eq_ok_iff (hfields : (fields.map Field.name).Nodup) (label : String)
    (ms : List (String × Value)) (vs : List Value) :
    (Body.members ms).fields label fields = .ok vs ↔
      List.Forall₂ (fun field v => HasOnce ms field.name v ∧ field.check v = .ok ()) fields vs := by
  -- If the check passes, a field is found just if it is there once.
  have hfound : checkMembers fields [] ms = .ok () → ∀ field ∈ fields, ∀ v,
      (ms.lookup field.name = some v ↔ HasOnce ms field.name v ∧ field.check v = .ok ()) := by
    intro hcheck field hfield v
    rcases (checkMembers_eq_ok_iff hfields [] ms).1 hcheck field hfield with
      habsent | ⟨-, w, honce, hw⟩
    · have hnone : ms.lookup field.name = none := by
        rw [Option.eq_none_iff_forall_ne_some]
        intro w hw
        obtain ⟨m, hm, hname⟩ := exists_mem_of_lookup hw
        exact habsent m hm hname
      rw [hnone]
      exact ⟨fun h => absurd h (by simp), fun h => absurd rfl (habsent _ h.1.mem)⟩
    · rw [honce.lookup_eq]
      constructor
      · intro h
        obtain rfl : w = v := by simpa using h
        exact ⟨honce, hw⟩
      · rintro ⟨hv, -⟩
        rw [HasOnce, honce] at hv
        simpa using hv
  have hchecked : List.Forall₂ (fun field v => HasOnce ms field.name v ∧ field.check v = .ok ())
      fields vs → checkMembers fields [] ms = .ok () := by
    intro hall
    have heach : List.Forall₂ (fun field _ => (∃ v, HasOnce ms field.name v ∧
        field.check v = .ok ()) ∧ True) fields vs := hall.imp fun _ v hv => ⟨⟨v, hv⟩, trivial⟩
    rw [checkMembers_eq_ok_iff hfields]
    intro field hfield
    exact .inr ⟨List.not_mem_nil, ((List.forall₂_and_left fields vs).1 heach).1 field hfield⟩
  rw [Body.fields, bind_eq_ok_iff]
  simp only [mapM_eq_ok_iff]
  constructor
  · rintro ⟨_, hcheck, hall⟩
    refine (forall₂_congr_of_mem fun field hfield v => ?_).1 hall
    rw [← hfound hcheck field hfield v]
    cases ms.lookup field.name <;> simp
  · intro hall
    refine ⟨(), hchecked hall, (forall₂_congr_of_mem fun field hfield v => ?_).2 hall⟩
    rw [← hfound (hchecked hall) field hfield v]
    cases ms.lookup field.name <;> simp

lemma checkItems_eq_ok_iff (label : String) (n : Nat) (vs : List Value) :
    checkItems label n fields vs = .ok () ↔
      List.Forall₂ (fun field v => field.check v = .ok ()) fields vs := by
  induction fields generalizing n vs with
  | nil => cases vs <;> simp [checkItems]
  | cons field fields ih =>
    cases vs with
    | nil => simp [checkItems]
    | cons v vs =>
      rw [checkItems, bind_eq_ok_iff, List.forall₂_cons, ← ih (n + 1)]
      exact ⟨fun ⟨_, hcheck, hrest⟩ => ⟨hcheck, hrest⟩, fun ⟨hcheck, hrest⟩ => ⟨(), hcheck, hrest⟩⟩

/-- An array is a record just if its items are the values of the fields in their order. -/
lemma fields_items_eq_ok_iff (label : String) (vs ws : List Value) :
    (Body.items vs).fields label fields = .ok ws ↔
      List.Forall₂ (fun field v => field.check v = .ok ()) fields ws ∧ vs = ws := by
  rw [Body.fields, bind_eq_ok_iff]
  simp only [pure, Except.pure, Except.ok.injEq]
  constructor
  · rintro ⟨_, hcheck, rfl⟩
    exact ⟨(checkItems_eq_ok_iff label 0 vs).1 hcheck, rfl⟩
  · rintro ⟨hcheck, rfl⟩
    exact ⟨(), (checkItems_eq_ok_iff label 0 vs).2 hcheck, rfl⟩

/-! ## Tagged records -/

/-- Takes a member of a tagged record, unless it is a second tag or a tag that is not known. -/
def takeMember (t : Tagging) (state : TaggedMembers) (m : String × Value) : Option TaggedMembers :=
  if m.1 = t.tag then
    match state.tag, m.2 with
    | none, .text name => if t.known.contains name then some ⟨some name, state.members⟩ else none
    | _, _ => none
  else some ⟨state.tag, m :: state.members⟩

variable {t : Tagging} {tag : String}

lemma takeMember_of_ne {state : TaggedMembers} {m : String × Value} (h : m.1 ≠ t.tag) :
    takeMember t state m = some ⟨state.tag, m :: state.members⟩ :=
  if_neg h

lemma takeMember_tag_eq_some_iff {state next : TaggedMembers} {v : Value} :
    takeMember t state (t.tag, v) = some next ↔ state.tag = none ∧ ∃ name, v = .text name ∧
      t.known.contains name = true ∧ next = ⟨some name, state.members⟩ := by
  obtain ⟨seen, before⟩ := state
  rcases seen with _ | seen <;> cases v <;> simp [takeMember, eq_comm]

/-- Behind the tag no other tag is taken. -/
lemma foldlM_takeMember_some (before : List (String × Value)) (state : TaggedMembers) :
    ms.foldlM (takeMember t) ⟨some tag, before⟩ = some state ↔
      (∀ m ∈ ms, m.1 ≠ t.tag) ∧ state = ⟨some tag, ms.reverse ++ before⟩ := by
  induction ms generalizing before with
  | nil => simp [eq_comm]
  | cons m ms ih =>
    by_cases hm : m.1 = t.tag
    · obtain ⟨name, v⟩ := m
      subst hm
      have hnone : takeMember t ⟨some tag, before⟩ (t.tag, v) = none := by simp [takeMember]
      simp [hnone]
    · rw [List.foldlM_cons, takeMember_of_ne hm, Option.bind_eq_bind, Option.bind_some, ih]
      simp [hm]

/-- Members are taken just if the tag is there once and known. -/
lemma foldlM_takeMember_none (before after : List (String × Value)) :
    ms.foldlM (takeMember t) ⟨none, before⟩ = some ⟨some tag, after⟩ ↔
      HasOnce ms t.tag (.text tag) ∧ t.known.contains tag = true ∧
        after = (ms.filter fun m => m.1 != t.tag).reverse ++ before := by
  induction ms generalizing before with
  | nil => simp [HasOnce]
  | cons m ms ih =>
    by_cases hm : m.1 = t.tag
    · obtain ⟨name, v⟩ := m
      obtain rfl : name = t.tag := hm
      rw [List.foldlM_cons, Option.bind_eq_bind, Option.bind_eq_some_iff, hasOnce_cons_self]
      simp only [takeMember_tag_eq_some_iff, true_and]
      have hothers : (∀ m ∈ ms, m.1 ≠ t.tag) →
          ((t.tag, v) :: ms).filter (fun m => m.1 != t.tag) = ms := by
        intro habsent
        rw [List.filter_cons_of_neg (by simp), List.filter_eq_self]
        simpa using habsent
      constructor
      · rintro ⟨_, ⟨name, hname, hknown, rfl⟩, hrest⟩
        obtain ⟨habsent, heq⟩ := (foldlM_takeMember_some _ _).1 hrest
        obtain ⟨rfl, rfl⟩ : tag = name ∧ after = ms.reverse ++ before := by simpa using heq
        exact ⟨⟨hname, habsent⟩, hknown, by rw [hothers habsent]⟩
      · rintro ⟨⟨hv, habsent⟩, hknown, rfl⟩
        refine ⟨_, ⟨tag, hv, hknown, rfl⟩, (foldlM_takeMember_some _ _).2 ⟨habsent, ?_⟩⟩
        rw [hothers habsent]
    · rw [List.foldlM_cons, takeMember_of_ne hm, Option.bind_eq_bind, Option.bind_some, ih,
        hasOnce_cons_of_ne hm]
      simp [hm]

lemma DenotesScalar.denotes {e : List Char} (h : DenotesScalar e v) (depth : Nat) :
    Denotes depth e v := by
  cases depth with
  | zero => exact h
  | succ depth => exact .inl h

lemma Denotes.of_text {depth : Nat} {e : List Char} {s : String}
    (h : Denotes depth e (.text s)) :
    ∃ spelled u, e = '"' :: (spelled ++ ['"']) ∧ Text.Denotes spelled u ∧ s = String.ofList u := by
  have hscalar : DenotesScalar e (.text s) → ∃ spelled u, e = '"' :: (spelled ++ ['"']) ∧
      Text.Denotes spelled u ∧ s = String.ofList u := by
    intro h
    generalize hv : Value.text s = v at h
    cases h with
    | text hu => exact ⟨_, _, rfl, hu, by simpa using hv⟩
    | number _ h => rcases Number.Literal.isNumber_of_value? h with ⟨i, rfl⟩ | ⟨x, rfl⟩ <;> cases hv
    | _ => cases hv
  cases depth with
  | zero => exact hscalar h
  | succ depth =>
    rcases h with h | ⟨_, _, _, hv, _⟩ | ⟨_, _, _, hv, _⟩
    · exact hscalar h
    · cases hv
    · cases hv

lemma Denotes.of_object {depth : Nat} {e : List Char} (h : Denotes (depth + 1) e (.object ms)) :
    ∃ body, e = '\x7b' :: (body ++ ['\x7d']) ∧
      DenotesEntries (DenotesMember (Denotes depth)) body ms := by
  rcases h with h | ⟨_, _, _, hv, _⟩ | ⟨body, members, rfl, hv, hbody⟩
  · exfalso
    generalize hv : Value.object ms = v at h
    cases h with
    | number _ h => rcases Number.Literal.isNumber_of_value? h with ⟨i, rfl⟩ | ⟨x, rfl⟩ <;> cases hv
    | _ => cases hv
  · cases hv
  · cases hv
    exact ⟨body, rfl, hbody⟩

lemma readName_sound {known : List String} {text rest : List Char} {s : String}
    (h : readName known text = .ok (s, rest)) :
    ∃ e, text = e ++ rest ∧ DenotesScalar e (.text s) ∧ known.contains s = true := by
  rw [readName.eq_def] at h
  split at h
  · simp only [bind_eq_ok_iff, pure, Except.pure, Except.ok.injEq, Prod.mk.injEq] at h
    obtain ⟨⟨s', rest'⟩, hread, name, hname, rfl, rfl⟩ := h
    obtain ⟨rfl, hknown⟩ := knownName_eq_ok_iff.1 hname
    obtain ⟨e, u, rfl, he, rfl⟩ := Text.read_sound hread
    exact ⟨_, by simp, .text he, hknown⟩
  · exact absurd h (by simp)
  · exact absurd h (by simp)
  · simp [bind_eq_ok_iff, throw, throwThe, MonadExceptOf.throw] at h

lemma readName_complete {known : List String} {e u : List Char} (h : Text.Denotes e u)
    (hknown : known.contains (String.ofList u) = true) (rest : List Char) :
    readName known ('"' :: (e ++ '"' :: rest)) = .ok (String.ofList u, rest) := by
  simp only [readName, h.read_eq, bind_eq_ok_iff, pure, Except.pure]
  exact ⟨_, rfl, _, knownName_eq_ok_iff.2 ⟨rfl, hknown⟩, rfl⟩

/-- A member of a tagged record is taken just if it is a member of an object that the state allows. -/
lemma steps_pushTagged (t : Tagging) :
    Steps (DenotesMember (Denotes (greatestDepth - 1))) (takeMember t) (pushTagged t) where
  solid := DenotesMember.isSolid
  sound := by
    intro state next text rest h
    obtain ⟨seen, before⟩ := state
    rw [pushTagged, bind_eq_ok_iff] at h
    obtain ⟨⟨name, s⟩, hname, h⟩ := h
    by_cases htag : name = t.tag
    · subst htag
      rcases seen with _ | seen
      · simp only [beq_self_eq_true, if_true, Option.isSome_none, Bool.false_eq_true, if_false,
          bind_eq_ok_iff, pure, Except.pure, Except.ok.injEq, Prod.mk.injEq] at h
        obtain ⟨s', hcolon, ⟨tag, rest'⟩, hread, rfl, rfl⟩ := h
        obtain ⟨e, rfl, he, hknown⟩ := readName_sound hread
        obtain ⟨entry, htext, hentry⟩ := exists_member hname hcolon
          (he.begins.1.skipSpace_append rest') (he.denotes (greatestDepth - 1))
        exact ⟨entry, _, htext, hentry, takeMember_tag_eq_some_iff.2 ⟨rfl, tag, rfl, hknown, rfl⟩⟩
      · simp [throw, throwThe, MonadExceptOf.throw, bind, Except.bind] at h
    · simp only [beq_eq_false_iff_ne.2 htag, Bool.false_eq_true, if_false, bind_eq_ok_iff, pure,
        Except.pure, Except.ok.injEq, Prod.mk.injEq] at h
      obtain ⟨s', hcolon, ⟨v, rest'⟩, hread, rfl, rfl⟩ := h
      obtain ⟨e, hvalue, he⟩ := (takes_read (greatestDepth - 1)).sound hread
      obtain ⟨entry, htext, hentry⟩ := exists_member hname hcolon hvalue he
      exact ⟨entry, (name, v), htext, hentry, takeMember_of_ne htag⟩
  complete := by
    intro state next entry m rest hentry hput hrest
    obtain ⟨s, e, hname, hcolon, he⟩ := hentry.exists_value Denotes.isSolid rest
    obtain ⟨name, v⟩ := m
    by_cases htag : name = t.tag
    · subst htag
      obtain ⟨hunseen, tag, rfl, hknown, rfl⟩ := takeMember_tag_eq_some_iff.1 hput
      obtain ⟨spelled, u, rfl, hu, rfl⟩ := he.of_text
      have hread := readName_complete hu hknown rest
      simp only [List.cons_append, List.append_assoc, List.nil_append] at hcolon
      simp [pushTagged, hname, hcolon, hread, hunseen, bind, Except.bind, pure, Except.pure]
    · rw [takeMember_of_ne htag] at hput
      obtain rfl := Option.some.inj hput
      have hread := (takes_read (greatestDepth - 1)).complete he hrest
      simp [pushTagged, hname, hcolon, hread, htag, bind, Except.bind, pure, Except.pure]

variable {text rest : List Char}

/-- A text begins with an object. -/
def OpensObject (text : List Char) : Prop := (skipSpace text).head? = some '\x7b'

/-- An object is read as a tagged record just if its fold ends with a tag. -/
lemma readTagged_eq_ok_iff {s : List Char} (hskip : skipSpace text = '\x7b' :: s) {body : Body} :
    readTagged t text = .ok ((tag, body), rest) ↔ ∃ members,
      foldEntries '\x7d' (pushTagged t) ⟨none, []⟩ s = .ok (⟨some tag, members⟩, rest) ∧
        body = .members members.reverse := by
  simp only [readTagged, hskip, bind_eq_ok_iff]
  constructor
  · rintro ⟨⟨⟨seen, members⟩, rest'⟩, hfold, h⟩
    rcases seen with _ | seen
    · simp [throw, throwThe, MonadExceptOf.throw] at h
    · obtain ⟨⟨rfl, rfl⟩, rfl⟩ : (seen = tag ∧ .members members.reverse = body) ∧ rest' = rest := by
        simpa [pure, Except.pure] using h
      exact ⟨members, hfold, rfl⟩
  · rintro ⟨members, hfold, rfl⟩
    exact ⟨_, hfold, rfl⟩

/-- What is read as a tagged record with members is an object that has the tag once. -/
lemma readTagged_sound (hopens : OpensObject text) {body : Body}
    (h : readTagged t text = .ok ((tag, body), rest)) :
    ∃ e ms, skipSpace text = e ++ rest ∧ Denotes greatestDepth e (.object ms) ∧
      HasOnce ms t.tag (.text tag) ∧ t.known.contains tag = true ∧
      body = .members (ms.filter fun m => m.1 != t.tag) := by
  obtain ⟨s, hskip⟩ := List.head?_eq_some_iff.1 hopens
  obtain ⟨members, hfold, rfl⟩ := (readTagged_eq_ok_iff hskip).1 h
  obtain ⟨inner, ms, rfl, hinner, hms⟩ := (steps_pushTagged t).foldEntries_sound hfold
  obtain ⟨honce, hknown, rfl⟩ := (foldlM_takeMember_none _ _).1 hms
  refine ⟨'\x7b' :: (inner ++ ['\x7d']), ms, by simpa using hskip, ?_, honce, hknown, by simp⟩
  exact .inr (.inr ⟨inner, ms, rfl, rfl, hinner⟩)

/-- An object that has a known tag once is read as a tagged record. -/
lemma readTagged_complete {e : List Char} (h : Denotes greatestDepth e (.object ms))
    (honce : HasOnce ms t.tag (.text tag)) (hknown : t.known.contains tag = true)
    (rest : List Char) :
    readTagged t (e ++ rest) = .ok ((tag, .members (ms.filter fun m => m.1 != t.tag)), rest) := by
  obtain ⟨inner, rfl, hinner⟩ := Denotes.of_object h
  have hfold := (steps_pushTagged t).foldEntries_complete (.inr rfl) hinner
    ((foldlM_takeMember_none [] _).2 ⟨honce, hknown, rfl⟩) rest
  have hskip : skipSpace ('\x7b' :: (inner ++ ['\x7d']) ++ rest) =
      '\x7b' :: (inner ++ '\x7d' :: rest) := by
    rw [List.cons_append, skipSpace_of_isSpace (by decide), List.append_assoc,
      List.singleton_append]
  exact (readTagged_eq_ok_iff hskip).2 ⟨_, hfold, by simp⟩

lemma readTagged_append {space : List Char} (h : IsBlank space) (text : List Char) :
    readTagged t (space ++ text) = readTagged t text := by
  rw [readTagged, readTagged, skipSpace_append h]

variable {α : Type} {decode : String → Body → Except Fault α}

/-- Reads a document that is a tagged record, and what the record stands for. -/
def parseTagged (t : Tagging) (decode : String → Body → Except Fault α) (s : List Char) :
    Except Fault α := do
  let r ← readTagged t s
  let a ← decode r.1.1 r.1.2
  finish (a, r.2)

/-- An object is read as what its members stand for, if it has the tag once. -/
lemma parseTagged_eq_ok_iff {s : List Char} (hopens : OpensObject s) (a : α) :
    parseTagged t decode s = .ok a ↔ ∃ ms tag, IsDocument s (.object ms) ∧
      HasOnce ms t.tag (.text tag) ∧ t.known.contains tag = true ∧
      decode tag (.members (ms.filter fun m => m.1 != t.tag)) = .ok a := by
  simp only [parseTagged, bind_eq_ok_iff, finish_eq_ok_iff]
  constructor
  · rintro ⟨⟨⟨tag, body⟩, after⟩, hread, b, hb, rfl, hafter⟩
    obtain ⟨e, ms, hskip, he, honce, hknown, rfl⟩ := readTagged_sound hopens hread
    obtain ⟨before, hbefore, hs⟩ := exists_blank_append_skipSpace s
    exact ⟨ms, tag, ⟨before, e, after, by rw [← hskip, ← hs], hbefore, hafter, he⟩, honce, hknown,
      hb⟩
  · rintro ⟨ms, tag, ⟨before, e, after, rfl, hbefore, hafter, he⟩, honce, hknown, ha⟩
    refine ⟨((tag, .members (ms.filter fun m => m.1 != t.tag)), after), ?_, a, ha, rfl, hafter⟩
    rw [readTagged_append hbefore, readTagged_complete he honce hknown]

end SharedTerminal.Json
