import SharedTerminal.Proofs.Prompt.Operation

/-!
# What a prompt may tell

`Orderly` is the grammar of what goes to a session: the prompt is ready, tasks come one after the
other with growing numbers, and each is announced, says what it has to say, and ends with a status
and a new prompt.  The last one may be cut short, by a prompt that stops.

The rest of this file is about streams of this form: how they begin (`Orderly.head?_eq`), which
changes of status there are (`Orderly.changes_eq`), when a task says something (`Orderly.within`),
and what follows its end (`Orderly.ready_after`).
-/

namespace SharedTerminal.Prompt

open SharedTerminal.Task (Status)

/-! ## What a stream says -/

/-- The change of status that an entry reports: the task, and the status before and after. -/
def Entry.change? (e : Entry) : Option (Nat × Status × Status) :=
  match e.event with
  | .status task before after => some (task, before, after)
  | .output _ => none

/-- The changes of status in a stream. -/
def changes (es : List Entry) : List (Nat × Status × Status) := es.filterMap Entry.change?

/-- The task of which an entry is the output, or the reason why it could not be started. -/
def Entry.task? : Entry → Option Nat
  | .output task _ | .told (.refusal task _) => some task
  | _ => none

/-- Whether an entry reports how a task ended. -/
def Entry.isFinal (e : Entry) : Bool := e.change?.any (·.2.2.isFinal)

/-- The change with which a task begins. -/
def opening (task : Nat) : Nat × Status × Status := (task, .new, .running)

/-- The two changes of a task that ended with a status. -/
def lifetime (task : Nat × Status) : List (Nat × Status × Status) :=
  [opening task.1, (task.1, .running, task.2)]

variable {es before : List Entry} {e x : Entry} {t : Nat} {o : Option Nat}

@[simp] lemma changes_append (es more : List Entry) :
    changes (es ++ more) = changes es ++ changes more :=
  List.filterMap_append

@[simp] lemma changes_nil : changes [] = [] := rfl

@[simp] lemma changes_echo (bytes : Bytes) (es : List Entry) :
    changes (.told (.echo bytes) :: es) = changes es := rfl

@[simp] lemma changes_ready (es : List Entry) : changes (.told .ready :: es) = changes es := rfl

@[simp] lemma changes_output (t : Nat) (bytes : Bytes) (es : List Entry) :
    changes (.output t bytes :: es) = changes es := rfl

@[simp] lemma changes_refusal (t : Nat) (reason : Bytes) (es : List Entry) :
    changes (.told (.refusal t reason) :: es) = changes es := rfl

@[simp] lemma changes_status (t : Nat) (f g : Status) (es : List Entry) :
    changes (.told (.status t f g) :: es) = (t, f, g) :: changes es := rfl

lemma mem_changes_finish {c : Nat × Status × Status} {f : Status} :
    c ∈ changes (es ++ [.told (.status t .running f), .told .ready]) ↔
      c ∈ changes es ∨ c = (t, .running, f) := by
  simp

lemma mem_changes_refuse {c : Nat × Status × Status} {reason : Bytes} :
    c ∈ changes (es ++ [.told (.status t .new .running), .told (.refusal t reason),
        .told (.status t .running .failed), .told .ready]) ↔
      c ∈ changes es ∨ c = (t, .new, .running) ∨ c = (t, .running, .failed) := by
  simp

@[simp] lemma isFinal_echo (bytes : Bytes) : (Entry.told (.echo bytes)).isFinal = false := rfl

@[simp] lemma isFinal_ready : (Entry.told .ready).isFinal = false := rfl

@[simp] lemma isFinal_output (t : Nat) (bytes : Bytes) :
    (Entry.output t bytes).isFinal = false := rfl

@[simp] lemma isFinal_refusal (t : Nat) (reason : Bytes) :
    (Entry.told (.refusal t reason)).isFinal = false := rfl

@[simp] lemma isFinal_status (t : Nat) (f g : Status) :
    (Entry.told (.status t f g)).isFinal = g.isFinal := rfl

/-- What ends in an entry and is a prefix of a longer stream was one already, or the entry is the
last. -/
lemma snoc_prefix_snoc (h : before ++ [e] <+: es ++ [x]) :
    before = es ∧ e = x ∨ before ++ [e] <+: es := by
  rcases List.prefix_concat_iff.1 h with h | h
  · obtain ⟨hbefore, hlast⟩ := List.append_inj' h rfl
    exact Or.inl ⟨hbefore, List.singleton_inj.1 hlast⟩
  · exact Or.inr h

/-! ## The grammar -/

/-- What a prompt and its tasks may tell the session, and which task has not ended. -/
inductive Orderly : Option Nat → List Entry → Prop where
  /-- First the prompt is ready. -/
  | start : Orderly none [.told .ready]
  /-- It shows what is typed. -/
  | echo {es : List Entry} (h : Orderly none es) (bytes : Bytes) :
      Orderly none (es ++ [.told (.echo bytes)])
  /-- It is ready again. -/
  | ready {es : List Entry} (h : Orderly none es) : Orderly none (es ++ [.told .ready])
  /-- A task begins. -/
  | announce {es : List Entry} (h : Orderly none es) {t : Nat} (hnew : ∀ c ∈ changes es, c.1 < t) :
      Orderly (some t) (es ++ [.told (.status t .new .running)])
  /-- It cannot be started. -/
  | refusal {es : List Entry} {t : Nat} (h : Orderly (some t) es) (reason : Bytes) :
      Orderly (some t) (es ++ [.told (.refusal t reason)])
  /-- It writes. -/
  | output {es : List Entry} {t : Nat} (h : Orderly (some t) es) (bytes : Bytes) :
      Orderly (some t) (es ++ [.output t bytes])
  /-- It ends. -/
  | finish {es : List Entry} {t : Nat} (h : Orderly (some t) es) {f : Status}
      (hfinal : f.isFinal = true) :
      Orderly none (es ++ [.told (.status t .running f)] ++ [.told .ready])

namespace Orderly

lemma head?_eq (h : Orderly o es) : es.head? = some (.told .ready) := by
  induction h with
  | start => rfl
  | _ => simp_all

/-- The changes are those of tasks that have ended, one after the other, and the first one of the
task that has not. -/
lemma changes_eq (h : Orderly o es) :
    ∃ ended : List (Nat × Status), changes es = ended.flatMap lifetime ++ o.toList.map opening ∧
      (∀ task ∈ ended, task.2.isFinal = true) ∧
      (ended.map Prod.fst ++ o.toList).Pairwise (· < ·) := by
  induction h with
  | start => exact ⟨[], rfl, by simp, by simp⟩
  | echo _ _ ih | ready _ ih | refusal _ _ ih | output _ _ ih => simpa using ih
  | @announce es _ t hnew ih =>
    obtain ⟨ended, hchanges, hfinal, hlt⟩ := ih
    refine ⟨ended, by simp [hchanges, opening], hfinal, ?_⟩
    -- Every task that has ended was announced, and so has a smaller number.
    have hbelow : ∀ task ∈ ended, task.1 < t := by
      intro task htask
      refine hnew (opening task.1) ?_
      rw [hchanges]
      exact List.mem_append_left _ (List.mem_flatMap.2 ⟨task, htask, by simp [lifetime]⟩)
    simp only [Option.toList_none, List.append_nil] at hlt
    simpa [List.pairwise_append, hlt] using fun n f hn => hbelow (n, f) hn
  | @finish es t _ f hf ih =>
    obtain ⟨ended, hchanges, hfinal, hlt⟩ := ih
    refine ⟨ended ++ [(t, f)], by simp [hchanges, lifetime], ?_, by simpa using hlt⟩
    intro task htask
    rcases List.mem_append.1 htask with htask | htask
    · exact hfinal task htask
    · rw [List.mem_singleton.1 htask]
      exact hf

/-- The task that has not ended was announced, and nothing says that it ended. -/
lemma isOpen (h : Orderly (some t) es) :
    opening t ∈ changes es ∧ ∀ f, (t, Status.running, f) ∉ changes es := by
  generalize ho : some t = o at h
  induction h with
  | start | echo | ready | finish => exact absurd ho (by simp)
  | refusal _ _ ih | output _ _ ih => simpa using ih ho
  | announce _ hnew =>
    obtain rfl := Option.some.inj ho
    refine ⟨by simp [opening], fun f hf => ?_⟩
    rw [changes_append] at hf
    rcases List.mem_append.1 hf with hf | hf
    · exact absurd (hnew _ hf) (by simp)
    · simp at hf

/-- What a task says is said after it was announced and before its end. -/
lemma within (h : Orderly o es) (hfront : before ++ [e] <+: es) (htask : e.task? = some t) :
    opening t ∈ changes before ∧ ∀ f, (t, Status.running, f) ∉ changes before := by
  -- Either the entry is the one that was added, or the stream had it before.
  induction h with
  | start =>
    rcases snoc_prefix_snoc (show before ++ [e] <+: [] ++ [_] from hfront) with ⟨rfl, rfl⟩ | hfront
    · exact absurd htask (by simp [Entry.task?])
    · simp at hfront
  | echo _ _ ih | ready _ ih | announce _ _ ih =>
    rcases snoc_prefix_snoc hfront with ⟨rfl, rfl⟩ | hfront
    · exact absurd htask (by simp [Entry.task?])
    · exact ih hfront
  | refusal h _ ih | output h _ ih =>
    rcases snoc_prefix_snoc hfront with ⟨rfl, rfl⟩ | hfront
    · obtain rfl := Option.some.inj htask
      exact h.isOpen
    · exact ih hfront
  | finish _ _ ih =>
    rcases snoc_prefix_snoc hfront with ⟨rfl, rfl⟩ | hfront
    · exact absurd htask (by simp [Entry.task?])
    · rcases snoc_prefix_snoc hfront with ⟨rfl, rfl⟩ | hfront
      · exact absurd htask (by simp [Entry.task?])
      · exact ih hfront

/-- The end of a task is followed by a prompt. -/
lemma ready_after (h : Orderly o es) (hfront : before ++ [e] <+: es) (hfinal : e.isFinal = true) :
    before ++ [e, .told .ready] <+: es := by
  induction h with
  | start =>
    rcases snoc_prefix_snoc (show before ++ [e] <+: [] ++ [_] from hfront) with ⟨rfl, rfl⟩ | hfront
    · exact absurd hfinal (by decide)
    · simp at hfront
  | echo _ _ ih | ready _ ih | announce _ _ ih | refusal _ _ ih | output _ _ ih =>
    rcases snoc_prefix_snoc hfront with ⟨rfl, rfl⟩ | hfront
    · exact absurd hfinal (by simp [Status.isFinal])
    · exact (ih hfront).trans (List.prefix_append _ _)
  | finish _ _ ih =>
    -- Of the two entries that were added, the first is an end and the second is its prompt.
    rcases snoc_prefix_snoc hfront with ⟨rfl, rfl⟩ | hfront
    · exact absurd hfinal (by decide)
    · rcases snoc_prefix_snoc hfront with ⟨rfl, rfl⟩ | hfront
      · simp
      · refine (ih hfront).trans ?_
        rw [List.append_assoc]
        exact List.prefix_append _ _

end Orderly

end SharedTerminal.Prompt
