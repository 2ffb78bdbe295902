import SharedTerminal.Proofs.Session.Delivery

/-!
# The queue of a channel

A channel by itself: the session offers chunks, the consumer takes some of what waits, and either
side may let go.  A chunk is refused for one of three reasons: one was refused before, the consumer
has gone, or the queue is full.  The first refusal marks the channel for good, whatever room the
consumer makes after that.

`Entry` is what one operation does to a channel, as an entry in its books: the chunks that went in
and out, what the statistics count, and who holds which side.  A run adds these up.  What the
consumer took, followed by what waits for it, is what was accepted (`receivedIn_append_queue`), the
statistics count just that, and the mark is there just if a refusal was answered (`failed_run`).
The main statement, `accepts_until_refusal`, puts this together for every run of a new channel.
-/

namespace SharedTerminal.Session.Channel

/-! ## Operations -/

/-- What can be done to a channel, by either side. -/
inductive Operation where
  /-- The session offers a chunk. -/
  | send (chunk : Bytes)
  /-- The consumer takes chunks, at most `max` of them if there is a limit. -/
  | receive (max : Option Nat)
  /-- The session lets go of its side. -/
  | release
  /-- The consumer lets go of its side. -/
  | dropReceiver
deriving DecidableEq

/-- What an operation answers. -/
inductive Answer where
  /-- Whether a chunk was taken into the queue. -/
  | sent (taken : Bool)
  /-- What the consumer found in its queue. -/
  | received (found : Received)
  /-- Nothing. -/
  | nothing
deriving DecidableEq

/-- Carries out an operation and gives the answer.  Who has let go of a side does nothing there. -/
def perform (c : Channel) : Operation → Channel × Answer
  | .send chunk =>
    if c.senderHeld then ((c.send chunk).1, .sent (c.send chunk).2) else (c, .nothing)
  | .receive max =>
    if c.receiverHeld then ((c.receive max).1, .received (c.receive max).2) else (c, .nothing)
  | .release => (c.release, .nothing)
  | .dropReceiver => (c.dropReceiver, .nothing)

/-- The channel after an operation. -/
def step (c : Channel) (op : Operation) : Channel := (c.perform op).1

/-- The channel after a list of operations. -/
def run (c : Channel) (ops : List Operation) : Channel := ops.foldl step c

/-- What a list of operations is answered, in order. -/
def answers (c : Channel) : List Operation → List Answer
  | [] => []
  | op :: ops => (c.perform op).2 :: answers (c.step op) ops

/-- The chunk that the queue takes in in an operation. -/
def acceptedBy (c : Channel) (op : Operation) : List Bytes :=
  match op, (c.perform op).2 with
  | .send chunk, .sent true => [chunk]
  | _, _ => []

/-- The chunks that the queue takes in in a list of operations, in order. -/
def acceptedIn (c : Channel) : List Operation → List Bytes
  | [] => []
  | op :: ops => c.acceptedBy op ++ acceptedIn (c.step op) ops

/-- The chunks that the consumer takes in an operation. -/
def receivedBy (c : Channel) (op : Operation) : List Bytes :=
  match (c.perform op).2 with
  | .received found => found.chunks
  | _ => []

/-- The chunks that the consumer takes in a list of operations, in order. -/
def receivedIn (c : Channel) : List Operation → List Bytes
  | [] => []
  | op :: ops => c.receivedBy op ++ receivedIn (c.step op) ops

variable {c : Channel}

@[simp] lemma run_nil (c : Channel) : c.run [] = c := rfl

@[simp] lemma run_cons (c : Channel) (op : Operation) (ops : List Operation) :
    c.run (op :: ops) = (c.step op).run ops := rfl

/-! ## One operation -/

lemma perform_send_of_accepts (hs : c.senderHeld = true) (ha : c.accepts = true)
    (chunk : Bytes) :
    c.perform (.send chunk) =
      ({ c with
          queue := c.queue ++ [chunk]
          messages := c.messages + 1
          bytes := c.bytes + chunk.length }, .sent true) := by
  simp [perform, hs, send, ha]

lemma perform_send_of_refuses (hs : c.senderHeld = true) (ha : c.accepts = false)
    (chunk : Bytes) : c.perform (.send chunk) = ({ c with failed := true }, .sent false) := by
  simp [perform, hs, send, ha]

lemma perform_send_of_released (hs : c.senderHeld = false) (chunk : Bytes) :
    c.perform (.send chunk) = (c, .nothing) := by
  simp [perform, hs]

/-- A chunk that is offered is taken just if the channel accepts it. -/
lemma answer_send (hs : c.senderHeld = true) (chunk : Bytes) :
    (c.perform (.send chunk)).2 = .sent c.accepts := by
  rcases ha : c.accepts with _ | _
  · rw [perform_send_of_refuses hs ha]
  · rw [perform_send_of_accepts hs ha]

/-- A consumer takes what is in front of the queue and leaves the rest. -/
lemma exists_perform_receive (hr : c.receiverHeld = true) (max : Option Nat) :
    ∃ found queue, c.perform (.receive max) = ({ c with queue := queue }, .received found) ∧
      found.chunks ++ queue = c.queue := by
  refine ⟨(c.receive max).2, (c.receive max).1.queue, ?_, chunks_append_receive c max⟩
  cases max <;> simp [perform, hr, receive]

/-- What an operation does to a channel, as an entry in its books. -/
structure Entry (c : Channel) (op : Operation) (d : Channel) : Prop where
  /-- The capacity stays. -/
  capacity : d.capacity = c.capacity
  /-- What is taken out was in front, and what is taken in waits behind. -/
  queue : c.receivedBy op ++ d.queue = c.queue ++ c.acceptedBy op
  /-- A queue that holds no more than it can goes on so. -/
  bounded : c.queue.length ≤ c.capacity → d.queue.length ≤ c.capacity
  /-- The chunks that are taken in are counted. -/
  messages : d.messages = c.messages + (c.acceptedBy op).length
  /-- So are their bytes. -/
  bytes : d.bytes = c.bytes + (c.acceptedBy op).flatten.length
  /-- A refusal marks the channel, and nothing else does. -/
  failed : d.failed = (c.failed || decide ((c.perform op).2 = .sent false))
  /-- The session holds its side until it lets go. -/
  senderHeld : d.senderHeld = (c.senderHeld && decide (op ≠ .release))
  /-- The consumer holds its side until it lets go. -/
  receiverHeld : d.receiverHeld = (c.receiverHeld && decide (op ≠ .dropReceiver))

/-- **Every operation is one entry in the books.** -/
theorem entry_step (c : Channel) (op : Operation) : c.Entry op (c.step op) := by
  cases op with
  | send chunk =>
    rcases hs : c.senderHeld with _ | _
    · have hp := perform_send_of_released hs chunk
      constructor <;> simp [step, acceptedBy, receivedBy, hp, hs]
    · rcases ha : c.accepts with _ | _
      · have hp := perform_send_of_refuses hs ha chunk
        constructor <;> simp [step, acceptedBy, receivedBy, hp, hs]
      · have hp := perform_send_of_accepts hs ha chunk
        have hroom : c.queue.length < c.capacity := by
          simp only [accepts, Bool.and_eq_true, decide_eq_true_eq] at ha
          exact ha.2
        constructor <;> simp [step, acceptedBy, receivedBy, hp, hs]
        omega
  | receive max =>
    rcases hr : c.receiverHeld with _ | _
    · have hp : c.perform (.receive max) = (c, .nothing) := by simp [perform, hr]
      constructor <;> simp [step, acceptedBy, receivedBy, hp, hr]
    · obtain ⟨found, queue, hp, hqueue⟩ := exists_perform_receive hr max
      have hlength := congrArg List.length hqueue
      rw [List.length_append] at hlength
      constructor <;> simp [step, acceptedBy, receivedBy, hp, hqueue]
      omega
  | release => constructor <;> simp [step, perform, acceptedBy, receivedBy, release]
  | dropReceiver => constructor <;> simp [step, perform, acceptedBy, receivedBy, dropReceiver]

/-! ## Runs -/

lemma capacity_run (c : Channel) (ops : List Operation) : (c.run ops).capacity = c.capacity := by
  induction ops generalizing c with
  | nil => rfl
  | cons op ops ih => rw [run_cons, ih, (entry_step c op).capacity]

/-- What the consumer took and what waits for it is what was accepted. -/
lemma receivedIn_append_queue (c : Channel) (ops : List Operation) :
    c.receivedIn ops ++ (c.run ops).queue = c.queue ++ c.acceptedIn ops := by
  induction ops generalizing c with
  | nil => simp [receivedIn, acceptedIn]
  | cons op ops ih =>
    rw [receivedIn, acceptedIn, run_cons, List.append_assoc, ih, ← List.append_assoc,
      (entry_step c op).queue, List.append_assoc]

lemma length_queue_run (hc : c.queue.length ≤ c.capacity) (ops : List Operation) :
    (c.run ops).queue.length ≤ c.capacity := by
  induction ops generalizing c with
  | nil => exact hc
  | cons op ops ih =>
    have hentry := entry_step c op
    rw [run_cons, ← hentry.capacity]
    exact ih (hentry.capacity ▸ hentry.bounded hc)

lemma messages_run (c : Channel) (ops : List Operation) :
    (c.run ops).messages = c.messages + (c.acceptedIn ops).length := by
  induction ops generalizing c with
  | nil => rfl
  | cons op ops ih =>
    rw [run_cons, ih, (entry_step c op).messages, acceptedIn, List.length_append, Nat.add_assoc]

lemma bytes_run (c : Channel) (ops : List Operation) :
    (c.run ops).bytes = c.bytes + (c.acceptedIn ops).flatten.length := by
  induction ops generalizing c with
  | nil => rfl
  | cons op ops ih =>
    rw [run_cons, ih, (entry_step c op).bytes, acceptedIn, List.flatten_append,
      List.length_append, Nat.add_assoc]

/-- A channel is marked just if a refusal was answered. -/
lemma failed_run (c : Channel) (ops : List Operation) :
    (c.run ops).failed = (c.failed || decide (.sent false ∈ c.answers ops)) := by
  induction ops generalizing c with
  | nil => simp [answers]
  | cons op ops ih =>
    rw [run_cons, ih, (entry_step c op).failed, answers]
    simp [Bool.or_assoc, eq_comm]

lemma senderHeld_run (c : Channel) (ops : List Operation) :
    (c.run ops).senderHeld = (c.senderHeld && decide (.release ∉ ops)) := by
  induction ops generalizing c with
  | nil => simp
  | cons op ops ih =>
    rw [run_cons, ih, (entry_step c op).senderHeld]
    simp [Bool.and_assoc, eq_comm]

lemma receiverHeld_run (c : Channel) (ops : List Operation) :
    (c.run ops).receiverHeld = (c.receiverHeld && decide (.dropReceiver ∉ ops)) := by
  induction ops generalizing c with
  | nil => simp
  | cons op ops ih =>
    rw [run_cons, ih, (entry_step c op).receiverHeld]
    simp [Bool.and_assoc, eq_comm]

/-- A chunk is taken as long as none was refused, the consumer is there and the queue has room. -/
lemma accepts_run (c : Channel) (ops : List Operation) :
    (c.run ops).accepts = (!c.failed && c.receiverHeld &&
      decide (.sent false ∉ c.answers ops ∧ .dropReceiver ∉ ops ∧
        (c.run ops).queue.length < c.capacity)) := by
  rw [accepts, failed_run, receiverHeld_run, capacity_run]
  rcases c.failed with _ | _ <;> rcases c.receiverHeld with _ | _ <;> simp [Bool.and_assoc]

lemma isClosed_run (c : Channel) (ops : List Operation) :
    (c.run ops).isClosed =
      (c.isClosed || decide (.sent false ∈ c.answers ops ∨ .dropReceiver ∈ ops)) := by
  rw [isClosed, isClosed, failed_run, receiverHeld_run]
  rcases c.failed with _ | _ <;> rcases c.receiverHeld with _ | _ <;> simp

/-- A chunk is refused only while someone can offer it, and where there is no place for it. -/
lemma of_answer_refused {chunk : Bytes} (h : (c.perform (.send chunk)).2 = .sent false) :
    c.senderHeld = true ∧ c.accepts = false := by
  rcases hs : c.senderHeld with _ | _
  · rw [perform_send_of_released hs] at h
    exact absurd h (by simp)
  · rw [answer_send hs] at h
    exact ⟨rfl, by simpa using h⟩

/-- Who is refused once is refused for good, whatever the consumer does. -/
lemma answer_run_of_failed (hf : c.failed = true) (hs : c.senderHeld = true)
    {later : List Operation} (hheld : .release ∉ later) (chunk : Bytes) :
    ((c.run later).perform (.send chunk)).2 = .sent false := by
  have hsender : (c.run later).senderHeld = true := by simp [senderHeld_run, hs, hheld]
  rw [answer_send hsender, accepts_run, hf]
  rfl

/-- **A channel takes what it is offered until it refuses once.**  In every run of a new channel a
chunk that the session offers is taken just if none was refused before, the consumer has not gone,
and the queue holds less than it can, which is one chunk at least.  What the consumer took and what
waits for it is what was taken in, in order, and the statistics count these chunks and their bytes.
A refusal changes nothing but the mark, and everything that is offered later is refused, whatever
the consumer takes out of the queue.  A channel is closed just if a chunk was refused or the
consumer has gone, and then for good. -/
theorem accepts_until_refusal (id : String) (capacity : Nat) (ops : List Operation) :
    let start := fresh id capacity
    let c := start.run ops
    (∀ chunk, .release ∉ ops → (c.perform (.send chunk)).2 = .sent (decide
      (.sent false ∉ start.answers ops ∧ .dropReceiver ∉ ops ∧
        c.queue.length < max capacity 1))) ∧
    c.queue.length ≤ max capacity 1 ∧
    start.receivedIn ops ++ c.queue = start.acceptedIn ops ∧
    (c.messages = (start.acceptedIn ops).length ∧
      c.bytes = (start.acceptedIn ops).flatten.length) ∧
    (∀ chunk, (c.perform (.send chunk)).2 = .sent false →
      c.step (.send chunk) = { c with failed := true } ∧
      ∀ later more, .release ∉ later →
        (((c.step (.send chunk)).run later).perform (.send more)).2 = .sent false) ∧
    c.isClosed = decide (.sent false ∈ start.answers ops ∨ .dropReceiver ∈ ops) ∧
    (c.isClosed = true → ∀ later, (c.run later).isClosed = true) := by
  intro start c
  refine ⟨fun chunk hheld => ?_, length_queue_run (Nat.zero_le _) ops,
    receivedIn_append_queue start ops, ⟨?_, ?_⟩, fun chunk href => ?_, isClosed_run start ops,
    fun hclosed later => ?_⟩
  · have hsender : c.senderHeld = true := by
      have hrun : c.senderHeld = _ := senderHeld_run start ops
      rw [hrun]
      simpa [start, fresh] using hheld
    have haccepts : c.accepts = _ := accepts_run start ops
    rw [answer_send hsender, haccepts]
    rfl
  · exact (messages_run start ops).trans (Nat.zero_add _)
  · exact (bytes_run start ops).trans (Nat.zero_add _)
  · obtain ⟨hs, ha⟩ := of_answer_refused href
    have hstep : c.step (.send chunk) = { c with failed := true } := by
      rw [step, perform_send_of_refuses hs ha]
    refine ⟨hstep, fun later more hheld => ?_⟩
    rw [hstep]
    have hmarked : ({ c with failed := true } : Channel).failed = true := rfl
    exact answer_run_of_failed hmarked hs hheld more
  · rw [isClosed_run, hclosed, Bool.true_or]

/-- A queue of no capacity holds one chunk, and room that is made too late helps nobody. -/
example :
    (fresh "guest" 0).answers [.send [65], .send [66], .receive none, .send [67]] =
      [.sent true, .sent false, .received ⟨[[65]], false⟩, .sent false] := by
  decide

end SharedTerminal.Session.Channel
