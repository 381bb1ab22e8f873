import RpcTransport.Connection.Inbound
import RpcTransport.Connection.Submission
import RpcTransport.Proofs.Pending.Tasks

/-!
# The tasks of a connection

Submissions, shutdowns, responses, deadlines and failed writes go through a connection in small
steps. A task is what it does at the table now, which is a task of the table, and the stage it
enters when that is done. Every look at a flag, every access to the table, to the wheel or to the
queue and every completion is a step of its own.

The functions `submit`, `shutdown`, `onResponse`, `expire` and `failWrite` are these tasks when
nobody interrupts them (`runs_submit` and the others).
-/

namespace RpcTransport

namespace Connection

/-- What a task does once it is done at the table. -/
inductive Stage where
  /-- A submission looks at the flag. -/
  | check (r : Submission)
  | refuse (r : Submission)
  /-- The entry was made; look at the flag again. -/
  | recheck (r : Submission)
  | withdraw (r : Submission)
  | withdrawn (r : Submission) (p : Pending)
  | schedule (r : Submission)
  | arm (r : Submission) (token : Nat)
  | disarm (r : Submission) (token : Nat)
  | send (r : Submission)
  /-- The frame is in the queue or in line for it. -/
  | waiting (r : Submission)
  | returned (r : Submission)
  /-- A shutdown sets the flag. -/
  | close (reason : TransportError)
  | setReason (reason : TransportError)
  | cancel
  /-- The shutdown that set the flag is over. -/
  | through
  /-- A response looks for its request. -/
  | answer (f : Frame)
  | claim (p : Pending) (f : Frame)
  | dispatch (p : Pending) (f : Frame)
  | ended

structure Task where
  call : PendingTable.Task
  next : Stage

/-- The request frame of a submission, as it is queued. -/
def outbound (c : Connection) (r : Submission) : Outbound :=
  ⟨.request r.id c.config.serialization (.detached r.body), .request r.id r.completion.ticket⟩

/-- Fail the write of a request whose frame finds the writer stopped. -/
def unsent (r : Submission) : Task :=
  ⟨.take r.id (.failWrite "connection writer stopped"), .returned r⟩

/-- One step of a task: the task and the connection before, and both afterwards. -/
inductive Moves : Task → Connection → Task → Connection → Prop where
  | atTable {call call' : PendingTable.Task} {c : Connection} {t : PendingTable}
      {ds : List Delivery} (h : PendingTable.Moves call c.table call' t ds) (next : Stage) :
      Moves ⟨call, next⟩ c ⟨call', next⟩ ({ c with table := t }.deliver ds)
  | accept {c : Connection} (h : c.closed = false) (r : Submission) :
      Moves ⟨.ended, .check r⟩ c ⟨.insert r.id r.completion r.timeout, .recheck r⟩ c
  | reject {c : Connection} (h : c.closed = true) (r : Submission) :
      Moves ⟨.ended, .check r⟩ c ⟨.ended, .refuse r⟩ c
  | refuse (c : Connection) (r : Submission) :
      Moves ⟨.ended, .refuse r⟩ c ⟨.ended, .returned r⟩ (c.refuse r)
  | stay {c : Connection} (h : c.closed = false) (r : Submission) :
      Moves ⟨.ended, .recheck r⟩ c ⟨.ended, .schedule r⟩ c
  | leave {c : Connection} (h : c.closed = true) (r : Submission) :
      Moves ⟨.ended, .recheck r⟩ c ⟨.ended, .withdraw r⟩ c
  | withdraw {c : Connection} {r : Submission} {p : Pending} {t : PendingTable}
      (h : c.table.take r.id = (some p, t)) :
      Moves ⟨.ended, .withdraw r⟩ c ⟨.ended, .withdrawn r p⟩ { c with table := t }
  | withdrawNone {c : Connection} {r : Submission} {t : PendingTable}
      (h : c.table.take r.id = (none, t)) :
      Moves ⟨.ended, .withdraw r⟩ c ⟨.ended, .returned r⟩ c
  | withdrawn (c : Connection) (r : Submission) (p : Pending) :
      Moves ⟨.ended, .withdrawn r p⟩ c ⟨.ended, .returned r⟩
        (c.deliver [p.completion.fail c.inactiveError])
  | schedule (c : Connection) (r : Submission) :
      Moves ⟨.ended, .schedule r⟩ c ⟨.ended, .arm r (c.schedule r).1⟩ (c.schedule r).2
  | arm {c : Connection} {r : Submission} {token : Nat} {t : PendingTable}
      (h : c.table.setTimer r.id token = (true, t)) :
      Moves ⟨.ended, .arm r token⟩ c ⟨.ended, .send r⟩ { c with table := t }
  | armNone {c : Connection} {r : Submission} {token : Nat} {t : PendingTable}
      (h : c.table.setTimer r.id token = (false, t)) :
      Moves ⟨.ended, .arm r token⟩ c ⟨.ended, .disarm r token⟩ c
  | disarm (c : Connection) (r : Submission) (token : Nat) :
      Moves ⟨.ended, .disarm r token⟩ c ⟨.ended, .send r⟩
        { c with wheel := c.wheel.cancel token }
  | send {c c' : Connection} {r : Submission} (h : c.enqueue (c.outbound r) = (true, c')) :
      Moves ⟨.ended, .send r⟩ c ⟨.ended, .waiting r⟩ c'
  | sendNone {c c' : Connection} {r : Submission} (h : c.enqueue (c.outbound r) = (false, c')) :
      Moves ⟨.ended, .send r⟩ c (unsent r) c'
  | sent {c : Connection} {r : Submission} (h : c.isWaiting r = false) :
      Moves ⟨.ended, .waiting r⟩ c ⟨.ended, .returned r⟩ c
  | dismissed {c : Connection} (h : c.queueOpen = false) (r : Submission) :
      Moves ⟨.ended, .waiting r⟩ c (unsent r) c
  | close {c : Connection} (h : c.closed = false) (reason : TransportError) :
      Moves ⟨.ended, .close reason⟩ c ⟨.ended, .setReason reason⟩ c.markClosed.2
  | closeNone {c : Connection} (h : c.closed = true) (reason : TransportError) :
      Moves ⟨.ended, .close reason⟩ c ⟨.ended, .ended⟩ c.markClosed.2
  | setReason (c : Connection) (reason : TransportError) :
      Moves ⟨.ended, .setReason reason⟩ c ⟨.scan (some reason), .cancel⟩ (c.setReason reason)
  | cancel (c : Connection) : Moves ⟨.ended, .cancel⟩ c ⟨.ended, .through⟩ c.cancel
  | answer {c : Connection} {f : Frame} {p : Pending} {t : PendingTable}
      (h : c.table.take f.id = (some p, t)) :
      Moves ⟨.ended, .answer f⟩ c ⟨.ended, .claim p f⟩ { c with table := t }
  | answerNone {c : Connection} {f : Frame} {t : PendingTable}
      (h : c.table.take f.id = (none, t)) :
      Moves ⟨.ended, .answer f⟩ c ⟨.ended, .ended⟩ (c.release f.body)
  | claim (c : Connection) (p : Pending) (f : Frame) :
      Moves ⟨.ended, .claim p f⟩ c ⟨.ended, .dispatch p f⟩ (c.claim p)
  | dispatch (c : Connection) (p : Pending) (f : Frame) :
      Moves ⟨.ended, .dispatch p f⟩ c ⟨.ended, .ended⟩ (c.dispatch p.completion f)

/-! ## A task that nobody interrupts -/

/-- The moves of a task while no other moves. -/
inductive Runs : Task → Connection → Task → Connection → Prop where
  | refl (k : Task) (c : Connection) : Runs k c k c
  | move {k k' k'' : Task} {c c' c'' : Connection} (h : Moves k c k' c')
      (hs : Runs k' c' k'' c'') : Runs k c k'' c''

theorem Runs.trans {k k' k'' : Task} {c c' c'' : Connection} (h : Runs k c k' c')
    (hs : Runs k' c' k'' c'') : Runs k c k'' c'' := by
  induction h with
  | refl => exact hs
  | move h _ ih => exact .move h (ih hs)

theorem Runs.atTable {call call' : PendingTable.Task} {t t' : PendingTable} {ds : List Delivery}
    (h : PendingTable.Runs call t call' t' ds) {c : Connection} (ht : c.table = t)
    (next : Stage) :
    Runs ⟨call, next⟩ c ⟨call', next⟩ ({ c with table := t' }.deliver ds) := by
  induction h generalizing c with
  | refl call t =>
    subst ht
    rw [deliver, List.append_nil]
    exact .refl _ _
  | @move _ _ _ _ t' _ ds _ h _ ih =>
    subst ht
    have hrest := ih (c := ({ c with table := t' } : Connection).deliver ds) rfl
    rw [deliver, deliver, List.append_assoc] at hrest
    exact .move (.atTable h next) hrest

theorem runs_expire (id : UInt64) (c : Connection) :
    Runs ⟨.take id .expire, .ended⟩ c ⟨.ended, .ended⟩ (c.expire id) :=
  .atTable (PendingTable.runs_expire id c.table) rfl .ended

theorem runs_failWrite (id : UInt64) (reason : String) (next : Stage) (c : Connection) :
    Runs ⟨.take id (.failWrite reason), next⟩ c ⟨.ended, next⟩ (c.failWrite id reason) :=
  .atTable (PendingTable.runs_failWrite id reason c.table) rfl next

theorem runs_register (r : Submission) (c : Connection) :
    Runs ⟨.insert r.id r.completion r.timeout, .recheck r⟩ c ⟨.ended, .recheck r⟩
      (c.register r) :=
  .atTable (PendingTable.runs_insert r.id r.completion r.timeout c.table) rfl (.recheck r)

theorem runs_arm (r : Submission) (token : Nat) (c : Connection) :
    Runs ⟨.ended, .arm r token⟩ c ⟨.ended, .send r⟩ (c.arm r token) := by
  rw [Connection.arm]
  rcases h : c.table.setTimer r.id token with ⟨_ | _, t⟩
  · exact .move (.armNone h) (.move (.disarm c r token) (.refl _ _))
  · exact .move (.arm h) (.refl _ _)

/-- The submission comes back at once, unless its frame is to wait for a place in the queue. -/
theorem runs_send (r : Submission) (c : Connection) :
    Runs ⟨.ended, .send r⟩ c ⟨.ended, .waiting r⟩ (c.send r) ∨
      Runs ⟨.ended, .send r⟩ c ⟨.ended, .returned r⟩ (c.send r) := by
  rw [Connection.send]
  split
  · next c' h => exact .inl (.move (.send h) (.refl _ _))
  · next c' h => exact .inr (.move (.sendNone h) (runs_failWrite r.id _ (.returned r) c'))

theorem runs_submit (kind : CompletionKind) (body : Bytes) (timeout : Option Nat)
    (c : Connection) :
    ∃ stage, (stage = .waiting (c.begin kind body timeout).1 ∨
      stage = .returned (c.begin kind body timeout).1) ∧
      Runs ⟨.ended, .check (c.begin kind body timeout).1⟩ (c.begin kind body timeout).2
        ⟨.ended, stage⟩ (c.submit kind body timeout).2 := by
  rw [submit]
  generalize c.begin kind body timeout = started
  obtain ⟨r, c⟩ := started
  by_cases hclosed : c.closed = true
  · refine ⟨.returned r, .inr rfl, ?_⟩
    simp only [if_pos hclosed]
    exact .move (.reject hclosed r) (.move (.refuse c r) (.refl _ _))
  · have hopen : c.closed = false := Bool.eq_false_iff.mpr hclosed
    have hstill : (c.register r).closed = false := hopen
    have hentered : Runs ⟨.ended, .check r⟩ c ⟨.ended, .recheck r⟩ (c.register r) :=
      .move (.accept hopen r) (runs_register r c)
    have hsend : Runs ⟨.ended, .check r⟩ c ⟨.ended, .send r⟩
        ((((c.register r).schedule r).2).arm r ((c.register r).schedule r).1) :=
      hentered.trans (.move (.stay hstill r) (.move (.schedule _ r) (runs_arm r _ _)))
    simp only [if_neg hclosed]
    rcases runs_send r (((c.register r).schedule r).2.arm r ((c.register r).schedule r).1) with
      h | h
    · exact ⟨.waiting r, .inl rfl, hsend.trans h⟩
    · exact ⟨.returned r, .inr rfl, hsend.trans h⟩

theorem runs_shutdown (reason : TransportError) (c : Connection) :
    Runs ⟨.ended, .close reason⟩ c ⟨.ended, if c.closed then .ended else .through⟩
      (c.shutdown reason) := by
  by_cases hclosed : c.closed
  · have hagain : c.shutdown reason = c.markClosed.2 := by
      rw [shutdown, markClosed, hclosed]
      rfl
    rw [if_pos hclosed, hagain]
    exact .move (.closeNone hclosed reason) (.refl _ _)
  · have hopen : c.closed = false := Bool.eq_false_iff.mpr hclosed
    have hfirst : c.shutdown reason =
        ((c.markClosed.2.setReason reason).failPending reason).cancel := by
      rw [shutdown, markClosed, hopen]
      rfl
    rw [if_neg hclosed, hfirst]
    refine .move (.close hopen reason) (.move (.setReason _ reason) ?_)
    exact (Runs.atTable (PendingTable.runs_failAll reason _) rfl .cancel).trans
      (.move (.cancel _) (.refl _ _))

theorem runs_onResponse (f : Frame) (c : Connection) :
    Runs ⟨.ended, .answer f⟩ c ⟨.ended, .ended⟩ (c.onResponse f) := by
  rw [onResponse]
  rcases h : c.table.take f.id with ⟨_ | p, t⟩
  · exact .move (.answerNone h) (.refl _ _)
  · exact .move (.answer h) (.move (.claim _ p f) (.move (.dispatch _ p f) (.refl _ _)))

end Connection

end RpcTransport
