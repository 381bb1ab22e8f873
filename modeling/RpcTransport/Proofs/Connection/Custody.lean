import Mathlib.Data.List.TakeDrop
import RpcTransport.Proofs.Connection.Tasks

/-!
# Who has a request

A submission has its request until it is entered, whoever took it out has it until it is told or
handed to the workers, and then it is settled. A move of a task passes it on (`Moves.conserves`).

## Covers

A task covers an entry if it will take it out of a closed connection, unless somebody else does
before: a submission between its entry and the second look at the flag, and the shutdown that set
the flag until its drain has passed the id. Whatever a move leaves in the table of a closed
connection is covered afterwards if it was before (`Moves.covers`), a new entry is covered by the
submission that made it (`Moves.mem_keys`), and the shutdown that sets the flag covers all there is
(`Moves.closed`).
-/

namespace RpcTransport

@[simp]
theorem Completion.ticket_decode (c : Completion) (registry : Registry) (f : Frame) :
    (c.decode registry f).ticket = c.ticket := by
  rw [decode]
  split
  · exact c.ticket_succeed _
  · rfl

namespace Dispatcher

/-- The requests of the jobs that are not finished. -/
def tickets (d : Dispatcher) : List Nat := (d.queue ++ d.running).map (·.completion.ticket)

/-- A response is delivered now or by a worker. -/
theorem count_submit (d : Dispatcher) (c : Completion) (f : Frame) (a : Nat) :
    ((d.submit c f).1.toList.map Delivery.ticket).count a + (d.submit c f).2.tickets.count a =
      [c.ticket].count a + d.tickets.count a := by
  rw [submit]
  split
  · rfl
  · split
    · have hperm : (d.queue ++ [DecodeJob.mk c f] ++ d.running).Perm
          (DecodeJob.mk c f :: (d.queue ++ d.running)) := by
        rw [List.append_assoc]
        exact List.perm_middle
      have hcount := (hperm.map (·.completion.ticket)).count_eq a
      rw [List.map_cons, List.count_cons, ← List.count_singleton, Nat.add_comm] at hcount
      exact (Nat.zero_add _).trans hcount
    · rw [Option.toList_some, List.map_singleton, Dispatcher.decode, Completion.ticket_decode]
      rfl

/-- A job that a worker takes stays the same job. -/
theorem count_take {d d' : Dispatcher} (h : d.take = some d') (a : Nat) :
    d'.tickets.count a = d.tickets.count a := by
  rw [take] at h
  split at h
  · exact nomatch h
  · next job jobs hqueue =>
    split at h
    · obtain rfl := Option.some.inj h
      have hperm : (jobs ++ (d.running ++ [job])).Perm (d.queue ++ d.running) := by
        rw [hqueue, ← List.append_assoc]
        exact List.perm_append_singleton job _
      exact (hperm.map _).count_eq a
    · exact nomatch h

theorem count_finish {held : DecodeJob → Bool} {d d' : Dispatcher} {job : DecodeJob}
    (h : d.finish held = some (job, d')) (a : Nat) :
    d'.tickets.count a + [job.completion.ticket].count a = d.tickets.count a := by
  rw [finish, List.span_eq_takeWhile_dropWhile] at h
  have hrunning := List.takeWhile_append_dropWhile (p := held) (l := d.running)
  generalize d.running.takeWhile held = before at h hrunning
  generalize d.running.dropWhile held = rest at h hrunning
  cases rest with
  | nil => exact nomatch h
  | cons first after =>
    obtain ⟨rfl, rfl⟩ := Prod.mk.inj (Option.some.inj h)
    have hperm : (d.queue ++ d.running).Perm (first :: (d.queue ++ (before ++ after))) := by
      rw [← hrunning, ← List.append_assoc, ← List.append_assoc]
      exact List.perm_middle
    have hcount := (hperm.map (·.completion.ticket)).count_eq a
    rw [List.map_cons, List.count_cons, ← List.count_singleton] at hcount
    exact hcount.symm

end Dispatcher

namespace Connection

/-! ## Settled requests -/

/-- The requests whose callers were told, or are to be told by a worker. -/
def settled (c : Connection) : List Nat := c.deliveries.map Delivery.ticket ++ c.dispatcher.tickets

theorem count_settled_deliver (c : Connection) (ds : List Delivery) (a : Nat) :
    (c.deliver ds).settled.count a = c.settled.count a + (ds.map Delivery.ticket).count a := by
  change ((c.deliveries ++ ds).map Delivery.ticket ++ c.dispatcher.tickets).count a = _
  rw [settled, List.map_append, List.count_append, List.count_append, List.count_append]
  omega

theorem settled_dispatch (c : Connection) (completion : Completion) (f : Frame) :
    (c.dispatch completion f).settled =
      (c.deliveries ++ (c.dispatcher.submit completion f).1.toList).map Delivery.ticket ++
        (c.dispatcher.submit completion f).2.tickets := by
  rw [dispatch]
  split
  rename_i d dispatcher h
  rw [apply_ite settled, h]
  exact ite_self _

theorem count_settled_dispatch (c : Connection) (completion : Completion) (f : Frame) (a : Nat) :
    (c.dispatch completion f).settled.count a =
      c.settled.count a + [completion.ticket].count a := by
  have hsubmit := c.dispatcher.count_submit completion f a
  rw [settled_dispatch, settled, List.map_append, List.count_append, List.count_append,
    List.count_append]
  omega

@[simp]
theorem table_dispatch (c : Connection) (completion : Completion) (f : Frame) :
    (c.dispatch completion f).table = c.table := by
  rw [dispatch]
  split
  rw [apply_ite table]
  exact ite_self _

@[simp]
theorem closed_dispatch (c : Connection) (completion : Completion) (f : Frame) :
    (c.dispatch completion f).closed = c.closed := by
  rw [dispatch]
  split
  rw [apply_ite closed]
  exact ite_self _

theorem count_settled_finishDecoding (c : Connection) (job : DecodeJob) (a : Nat) :
    (c.finishDecoding job).settled.count a =
      c.settled.count a + [job.completion.ticket].count a := by
  change (c.deliver [c.dispatcher.decode job]).settled.count a = _
  rw [count_settled_deliver, List.map_singleton, Dispatcher.decode, Completion.ticket_decode]

/-- Only the queue and the line for it change when a frame is queued. -/
theorem exists_of_enqueue {c c' : Connection} {o : Outbound} {b : Bool}
    (h : c.enqueue o = (b, c')) :
    ∃ queue waiting, c' = { c with queue := queue, waiting := waiting } := by
  rw [enqueue] at h
  split at h
  · exact ⟨_, _, (congrArg Prod.snd h).symm⟩
  · split at h
    · exact ⟨_, _, (congrArg Prod.snd h).symm⟩
    · exact ⟨_, _, (congrArg Prod.snd h).symm⟩

/-! ## Requests in hand -/

def Stage.tickets : Stage → List Nat
  | check r | refuse r => [r.completion.ticket]
  | withdrawn _ p | claim p _ | dispatch p _ => [p.ticket]
  | _ => []

/-- The requests a task has. -/
def Task.tickets (k : Task) : List Nat := k.call.tickets ++ k.next.tickets

/-- The submission a task is. -/
def Stage.submission? : Stage → Option Submission
  | check r | refuse r | recheck r | withdraw r | withdrawn r _ | schedule r | arm r _
  | disarm r _ | send r | waiting r | returned r => some r
  | _ => none

def Task.submission? (k : Task) : Option Submission := k.next.submission?

/-- A request is entered by the submission that looks at the flag again afterwards. -/
def Task.Enters (k : Task) : Prop :=
  ∀ id completion timeout, k.call = .insert id completion timeout →
    ∃ r, k.next = .recheck r ∧ r.id = id

variable {k k' : Task} {c c' : Connection}

theorem Moves.submission?_eq (h : Moves k c k' c') : k'.submission? = k.submission? := by
  cases h
  all_goals rfl

theorem Moves.enters (h : Moves k c k' c') (hk : k.Enters) : k'.Enters := by
  cases h with
  | atTable h next =>
    rintro id completion timeout rfl
    exact nomatch h.entering_eq_nil
  | accept h r =>
    rintro id completion timeout heq
    obtain ⟨rfl, -, -⟩ := PendingTable.Task.insert.inj heq
    exact ⟨r, rfl, rfl⟩
  | _ => exact fun _ _ _ heq ↦ nomatch heq

theorem Moves.nodup_ids (h : Moves k c k' c') (hc : c.table.ids.Nodup) : c'.table.ids.Nodup := by
  cases h with
  | atTable h next => exact h.nodup_ids hc
  | @withdraw _ r p t h | @answer _ r p t h =>
    have hids := PendingTable.nodup_ids_take hc r.id
    rwa [h] at hids
  | @arm _ r token t h =>
    have hids := c.table.ids_setTimer r.id token
    rw [h] at hids
    exact hids ▸ hc
  | send h | sendNone h =>
    obtain ⟨queue, waiting, rfl⟩ := exists_of_enqueue h
    exact hc
  | dispatch =>
    rw [table_dispatch]
    exact hc
  | _ => exact hc

theorem Moves.length_writes (h : Moves k c k' c') :
    c'.table.writes.length = c.table.writes.length := by
  cases h with
  | atTable h next => exact h.length_writes
  | @withdraw _ r p t h | @answer _ r p t h => exact congrArg (·.2.writes.length) h.symm
  | @arm _ r token t h => exact congrArg (·.2.writes.length) h.symm
  | send h | sendNone h =>
    obtain ⟨queue, waiting, rfl⟩ := exists_of_enqueue h
    rfl
  | claim => exact List.length_modify ..
  | dispatch => rw [table_dispatch]
  | _ => rfl

/-- **A move passes requests on**, between the task, the table and those that are settled. -/
theorem Moves.conserves (h : Moves k c k' c') (hc : c.table.ids.Nodup) (a : Nat) :
    k'.tickets.count a + c'.table.tickets.count a + c'.settled.count a =
      k.tickets.count a + c.table.tickets.count a + c.settled.count a := by
  cases h with
  | @atTable call call' _ t ds h next =>
    have hmove := h.conserves hc a
    have hsettled := count_settled_deliver { c with table := t } ds a
    change (call'.tickets ++ next.tickets).count a + t.tickets.count a + _ =
      (call.tickets ++ next.tickets).count a + _ + _
    rw [hsettled, List.count_append, List.count_append]
    change _ + _ + (c.settled.count a + _) = _
    omega
  | refuse _ r =>
    rw [Connection.refuse, count_settled_deliver]
    change 0 + c.table.tickets.count a + (c.settled.count a + [r.completion.ticket].count a) =
      [r.completion.ticket].count a + _ + _
    omega
  | withdrawn _ r p =>
    rw [count_settled_deliver]
    change 0 + c.table.tickets.count a + (c.settled.count a + [p.ticket].count a) =
      [p.ticket].count a + _ + _
    omega
  | @withdraw _ r p t h | @answer _ r p t h =>
    have htake := PendingTable.count_tickets_take hc r.id a
    rw [h] at htake
    change [p.ticket].count a + t.tickets.count a + c.settled.count a = 0 + _ + _
    change [p.ticket].count a + t.tickets.count a = _ at htake
    omega
  | @arm _ r token t h =>
    have htickets := c.table.tickets_setTimer r.id token
    rw [h] at htickets
    change 0 + t.tickets.count a + _ = 0 + _ + _
    rw [htickets]
    rfl
  | send h | sendNone h =>
    obtain ⟨queue, waiting, rfl⟩ := exists_of_enqueue h
    rfl
  | dispatch _ p f =>
    rw [table_dispatch, count_settled_dispatch]
    change 0 + c.table.tickets.count a + (c.settled.count a + [p.ticket].count a) =
      [p.ticket].count a + _ + _
    omega
  | _ => rfl

/-! ## Covers -/

/-- The task will take out what is under an id, with the ticket of its request. -/
def Task.Covers (k : Task) (x : UInt64 × Nat) : Prop :=
  match k.next with
  | .recheck r | .withdraw r => r.id = x.1
  | .setReason _ => True
  | .cancel => k.call.Covers x
  | _ => False

/-- It was this shutdown that set the flag. -/
def Stage.Won : Stage → Prop
  | setReason _ | cancel | through => True
  | _ => False

/-- The drain of the shutdown that set the flag is over, and so are the requests it took. -/
def Task.Drained (k : Task) : Prop := k = ⟨.ended, .cancel⟩ ∨ k = ⟨.ended, .through⟩

theorem Task.Drained.won {k : Task} (hk : k.Drained) : k.next.Won := by
  rcases hk with rfl | rfl
  · trivial
  · trivial

theorem Task.Drained.tickets_eq_nil {k : Task} (hk : k.Drained) : k.tickets = [] := by
  rcases hk with rfl | rfl
  · rfl
  · rfl

theorem Task.Drained.not_covers {k : Task} (hk : k.Drained) (x : UInt64 × Nat) :
    ¬ k.Covers x := by
  rcases hk with rfl | rfl
  · exact not_false
  · exact not_false

theorem Moves.closed (h : Moves k c k' c') (hc' : c'.closed = true) :
    c.closed = true ∨ ∀ x, k'.Covers x := by
  cases h with
  | close => exact .inr fun _ ↦ trivial
  | closeNone h => exact .inl h
  | send h | sendNone h =>
    obtain ⟨queue, waiting, rfl⟩ := exists_of_enqueue h
    exact .inl hc'
  | dispatch =>
    rw [closed_dispatch] at hc'
    exact .inl hc'
  | _ => exact .inl hc'

theorem Moves.closed_of_closed (h : Moves k c k' c') (hc : c.closed = true) :
    c'.closed = true := by
  cases h with
  | close | closeNone => rfl
  | send h | sendNone h =>
    obtain ⟨queue, waiting, rfl⟩ := exists_of_enqueue h
    exact hc
  | dispatch =>
    rw [closed_dispatch]
    exact hc
  | _ => exact hc

/-- The flag is set once. -/
theorem Moves.won (h : Moves k c k' c') (hk' : k'.next.Won) :
    k.next.Won ∨ c.closed = false ∧ c'.closed = true := by
  cases h with
  | atTable h next => exact .inl hk'
  | close h => exact .inr ⟨h, rfl⟩
  | setReason | cancel => exact .inl trivial
  | _ => exact hk'.elim

theorem Moves.mem_keys (h : Moves k c k' c') (hk : k.Enters) {x : UInt64 × Nat}
    (hx : x ∈ c'.table.keys) : x ∈ c.table.keys ∨ k'.Covers x := by
  cases h with
  | atTable h next =>
    rcases h.mem_keys hx with hx | ⟨completion, timeout, rfl⟩
    · exact .inl hx
    · obtain ⟨r, rfl, hid⟩ := hk x.1 completion timeout rfl
      exact .inr hid
  | @withdraw _ r p t h | @answer _ r p t h =>
    have hkeys := @PendingTable.mem_keys_take c.table r.id x
    rw [h] at hkeys
    exact .inl (hkeys.mp hx).1
  | @arm _ r token t h =>
    have hkeys := c.table.keys_setTimer r.id token
    rw [h] at hkeys
    exact .inl (hkeys ▸ hx)
  | send h | sendNone h =>
    obtain ⟨queue, waiting, rfl⟩ := exists_of_enqueue h
    exact .inl hx
  | dispatch =>
    rw [table_dispatch] at hx
    exact .inl hx
  | _ => exact .inl hx

/-- **On a closed connection a task keeps what it covers** until the entry is gone. A submission
that finds the flag set goes on to take the entry out, and only the flag lets it do otherwise. -/
theorem Moves.covers (h : Moves k c k' c') (hc : c.closed = true) {x : UInt64 × Nat}
    (hx : x ∈ c'.table.keys) (hk : k.Covers x) : k'.Covers x := by
  cases h with
  -- Of what a task does at the table only the drain matters to what it covers.
  | atTable h next =>
    cases next with
    | cancel => exact h.covers hx hk
    | recheck | withdraw | setReason => exact hk
    | _ => exact hk.elim
  | stay h => exact nomatch hc.symm.trans h
  | leave => exact hk
  | @withdraw _ r p t h =>
    have hkeys := @PendingTable.mem_keys_take c.table r.id x
    rw [h] at hkeys
    exact absurd hk.symm (hkeys.mp hx).2
  | @withdrawNone _ r t h =>
    have hnone : c.table.find? r.id = none := congrArg Prod.fst h
    exact absurd hk.symm (PendingTable.ne_of_find?_eq_none hnone hx)
  | setReason => trivial
  | _ => exact hk.elim

end Connection

end RpcTransport
