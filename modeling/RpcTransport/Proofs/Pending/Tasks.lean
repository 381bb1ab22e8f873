import RpcTransport.Proofs.Pending.Entries

/-!
# The tasks at a table

Callers enter requests in a table, the reader takes them out for their responses, the wheel for
their deadlines, the writer for a failed write, and whoever ends the connection drains it. Each
access to the table is one step of a task and so is each completion; between two steps of a task
any other task may move, and all of them see the steps in one order. The scan of a drain is not
even one step: it begins, others move, and what it has found at its end need not include what was
entered meanwhile.

## Conservation

A task that enters a request has it before the step, and a task that took one out has it until it
resolves it: these are its `tickets`. A move passes tickets on between the task, the table and the
callers, and neither makes nor loses one (`Moves.conserves`). For this the ids of the table have to
be distinct, which every move keeps.
-/

namespace RpcTransport

@[simp]
theorem Completion.ticket_succeed (c : Completion) (r : Response) :
    (c.succeed r).ticket = c.ticket := by
  rw [Completion.succeed]
  split
  · rfl
  · rfl

namespace PendingTable

/-! ## Tasks -/

/-- What a request is taken out for. -/
inductive Purpose where
  /-- To be resolved by whoever took it, one way or the other. -/
  | keep
  | expire
  | failWrite (reason : String)
deriving DecidableEq, Repr

/-- What whoever kept a request tells its caller. -/
inductive Verdict where
  | succeed (r : Response)
  | fail (e : TransportError)

def Verdict.deliver (c : Completion) : Verdict → Delivery
  | .succeed r => c.succeed r
  | .fail e => c.fail e

/-- What a task does next. A drain has a failure if everything is to be failed with it, and hands
over what it took otherwise. -/
inductive Task where
  | insert (id : UInt64) (completion : Completion) (timeout : Nat)
  | setTimer (id : UInt64) (token : Nat)
  | take (id : UInt64) (purpose : Purpose)
  /-- Look how far the write got, to know why the deadline passed. -/
  | judge (p : Pending)
  /-- Note that the write failed. -/
  | mark (p : Pending) (reason : String)
  | scan (failure : Option TransportError)
  /-- The scan has begun; it owes the requests that were there then. -/
  | scanning (failure : Option TransportError) (owed : List Nat)
  | drain (failure : Option TransportError) (rest : List UInt64) (taken : List Pending)
  | hold (ps : List Pending)
  | tell (ds : List Delivery)

namespace Task

/-- There is nothing left to do. -/
@[match_pattern]
abbrev ended : Task := .tell []

/-- The request that is yet to be entered. -/
def entering : Task → List Nat
  | insert _ completion _ => [completion.ticket]
  | _ => []

/-- The requests a task has taken out or replaced and not resolved yet. -/
def held : Task → List Nat
  | judge p | mark p _ => [p.ticket]
  | drain _ _ taken => taken.map Pending.ticket
  | hold ps => ps.map Pending.ticket
  | tell ds => ds.map Delivery.ticket
  | _ => []

def tickets (k : Task) : List Nat := k.entering ++ k.held

@[simp]
theorem tickets_insert (id : UInt64) (completion : Completion) (timeout : Nat) :
    (insert id completion timeout).tickets = [completion.ticket] := rfl

@[simp]
theorem tickets_drain (failure : Option TransportError) (rest : List UInt64)
    (taken : List Pending) : (drain failure rest taken).tickets = taken.map Pending.ticket := rfl

@[simp]
theorem tickets_hold (ps : List Pending) : (hold ps).tickets = ps.map Pending.ticket := rfl

@[simp]
theorem tickets_tell (ds : List Delivery) : (tell ds).tickets = ds.map Delivery.ticket := rfl

end Task

/-- What is done with a request that was taken out. -/
def Purpose.next (p : Pending) : Purpose → Task
  | .keep => .hold [p]
  | .expire => .judge p
  | .failWrite reason => .mark p reason

/-- What is done with what a drain took. -/
def conclude (taken : List Pending) : Option TransportError → Task
  | none => .hold taken
  | some e => .tell (taken.map fun p ↦ p.completion.fail e)

/-- Why a request whose write failed did. -/
def writeError (t : PendingTable) (id : UInt64) (reason : String) : TransportError :=
  .connectFailed t.peer s!"write of request {id.toNat} failed: {reason}"

/-- One step of a task: the task and the table before, both afterwards, and whom it told. -/
inductive Moves : Task → PendingTable → Task → PendingTable → List Delivery → Prop where
  | insert (id : UInt64) (completion : Completion) (timeout : Nat) (t : PendingTable) :
      Moves (.insert id completion timeout) t
        (.tell (t.insert id completion timeout).1.toList) (t.insert id completion timeout).2 []
  | setTimer (id : UInt64) (token : Nat) (t : PendingTable) :
      Moves (.setTimer id token) t .ended (t.setTimer id token).2 []
  | take (id : UInt64) (purpose : Purpose) (t : PendingTable) :
      Moves (.take id purpose) t
        (((t.take id).1.map fun p ↦ purpose.next p).getD .ended) (t.take id).2 []
  | judge (p : Pending) (t : PendingTable) :
      Moves (.judge p) t (.tell [p.completion.fail (t.timeoutError p)]) t []
  | mark (p : Pending) (reason : String) (t : PendingTable) :
      Moves (.mark p reason) t (.tell [p.completion.fail (t.writeError p.id reason)])
        (t.markFailed p.ticket reason) []
  | scan (failure : Option TransportError) (t : PendingTable) :
      Moves (.scan failure) t (.scanning failure t.tickets) t []
  /-- What was there when the scan began and still is has been found. -/
  | found (failure : Option TransportError) (owed : List Nat) (ids : List UInt64)
      (t : PendingTable) (h : ∀ x ∈ t.keys, x.2 ∈ owed → x.1 ∈ ids) :
      Moves (.scanning failure owed) t (.drain failure ids []) t []
  | drain (failure : Option TransportError) (id : UInt64) (rest : List UInt64)
      (taken : List Pending) (t : PendingTable) :
      Moves (.drain failure (id :: rest) taken) t
        (.drain failure rest (taken ++ (t.take id).1.toList)) (t.take id).2 []
  | drained (failure : Option TransportError) (taken : List Pending) (t : PendingTable) :
      Moves (.drain failure [] taken) t (conclude taken failure) t []
  | settle (before : List Pending) (p : Pending) (after : List Pending) (v : Verdict)
      (t : PendingTable) :
      Moves (.hold (before ++ p :: after)) t (.hold (before ++ after)) t [v.deliver p.completion]
  | tell (d : Delivery) (ds : List Delivery) (t : PendingTable) :
      Moves (.tell (d :: ds)) t (.tell ds) t [d]

/-! ## What a move keeps -/

@[simp]
theorem Verdict.ticket_deliver (c : Completion) (v : Verdict) :
    (v.deliver c).ticket = c.ticket := by
  cases v with
  | fail e => rfl
  | succeed r => exact c.ticket_succeed r

theorem Purpose.tickets_next (p : Pending) (purpose : Purpose) :
    (purpose.next p).tickets = [p.ticket] := by
  cases purpose with
  | keep => rfl
  | expire => rfl
  | failWrite reason => rfl

theorem Purpose.tickets_getD (o : Option Pending) (purpose : Purpose) :
    ((o.map fun p ↦ purpose.next p).getD .ended).tickets =
      o.toList.map Pending.ticket := by
  cases o with
  | none => rfl
  | some p => exact purpose.tickets_next p

theorem tickets_conclude (taken : List Pending) (failure : Option TransportError) :
    (conclude taken failure).tickets = taken.map Pending.ticket := by
  cases failure with
  | none => rfl
  | some e => exact List.map_map ..

variable {k k' : Task} {t t' : PendingTable} {ds : List Delivery}

theorem Moves.nodup_ids (h : Moves k t k' t' ds) (ht : t.ids.Nodup) : t'.ids.Nodup := by
  cases h with
  | insert id completion timeout => exact nodup_ids_insert ht id completion timeout
  | setTimer id token => rwa [ids_setTimer]
  | take id | drain _ id => exact nodup_ids_take ht id
  | judge | mark | scan | found | drained | settle | tell => exact ht

/-- No task enters more than the request it started with. -/
theorem Moves.entering_eq_nil (h : Moves k t k' t' ds) : k'.entering = [] := by
  cases h with
  | take id purpose =>
    cases (t.take id).1 with
    | none => rfl
    | some p =>
      cases purpose with
      | keep | expire | failWrite => rfl
  | drained failure =>
    cases failure with
    | none | some => rfl
  | insert | setTimer | judge | mark | scan | found | drain | settle | tell => rfl

/-- Only the marks of the write states change, not how many there are. -/
theorem Moves.length_writes (h : Moves k t k' t' ds) : t'.writes.length = t.writes.length := by
  cases h with
  | mark p reason => exact List.length_modify ..
  | insert | setTimer | take | drain | judge | scan | found | drained | settle | tell => rfl

/-- **A move passes requests on.** What the task, the table and the callers have afterwards is what
the task and the table had before. -/
theorem Moves.conserves (h : Moves k t k' t' ds) (ht : t.ids.Nodup) (a : Nat) :
    k'.tickets.count a + t'.tickets.count a + (ds.map Delivery.ticket).count a =
      k.tickets.count a + t.tickets.count a := by
  cases h with
  -- The task has lost its request to the table, and has the one that gave way instead.
  | insert id completion timeout =>
    have htake := count_tickets_take ht id a
    rw [Task.tickets_tell, tickets_insert_fst, tickets_insert, List.count_append,
      Task.tickets_insert, List.map_nil, List.count_nil]
    omega
  | setTimer id token =>
    rw [tickets_setTimer]
    rfl
  | take id purpose =>
    have htake := count_tickets_take ht id a
    rw [purpose.tickets_getD, htake]
    exact (Nat.zero_add _).symm
  | drain failure id rest taken =>
    have htake := count_tickets_take ht id a
    rw [Task.tickets_drain, Task.tickets_drain, List.map_append, List.count_append, List.map_nil,
      List.count_nil]
    omega
  | drained failure taken =>
    rw [tickets_conclude]
    rfl
  | settle before p after v =>
    rw [Task.tickets_hold, Task.tickets_hold, List.map_append, List.map_append, List.count_append,
      List.count_append, List.map_cons, List.map_cons, List.map_nil, v.ticket_deliver,
      List.count_cons, List.count_cons, List.count_nil, Pending.ticket]
    omega
  | tell d ds =>
    rw [Task.tickets_tell, Task.tickets_tell, List.map_cons, List.map_cons, List.map_nil,
      List.count_cons, List.count_cons, List.count_nil]
    omega
  | judge | mark | scan | found => rfl

/-- A move for a request that is not there is the last one of its task and changes nothing. -/
theorem Moves.take_of_not_contains {id : UInt64} {purpose : Purpose}
    (h : Moves (.take id purpose) t k' t' ds) (hid : t.contains id = false) :
    k' = .ended ∧ t' = t ∧ ds = [] := by
  cases h
  rw [PendingTable.take_of_not_contains hid]
  exact ⟨rfl, rfl, rfl⟩

/-! ## What a drain is still to take -/

/-- A drain covers an id, with the ticket of its request, that it will come to. -/
def Task.Covers (k : Task) (x : UInt64 × Nat) : Prop :=
  match k with
  | scan _ => True
  | scanning _ owed => x.2 ∈ owed
  | drain _ rest _ => x.1 ∈ rest
  | _ => False

/-- Only a task that enters a request makes an entry. -/
theorem Moves.mem_keys (h : Moves k t k' t' ds) {x : UInt64 × Nat} (hx : x ∈ t'.keys) :
    x ∈ t.keys ∨ ∃ completion timeout, k = .insert x.1 completion timeout := by
  cases h with
  | insert id completion timeout =>
    rw [keys_insert, List.mem_append, List.mem_singleton] at hx
    rcases hx with hx | rfl
    · exact .inl (mem_keys_take.mp hx).1
    · exact .inr ⟨completion, timeout, rfl⟩
  | setTimer id token =>
    rw [keys_setTimer] at hx
    exact .inl hx
  | take | drain => exact .inl (mem_keys_take.mp hx).1
  | judge | mark | scan | found | drained | settle | tell => exact .inl hx

/-- **A drain takes out what it covers** before it stops to cover it. -/
theorem Moves.covers (h : Moves k t k' t' ds) {x : UInt64 × Nat} (hx : x ∈ t'.keys)
    (hk : k.Covers x) : k'.Covers x := by
  cases h with
  | scan failure =>
    change x.2 ∈ t.tickets
    rw [tickets_eq_keys]
    exact List.mem_map_of_mem hx
  | found failure owed ids _ h => exact h x hx hk
  | drain failure id rest taken =>
    rcases List.mem_cons.mp hk with hid | hrest
    · exact absurd hid (mem_keys_take.mp hx).2
    · exact hrest
  | drained => exact nomatch hk
  | insert | setTimer | take | judge | mark | settle | tell => exact hk.elim

/-! ## Where a task ends -/

/-- The task has no move at any table. -/
def Task.Ended (k : Task) : Prop := ∀ t k' t' ds, ¬ Moves k t k' t' ds

theorem Task.ended_tell_nil : Task.ended.Ended := fun _ _ _ _ h ↦ nomatch h

/-- **A task that has a request can move**, so none ends with a request in its hands. -/
theorem Task.Ended.tickets_eq_nil (h : k.Ended) : k.tickets = [] := by
  have t := PendingTable.empty "" ""
  cases k with
  | insert id completion timeout => exact absurd (.insert id completion timeout t) (h _ _ _ _)
  | judge p => exact absurd (.judge p t) (h _ _ _ _)
  | mark p reason => exact absurd (.mark p reason t) (h _ _ _ _)
  | drain failure rest taken =>
    cases rest with
    | nil => exact absurd (.drained failure taken t) (h _ _ _ _)
    | cons id rest => exact absurd (.drain failure id rest taken t) (h _ _ _ _)
  | hold ps =>
    cases ps with
    | nil => rfl
    | cons p ps => exact absurd (.settle [] p ps (.fail (.internal "")) t) (h _ _ _ _)
  | tell ds =>
    cases ds with
    | nil => rfl
    | cons d ds => exact absurd (.tell d ds t) (h _ _ _ _)
  | setTimer | take | scan | scanning => rfl

/-! ## A task that nobody interrupts -/

/-- The moves of a task while no other moves, and whom it tells in them. -/
inductive Runs : Task → PendingTable → Task → PendingTable → List Delivery → Prop where
  | refl (k : Task) (t : PendingTable) : Runs k t k t []
  | move {k k' k'' : Task} {t t' t'' : PendingTable} {ds ds' : List Delivery}
      (h : Moves k t k' t' ds) (hs : Runs k' t' k'' t'' ds') : Runs k t k'' t'' (ds ++ ds')

theorem Runs.trans {k'' : Task} {t'' : PendingTable} {ds' : List Delivery}
    (h : Runs k t k' t' ds) (hs : Runs k' t' k'' t'' ds') : Runs k t k'' t'' (ds ++ ds') := by
  induction h with
  | refl => exact hs
  | move h _ ih =>
    rw [List.append_assoc]
    exact .move h (ih hs)

theorem runs_tell (ds : List Delivery) (t : PendingTable) : Runs (.tell ds) t .ended t ds := by
  induction ds with
  | nil => exact .refl _ _
  | cons d ds ih => exact .move (.tell d ds t) ih

theorem runs_insert (id : UInt64) (completion : Completion) (timeout : Nat) (t : PendingTable) :
    Runs (.insert id completion timeout) t .ended (t.insert id completion timeout).2
      (t.insert id completion timeout).1.toList :=
  .move (.insert id completion timeout t) (runs_tell _ _)

theorem runs_take {id : UInt64} {p : Pending} (h : t.take id = (some p, t')) (purpose : Purpose)
    (hs : Runs (purpose.next p) t' k' t'' ds) : Runs (.take id purpose) t k' t'' ds := by
  have hmove := Moves.take id purpose t
  rw [h] at hmove
  exact .move hmove hs

theorem runs_take_none {id : UInt64} (h : t.take id = (none, t')) (purpose : Purpose) :
    Runs (.take id purpose) t .ended t' [] := by
  have hmove := Moves.take id purpose t
  rw [h] at hmove
  exact .move hmove (.refl _ _)

theorem runs_expire (id : UInt64) (t : PendingTable) :
    Runs (.take id .expire) t .ended (t.expire id).2 (t.expire id).1.toList := by
  rw [expire]
  rcases htake : t.take id with ⟨_ | p, t'⟩
  · exact runs_take_none htake _
  · exact runs_take htake .expire (.move (.judge p t') (runs_tell _ _))

theorem runs_failWrite (id : UInt64) (reason : String) (t : PendingTable) :
    Runs (.take id (.failWrite reason)) t .ended (t.failWrite id reason).2
      (t.failWrite id reason).1.toList := by
  rw [failWrite]
  rcases htake : t.take id with ⟨_ | p, t'⟩
  · exact runs_take_none htake _
  · have hid : p.id = id := id_of_find? (congrArg Prod.fst htake)
    have hmark := Runs.move (.mark p reason t')
      (runs_tell [p.completion.fail (t'.writeError p.id reason)] (t'.markFailed p.ticket reason))
    rw [hid] at hmark
    exact runs_take htake (.failWrite reason) hmark

theorem runs_takeAll (failure : Option TransportError) (ids : List UInt64) (taken : List Pending)
    (t : PendingTable) :
    Runs (.drain failure ids taken) t (.drain failure [] (taken ++ (t.takeAll ids).1))
      (t.takeAll ids).2 [] := by
  induction ids generalizing taken t with
  | nil =>
    rw [takeAll, List.append_nil]
    exact .refl _ _
  | cons id ids ih =>
    have hrest := ih (taken ++ (t.take id).1.toList) (t.take id).2
    rw [List.append_assoc] at hrest
    exact .move (.drain failure id ids taken t) hrest

theorem runs_drain (failure : Option TransportError) (t : PendingTable) :
    Runs (.scan failure) t (conclude t.drain.1 failure) t.drain.2 [] := by
  have hfound : ∀ x ∈ t.keys, x.2 ∈ t.tickets → x.1 ∈ t.ids := fun x hx _ ↦ by
    rw [ids_eq_keys]
    exact List.mem_map_of_mem hx
  have hscan : Runs (.scan failure) t (.drain failure t.ids []) t [] :=
    .move (.scan failure t) (.move (.found failure t.tickets t.ids t hfound) (.refl _ _))
  exact (hscan.trans (runs_takeAll failure t.ids [] t)).trans
    (.move (.drained failure t.drain.1 t.drain.2) (.refl _ _))

theorem runs_failAll (e : TransportError) (t : PendingTable) :
    Runs (.scan (some e)) t .ended (t.failAll e).2 (t.failAll e).1 :=
  (runs_drain (some e) t).trans (runs_tell _ _)

end PendingTable

end RpcTransport
