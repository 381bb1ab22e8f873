import RpcTransport.Proofs.Connection.Custody
import RpcTransport.Proofs.Pending.Timers
import RpcTransport.Proofs.TimingWheel.Tokens

/-!
# Arming and disarming

A submission asks for a deadline after it has entered its request, and only then notes the token
with it. If the request was resolved meanwhile it finds nothing to note the token in, and cancels
the deadline itself; from then on whoever takes out the request finds the token. A response cancels
it (`claim`). A failed write and the drain of a shutdown do not: what they take out is *lost* to the
deadline, which goes on (`Task.loses`).

A deadline that is asked for is *heeded* while somebody will disarm it: a request that has noted its
token, the submission that is to note or to cancel it, or the response that is to cancel it
(`Moves.heeds`, `Moves.notes`).
-/

namespace RpcTransport

namespace Connection

variable {k k' : Task} {c c' : Connection} {r : Submission} {token : Nat}

/-! ## Stages -/

namespace Stage

/-- A submission that has asked for its deadline. -/
def asked? : Stage → Option Submission
  | arm r _ | disarm r _ | send r | waiting r | returned r => some r
  | _ => none

/-- A submission between its deadline and the note of it. -/
def arms? : Stage → Option (Nat × Submission)
  | arm r token | disarm r token => some (token, r)
  | _ => none

theorem submission?_of_asked? {stage : Stage} (h : stage.asked? = some r) :
    stage.submission? = some r := by
  cases stage with
  | arm | disarm | send | waiting | returned => exact h
  | _ => exact nomatch h

theorem asked?_of_arms? {stage : Stage} {x : Nat × Submission} (h : stage.arms? = some x) :
    stage.asked? = some x.2 := by
  cases stage with
  | arm | disarm =>
    obtain rfl := Option.some.inj h
    rfl
  | _ => exact nomatch h

end Stage

namespace Task

/-- The deadline that a submission asks for in a move. -/
def asks (k k' : Task) : List (Nat × Submission) :=
  match k.next, k'.next with
  | .schedule r, .arm _ token => [(token, r)]
  | _, _ => []

/-- The request that a move takes out for a failed write or for the end of the connection. -/
def loses (k : Task) (t : PendingTable) : List Nat :=
  match k.call with
  | .take id (.failWrite _) | .drain _ (id :: _) _ => ((t.find? id).map Pending.ticket).toList
  | _ => []

/-- What a task of the connection does at the table, the deadlines apart. -/
def IsOwn (k : Task) : Prop :=
  match k.call with
  | .insert id completion _ => ∃ r, k.next = .recheck r ∧ r.id = id ∧ r.completion = completion
  | .take _ purpose => ∃ reason, purpose = .failWrite reason
  | .scan failure | .scanning failure _ | .drain failure _ _ => failure ≠ none
  | .mark _ _ | .tell _ => True
  | .setTimer _ _ | .judge _ | .hold _ => False

/-- The task will note the token, or cancel it. -/
def Heeds (k : Task) (r : Submission) (token : Nat) : Prop :=
  k.next.arms? = some (token, r) ∨
    ∃ p f, k.next = .claim p f ∧ p.ticket = r.completion.ticket ∧ p.timer = some token

/-- A move asks for one deadline at the most. -/
theorem asks_eq_nil_or (k k' : Task) : k.asks k' = [] ∨ ∃ x, k.asks k' = [x] := by
  rw [asks]
  split
  · exact .inr ⟨_, rfl⟩
  · exact .inl rfl

theorem asks_atTable (call call' : PendingTable.Task) (next : Stage) :
    asks ⟨call, next⟩ ⟨call', next⟩ = [] := by
  cases next with
  | _ => rfl

end Task

/-! ## What a move leaves as it is -/

theorem Moves.isOwn (h : Moves k c k' c') (hk : k.IsOwn) : k'.IsOwn := by
  cases h with
  | atTable h =>
    cases h with
    | insert | mark | tell => trivial
    | take id =>
      obtain ⟨reason, rfl⟩ := hk
      cases hfind : c.table.find? id with
      | none =>
        rw [PendingTable.take, hfind]
        trivial
      | some p =>
        rw [PendingTable.take, hfind]
        trivial
    | scan | found | drain => exact hk
    | drained failure =>
      obtain ⟨e, rfl⟩ := Option.ne_none_iff_exists'.mp hk
      trivial
    | setTimer | judge | settle => exact hk.elim
  | accept _ r => exact ⟨r, rfl, rfl, rfl⟩
  | sendNone | dismissed => exact ⟨_, rfl⟩
  | setReason => exact Option.some_ne_none _
  | _ => trivial

theorem Moves.nextId_eq (h : Moves k c k' c') :
    c'.nextId = c.nextId ∧ c'.generation = c.generation := by
  cases h with
  | send h | sendNone h =>
    obtain ⟨queue, waiting, rfl⟩ := exists_of_enqueue h
    exact ⟨rfl, rfl⟩
  | dispatch =>
    rw [Connection.dispatch]
    split
    dsimp only
    rw [apply_ite nextId, apply_ite generation]
    exact ⟨ite_self _, ite_self _⟩
  | _ => exact ⟨rfl, rfl⟩

theorem Moves.asked? (h : Moves k c k' c') (hk : k.next.asked? = some r) :
    k'.next.asked? = some r := by
  cases h with
  | atTable => exact hk
  | arm | armNone | disarm | send | sendNone | sent | dismissed => exact hk
  | _ => exact nomatch hk

theorem Moves.arms? {x : Nat × Submission} (h : Moves k c k' c') (hk' : k'.next.arms? = some x) :
    k.next.arms? = some x ∨ x ∈ k.asks k' := by
  cases h with
  | atTable | armNone => exact .inl hk'
  | schedule _ r =>
    obtain rfl := Option.some.inj hk'
    exact .inr List.mem_cons_self
  | _ => exact nomatch hk'

/-- A request is entered by its own submission. -/
theorem Moves.keys (h : Moves k c k' c') (hk : k.IsOwn) {x : UInt64 × Nat}
    (hx : x ∈ c'.table.keys) :
    x ∈ c.table.keys ∨ ∃ r, k.submission? = some r ∧ x = (r.id, r.completion.ticket) := by
  cases h with
  | atTable h =>
    cases h with
    | insert _ _ timeout =>
      obtain ⟨r, hnext, rfl, rfl⟩ := hk
      change x ∈ (c.table.insert r.id r.completion timeout).2.keys at hx
      rw [PendingTable.keys_insert, List.mem_append, List.mem_singleton] at hx
      rcases hx with hx | rfl
      · exact .inl (PendingTable.mem_keys_take.mp hx).1
      · refine .inr ⟨r, ?_, rfl⟩
        rw [Task.submission?, hnext]
        rfl
    | take | drain => exact .inl (PendingTable.mem_keys_take.mp hx).1
    | mark | scan | found | drained | tell => exact .inl hx
    | setTimer | judge | settle => exact hk.elim
  | @withdraw _ r p t h | @answer _ r p t h =>
    have hkeys := @PendingTable.mem_keys_take c.table r.id x
    rw [h] at hkeys
    exact .inl (hkeys.mp hx).1
  | @arm _ r token t h =>
    have hkeys := c.table.keys_setTimer r.id token
    rw [h] at hkeys
    exact .inl (hkeys ▸ hx)
  | send h | sendNone h =>
    obtain ⟨queue, waiting, rfl⟩ := exists_of_enqueue h
    exact .inl hx
  | dispatch =>
    rw [table_dispatch] at hx
    exact .inl hx
  | _ => exact .inl hx

/-! ## Deadlines -/

/-- **What a move asks of the wheel**: a deadline for its own submission, if it asks for any. No
other token comes into use, or to life. -/
structure Asks (k : Task) (c : Connection) (k' : Task) (c' : Connection) : Prop where
  requests : c'.wheel.requests = c.wheel.requests ++
    (k.asks k').map fun x ↦ (x.1, c.generation, x.2.id)
  nextToken_eq : c'.wheel.nextToken = c.wheel.nextToken + (k.asks k').length
  asked : ∀ x ∈ k.asks k', x.1 = c.wheel.nextToken ∧ k.next = .schedule x.2 ∧
    k'.next.arms? = some x
  live : ∀ token, c'.wheel.Live token → c.wheel.Live token ∨ ∃ x ∈ k.asks k', x.1 = token

theorem asks_of_wheel (hasks : k.asks k' = []) (hwheel : c'.wheel = c.wheel) :
    Asks k c k' c' := by
  constructor
  · rw [hasks, hwheel]
    exact (List.append_nil _).symm
  · rw [hasks, hwheel]
    rfl
  · rw [hasks]
    exact List.forall_mem_nil _
  · rw [hwheel]
    exact fun _ ↦ .inl

theorem asks_of_cancel {token : Nat} (hasks : k.asks k' = [])
    (hwheel : c'.wheel = c.wheel.cancel token) : Asks k c k' c' := by
  constructor
  · rw [hasks, hwheel, TimingWheel.requests_cancel]
    exact (List.append_nil _).symm
  · rw [hasks, hwheel]
    rfl
  · rw [hasks]
    exact List.forall_mem_nil _
  · rw [hwheel]
    exact fun _ hlive ↦ .inl (TimingWheel.live_cancel_iff.mp hlive).1

theorem wheel_dispatch (c : Connection) (completion : Completion) (f : Frame) :
    (c.dispatch completion f).wheel = c.wheel := by
  rw [dispatch]
  split
  dsimp only
  rw [apply_ite wheel]
  exact ite_self _

theorem Moves.asks (h : Moves k c k' c') : Asks k c k' c' := by
  cases h with
  | atTable h next => exact asks_of_wheel (Task.asks_atTable _ _ next) rfl
  | schedule _ r =>
    constructor
    · exact TimingWheel.requests_schedule ..
    · rfl
    · exact List.forall_mem_singleton.mpr ⟨rfl, rfl, rfl⟩
    · intro token hlive
      refine (TimingWheel.live_schedule_iff.mp hlive).imp_right fun htoken ↦ ?_
      exact ⟨_, List.mem_singleton.mpr rfl, htoken⟩
  | disarm => exact asks_of_cancel rfl rfl
  | claim _ p =>
    cases htimer : p.timer with
    | none => exact asks_of_wheel rfl (by rw [Connection.claim, htimer]; rfl)
    | some token => exact asks_of_cancel rfl (by rw [Connection.claim, htimer]; rfl)
  | send h | sendNone h =>
    obtain ⟨queue, waiting, rfl⟩ := exists_of_enqueue h
    exact asks_of_wheel rfl rfl
  | dispatch => exact asks_of_wheel rfl (wheel_dispatch ..)
  | _ => exact asks_of_wheel rfl rfl

/-- **A task that heeds a deadline disarms it**, or leaves this to the request. -/
theorem Moves.heeds (h : Moves k c k' c') (hk : k.Heeds r token) (hlive : c'.wheel.Live token)
    (hkeys : ∀ x ∈ c.table.keys, x.1 = r.id → x.2 = r.completion.ticket) :
    k'.Heeds r token ∨ c'.table.Notes r.id r.completion.ticket token := by
  cases h with
  | atTable => exact .inl hk
  | @arm _ r' token' t h =>
    rcases hk with hk | ⟨p, f, hnext, -⟩
    · obtain ⟨rfl, rfl⟩ := Prod.mk.inj (Option.some.inj hk)
      right
      have hcontains : c.table.contains r'.id = true := congrArg Prod.fst h
      obtain ⟨p, hp⟩ := Option.isSome_iff_exists.mp hcontains
      have hnotes := PendingTable.notes_setTimer hp token'
      rw [h] at hnotes
      exact hkeys _ (PendingTable.mem_keys_of_find? hp) rfl ▸ hnotes
    · exact nomatch hnext
  | armNone =>
    rcases hk with hk | ⟨p, f, hnext, -⟩
    · exact .inl (.inl hk)
    · exact nomatch hnext
  | disarm _ r' token' =>
    rcases hk with hk | ⟨p, f, hnext, -⟩
    · obtain ⟨rfl, rfl⟩ := Prod.mk.inj (Option.some.inj hk)
      exact absurd rfl (TimingWheel.live_cancel_iff.mp hlive).2
    · exact nomatch hnext
  | claim _ p f =>
    rcases hk with hk | ⟨p', f', hnext, -, htimer⟩
    · exact nomatch hk
    · obtain ⟨rfl, rfl⟩ := Stage.claim.inj hnext
      have hwheel : (c.claim p).wheel = c.wheel.cancel token := by
        rw [Connection.claim, htimer]
        rfl
      rw [hwheel] at hlive
      exact absurd rfl (TimingWheel.live_cancel_iff.mp hlive).2
  | _ =>
    rcases hk with hk | ⟨p, f, hnext, -⟩
    · exact nomatch hk
    · exact nomatch hnext

/-- **A request that has noted its deadline keeps the note**, until a response takes it out, or it
is lost. -/
theorem Moves.notes (h : Moves k c k' c') (hk : k.IsOwn)
    (hpast : ∀ r', k.submission? = some r' → r'.id = r.id →
      k.next.asked? = some r' ∧ ∀ x, k.next.arms? = some x → x.1 = token)
    (hnotes : c.table.Notes r.id r.completion.ticket token) :
    c'.table.Notes r.id r.completion.ticket token ∨ k'.Heeds r token ∨
      r.completion.ticket ∈ k.loses c.table := by
  obtain ⟨p, hp, hticket, htimer⟩ := hnotes
  have hnotes : c.table.Notes r.id r.completion.ticket token := ⟨p, hp, hticket, htimer⟩
  have hlost : r.completion.ticket ∈ ((c.table.find? r.id).map Pending.ticket).toList := by
    rw [hp]
    exact List.mem_singleton.mpr hticket.symm
  cases h with
  | @atTable _ _ _ _ _ h next =>
    cases h with
    | insert =>
      obtain ⟨r', hnext, rfl, -⟩ := hk
      obtain rfl : next = .recheck r' := hnext
      by_cases hid : r'.id = r.id
      · exact nomatch (hpast r' rfl hid).1
      · exact .inl (hnotes.of_find? (PendingTable.find?_insert_of_ne hid _ _))
    | take id =>
      obtain ⟨reason, rfl⟩ := hk
      by_cases hid : id = r.id
      · exact .inr (.inr (hid ▸ hlost))
      · exact .inl (hnotes.of_find? (PendingTable.find?_take_of_ne _ hid))
    | drain _ id =>
      by_cases hid : id = r.id
      · exact .inr (.inr (hid ▸ hlost))
      · exact .inl (hnotes.of_find? (PendingTable.find?_take_of_ne _ hid))
    | mark | scan | found | drained | tell => exact .inl hnotes
    | setTimer | judge | settle => exact hk.elim
  | @withdraw _ r' p' t h =>
    by_cases hid : r'.id = r.id
    · exact nomatch (hpast r' rfl hid).1
    · have hfind := PendingTable.find?_take_of_ne c.table hid
      rw [h] at hfind
      exact .inl (hnotes.of_find? hfind)
  | @arm _ r' token' t h =>
    by_cases hid : r'.id = r.id
    · obtain rfl : token' = token := (hpast r' rfl hid).2 _ rfl
      have hagain := PendingTable.notes_setTimer hp token'
      rw [← hid, h] at hagain
      rw [← hid]
      exact .inl (hticket ▸ hagain)
    · have hfind := PendingTable.find?_setTimer_of_ne (t := c.table) hid token'
      rw [h] at hfind
      exact .inl (hnotes.of_find? hfind)
  | @answer _ f p' t h =>
    by_cases hid : f.id = r.id
    · have hfound : c.table.find? f.id = some p' := congrArg Prod.fst h
      rw [hid, hp] at hfound
      obtain rfl := Option.some.inj hfound
      exact .inr (.inl (.inr ⟨p, f, rfl, hticket, htimer⟩))
    · have hfind := PendingTable.find?_take_of_ne c.table hid
      rw [h] at hfind
      exact .inl (hnotes.of_find? hfind)
  | send h | sendNone h =>
    obtain ⟨queue, waiting, rfl⟩ := exists_of_enqueue h
    exact .inl hnotes
  | dispatch =>
    rw [table_dispatch]
    exact .inl hnotes
  | _ => exact .inl hnotes

end Connection

end RpcTransport
