import Mathlib.Logic.Relation
import RpcTransport.Proofs.Connection.Custody
import RpcTransport.Proofs.Pending.ExactlyOnce

/-!
# Submissions against a shutdown

Any number of tasks on one connection, in any order of their moves, together with its workers and
with whoever else changes what the tasks do not look at.

The flag is set before the drain and looked at again after the entry. So an entry of a closed
connection always has a task that covers it: the drain, if the entry was there when the flag was
set, and otherwise the submission that made it, which did so after it found the flag not set and
will find it set now. When the drain is over and the submissions have returned, nobody covers
anything, and there is no entry left.
-/

namespace RpcTransport

namespace Connection

open PendingTable (count_flatMap_set lt_succ_ite)

/-! ## The system -/

structure System where
  connection : Connection
  tasks : List Task

/-- A task that is not a submission begins. -/
inductive Task.Arrives : Task → Prop where
  | shutdown (reason : TransportError) : Arrives ⟨.ended, .close reason⟩
  | response (f : Frame) : Arrives ⟨.ended, .answer f⟩
  | deadline (id : UInt64) : Arrives ⟨.take id .expire, .ended⟩
  | failedWrite (id : UInt64) (reason : String) : Arrives ⟨.take id (.failWrite reason), .ended⟩

namespace System

def start (info : ConnectionInfo) (config : ConnectionConfig) (registry : Registry)
    (processors : Nat) (dispatch : DispatchConfig) (leastDelay : Nat) : System :=
  ⟨{ Connection.start info config registry (.ofConfig registry processors dispatch) with
    leastDelay := leastDelay }, []⟩

inductive Step : System → System → Prop where
  /-- A submission takes an id and a ticket. -/
  | submit (kind : CompletionKind) (body : Bytes) (timeout : Option Nat) (s : System) :
      Step s ⟨(s.connection.begin kind body timeout).2,
        s.tasks ++ [⟨.ended, .check (s.connection.begin kind body timeout).1⟩]⟩
  | arrive {k : Task} (hk : k.Arrives) (s : System) : Step s ⟨s.connection, s.tasks ++ [k]⟩
  | move (i : Nat) {k k' : Task} {c : Connection} {s : System} (hi : s.tasks[i]? = some k)
      (h : Moves k s.connection k' c) : Step s ⟨c, s.tasks.set i k'⟩
  /-- A worker takes a job. -/
  | work {d : Dispatcher} {s : System} (h : s.connection.dispatcher.take = some d) :
      Step s ⟨{ s.connection with dispatcher := d }, s.tasks⟩
  /-- A worker finishes a job, any of those that are being done. -/
  | finish {held : DecodeJob → Bool} {job : DecodeJob} {d : Dispatcher} {s : System}
      (h : s.connection.dispatcher.finish held = some (job, d)) :
      Step s ⟨({ s.connection with dispatcher := d } : Connection).finishDecoding job, s.tasks⟩
  /-- The writer notes something about the write of a request. -/
  | note (ticket : Nat) (f : WriteState → WriteState) (s : System) :
      Step s ⟨{ s.connection with table := { s.connection.table with
        writes := s.connection.table.writes.modify ticket f } }, s.tasks⟩
  /-- Ids are given out, frames are queued and written, bodies come and go, time passes. -/
  | elsewhere (nextId : UInt64) (heartbeat : Heartbeat) (queue waiting : List Outbound)
      (queueOpen : Bool) (wheel : TimingWheel Nat) (arena : Arena) (nextWaiter : Nat)
      (notices : List (Nat × WriteNotice)) (s : System) :
      Step s ⟨{ s.connection with
        nextId := nextId, heartbeat := heartbeat, queue := queue, waiting := waiting
        queueOpen := queueOpen, wheel := wheel, arena := arena, nextWaiter := nextWaiter
        notices := notices }, s.tasks⟩

/-! ## The invariant -/

structure Sound (s : System) : Prop where
  nodup_ids : s.connection.table.ids.Nodup
  /-- Every ticket that was issued is in one place, and no other is anywhere. -/
  count_eq : ∀ a, (s.tasks.flatMap Task.tickets).count a + s.connection.table.tickets.count a +
    s.connection.settled.count a = if a < s.connection.table.writes.length then 1 else 0
  issued : ∀ k ∈ s.tasks, ∀ r, k.submission? = some r →
    r.completion.ticket < s.connection.table.writes.length
  enters : ∀ k ∈ s.tasks, k.Enters
  closed_of_won : ∀ k ∈ s.tasks, k.next.Won → s.connection.closed = true
  won_unique : ∀ (i j : Nat) (k l : Task), s.tasks[i]? = some k → s.tasks[j]? = some l →
    k.next.Won → l.next.Won → i = j
  covered : s.connection.closed = true → ∀ x ∈ s.connection.table.keys, ∃ k ∈ s.tasks, k.Covers x

theorem sound_start (info : ConnectionInfo) (config : ConnectionConfig) (registry : Registry)
    (processors : Nat) (dispatch : DispatchConfig) (leastDelay : Nat) :
    (start info config registry processors dispatch leastDelay).Sound where
  nodup_ids := List.nodup_nil
  count_eq _ := rfl
  issued _ hk := nomatch hk
  enters _ hk := nomatch hk
  closed_of_won _ hk := nomatch hk
  won_unique _ _ _ _ hi := nomatch hi
  covered hclosed := nomatch hclosed

variable {s s' : System} {k k' : Task} {c : Connection}

/-- What the tasks do not look at may change, and new tickets may be issued. -/
theorem Sound.of_keys (hs : s.Sound) (hkeys : c.table.keys = s.connection.table.keys)
    (hclosed : c.closed = s.connection.closed)
    (hwrites : c.table.writes.length = s.connection.table.writes.length)
    (hsettled : ∀ a, c.settled.count a = s.connection.settled.count a) :
    Sound ⟨c, s.tasks⟩ where
  nodup_ids := by
    rw [PendingTable.ids_eq_keys, hkeys, ← PendingTable.ids_eq_keys]
    exact hs.nodup_ids
  count_eq a := by
    rw [PendingTable.tickets_eq_keys, hkeys, ← PendingTable.tickets_eq_keys, hsettled, hwrites]
    exact hs.count_eq a
  issued l hl r hr := by
    rw [hwrites]
    exact hs.issued l hl r hr
  enters := hs.enters
  closed_of_won l hl hwon := by
    rw [hclosed]
    exact hs.closed_of_won l hl hwon
  won_unique := hs.won_unique
  covered hc x hx := hs.covered (hclosed ▸ hc) x (hkeys ▸ hx)

/-- A task that begins has no request but a new one, and covers nothing. -/
theorem Sound.append (hs : s.Sound) (hkeys : c.table.keys = s.connection.table.keys)
    (hclosed : c.closed = s.connection.closed) (hsettled : c.settled = s.connection.settled)
    (hwrites : s.connection.table.writes.length ≤ c.table.writes.length)
    (htickets : ∀ a, k.tickets.count a + (if a < s.connection.table.writes.length then 1 else 0) =
      if a < c.table.writes.length then 1 else 0)
    (hissued : ∀ r, k.submission? = some r → r.completion.ticket < c.table.writes.length)
    (henters : k.Enters) (hwon : ¬ k.next.Won) : Sound ⟨c, s.tasks ++ [k]⟩ where
  nodup_ids := by
    rw [PendingTable.ids_eq_keys, hkeys, ← PendingTable.ids_eq_keys]
    exact hs.nodup_ids
  count_eq a := by
    have hcount := hs.count_eq a
    have hnew := htickets a
    rw [PendingTable.tickets_eq_keys, hkeys, ← PendingTable.tickets_eq_keys, hsettled,
      List.flatMap_append, List.count_append, List.flatMap_singleton, ← hnew]
    omega
  issued l hl r hr := by
    rcases List.mem_append.mp hl with hl | hl
    · exact Nat.lt_of_lt_of_le (hs.issued l hl r hr) hwrites
    · obtain rfl := List.mem_singleton.mp hl
      exact hissued r hr
  enters l hl := by
    rcases List.mem_append.mp hl with hl | hl
    · exact hs.enters l hl
    · obtain rfl := List.mem_singleton.mp hl
      exact henters
  closed_of_won l hl hl' := by
    rcases List.mem_append.mp hl with hl | hl
    · rw [hclosed]
      exact hs.closed_of_won l hl hl'
    · obtain rfl := List.mem_singleton.mp hl
      exact absurd hl' hwon
  won_unique i j l m hl hm hl' hm' := by
    have hold : ∀ {i : Nat} {l : Task}, (s.tasks ++ [k])[i]? = some l → l.next.Won →
        s.tasks[i]? = some l := by
      intro i l hl hl'
      rw [List.getElem?_append] at hl
      split at hl
      · exact hl
      · obtain rfl := List.mem_singleton.mp (List.mem_of_getElem? hl)
        exact absurd hl' hwon
    exact hs.won_unique i j l m (hold hl hl') (hold hm hm') hl' hm'
  covered hc x hx := by
    obtain ⟨l, hl, hcov⟩ := hs.covered (hclosed ▸ hc) x (hkeys ▸ hx)
    exact ⟨l, List.mem_append_left _ hl, hcov⟩

private theorem getElem?_set_or {i j : Nat} {ks : List Task} {l : Task}
    (h : (ks.set i k')[j]? = some l) : (i = j ∧ k' = l) ∨ ks[j]? = some l := by
  rw [List.getElem?_set] at h
  split at h
  · next hij =>
    split at h
    · exact .inl ⟨hij, Option.some.inj h⟩
    · exact nomatch h
  · exact .inr h

/-- A task that won is the only one, also if it does so in this move. -/
private theorem Sound.eq_of_won (hs : s.Sound) {i j : Nat} {l : Task}
    (hi : s.tasks[i]? = some k) (h : Moves k s.connection k' c) (hj : s.tasks[j]? = some l)
    (hk' : k'.next.Won) (hl : l.next.Won) : i = j := by
  rcases h.won hk' with hk | ⟨hc, -⟩
  · exact hs.won_unique i j k l hi hj hk hl
  · exact nomatch hc.symm.trans (hs.closed_of_won l (List.mem_of_getElem? hj) hl)

theorem Sound.move (hs : s.Sound) {i : Nat} (hi : s.tasks[i]? = some k)
    (h : Moves k s.connection k' c) : Sound ⟨c, s.tasks.set i k'⟩ := by
  have hk : k ∈ s.tasks := List.mem_of_getElem? hi
  have hk' : k' ∈ s.tasks.set i k' := by
    obtain ⟨hlt, -⟩ := List.getElem?_eq_some_iff.mp hi
    exact List.mem_set hlt k'
  refine ⟨h.nodup_ids hs.nodup_ids, ?_, ?_, ?_, ?_, ?_, ?_⟩
  · intro a
    have hcount := hs.count_eq a
    have hmove := h.conserves hs.nodup_ids a
    have hset := count_flatMap_set Task.tickets hi k' a
    change ((s.tasks.set i k').flatMap Task.tickets).count a + c.table.tickets.count a +
      c.settled.count a = if a < c.table.writes.length then 1 else 0
    rw [h.length_writes]
    omega
  · intro l hl r hr
    rw [h.length_writes]
    rcases List.mem_or_eq_of_mem_set hl with hl | rfl
    · exact hs.issued l hl r hr
    · exact hs.issued k hk r (h.submission?_eq ▸ hr)
  · intro l hl
    rcases List.mem_or_eq_of_mem_set hl with hl | rfl
    · exact hs.enters l hl
    · exact h.enters (hs.enters k hk)
  · intro l hl hwon
    rcases List.mem_or_eq_of_mem_set hl with hl | rfl
    · exact h.closed_of_closed (hs.closed_of_won l hl hwon)
    · rcases h.won hwon with hwon | ⟨-, hc⟩
      · exact h.closed_of_closed (hs.closed_of_won k hk hwon)
      · exact hc
  · intro j m l n hl hn hl' hn'
    rcases getElem?_set_or hl with ⟨rfl, rfl⟩ | hl
    · rcases getElem?_set_or hn with ⟨rfl, -⟩ | hn
      · rfl
      · exact hs.eq_of_won hi h hn hl' hn'
    · rcases getElem?_set_or hn with ⟨rfl, rfl⟩ | hn
      · exact (hs.eq_of_won hi h hl hn' hl').symm
      · exact hs.won_unique j m l n hl hn hl' hn'
  · intro hc x hx
    rcases h.closed hc with hc | hall
    · rcases h.mem_keys (hs.enters k hk) hx with hold | hnew
      -- An old entry keeps its cover, also if the cover is the task that moves.
      · obtain ⟨l, hl, hcov⟩ := hs.covered hc x hold
        rcases PendingTable.mem_set_or_eq hi hl k' with hl | rfl
        · exact ⟨l, hl, hcov⟩
        · exact ⟨k', hk', h.covers hc hx hcov⟩
      · exact ⟨k', hk', hnew⟩
    · exact ⟨k', hk', hall x⟩

theorem Sound.arrive (hs : s.Sound) (hk : k.Arrives) :
    Sound ⟨s.connection, s.tasks ++ [k]⟩ := by
  have htickets : k.tickets = [] := by cases hk with | _ => rfl
  have hnone : k.submission? = none := by cases hk with | _ => rfl
  have henters : k.Enters := by cases hk with | _ => exact fun _ _ _ h ↦ nomatch h
  have hwon : ¬ k.next.Won := by cases hk with | _ => exact not_false
  refine hs.append rfl rfl rfl (Nat.le_refl _) (fun a ↦ ?_) (fun r hr ↦ ?_) henters hwon
  · rw [htickets, List.count_nil, Nat.zero_add]
  · exact nomatch hnone.symm.trans hr

theorem Sound.submit (hs : s.Sound) (kind : CompletionKind) (body : Bytes)
    (timeout : Option Nat) :
    Sound ⟨(s.connection.begin kind body timeout).2,
      s.tasks ++ [⟨.ended, .check (s.connection.begin kind body timeout).1⟩]⟩ := by
  have hwrites : (s.connection.begin kind body timeout).2.table.writes.length =
      s.connection.table.writes.length + 1 := List.length_append
  refine hs.append rfl rfl rfl ?_ (fun a ↦ ?_) (fun r hr ↦ ?_) (fun _ _ _ h ↦ nomatch h) not_false
  · rw [hwrites]
    exact Nat.le_succ _
  · rw [hwrites, lt_succ_ite, Nat.add_comm]
    rfl
  · obtain rfl := Option.some.inj hr
    rw [hwrites]
    exact Nat.lt_succ_self _

theorem Step.sound (h : Step s s') (hs : s.Sound) : s'.Sound := by
  cases h with
  | submit kind body timeout => exact hs.submit kind body timeout
  | arrive hk => exact hs.arrive hk
  | move i hi h => exact hs.move hi h
  | @work d _ h =>
    refine hs.of_keys rfl rfl rfl fun a ↦ ?_
    have hcount := Dispatcher.count_take h a
    change (s.connection.deliveries.map Delivery.ticket ++ d.tickets).count a = _
    rw [settled, List.count_append, List.count_append, hcount]
  | @finish held job d _ h =>
    refine hs.of_keys rfl rfl rfl fun a ↦ ?_
    have hcount := Dispatcher.count_finish h a
    rw [count_settled_finishDecoding, settled, settled, List.count_append, List.count_append,
      Nat.add_assoc, hcount]
  | note ticket f => exact hs.of_keys rfl rfl (List.length_modify ..) fun _ ↦ rfl
  | elsewhere => exact hs.of_keys rfl rfl rfl fun _ ↦ rfl

section Reachable

variable {info : ConnectionInfo} {config : ConnectionConfig} {registry : Registry}
  {processors : Nat} {dispatch : DispatchConfig} {leastDelay : Nat}

theorem sound_of_reachable
    (h : Relation.ReflTransGen Step
      (start info config registry processors dispatch leastDelay) s) :
    s.Sound := by
  induction h with
  | refl => exact sound_start info config registry processors dispatch leastDelay
  | tail _ hstep ih => exact hstep.sound ih

/-! ## After the drain -/

theorem Sound.eq_of_mem (hs : s.Sound) {l : Task} (hk : k ∈ s.tasks) (hl : l ∈ s.tasks)
    (hk' : k.next.Won) (hl' : l.next.Won) : k = l := by
  obtain ⟨i, hi⟩ := List.mem_iff_getElem?.mp hk
  obtain ⟨j, hj⟩ := List.mem_iff_getElem?.mp hl
  obtain rfl := hs.won_unique i j k l hi hj hk' hl'
  exact Option.some.inj (hi.symm.trans hj)

/-- When the drain is over, only a submission can cover an entry, and none that has returned. -/
theorem Sound.keys_eq_nil (hs : s.Sound) (hk : k ∈ s.tasks) (hdrained : k.Drained)
    (hreturned : ∀ l ∈ s.tasks, ∀ r, l.submission? = some r → l = ⟨.ended, .returned r⟩) :
    s.connection.table.keys = [] := by
  refine List.eq_nil_iff_forall_not_mem.mpr fun x hx ↦ ?_
  obtain ⟨l, hl, hcov⟩ := hs.covered (hs.closed_of_won k hk hdrained.won) x hx
  have hother : ¬ l.next.Won := fun hwon ↦
    hdrained.not_covers x (hs.eq_of_mem hl hk hwon hdrained.won ▸ hcov)
  -- The only shutdown that could cover the entry is the one that is done with its drain.
  obtain ⟨call, next⟩ := l
  cases next with
  | recheck r | withdraw r => exact nomatch hreturned _ hl r rfl
  | setReason | cancel => exact hother trivial
  | _ => exact hcov

/-- **No submission that meets a shutdown leaves its request behind.** When the first shutdown is
done with its drain and all submissions have returned, the table is empty, and each request that was
submitted is settled once, unless a response, a deadline or a failed write took it out and has not
come to its end: then nobody else has it, and it is settled once when that one is. -/
theorem submit_never_strands
    (h : Relation.ReflTransGen Step
      (start info config registry processors dispatch leastDelay) s)
    (hdrained : ∃ k ∈ s.tasks, k.Drained)
    (hreturned : ∀ k ∈ s.tasks, ∀ r, k.submission? = some r → k = ⟨.ended, .returned r⟩) :
    s.connection.table.entries = [] ∧
    (∀ k ∈ s.tasks, k.tickets ≠ [] → k.submission? = none ∧ ¬ k.next.Won) ∧
    ∀ k ∈ s.tasks, ∀ r, k.submission? = some r →
      s.connection.settled.count r.completion.ticket +
        (s.tasks.flatMap Task.tickets).count r.completion.ticket = 1 ∧
      ((∀ l ∈ s.tasks, l.submission? = none → l.tickets = []) →
        s.connection.settled.count r.completion.ticket = 1) := by
  have hs := sound_of_reachable h
  obtain ⟨d, hd, hdrained⟩ := hdrained
  have hkeys := hs.keys_eq_nil hd hdrained hreturned
  have hidle : ∀ k ∈ s.tasks, ∀ r, k.submission? = some r → k.tickets = [] := by
    intro k hk r hr
    rw [hreturned k hk r hr]
    rfl
  have hcount : ∀ k ∈ s.tasks, ∀ r, k.submission? = some r →
      s.connection.settled.count r.completion.ticket +
        (s.tasks.flatMap Task.tickets).count r.completion.ticket = 1 := by
    intro k hk r hr
    have hone := hs.count_eq r.completion.ticket
    rw [if_pos (hs.issued k hk r hr), PendingTable.tickets_eq_keys, hkeys, List.map_nil,
      List.count_nil] at hone
    omega
  refine ⟨List.map_eq_nil_iff.mp hkeys, ?_, ?_⟩
  · intro k hk htickets
    refine ⟨?_, fun hwon ↦ ?_⟩
    · cases hr : k.submission? with
      | none => rfl
      | some r => exact absurd (hidle k hk r hr) htickets
    · rw [hs.eq_of_mem hk hd hwon hdrained.won] at htickets
      exact htickets hdrained.tickets_eq_nil
  · intro k hk r hr
    refine ⟨hcount k hk r hr, fun hothers ↦ ?_⟩
    have hnone : s.tasks.flatMap Task.tickets = [] := by
      refine List.flatMap_eq_nil_iff.mpr fun l hl ↦ ?_
      cases hl' : l.submission? with
      | none => exact hothers l hl hl'
      | some r' => exact hidle l hl r' hl'
    have hone := hcount k hk r hr
    rwa [hnone, List.count_nil] at hone

end Reachable

/-- Two submissions find the flag not set. One makes its entry in time for the drain, the other
after the scan, and takes it out again. -/
theorem submit_never_strands_late_entry :
    ∃ s, Relation.ReflTransGen Step
        (start ⟨"connection", "peer", .client, 1⟩ .standard .standard 1 .standard 0) s ∧
      (∃ k ∈ s.tasks, k.Drained) ∧
      (∀ k ∈ s.tasks, ∀ r, k.submission? = some r → k = ⟨.ended, .returned r⟩) ∧
      s.connection.table.entries = [] ∧ s.connection.settled = [1, 0] := by
  have h₁ := Relation.ReflTransGen.single (Step.submit .decoded [] none
    (start ⟨"connection", "peer", .client, 1⟩ .standard .standard 1 .standard 0))
  have h₂ := h₁.tail (.submit .decoded [] none _)
  have h₃ := h₂.tail (.move 0 rfl (.accept rfl _))
  have h₄ := h₃.tail (.move 1 rfl (.accept rfl _))
  have h₅ := h₄.tail (.move 1 rfl (.atTable (.insert _ _ _ _) _))
  have h₆ := h₅.tail (.arrive (.shutdown (.internal "bye")) _)
  have h₇ := h₆.tail (.move 2 rfl (.close rfl _))
  have h₈ := h₇.tail (.move 2 rfl (.setReason _ _))
  have h₉ := h₈.tail (.move 2 rfl (.atTable (.scan _ _) _))
  have h₁₀ := h₉.tail (.move 2 rfl (.atTable (.found _ _ [2] _ (by decide)) _))
  have h₁₁ := h₁₀.tail (.move 0 rfl (.atTable (.insert _ _ _ _) _))
  have h₁₂ := h₁₁.tail (.move 2 rfl (.atTable (.drain _ _ _ _ _) _))
  have h₁₃ := h₁₂.tail (.move 2 rfl (.atTable (.drained _ _ _) _))
  have h₁₄ := h₁₃.tail (.move 2 rfl (.atTable (.tell _ _ _) _))
  have h₁₅ := h₁₄.tail (.move 2 rfl (.cancel _))
  have h₁₆ := h₁₅.tail (.move 1 rfl (.leave rfl _))
  have h₁₇ := h₁₆.tail (.move 1 rfl (.withdrawNone rfl))
  have h₁₈ := h₁₇.tail (.move 0 rfl (.leave rfl _))
  have h₁₉ := h₁₈.tail (.move 0 rfl (.withdraw rfl))
  have h₂₀ := h₁₉.tail (.move 0 rfl (.withdrawn _ _ _))
  have hend : ∀ {s : System} {a b : Submission}, Relation.ReflTransGen Step
        (start ⟨"connection", "peer", .client, 1⟩ .standard .standard 1 .standard 0) s →
      s.tasks = [⟨.ended, .returned a⟩, ⟨.ended, .returned b⟩, ⟨.ended, .through⟩] →
      (∃ k ∈ s.tasks, k.Drained) ∧
      (∀ k ∈ s.tasks, ∀ r, k.submission? = some r → k = ⟨.ended, .returned r⟩) ∧
      s.connection.table.entries = [] := by
    intro s a b h htasks
    have hdrained : ∃ k ∈ s.tasks, k.Drained := by
      rw [htasks]
      exact ⟨_, .tail _ (.tail _ (.head _)), .inr rfl⟩
    have hreturned : ∀ k ∈ s.tasks, ∀ r, k.submission? = some r → k = ⟨.ended, .returned r⟩ := by
      intro k hk r hr
      rw [htasks, List.mem_cons, List.mem_cons, List.mem_singleton] at hk
      rcases hk with rfl | rfl | rfl
      · rw [← Option.some.inj hr]
      · rw [← Option.some.inj hr]
      · exact nomatch hr
    exact ⟨hdrained, hreturned, (submit_never_strands h hdrained hreturned).1⟩
  obtain ⟨hdrained, hreturned, hentries⟩ := hend h₂₀ rfl
  exact ⟨_, h₂₀, hdrained, hreturned, hentries, rfl⟩

end System

end Connection

end RpcTransport
