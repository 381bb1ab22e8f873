import Mathlib.Logic.Relation
import RpcTransport.Proofs.Pending.Tasks

/-!
# Every request is resolved once

Any number of tasks at one table, in any order of their moves. A request has a ticket of its own
from before it is entered, and the invariant counts tickets: at each moment an issued ticket is in
one place only, which is the task that is to enter it, the table, the hands of a task that took it
out, or the list of those that were told. Ids do not matter for this and may be used again at will.
-/

namespace RpcTransport

namespace PendingTable

/-! ## A task among all -/

theorem count_flatMap_set {α : Type} (f : α → List Nat) {ks : List α} {i : Nat} {k : α}
    (h : ks[i]? = some k) (k' : α) (a : Nat) :
    ((ks.set i k').flatMap f).count a + (f k).count a =
      (ks.flatMap f).count a + (f k').count a := by
  induction ks generalizing i with
  | nil => exact nomatch h
  | cons l ks ih =>
    cases i with
    | zero =>
      obtain rfl : l = k := Option.some.inj h
      rw [List.set_cons_zero, List.flatMap_cons, List.flatMap_cons, List.count_append,
        List.count_append]
      omega
    | succ i =>
      have hrest := ih (i := i) h
      rw [List.set_cons_succ, List.flatMap_cons, List.flatMap_cons, List.count_append,
        List.count_append]
      omega

/-- Whoever was there still is, but for the one whose place was taken. -/
theorem mem_set_or_eq {α : Type} {ks : List α} {i : Nat} {k l : α} (h : ks[i]? = some k)
    (hl : l ∈ ks) (k' : α) : l ∈ ks.set i k' ∨ l = k := by
  obtain ⟨j, hj⟩ := List.mem_iff_getElem?.mp hl
  by_cases hij : i = j
  · subst hij
    exact .inr (Option.some.inj (hj.symm.trans h))
  · exact .inl (List.mem_of_getElem? ((List.getElem?_set_ne hij).trans hj))

/-- A new ticket is the first that was not issued. -/
theorem lt_succ_ite (a n : Nat) :
    (if a < n + 1 then 1 else 0) = (if a < n then 1 else 0) + [n].count a := by
  simp only [List.count_singleton, beq_iff_eq]
  split_ifs
  all_goals omega

theorem count_flatMap_tickets (ks : List Task) (a : Nat) :
    (ks.flatMap Task.tickets).count a =
      (ks.flatMap Task.entering).count a + (ks.flatMap Task.held).count a := by
  induction ks with
  | nil => rfl
  | cons k ks ih =>
    rw [List.flatMap_cons, List.flatMap_cons, List.flatMap_cons, List.count_append, ih,
      List.count_append, List.count_append, Task.tickets, List.count_append]
    omega

/-! ## The system -/

structure System where
  table : PendingTable
  tasks : List Task
  /-- Whom the tasks told, in that order. -/
  resolved : List Delivery

/-- A task that starts without a request of its own. -/
def Task.IsCall : Task → Prop
  | setTimer .. | take .. | scan _ => True
  | _ => False

namespace System

def start (connection peer : String) : System := ⟨.empty connection peer, [], []⟩

/-- The requests that are yet to be entered. -/
def entering (s : System) : List Nat := s.tasks.flatMap Task.entering

/-- The requests in the hands of tasks. -/
def held (s : System) : List Nat := s.tasks.flatMap Task.held

def settled (s : System) : List Nat := s.resolved.map Delivery.ticket

inductive Step : System → System → Prop where
  /-- A caller makes a request, under any id. -/
  | request (id : UInt64) (kind : CompletionKind) (timeout : Nat) (s : System) :
      Step s ⟨s.table.issue.2, s.tasks ++ [.insert id ⟨kind, s.table.issue.1⟩ timeout],
        s.resolved⟩
  | call (k : Task) (hk : k.IsCall) (s : System) : Step s ⟨s.table, s.tasks ++ [k], s.resolved⟩
  /-- The writer, who knows a request by its ticket, notes something about its write. -/
  | note (ticket : Nat) (f : WriteState → WriteState) (s : System) :
      Step s ⟨{ s.table with writes := s.table.writes.modify ticket f }, s.tasks, s.resolved⟩
  | move (i : Nat) {k k' : Task} {t : PendingTable} {ds : List Delivery} {s : System}
      (hi : s.tasks[i]? = some k) (h : Moves k s.table k' t ds) :
      Step s ⟨t, s.tasks.set i k', s.resolved ++ ds⟩

/-- Every ticket that was issued is in one place, and no other is anywhere. -/
structure Conserved (s : System) : Prop where
  nodup_ids : s.table.ids.Nodup
  count_eq : ∀ a, (s.tasks.flatMap Task.tickets).count a + s.table.tickets.count a +
    s.settled.count a = if a < s.table.writes.length then 1 else 0

theorem conserved_start (connection peer : String) : (start connection peer).Conserved :=
  ⟨List.nodup_nil, fun _ ↦ rfl⟩

theorem Task.IsCall.tickets_eq_nil {k : Task} (h : k.IsCall) : k.tickets = [] := by
  cases k with
  | setTimer | take | scan => rfl
  | insert | judge | mark | scanning | drain | hold | tell => exact h.elim

variable {s s' : System}

theorem Step.conserved (h : Step s s') (hs : s.Conserved) : s'.Conserved := by
  cases h with
  | request id kind timeout =>
    refine ⟨hs.nodup_ids, fun a ↦ ?_⟩
    have hcount := hs.count_eq a
    have hlength := lt_succ_ite a s.table.writes.length
    have hnew : (Task.insert id ⟨kind, s.table.writes.length⟩ timeout).tickets =
      [s.table.writes.length] := rfl
    change ((s.tasks ++ [Task.insert id ⟨kind, s.table.writes.length⟩ timeout]).flatMap
      Task.tickets).count a + s.table.tickets.count a + s.settled.count a =
        if a < (s.table.writes ++ [WriteState.initial]).length then 1 else 0
    rw [List.flatMap_append, List.count_append, List.flatMap_singleton, hnew,
      List.length_append, List.length_singleton]
    omega
  | call k hk =>
    refine ⟨hs.nodup_ids, fun a ↦ ?_⟩
    rw [List.flatMap_append, List.flatMap_singleton, Task.IsCall.tickets_eq_nil hk, List.append_nil]
    exact hs.count_eq a
  | note ticket f =>
    refine ⟨hs.nodup_ids, fun a ↦ ?_⟩
    rw [List.length_modify]
    exact hs.count_eq a
  | @move i k k' t ds _ hi h =>
    refine ⟨h.nodup_ids hs.nodup_ids, fun a ↦ ?_⟩
    have hcount := hs.count_eq a
    have hmove := h.conserves hs.nodup_ids a
    have hset := count_flatMap_set Task.tickets hi k' a
    change ((s.tasks.set i k').flatMap Task.tickets).count a + t.tickets.count a +
      ((s.resolved ++ ds).map Delivery.ticket).count a = if a < t.writes.length then 1 else 0
    rw [h.length_writes, List.map_append, List.count_append]
    rw [settled] at hcount
    omega

theorem conserved_of_reachable {connection peer : String}
    (h : Relation.ReflTransGen Step (start connection peer) s) : s.Conserved := by
  induction h with
  | refl => exact conserved_start connection peer
  | tail _ hstep ih => exact hstep.conserved ih

/-! ## Exactly once -/

/-- **Whatever the order of the moves, no request is lost and none is resolved twice.** Tickets are
issued in order, as many as there are write states. Each is at each moment with the task that is to
enter it, in the table, in the hands of one task, or resolved, and this once; and when no task has
a move left, it is in the table or resolved. To take, expire or fail an id that is not in the table
changes nothing. -/
theorem exactly_once {connection peer : String}
    (h : Relation.ReflTransGen Step (start connection peer) s) :
    (∀ a < s.table.writes.length, s.entering.count a + s.table.tickets.count a +
      s.held.count a + s.settled.count a = 1) ∧
    (∀ a, s.settled.count a ≤ 1) ∧
    ((∀ k ∈ s.tasks, k.Ended) → ∀ a < s.table.writes.length,
      s.table.tickets.count a + s.settled.count a = 1) ∧
    (∀ id, s.table.contains id = false →
      (∀ purpose k t ds, Moves (.take id purpose) s.table k t ds →
        k = .ended ∧ t = s.table ∧ ds = []) ∧
      s.table.take id = (none, s.table) ∧ s.table.expire id = (none, s.table) ∧
      ∀ reason, s.table.failWrite id reason = (none, s.table)) := by
  have hs := conserved_of_reachable h
  refine ⟨?_, ?_, ?_, ?_⟩
  · intro a ha
    have hcount := hs.count_eq a
    rw [if_pos ha, count_flatMap_tickets] at hcount
    rw [entering, held]
    omega
  · intro a
    have hcount := hs.count_eq a
    split at hcount
    · omega
    · omega
  · intro hended a ha
    have hnone : s.tasks.flatMap Task.tickets = [] :=
      List.flatMap_eq_nil_iff.mpr fun k hk ↦ (hended k hk).tickets_eq_nil
    have hcount := hs.count_eq a
    rwa [hnone, if_pos ha, List.count_nil, Nat.zero_add] at hcount
  · intro id hid
    have htake := PendingTable.take_of_not_contains hid
    refine ⟨fun _ _ _ _ hmove ↦ hmove.take_of_not_contains hid, htake, ?_, ?_⟩
    · rw [expire, htake]
    · intro reason
      rw [failWrite, htake]

/-- A request gives way to another of its id, whose deadline passes just before its response comes:
the deadline has it, and the response comes to nothing. -/
theorem exactly_once_reused_id :
    ∃ s, Relation.ReflTransGen Step (start "connection" "peer") s ∧ s.table.entries = [] ∧
      s.settled = [0, 1] ∧ ∀ a < 2, s.table.tickets.count a + s.settled.count a = 1 := by
  have h₁ := Relation.ReflTransGen.single (Step.request 7 .decoded 50 (start "connection" "peer"))
  have h₂ := h₁.tail (.move 0 rfl (.insert 7 ⟨.decoded, 0⟩ 50 _))
  have h₃ := h₂.tail (.request 7 .raw 50 _)
  have h₄ := h₃.tail (.move 1 rfl (.insert 7 ⟨.raw, 1⟩ 50 _))
  have h₅ := h₄.tail (.call (.take 7 .expire) trivial _)
  have h₆ := h₅.tail (.call (.take 7 .keep) trivial _)
  have h₇ := h₆.tail (.move 2 rfl (.take 7 .expire _))
  have h₈ := h₇.tail (.move 3 rfl (.take 7 .keep _))
  have h₉ := h₈.tail (.move 1 rfl (.tell _ _ _))
  have h₁₀ := h₉.tail (.move 2 rfl (.judge ⟨7, ⟨.raw, 1⟩, 50, none⟩ _))
  have h₁₁ := h₁₀.tail (.move 2 rfl (.tell _ _ _))
  refine ⟨_, h₁₁, rfl, rfl, (exactly_once h₁₁).2.2.1 fun k hk ↦ ?_⟩
  change k ∈ List.replicate 4 Task.ended at hk
  rw [List.eq_of_mem_replicate hk]
  exact Task.ended_tell_nil

end System

end PendingTable

end RpcTransport
