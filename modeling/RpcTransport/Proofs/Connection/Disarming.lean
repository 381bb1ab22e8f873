import Mathlib.Algebra.Group.Nat.Defs
import RpcTransport.Proofs.Connection.Shutdown
import RpcTransport.Proofs.Connection.Timers

/-!
# Deadlines and their requests

A connection with its tasks, on a wheel that it may share with other connections. The wheel takes
its commands and its deadlines one by one, at any time, and what it does for a deadline that has
fired is a task like any other.

Two things are promised as long as no id is given twice (`Timed.deadlines_own`). A deadline that has
fired resolves the request it was asked for, or nobody. And where every command is taken and no
submission is on its way to note its deadline, a deadline that is still armed is that of a request
which is pending and has noted it, or which a response is about to disarm, or which a failed write
or the end of the connection took out. The last of these are armed for nobody, until they are due
(`Timed.armed_for_nobody`).

## The invariant

The id of a request is that of one submission only, which asks for one deadline at the most
(`Timed.Entered`, `Timed.Asked`). So the wheel's task finds no other request under its id, and a
token is noted with no other. A deadline whose token is live is heeded, or its request was lost
(`Timed.Sound.heeded`); and one that has fired is not live (`Timed.Sound.ringing`).
-/

namespace RpcTransport

open Relation (ReflTransGen)

namespace Connection

/-! ## The system -/

/-- A connection, its tasks, and what is remembered of its deadlines. -/
structure Timed where
  connection : Connection
  tasks : List Task
  /-- The deadlines that have fired, and what the wheel does for each. -/
  alarms : List (Nat × PendingTable.Task)
  /-- Which submission asked for which deadline. -/
  scheduled : List (Nat × Submission)
  /-- The tokens of other connections. -/
  foreign : List Nat
  /-- The requests that a failed write or the end of the connection took out. -/
  lost : List Nat
  /-- How many ids were given out. -/
  allocated : Nat

/-- All of a connection that deadlines depend on. -/
def clockwork (c : Connection) : List Pending × TimingWheel Nat × UInt64 × Nat :=
  (c.table.entries, c.wheel, c.nextId, c.generation)

/-- The deadlines of a connection that fire start a task each. -/
def rings (c : Connection) (fired : List (Nat × Nat × UInt64)) : List (Nat × PendingTable.Task) :=
  (fired.filter (·.2.1 = c.generation)).map fun x ↦ (x.1, .take x.2.2 .expire)

namespace Timed

def start (info : ConnectionInfo) (config : ConnectionConfig) (registry : Registry)
    (processors : Nat) (dispatch : DispatchConfig) (leastDelay : Nat) : Timed :=
  ⟨{ Connection.start info config registry (.ofConfig registry processors dispatch) with
    leastDelay := leastDelay }, [], [], [], [], [], 0⟩

inductive Step : Timed → Timed → Prop where
  | submit (kind : CompletionKind) (body : Bytes) (timeout : Option Nat) (s : Timed) :
      Step s { s with
        connection := (s.connection.begin kind body timeout).2
        tasks := s.tasks ++ [⟨.ended, .check (s.connection.begin kind body timeout).1⟩]
        allocated := s.allocated + 1 }
  /-- An id is given to a frame that is no request: a heartbeat, an event or a one-way request. -/
  | takeId (s : Timed) :
      Step s { s with connection := s.connection.takeId.2, allocated := s.allocated + 1 }
  /-- A response, a failed write or a shutdown. -/
  | arrive {k : Task} (hk : k.Arrives) (hdeadline : ∀ id, k.call ≠ .take id .expire) (s : Timed) :
      Step s { s with tasks := s.tasks ++ [k] }
  | move (i : Nat) {k k' : Task} {c : Connection} {s : Timed} (hi : s.tasks[i]? = some k)
      (h : Moves k s.connection k' c) :
      Step s { s with
        connection := c
        tasks := s.tasks.set i k'
        scheduled := s.scheduled ++ k.asks k'
        lost := s.lost ++ k.loses s.connection.table }
  /-- The wheel goes on with a deadline that has fired. -/
  | ring (i : Nat) {token : Nat} {call call' : PendingTable.Task} {t : PendingTable}
      {ds : List Delivery} {s : Timed} (hi : s.alarms[i]? = some (token, call))
      (h : PendingTable.Moves call s.connection.table call' t ds) :
      Step s { s with
        connection := ({ s.connection with table := t } : Connection).deliver ds
        alarms := s.alarms.set i (token, call') }
  /-- The wheel takes a command or a deadline, or time passes, or the wheel stops. -/
  | turn {w : TimingWheel Nat} {fired : List (Nat × Nat × UInt64)} {s : Timed}
      (h : TimingWheel.Turns s.connection.wheel w fired) :
      Step s { s with
        connection := { s.connection with wheel := w }
        alarms := s.alarms ++ s.connection.rings fired }
  /-- Another connection asks for a deadline. -/
  | schedule {target : Nat} (id : UInt64) (delay : Nat) {s : Timed}
      (h : target ≠ s.connection.generation) :
      Step s { s with
        connection := { s.connection with wheel := (s.connection.wheel.schedule target id delay).2 }
        foreign := s.foreign ++ [(s.connection.wheel.schedule target id delay).1] }
  | cancel {token : Nat} {s : Timed} (h : token ∈ s.foreign) :
      Step s { s with
        connection := { s.connection with wheel := s.connection.wheel.cancel token } }
  /-- Frames are queued and written, flags are set, workers decode, bodies come and go. -/
  | aside {c : Connection} {s : Timed} (h : c.clockwork = s.connection.clockwork) :
      Step s { s with connection := c }

variable {s s' : Timed} {k k' : Task} {c : Connection}

/-- Ids are counted, and there is no way back. -/
theorem Step.allocated_le (h : Step s s') : s.allocated ≤ s'.allocated := by
  cases h with
  | submit | takeId => exact Nat.le_succ _
  | arrive | move | ring | turn | schedule | cancel | aside => exact Nat.le_refl _

/-! ## Who has an id -/

/-- The ids of the submissions, in the order in which they were taken. -/
def ids (s : Timed) : List UInt64 := s.tasks.filterMap fun k ↦ k.submission?.map (·.id)

structure Entered (s : Timed) : Prop where
  isOwn : ∀ k ∈ s.tasks, k.IsOwn
  nextId_eq : s.connection.nextId = UInt64.ofNat (s.allocated + 1)
  given : ∀ id ∈ s.ids, ∃ n < s.allocated, id = UInt64.ofNat (n + 1)
  distinct : s.ids.Nodup
  keys : ∀ x ∈ s.connection.table.keys, ∃ k ∈ s.tasks, ∃ r, k.submission? = some r ∧
    x = (r.id, r.completion.ticket)

private theorem filterMap_set {α β : Type} {f : α → Option β} {l : List α} {i : Nat} {a b : α}
    (hi : l[i]? = some a) (h : f b = f a) : (l.set i b).filterMap f = l.filterMap f := by
  induction l generalizing i with
  | nil => exact nomatch hi
  | cons x l ih =>
    cases i with
    | zero =>
      obtain rfl := Option.some.inj hi
      rw [List.set_cons_zero, List.filterMap_cons, List.filterMap_cons, h]
    | succ i =>
      rw [List.set_cons_succ, List.filterMap_cons, List.filterMap_cons, ih hi]

private theorem eq_of_nodup_filterMap {α β : Type} {f : α → Option β} {l : List α}
    (h : (l.filterMap f).Nodup) {a b : α} (ha : a ∈ l) (hb : b ∈ l) {y : β} (hfa : f a = some y)
    (hfb : f b = some y) : a = b := by
  induction l with
  | nil => exact absurd ha List.not_mem_nil
  | cons x l ih =>
    rcases List.mem_cons.mp ha with rfl | hal
    · rw [List.filterMap_cons_some hfa, List.nodup_cons] at h
      rcases List.mem_cons.mp hb with rfl | hbl
      · rfl
      · exact absurd (List.mem_filterMap.mpr ⟨b, hbl, hfb⟩) h.1
    · rcases List.mem_cons.mp hb with rfl | hbl
      · rw [List.filterMap_cons_some hfb, List.nodup_cons] at h
        exact absurd (List.mem_filterMap.mpr ⟨a, hal, hfa⟩) h.1
      · exact ih (h.sublist ((List.sublist_cons_self x l).filterMap f)) hal hbl

/-- **An id belongs to one submission.** -/
theorem Entered.eq_of_id (hs : s.Entered) {l : Task} {r r' : Submission} (hk : k ∈ s.tasks)
    (hl : l ∈ s.tasks) (hr : k.submission? = some r) (hr' : l.submission? = some r')
    (hid : r.id = r'.id) : k = l ∧ r = r' := by
  have hkid : k.submission?.map (·.id) = some r.id := by rw [hr]; rfl
  have hlid : l.submission?.map (·.id) = some r.id := by rw [hr', hid]; rfl
  obtain rfl := eq_of_nodup_filterMap hs.distinct hk hl hkid hlid
  exact ⟨rfl, Option.some.inj (hr.symm.trans hr')⟩

/-- What is pending under the id of a submission is its request. -/
theorem Entered.ticket_eq (hs : s.Entered) {r : Submission} (hk : k ∈ s.tasks)
    (hr : k.submission? = some r) {x : UInt64 × Nat} (hx : x ∈ s.connection.table.keys)
    (hid : x.1 = r.id) : x.2 = r.completion.ticket := by
  obtain ⟨l, hl, r', hr', rfl⟩ := hs.keys x hx
  obtain ⟨-, rfl⟩ := hs.eq_of_id hl hk hr' hr hid
  rfl

/-- Tasks and ids stay, and no request is entered. -/
theorem Entered.of_keys (hs : s.Entered) {s' : Timed} (htasks : s'.tasks = s.tasks)
    (hallocated : s'.allocated = s.allocated) (hnext : s'.connection.nextId = s.connection.nextId)
    (hkeys : s'.connection.table.keys ⊆ s.connection.table.keys) : s'.Entered where
  isOwn := htasks ▸ hs.isOwn
  nextId_eq := by rw [hnext, hallocated]; exact hs.nextId_eq
  given := by
    rw [ids, htasks, hallocated]
    exact hs.given
  distinct := by
    rw [ids, htasks]
    exact hs.distinct
  keys x hx := htasks ▸ hs.keys x (hkeys hx)

theorem Entered.takeId (hs : s.Entered) :
    Entered { s with connection := s.connection.takeId.2, allocated := s.allocated + 1 } where
  isOwn := hs.isOwn
  nextId_eq := by
    change s.connection.nextId + 1 = _
    rw [hs.nextId_eq]
    exact (UInt64.ofNat_add _ 1).symm
  given id hid := by
    obtain ⟨n, hn, rfl⟩ := hs.given id hid
    exact ⟨n, Nat.lt_succ_of_lt hn, rfl⟩
  distinct := hs.distinct
  keys := hs.keys

/-- **An id that is taken is new**, while there are ids left. -/
theorem Entered.nextId_notMem (hs : s.Entered) (hlt : s.allocated < 2 ^ 64) :
    s.connection.nextId ∉ s.ids := by
  intro hmem
  obtain ⟨n, hn, heq⟩ := hs.given _ hmem
  rw [hs.nextId_eq] at heq
  have hnat := congrArg UInt64.toNat heq
  rw [UInt64.toNat_ofNat', UInt64.toNat_ofNat'] at hnat
  omega

theorem Entered.append (hs : s.Entered) (hk : k.IsOwn)
    (hnew : ∀ r, k.submission? = some r → r.id ∉ s.ids ∧
      ∃ n < s.allocated, r.id = UInt64.ofNat (n + 1)) :
    Entered { s with tasks := s.tasks ++ [k] } := by
  have hids : ids { s with tasks := s.tasks ++ [k] } =
      s.ids ++ (k.submission?.map (·.id)).toList := by
    rw [ids, ids, List.filterMap_append]
    cases hr : k.submission? with
    | none => simp [hr]
    | some r => simp [hr]
  have hid {id : UInt64} (h : id ∈ (k.submission?.map (·.id)).toList) :
      id ∉ s.ids ∧ ∃ n < s.allocated, id = UInt64.ofNat (n + 1) := by
    obtain ⟨r, hr, rfl⟩ := Option.map_eq_some_iff.mp (Option.mem_toList.mp h)
    exact hnew r hr
  constructor
  · intro l hl
    rcases List.mem_append.mp hl with hl | hl
    · exact hs.isOwn l hl
    · exact List.mem_singleton.mp hl ▸ hk
  · exact hs.nextId_eq
  · rw [hids]
    intro id hmem
    exact (List.mem_append.mp hmem).elim (hs.given id) fun hmem ↦ (hid hmem).2
  · rw [hids]
    refine List.nodup_append.mpr ⟨hs.distinct, Option.toList_nodup _, ?_⟩
    rintro id hold _ hmem rfl
    exact (hid hmem).1 hold
  · intro x hx
    obtain ⟨l, hl, hrest⟩ := hs.keys x hx
    exact ⟨l, List.mem_append_left _ hl, hrest⟩

theorem Entered.move (hs : s.Entered) {i : Nat} (hi : s.tasks[i]? = some k)
    (h : Moves k s.connection k' c) (scheduled : List (Nat × Submission)) (lost : List Nat) :
    Entered { s with
      connection := c, tasks := s.tasks.set i k', scheduled := scheduled, lost := lost } := by
  have hk : k ∈ s.tasks := List.mem_of_getElem? hi
  have hk' : k' ∈ s.tasks.set i k' := by
    obtain ⟨hlt, -⟩ := List.getElem?_eq_some_iff.mp hi
    exact List.mem_set hlt k'
  have hids : (s.tasks.set i k').filterMap (fun k ↦ k.submission?.map (·.id)) = s.ids :=
    filterMap_set hi (by rw [h.submission?_eq])
  constructor
  · intro l hl
    rcases List.mem_or_eq_of_mem_set hl with hl | rfl
    · exact hs.isOwn l hl
    · exact h.isOwn (hs.isOwn k hk)
  · exact h.nextId_eq.1.trans hs.nextId_eq
  · rw [ids, hids]
    exact hs.given
  · rw [ids, hids]
    exact hs.distinct
  · intro x hx
    rcases h.keys (hs.isOwn k hk) hx with hold | ⟨r, hr, rfl⟩
    · obtain ⟨l, hl, r, hr, rfl⟩ := hs.keys x hold
      rcases PendingTable.mem_set_or_eq hi hl k' with hl | rfl
      · exact ⟨l, hl, r, hr, rfl⟩
      · exact ⟨k', hk', r, h.submission?_eq.trans hr, rfl⟩
    · exact ⟨k', hk', r, h.submission?_eq.trans hr, rfl⟩

/-! ## Who asked for a deadline -/

/-- The tokens that are in use, and those that were given to this connection or to others. -/
def tokens (s : Timed) : List Nat :=
  s.connection.wheel.requests.map (·.1) ++ (s.scheduled.map (·.1) ++ s.foreign)

structure Asked (s : Timed) : Prop where
  past : ∀ x ∈ s.scheduled, ∃ k ∈ s.tasks, k.next.asked? = some x.2
  arming : ∀ k ∈ s.tasks, ∀ x, k.next.arms? = some x → x ∈ s.scheduled
  requests : ∀ x ∈ s.connection.wheel.requests, x.2.1 = s.connection.generation →
    ∃ r, (x.1, r) ∈ s.scheduled ∧ r.id = x.2.2
  distinct : (s.connection.wheel.requests.map (·.1)).Nodup
  scheduled_tokens : (s.scheduled.map (·.1)).Nodup
  scheduled_ids : (s.scheduled.map (·.2.id)).Nodup
  issued : ∀ token ∈ s.tokens, token < s.connection.wheel.nextToken
  foreign : ∀ token ∈ s.foreign, token ∉ s.scheduled.map (·.1)

theorem Asked.scheduled_lt (hs : s.Asked) {x : Nat × Submission} (hx : x ∈ s.scheduled) :
    x.1 < s.connection.wheel.nextToken :=
  hs.issued _ (List.mem_append_right _ (List.mem_append_left _ (List.mem_map_of_mem hx)))

theorem Asked.requests_lt (hs : s.Asked) {x : Nat × Nat × UInt64}
    (hx : x ∈ s.connection.wheel.requests) : x.1 < s.connection.wheel.nextToken :=
  hs.issued _ (List.mem_append_left _ (List.mem_map_of_mem hx))

theorem Asked.foreign_lt (hs : s.Asked) {token : Nat} (h : token ∈ s.foreign) :
    token < s.connection.wheel.nextToken :=
  hs.issued _ (List.mem_append_right _ (List.mem_append_right _ h))

/-- **A submission asks once**, and a token is given once. -/
theorem Asked.eq_of_token (hs : s.Asked) {x y : Nat × Submission} (hx : x ∈ s.scheduled)
    (hy : y ∈ s.scheduled) (h : x.1 = y.1) : x = y :=
  List.inj_on_of_nodup_map hs.scheduled_tokens hx hy h

theorem Asked.eq_of_id (hs : s.Asked) {x y : Nat × Submission} (hx : x ∈ s.scheduled)
    (hy : y ∈ s.scheduled) (h : x.2.id = y.2.id) : x = y :=
  List.inj_on_of_nodup_map hs.scheduled_ids hx hy h

/-- A task of a submission that has asked is past that. -/
theorem Asked.asked_of_submission (hs : s.Asked) (he : s.Entered) {x : Nat × Submission}
    (hx : x ∈ s.scheduled) (hk : k ∈ s.tasks) {r : Submission} (hr : k.submission? = some r)
    (hid : r.id = x.2.id) : k.next.asked? = some x.2 ∧ r = x.2 := by
  obtain ⟨l, hl, hasked⟩ := hs.past x hx
  obtain ⟨rfl, rfl⟩ := he.eq_of_id hk hl hr (Stage.submission?_of_asked? hasked) hid
  exact ⟨hasked, rfl⟩

/-- The wheel and the tokens stay, and a task that is new is not between its deadline and the note
of it. -/
theorem Asked.of_tasks (hs : s.Asked) {s' : Timed}
    (hwheel : s'.connection.wheel = s.connection.wheel)
    (hgeneration : s'.connection.generation = s.connection.generation)
    (hscheduled : s'.scheduled = s.scheduled) (hforeign : s'.foreign = s.foreign)
    (hold : s.tasks ⊆ s'.tasks)
    (hnew : ∀ k ∈ s'.tasks, k ∈ s.tasks ∨ k.next.arms? = none) : s'.Asked where
  past x hx := by
    obtain ⟨k, hk, hasked⟩ := hs.past x (hscheduled ▸ hx)
    exact ⟨k, hold hk, hasked⟩
  arming k hk x hx := by
    rw [hscheduled]
    rcases hnew k hk with hk | hnone
    · exact hs.arming k hk x hx
    · exact nomatch hnone.symm.trans hx
  requests := by
    rw [hwheel, hgeneration, hscheduled]
    exact hs.requests
  distinct := by
    rw [hwheel]
    exact hs.distinct
  scheduled_tokens := hscheduled ▸ hs.scheduled_tokens
  scheduled_ids := hscheduled ▸ hs.scheduled_ids
  issued := by
    rw [tokens, hwheel, hscheduled, hforeign]
    exact hs.issued
  foreign := by
    rw [hscheduled, hforeign]
    exact hs.foreign

/-- What the wheel does by itself, and what others ask of it. -/
theorem Asked.of_wheel (hs : s.Asked) {w : TimingWheel Nat} {foreign : List Nat}
    (alarms : List (Nat × PendingTable.Task))
    (hrequests : ∀ x ∈ w.requests, x.2.1 = s.connection.generation →
      x ∈ s.connection.wheel.requests)
    (hdistinct : (w.requests.map (·.1)).Nodup)
    (hnext : s.connection.wheel.nextToken ≤ w.nextToken)
    (hissued : ∀ x ∈ w.requests, x ∈ s.connection.wheel.requests ∨ x.1 < w.nextToken)
    (hforeign : ∀ token ∈ foreign, token ∈ s.foreign ∨
      token = s.connection.wheel.nextToken ∧ token < w.nextToken) :
    Asked { s with
      connection := { s.connection with wheel := w }, alarms := alarms, foreign := foreign } where
  past := hs.past
  arming := hs.arming
  requests x hx htarget := hs.requests x (hrequests x hx htarget) htarget
  distinct := hdistinct
  scheduled_tokens := hs.scheduled_tokens
  scheduled_ids := hs.scheduled_ids
  issued token htoken := by
    rcases List.mem_append.mp htoken with htoken | htoken
    · obtain ⟨x, hx, rfl⟩ := List.mem_map.mp htoken
      exact (hissued x hx).elim (fun hx ↦ Nat.lt_of_lt_of_le (hs.requests_lt hx) hnext) id
    · rcases List.mem_append.mp htoken with htoken | htoken
      · obtain ⟨x, hx, rfl⟩ := List.mem_map.mp htoken
        exact Nat.lt_of_lt_of_le (hs.scheduled_lt hx) hnext
      · exact (hforeign token htoken).elim
          (fun hold ↦ Nat.lt_of_lt_of_le (hs.foreign_lt hold) hnext) (·.2)
  foreign token htoken := by
    rcases hforeign token htoken with hold | ⟨rfl, -⟩
    · exact hs.foreign token hold
    · intro hmem
      obtain ⟨x, hx, heq⟩ := List.mem_map.mp hmem
      exact Nat.lt_irrefl _ (heq ▸ hs.scheduled_lt hx)

/-- A submission asks for a deadline under an id that nobody has asked under, and its token is
new. -/
theorem Asked.schedule (hs : s.Asked) {s' : Timed} {x : Nat × Submission}
    (hfresh : x.1 = s.connection.wheel.nextToken)
    (hnew : ∀ y ∈ s.scheduled, y.2.id ≠ x.2.id)
    (hpast : ∀ y ∈ s'.scheduled, ∃ k ∈ s'.tasks, k.next.asked? = some y.2)
    (harming : ∀ k ∈ s'.tasks, ∀ y, k.next.arms? = some y → y ∈ s'.scheduled)
    (hrequests : s'.connection.wheel.requests =
      s.connection.wheel.requests ++ [(x.1, s.connection.generation, x.2.id)])
    (hnext : s'.connection.wheel.nextToken = s.connection.wheel.nextToken + 1)
    (hgeneration : s'.connection.generation = s.connection.generation)
    (hscheduled : s'.scheduled = s.scheduled ++ [x]) (hforeign : s'.foreign = s.foreign) :
    s'.Asked := by
  constructor
  · exact hpast
  · exact harming
  · rw [hrequests, hgeneration, hscheduled]
    intro y hy htarget
    rcases List.mem_append.mp hy with hy | hy
    · obtain ⟨r, hr, hid⟩ := hs.requests y hy htarget
      exact ⟨r, List.mem_append_left _ hr, hid⟩
    · obtain rfl := List.mem_singleton.mp hy
      exact ⟨x.2, List.mem_append_right _ (List.mem_singleton.mpr rfl), rfl⟩
  · rw [hrequests, List.map_append, List.map_singleton, ← List.concat_eq_append]
    refine hs.distinct.concat fun hmem ↦ ?_
    obtain ⟨y, hy, heq⟩ := List.mem_map.mp hmem
    exact Nat.lt_irrefl _ (hfresh ▸ heq ▸ hs.requests_lt hy)
  · rw [hscheduled, List.map_append, List.map_singleton, ← List.concat_eq_append]
    refine hs.scheduled_tokens.concat fun hmem ↦ ?_
    obtain ⟨y, hy, heq⟩ := List.mem_map.mp hmem
    exact Nat.lt_irrefl _ (hfresh ▸ heq ▸ hs.scheduled_lt hy)
  · rw [hscheduled, List.map_append, List.map_singleton, ← List.concat_eq_append]
    refine hs.scheduled_ids.concat fun hmem ↦ ?_
    obtain ⟨y, hy, heq⟩ := List.mem_map.mp hmem
    exact hnew y hy heq
  · intro token htoken
    rw [hnext]
    rw [tokens, hrequests, hscheduled, hforeign, List.map_append, List.map_append] at htoken
    simp only [List.mem_append, List.map_singleton, List.mem_singleton] at htoken
    rcases htoken with (hold | rfl) | (hold | rfl) | hold
    · exact Nat.lt_succ_of_lt (hs.issued _ (List.mem_append_left _ hold))
    · exact hfresh ▸ Nat.lt_succ_self _
    · exact Nat.lt_succ_of_lt
        (hs.issued _ (List.mem_append_right _ (List.mem_append_left _ hold)))
    · exact hfresh ▸ Nat.lt_succ_self _
    · exact Nat.lt_succ_of_lt (hs.foreign_lt hold)
  · rw [hscheduled, hforeign]
    intro token htoken hmem
    rw [List.map_append, List.mem_append] at hmem
    rcases hmem with hold | hmem
    · exact hs.foreign token htoken hold
    · obtain rfl : token = x.1 := List.mem_singleton.mp hmem
      exact Nat.lt_irrefl _ (hfresh ▸ hs.foreign_lt htoken)

/-- After a move, who has asked is past that, as before. -/
theorem Asked.past_move (hs : s.Asked) {i : Nat} (hi : s.tasks[i]? = some k)
    (h : Moves k s.connection k' c) :
    ∀ x ∈ s.scheduled ++ k.asks k', ∃ l ∈ s.tasks.set i k', l.next.asked? = some x.2 := by
  obtain ⟨hlt, -⟩ := List.getElem?_eq_some_iff.mp hi
  have hk' : k' ∈ s.tasks.set i k' := List.mem_set hlt k'
  intro x hx
  rcases List.mem_append.mp hx with hx | hx
  · obtain ⟨l, hl, hasked⟩ := hs.past x hx
    rcases PendingTable.mem_set_or_eq hi hl k' with hl | rfl
    · exact ⟨l, hl, hasked⟩
    · exact ⟨k', hk', h.asked? hasked⟩
  · exact ⟨k', hk', Stage.asked?_of_arms? (h.asks.asked x hx).2.2⟩

/-- After a move, who is to note a deadline has asked for it. -/
theorem Asked.arming_move (hs : s.Asked) {i : Nat} (hi : s.tasks[i]? = some k)
    (h : Moves k s.connection k' c) :
    ∀ l ∈ s.tasks.set i k', ∀ x, l.next.arms? = some x → x ∈ s.scheduled ++ k.asks k' := by
  intro l hl x hx
  rcases List.mem_or_eq_of_mem_set hl with hl | rfl
  · exact List.mem_append_left _ (hs.arming l hl x hx)
  · exact List.mem_append.mpr ((h.arms? hx).imp_left (hs.arming k (List.mem_of_getElem? hi) x))

theorem Asked.move (hs : s.Asked) (he : s.Entered) {i : Nat} (hi : s.tasks[i]? = some k)
    (h : Moves k s.connection k' c) (lost : List Nat) :
    Asked { s with
      connection := c
      tasks := s.tasks.set i k'
      scheduled := s.scheduled ++ k.asks k'
      lost := lost } := by
  have hpast := hs.past_move hi h
  have harming := hs.arming_move hi h
  have hgeneration := h.nextId_eq.2
  have hasks := h.asks
  rcases k.asks_eq_nil_or k' with hnil | ⟨x, hx⟩
  · have hrequests : c.wheel.requests = s.connection.wheel.requests := by
      rw [hasks.requests, hnil]
      exact List.append_nil _
    have hnext : c.wheel.nextToken = s.connection.wheel.nextToken := by
      rw [hasks.nextToken_eq, hnil]
      rfl
    rw [hnil, List.append_nil] at hpast harming ⊢
    constructor
    · exact hpast
    · exact harming
    · rw [hrequests, hgeneration]
      exact hs.requests
    · rw [hrequests]
      exact hs.distinct
    · exact hs.scheduled_tokens
    · exact hs.scheduled_ids
    · rw [tokens, hrequests, hnext]
      exact hs.issued
    · exact hs.foreign
  · obtain ⟨hfresh, hstage, -⟩ := hasks.asked x (hx ▸ List.mem_cons_self)
    have hrequests : c.wheel.requests = s.connection.wheel.requests ++
        [(x.1, s.connection.generation, x.2.id)] := by
      rw [hasks.requests, hx]
      rfl
    have hnext : c.wheel.nextToken = s.connection.wheel.nextToken + 1 := by
      rw [hasks.nextToken_eq, hx]
      rfl
    -- whoever has asked under this id is the submission itself, which is only about to
    have hnew : ∀ y ∈ s.scheduled, y.2.id ≠ x.2.id := by
      intro y hy hid
      have hr : k.submission? = some x.2 := by
        rw [Task.submission?, hstage]
        rfl
      have hk : k ∈ s.tasks := List.mem_of_getElem? hi
      have hasked := (hs.asked_of_submission he hy hk hr hid.symm).1
      rw [hstage] at hasked
      cases hasked
    rw [hx] at hpast harming ⊢
    exact hs.schedule hfresh hnew hpast harming hrequests hnext hgeneration rfl rfl

/-! ## The invariant -/

/-- Somebody will disarm the deadline of a request, or the request was lost to it. -/
def IsHeeded (s : Timed) (x : Nat × Submission) : Prop :=
  s.connection.table.Notes x.2.id x.2.completion.ticket x.1 ∨
    (∃ k ∈ s.tasks, k.Heeds x.2 x.1) ∨ x.2.completion.ticket ∈ s.lost

structure Sound (s : Timed) : Prop where
  entered : s.Entered
  asked : s.Asked
  ringing : ∀ a ∈ s.alarms, a.1 ∉ s.connection.wheel.requests.map (·.1) ∧
    ∃ r, (a.1, r) ∈ s.scheduled ∧ a.2.RingsFor r.id r.completion.ticket
  heeded : ∀ x ∈ s.scheduled, s.connection.wheel.Live x.1 → s.IsHeeded x

/-- The request of a submission that has asked is the only one under its id. -/
theorem Sound.keys_eq (hs : s.Sound) {x : Nat × Submission} (hx : x ∈ s.scheduled) :
    ∀ y ∈ s.connection.table.keys, y.1 = x.2.id → y.2 = x.2.completion.ticket := by
  intro y hy hid
  obtain ⟨k, hk, hasked⟩ := hs.asked.past x hx
  exact hs.entered.ticket_eq hk (Stage.submission?_of_asked? hasked) hy hid

/-- Tasks begin, and the wheel, the table and the rest stay. -/
theorem Sound.of_tasks (hs : s.Sound) {s' : Timed} (hentered : s'.Entered)
    (hwheel : s'.connection.wheel = s.connection.wheel)
    (hgeneration : s'.connection.generation = s.connection.generation)
    (hfind : ∀ id, s'.connection.table.find? id = s.connection.table.find? id)
    (halarms : s'.alarms = s.alarms) (hscheduled : s'.scheduled = s.scheduled)
    (hforeign : s'.foreign = s.foreign) (hlost : s'.lost = s.lost) (hold : s.tasks ⊆ s'.tasks)
    (hnew : ∀ k ∈ s'.tasks, k ∈ s.tasks ∨ k.next.arms? = none) : s'.Sound where
  entered := hentered
  asked := hs.asked.of_tasks hwheel hgeneration hscheduled hforeign hold hnew
  ringing := by
    rw [halarms, hwheel, hscheduled]
    exact hs.ringing
  heeded x hx hlive := by
    rcases hs.heeded x (hscheduled ▸ hx) (hwheel ▸ hlive) with hnotes | ⟨k, hk, hheeds⟩ | hmem
    · exact .inl (hnotes.of_find? (hfind _))
    · exact .inr (.inl ⟨k, hold hk, hheeds⟩)
    · exact .inr (.inr (hlost ▸ hmem))

theorem Sound.submit (hs : s.Sound) (hlt : s.allocated < 2 ^ 64) (kind : CompletionKind)
    (body : Bytes) (timeout : Option Nat) :
    Sound { s with
      connection := (s.connection.begin kind body timeout).2
      tasks := s.tasks ++ [⟨.ended, .check (s.connection.begin kind body timeout).1⟩]
      allocated := s.allocated + 1 } := by
  have htaken := hs.entered.takeId
  have hbegun : Entered { s with
      connection := (s.connection.begin kind body timeout).2, allocated := s.allocated + 1 } :=
    htaken.of_keys rfl rfl rfl (List.Subset.refl _)
  refine hs.of_tasks (hbegun.append trivial ?_) rfl rfl (fun _ ↦ rfl) rfl rfl rfl rfl
    (List.subset_append_left _ _) ?_
  · intro r hr
    obtain rfl := Option.some.inj hr
    exact ⟨hs.entered.nextId_notMem hlt, s.allocated, Nat.lt_succ_self _, hs.entered.nextId_eq⟩
  · intro k hk
    refine (List.mem_append.mp hk).imp_right fun hk ↦ ?_
    rw [List.mem_singleton.mp hk]
    rfl

theorem Sound.arrive (hs : s.Sound) (hk : k.Arrives)
    (hdeadline : ∀ id, k.call ≠ .take id .expire) : Sound { s with tasks := s.tasks ++ [k] } := by
  have hown : k.IsOwn := by
    cases hk with
    | shutdown | response => trivial
    | deadline id => exact absurd rfl (hdeadline id)
    | failedWrite id reason => exact ⟨reason, rfl⟩
  have hnone : k.submission? = none ∧ k.next.arms? = none := by
    cases hk with
    | _ => exact ⟨rfl, rfl⟩
  refine hs.of_tasks (hs.entered.append hown fun r hr ↦ ?_) rfl rfl (fun _ ↦ rfl) rfl rfl rfl rfl
    (List.subset_append_left _ _) ?_
  · exact nomatch hnone.1.symm.trans hr
  · intro l hl
    refine (List.mem_append.mp hl).imp_right fun hl ↦ ?_
    rw [List.mem_singleton.mp hl]
    exact hnone.2

theorem Sound.move (hs : s.Sound) {i : Nat} (hi : s.tasks[i]? = some k)
    (h : Moves k s.connection k' c) :
    Sound { s with
      connection := c
      tasks := s.tasks.set i k'
      scheduled := s.scheduled ++ k.asks k'
      lost := s.lost ++ k.loses s.connection.table } := by
  have hk : k ∈ s.tasks := List.mem_of_getElem? hi
  have hk' : k' ∈ s.tasks.set i k' := by
    obtain ⟨hlt, -⟩ := List.getElem?_eq_some_iff.mp hi
    exact List.mem_set hlt k'
  have hasks := h.asks
  have holdToken {x : Nat × Submission} (hx : x ∈ s.scheduled) : ∀ y ∈ k.asks k', y.1 ≠ x.1 := by
    intro y hy heq
    have hlt := hs.asked.scheduled_lt hx
    rw [← heq, (hasks.asked y hy).1] at hlt
    exact Nat.lt_irrefl _ hlt
  refine ⟨hs.entered.move hi h _ _, hs.asked.move hs.entered hi h _, ?_, ?_⟩
  · intro a ha
    obtain ⟨hspent, r, hr, hrings⟩ := hs.ringing a ha
    refine ⟨?_, r, List.mem_append_left _ hr, hrings⟩
    rw [hasks.requests, List.map_append, List.mem_append, List.map_map]
    rintro (hmem | hmem)
    · exact hspent hmem
    · obtain ⟨y, hy, heq⟩ := List.mem_map.mp hmem
      exact holdToken hr y hy heq
  · intro x hx hlive
    rcases List.mem_append.mp hx with hasked | hx
    · have hstill : s.connection.wheel.Live x.1 := by
        rcases hasks.live x.1 hlive with hlive | ⟨y, hy, heq⟩
        · exact hlive
        · exact absurd heq (holdToken hasked y hy)
      rcases hs.heeded x hasked hstill with hnotes | ⟨l, hl, hheeds⟩ | hmem
      · have hpast : ∀ r', k.submission? = some r' → r'.id = x.2.id →
            k.next.asked? = some r' ∧ ∀ y, k.next.arms? = some y → y.1 = x.1 := by
          intro r' hr' hid
          obtain ⟨hpast, rfl⟩ := hs.asked.asked_of_submission hs.entered hasked hk hr' hid
          refine ⟨hpast, fun y hy ↦ ?_⟩
          have hsame : y.2 = x.2 :=
            Option.some.inj ((Stage.asked?_of_arms? hy).symm.trans hpast)
          rw [hs.asked.eq_of_id (hs.asked.arming k hk y hy) hasked (congrArg _ hsame)]
        rcases h.notes (hs.entered.isOwn k hk) hpast hnotes with hnotes | hheeds | hlost
        · exact .inl hnotes
        · exact .inr (.inl ⟨k', hk', hheeds⟩)
        · exact .inr (.inr (List.mem_append_right _ hlost))
      · rcases PendingTable.mem_set_or_eq hi hl k' with hl | rfl
        · exact .inr (.inl ⟨l, hl, hheeds⟩)
        · rcases h.heeds hheeds hlive (hs.keys_eq hasked) with hheeds | hnotes
          · exact .inr (.inl ⟨k', hk', hheeds⟩)
          · exact .inl hnotes
      · exact .inr (.inr (List.mem_append_left _ hmem))
    · exact .inr (.inl ⟨k', hk', .inl (hasks.asked x hx).2.2⟩)

/-- **The wheel's task takes out no request whose deadline is live**: its own deadline is not live
any more, and no other is for the request of its id. -/
theorem Sound.ring (hs : s.Sound) {i token : Nat} {call call' : PendingTable.Task}
    {t : PendingTable} {ds : List Delivery} (hi : s.alarms[i]? = some (token, call))
    (h : PendingTable.Moves call s.connection.table call' t ds) :
    Sound { s with
      connection := ({ s.connection with table := t } : Connection).deliver ds
      alarms := s.alarms.set i (token, call') } := by
  obtain ⟨hspent, r, hr, hrings⟩ := hs.ringing _ (List.mem_of_getElem? hi)
  obtain ⟨hrings', -, hkeys, hfind⟩ := h.ringsFor hrings (hs.keys_eq hr)
  constructor
  · exact hs.entered.of_keys rfl rfl rfl hkeys
  · exact hs.asked.of_tasks rfl rfl rfl rfl (List.Subset.refl _) fun _ ↦ .inl
  · intro a ha
    rcases List.mem_or_eq_of_mem_set ha with ha | rfl
    · exact hs.ringing a ha
    · exact ⟨hspent, r, hr, hrings'⟩
  · intro x hx hlive
    rcases hs.heeded x hx hlive with hnotes | hheeds | hmem
    · have hne : x.2.id ≠ r.id := by
        intro hid
        obtain rfl : x = (token, r) := hs.asked.eq_of_id hx hr hid
        obtain ⟨y, hy, htoken⟩ := hlive.exists_request
        exact hspent (htoken ▸ List.mem_map_of_mem hy)
      exact .inl (hnotes.of_find? (hfind _ hne))
    · exact .inr (.inl hheeds)
    · exact .inr (.inr hmem)

/-- **A deadline that fires** was asked for by a submission, and is not live any more. -/
theorem Sound.turn (hs : s.Sound) {w : TimingWheel Nat} {fired : List (Nat × Nat × UInt64)}
    (h : TimingWheel.Turns s.connection.wheel w fired) :
    Sound { s with
      connection := { s.connection with wheel := w }
      alarms := s.alarms ++ s.connection.rings fired } := by
  have hspec := h.spec
  have hasked : Asked { s with
      connection := { s.connection with wheel := w }
      alarms := s.alarms ++ s.connection.rings fired } :=
    hs.asked.of_wheel _ (fun x hx _ ↦ hspec.requests.subset hx)
      (hs.asked.distinct.sublist (hspec.requests.map _)) (Nat.le_of_eq hspec.nextToken_eq.symm)
      (fun x hx ↦ .inl (hspec.requests.subset hx)) fun _ ↦ .inl
  refine ⟨hs.entered.of_keys rfl rfl rfl (List.Subset.refl _), hasked, ?_, ?_⟩
  · intro a ha
    rcases List.mem_append.mp ha with ha | ha
    · obtain ⟨hspent, hrest⟩ := hs.ringing a ha
      exact ⟨fun hmem ↦ hspent ((hspec.requests.map _).subset hmem), hrest⟩
    · obtain ⟨x, hx, rfl⟩ := List.mem_map.mp ha
      obtain ⟨hx, htarget⟩ := List.mem_filter.mp hx
      obtain ⟨hrequest, hspent⟩ := hspec.fired hs.asked.distinct x hx
      obtain ⟨r, hr, hid⟩ := hs.asked.requests x hrequest (of_decide_eq_true htarget)
      exact ⟨hspent, r, hr, hid.symm, rfl⟩
  · exact fun x hx hlive ↦ hs.heeded x hx (hspec.live x.1 hlive)

theorem Sound.schedule (hs : s.Sound) {target : Nat} (id : UInt64) (delay : Nat)
    (h : target ≠ s.connection.generation) :
    Sound { s with
      connection := { s.connection with wheel := (s.connection.wheel.schedule target id delay).2 }
      foreign := s.foreign ++ [(s.connection.wheel.schedule target id delay).1] } := by
  have hrequests := TimingWheel.requests_schedule s.connection.wheel target id delay
  have hnew {x : Nat × Submission} (hx : x ∈ s.scheduled) :
      x.1 ≠ s.connection.wheel.nextToken := Nat.ne_of_lt (hs.asked.scheduled_lt hx)
  refine ⟨hs.entered.of_keys rfl rfl rfl (List.Subset.refl _),
    hs.asked.of_wheel s.alarms ?_ ?_ (Nat.le_succ _) ?_ ?_, ?_, ?_⟩
  · intro x hx htarget
    rw [hrequests, List.mem_append, List.mem_singleton] at hx
    rcases hx with hx | rfl
    · exact hx
    · exact absurd htarget h
  · rw [hrequests, List.map_append, List.map_singleton, ← List.concat_eq_append]
    refine hs.asked.distinct.concat fun hmem ↦ ?_
    obtain ⟨y, hy, heq⟩ := List.mem_map.mp hmem
    exact Nat.lt_irrefl _ (heq ▸ hs.asked.requests_lt hy)
  · intro x hx
    rw [hrequests, List.mem_append, List.mem_singleton] at hx
    refine hx.imp_right ?_
    rintro rfl
    exact Nat.lt_succ_self _
  · intro token htoken
    refine (List.mem_append.mp htoken).imp_right fun htoken ↦ ?_
    rw [List.mem_singleton.mp htoken]
    exact ⟨rfl, Nat.lt_succ_self _⟩
  · intro a ha
    obtain ⟨hspent, r, hr, hrings⟩ := hs.ringing a ha
    refine ⟨?_, r, hr, hrings⟩
    rw [hrequests, List.map_append, List.mem_append, List.map_singleton, List.mem_singleton]
    exact not_or.mpr ⟨hspent, hnew hr⟩
  · intro x hx hlive
    refine hs.heeded x hx ((TimingWheel.live_schedule_iff.mp hlive).resolve_right ?_)
    exact (hnew hx).symm

theorem Sound.cancel (hs : s.Sound) (token : Nat) :
    Sound { s with
      connection := { s.connection with wheel := s.connection.wheel.cancel token } } := by
  have hrequests := TimingWheel.requests_cancel s.connection.wheel token
  refine ⟨hs.entered.of_keys rfl rfl rfl (List.Subset.refl _),
    hs.asked.of_wheel s.alarms ?_ ?_ (Nat.le_refl _) ?_ fun _ ↦ .inl, ?_, ?_⟩
  · rw [hrequests]
    exact fun x hx _ ↦ hx
  · rw [hrequests]
    exact hs.asked.distinct
  · rw [hrequests]
    exact fun x hx ↦ .inl hx
  · rw [hrequests]
    exact hs.ringing
  · exact fun x hx hlive ↦ hs.heeded x hx (TimingWheel.live_cancel_iff.mp hlive).1

theorem Step.sound (h : Step s s') (hlt : s'.allocated < 2 ^ 64) (hs : s.Sound) : s'.Sound := by
  have hbefore : s.allocated < 2 ^ 64 := Nat.lt_of_le_of_lt h.allocated_le hlt
  cases h with
  | submit kind body timeout => exact hs.submit hbefore kind body timeout
  | takeId =>
    exact hs.of_tasks hs.entered.takeId rfl rfl (fun _ ↦ rfl) rfl rfl rfl rfl
      (List.Subset.refl _) fun _ ↦ .inl
  | arrive hk hdeadline => exact hs.arrive hk hdeadline
  | move i hi h => exact hs.move hi h
  | ring i hi h => exact hs.ring hi h
  | turn h => exact hs.turn h
  | schedule id delay h => exact hs.schedule id delay h
  | @cancel token _ h => exact hs.cancel token
  | aside h =>
    simp only [clockwork, Prod.mk.injEq] at h
    obtain ⟨hentries, hwheel, hnext, hgeneration⟩ := h
    refine hs.of_tasks (hs.entered.of_keys rfl rfl hnext ?_) hwheel hgeneration (fun id ↦ ?_) rfl
      rfl rfl rfl (List.Subset.refl _) fun _ ↦ .inl
    · rw [PendingTable.keys, hentries]
      exact List.Subset.refl _
    · rw [PendingTable.find?, hentries]
      rfl

section Reachable

variable {info : ConnectionInfo} {config : ConnectionConfig} {registry : Registry}
  {processors : Nat} {dispatch : DispatchConfig} {leastDelay : Nat}

theorem sound_start :
    (start info config registry processors dispatch leastDelay).Sound where
  entered := {
    isOwn := List.forall_mem_nil _
    nextId_eq := rfl
    given := List.forall_mem_nil _
    distinct := List.nodup_nil
    keys := List.forall_mem_nil _ }
  asked := {
    past := List.forall_mem_nil _
    arming := List.forall_mem_nil _
    requests := List.forall_mem_nil _
    distinct := List.nodup_nil
    scheduled_tokens := List.nodup_nil
    scheduled_ids := List.nodup_nil
    issued := List.forall_mem_nil _
    foreign := List.forall_mem_nil _ }
  ringing := List.forall_mem_nil _
  heeded := List.forall_mem_nil _

theorem sound_of_reachable
    (h : ReflTransGen Step (start info config registry processors dispatch leastDelay) s)
    (hlt : s.allocated < 2 ^ 64) : s.Sound := by
  induction h with
  | refl => exact sound_start
  | tail _ hstep ih => exact hstep.sound hlt (ih (Nat.lt_of_le_of_lt hstep.allocated_le hlt))

/-! ## Deadlines and requests -/

/-- **A deadline belongs to one request.** One that has fired tells the caller of the request that
it was asked for, or nobody. One that is armed, when every command is taken and no submission is
between its deadline and the note of it, is for a request that is pending and has noted it, unless a
response is about to cancel it, or a failed write or the end of the connection took out the
request. -/
theorem deadlines_own
    (h : ReflTransGen Step (start info config registry processors dispatch leastDelay) s)
    (hlt : s.allocated < 2 ^ 64) :
    (∀ a ∈ s.alarms, ∀ (call' : PendingTable.Task) (t : PendingTable) (ds : List Delivery),
      PendingTable.Moves a.2 s.connection.table call' t ds →
        ∃ r, (∀ r', (a.1, r') ∈ s.scheduled ↔ r' = r) ∧
          ∀ d ∈ ds, d.ticket = r.completion.ticket) ∧
    ((∀ k ∈ s.tasks, k.next.arms? = none) → s.connection.wheel.commands = [] →
      ∀ e ∈ s.connection.wheel.armed, e.target = s.connection.generation →
        ∃ r, (e.token, r) ∈ s.scheduled ∧ r.id = e.id ∧
          (s.connection.table.Notes e.id r.completion.ticket e.token ∨
            (∃ k ∈ s.tasks, ∃ p f, k.next = .claim p f ∧ p.ticket = r.completion.ticket ∧
              p.timer = some e.token) ∨
            r.completion.ticket ∈ s.lost)) := by
  have hs := sound_of_reachable h hlt
  constructor
  · rintro ⟨token, call⟩ ha call' t ds hmove
    obtain ⟨-, r, hr, hrings⟩ := hs.ringing _ ha
    refine ⟨r, fun r' ↦ ⟨fun hr' ↦ ?_, ?_⟩, (hmove.ringsFor hrings (hs.keys_eq hr)).2.1⟩
    · exact congrArg Prod.snd (hs.asked.eq_of_token hr' hr rfl)
    · rintro rfl
      exact hr
  · intro hnoted hcommands e he htarget
    have hrequest : e.request ∈ s.connection.wheel.requests :=
      List.mem_append_left _ (List.mem_map_of_mem he)
    obtain ⟨r, hr, hid⟩ := hs.asked.requests _ hrequest htarget
    have hlive := TimingWheel.live_of_mem_armed hcommands he
    refine ⟨r, hr, hid, ?_⟩
    rw [show e.id = r.id from hid.symm]
    rcases hs.heeded _ hr hlive with hnotes | ⟨k, hk, harms | htakes⟩ | hlost
    · exact .inl hnotes
    · exact nomatch (hnoted k hk).symm.trans harms
    · exact .inr (.inl ⟨k, hk, htakes⟩)
    · exact .inr (.inr hlost)

end Reachable

/-- A request is pending, and its deadline is armed. -/
theorem deadlines_own_pending :
    ∃ s, ReflTransGen Step
        (start ⟨"connection", "peer", .client, 1⟩ .standard .standard 1 .standard 0) s ∧
      s.allocated < 2 ^ 64 ∧ (∀ k ∈ s.tasks, k.next.arms? = none) ∧
      s.connection.wheel.commands = [] ∧
      ∃ e ∈ s.connection.wheel.armed, e.target = s.connection.generation ∧
        ∃ r, (e.token, r) ∈ s.scheduled ∧ r.id = e.id ∧
          s.connection.table.Notes e.id r.completion.ticket e.token := by
  have h₁ := ReflTransGen.single (Step.submit .decoded [] none
    (start ⟨"connection", "peer", .client, 1⟩ .standard .standard 1 .standard 0))
  have h₂ := h₁.tail (.move 0 rfl (.accept rfl _))
  have h₃ := h₂.tail (.move 0 rfl (.atTable (.insert _ _ _ _) _))
  have h₄ := h₃.tail (.move 0 rfl (.stay rfl _))
  have h₅ := h₄.tail (.move 0 rfl (.schedule _ _))
  have h₆ := h₅.tail (.move 0 rfl (.arm rfl))
  have h₇ := h₆.tail (.turn (.take rfl rfl))
  have hquiet {s : Timed} {e : TimingWheel.Armed Nat} {r : Submission}
      (h : ReflTransGen Step
        (start ⟨"connection", "peer", .client, 1⟩ .standard .standard 1 .standard 0) s)
      (hlt : s.allocated < 2 ^ 64) (htasks : s.tasks = [⟨.ended, .send r⟩])
      (hcommands : s.connection.wheel.commands = []) (hlost : s.lost = [])
      (he : e ∈ s.connection.wheel.armed) (htarget : e.target = s.connection.generation) :
      (∀ k ∈ s.tasks, k.next.arms? = none) ∧ ∃ r, (e.token, r) ∈ s.scheduled ∧ r.id = e.id ∧
        s.connection.table.Notes e.id r.completion.ticket e.token := by
    have hnoted : ∀ k ∈ s.tasks, k.next.arms? = none := by
      rw [htasks]
      exact List.forall_mem_singleton.mpr rfl
    refine ⟨hnoted, ?_⟩
    obtain ⟨r, hr, hid, hnotes | ⟨k, hk, p, f, htake, -⟩ | hmem⟩ :=
      (deadlines_own h hlt).2 hnoted hcommands e he htarget
    · exact ⟨r, hr, hid, hnotes⟩
    · rw [htasks] at hk
      obtain rfl := List.mem_singleton.mp hk
      exact nomatch htake
    · rw [hlost] at hmem
      exact absurd hmem List.not_mem_nil
  have hone : (⟨1, 0, 1, 1⟩ : TimingWheel.Armed Nat) ∈ [(⟨1, 0, 1, 1⟩ : TimingWheel.Armed Nat)] :=
    List.mem_cons_self
  obtain ⟨hnoted, hrest⟩ := hquiet h₇ (by decide) rfl rfl rfl hone rfl
  exact ⟨_, h₇, by decide, hnoted, rfl, _, hone, rfl, hrest⟩

/-- **A deadline is armed for nobody.** The write of a request fails, and its caller is told. The
deadline stays. -/
theorem armed_for_nobody :
    ¬ ∀ s, ReflTransGen Step
        (start ⟨"connection", "peer", .client, 1⟩ .standard .standard 1 .standard 0) s →
      s.allocated < 2 ^ 64 →
      (∀ k ∈ s.tasks, k = ⟨.ended, .ended⟩ ∨ ∃ r, k = ⟨.ended, .returned r⟩) →
      s.connection.wheel.commands = [] →
      ∀ e ∈ s.connection.wheel.armed, e.target = s.connection.generation →
        s.connection.table.contains e.id = true := by
  intro hall
  have h₁ := ReflTransGen.single (Step.submit .decoded [] none
    (start ⟨"connection", "peer", .client, 1⟩ .standard .standard 1 .standard 0))
  have h₂ := h₁.tail (.move 0 rfl (.accept rfl _))
  have h₃ := h₂.tail (.move 0 rfl (.atTable (.insert _ _ _ _) _))
  have h₄ := h₃.tail (.move 0 rfl (.stay rfl _))
  have h₅ := h₄.tail (.move 0 rfl (.schedule _ _))
  have h₆ := h₅.tail (.move 0 rfl (.arm rfl))
  have h₇ := h₆.tail (.move 0 rfl (.send rfl))
  have h₈ := h₇.tail (.move 0 rfl (.sent rfl))
  have h₉ := h₈.tail (.turn (.take rfl rfl))
  have h₁₀ := h₉.tail (.arrive (.failedWrite 1 "broken pipe") nofun _)
  have h₁₁ := h₁₀.tail (.move 1 rfl (.atTable (.take _ _ _) _))
  have h₁₂ := h₁₁.tail (.move 1 rfl (.atTable (.mark _ _ _) _))
  have h₁₃ := h₁₂.tail (.move 1 rfl (.atTable (.tell _ _ _) _))
  have hleft := hall _ h₁₃ (by decide)
    (List.forall_mem_cons.mpr ⟨.inr ⟨_, rfl⟩, List.forall_mem_singleton.mpr (.inl rfl)⟩) rfl
    ⟨1, 0, 1, 1⟩ (List.mem_singleton.mpr rfl) rfl
  exact absurd hleft (by decide)

end Timed

end Connection

end RpcTransport
