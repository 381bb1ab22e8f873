import Mathlib.Logic.Relation
import RpcTransport.Proofs.Connection.Independence
import RpcTransport.Proofs.Connection.Outbound
import RpcTransport.Proofs.Connection.Service

/-!
# Frames on their way out

The writer takes frames from the queue, whatever else goes on. A frame within the limit is put on
the transport, as many octets at a time as the transport takes, and then who waits for it is told;
a frame over the limit is done with as soon as it is taken (`Fails`).

## What has become of a frame

A frame is done with, or the writer has it in hand, or it is in the backlog, and the three in a row
are the frames in the order in which they were queued (`Writing.items`). What was written are the
encodings of the frames up to the one in hand that fit, and what senders were told is what became of
the frames that are done with, in their order.

Requests take more: an entry is found by its id and a write state by its ticket, and the two are
brought together by the order in which requests were submitted (`Identified`). So a failed write
marks the state of its own request, and no other frame in the row is of this request.
-/

namespace RpcTransport

open Relation (ReflTransGen)

/-! ## Frames and their senders -/

/-- Why a frame over the limit is not written. -/
def Frame.refusal (limit : Nat) (f : Frame) : String :=
  (CodecError.payloadTooLarge f.body.octets.length (clampLimit limit)).message

namespace Outbound

/-- The ticket of the request a frame is of. -/
def ticket? (o : Outbound) : Option Nat :=
  match o.acknowledgement with
  | .request _ ticket => some ticket
  | _ => none

/-- The sender that waits for the write of a frame. -/
def waiter? (o : Outbound) : Option Nat :=
  match o.acknowledgement with
  | .notify waiter => some waiter
  | _ => none

/-- What becomes of the write of a frame. -/
def verdict (limit : Nat) (o : Outbound) : WriteNotice :=
  if o.frame.fits limit then .written else .failed (o.frame.refusal limit)

/-- What the sender of a frame is told when the writer is done with it. -/
def notice? (limit : Nat) (o : Outbound) : Option (Nat × WriteNotice) :=
  o.waiter?.map fun w ↦ (w, o.verdict limit)

/-- Who waits for one frame is told once. -/
theorem filter_notices {os : List Outbound} (h : (os.filterMap waiter?).Nodup) {o : Outbound}
    (ho : o ∈ os) {w : Nat} (hw : o.waiter? = some w) (limit : Nat) :
    (os.filterMap (notice? limit)).filter (·.1 = w) = [(w, o.verdict limit)] := by
  obtain ⟨before, after, rfl⟩ := List.append_of_mem ho
  rw [List.filterMap_append, List.filterMap_cons_some hw, List.nodup_middle,
    ← List.filterMap_append, List.nodup_cons] at h
  -- Nothing that came before or after is told to the same waiter.
  have hothers {qs : List Outbound} (hqs : qs ⊆ before ++ after) :
      (qs.filterMap (notice? limit)).filter (·.1 = w) = [] := by
    rw [List.filter_eq_nil_iff]
    intro x hx
    obtain ⟨q, hq, hnotice⟩ := List.mem_filterMap.mp hx
    obtain ⟨w', hw', rfl⟩ := Option.map_eq_some_iff.mp hnotice
    have hne : w' ≠ w := by
      rintro rfl
      exact h.1 (List.mem_filterMap.mpr ⟨q, hqs hq, hw'⟩)
    simpa using hne
  have hnotice : o.notice? limit = some (w, o.verdict limit) := by rw [notice?, hw, Option.map_some]
  rw [List.filterMap_append, List.filter_append, List.filterMap_cons_some hnotice,
    hothers (List.subset_append_left _ _), List.filter_cons_of_pos (by simp),
    hothers (List.subset_append_right _ _), List.nil_append]

end Outbound

namespace Connection

/-- What becomes of a connection when the frame of `o` is over the limit: its request fails, if it
is still pending, or its sender is told, or the connection ends because a probe cannot be written.
All else is what it was. -/
def Fails (c : Connection) (o : Outbound) (c' : Connection) : Prop :=
  let reason := o.frame.refusal c.config.payloadLimit
  match o.acknowledgement with
  | .none => c' = c
  | .notify waiter => c' = { c with notices := c.notices ++ [(waiter, .failed reason)] }
  | .request id _ =>
    (c.table.find? id = none → c' = c) ∧
    ∀ p, c.table.find? id = some p → c' = { c with
      table := { c.table with
        entries := c.table.entries.filter (·.id ≠ id)
        writes := c.table.writes.modify p.ticket fun w ↦ w.markFailed reason }
      deliveries := c.deliveries ++ [⟨p.ticket, .failed (.connectFailed c.peer
        s!"write of request {id.toNat} failed: {reason}")⟩] }
  | .probe =>
    c.closed = false →
      c'.closed = true ∧ c'.cancelled = true ∧ c'.table.entries = [] ∧
      c'.closeReason = some (c.closeReason.getD
        (.channelInactive c.name s!"heartbeat write failed: {reason}"))

/-- The writer has a frame that fits in hand, and has failed one that does not. -/
theorem takeFrame_eq {c c₁ : Connection} {o : Outbound} (h : c.dequeue = some (o, c₁)) :
    c.takeFrame = some (if o.frame.fits c₁.config.payloadLimit then
      (.sending o.acknowledgement (o.frame.header ++ o.frame.body.octets), c₁)
    else (.idle, c₁.acknowledge o.acknowledgement
      (some (o.frame.refusal c₁.config.payloadLimit)))) := by
  rw [takeFrame, h]
  dsimp only
  by_cases hfits : o.frame.body.octets.length ≤ Frame.clampLimit c₁.config.payloadLimit
  · have hdecided : o.frame.fits c₁.config.payloadLimit = true := decide_eq_true hfits
    rw [Frame.encode_of_le hfits, if_pos hdecided]
  · have hdecided : ¬ o.frame.fits c₁.config.payloadLimit = true := by
      simpa [Frame.fits] using hfits
    rw [Frame.encode, if_pos (Nat.not_le.mp hfits), if_neg hdecided]
    rfl

/-- **A frame over the limit fails alone.** -/
theorem fails_acknowledge (c : Connection) (o : Outbound) :
    c.Fails o (c.acknowledge o.acknowledgement
      (some (o.frame.refusal c.config.payloadLimit))) := by
  obtain ⟨f, a⟩ := o
  cases a with
  | none => rfl
  | notify waiter => rfl
  | probe =>
    intro hopen
    obtain ⟨htable, -, hstanding⟩ := shutdown_of_open hopen (.channelInactive c.name
      s!"heartbeat write failed: {f.refusal c.config.payloadLimit}")
    refine ⟨congrArg Standing.closed hstanding, congrArg Standing.cancelled hstanding, ?_,
      congrArg Standing.closeReason hstanding⟩
    exact (congrArg PendingTable.entries htable).trans c.table.entries_drain
  | request id ticket =>
    constructor
    · intro hnone
      rcases c.failWrite_cases id (f.refusal c.config.payloadLimit) with
        ⟨-, hsame⟩ | ⟨p, hfound, -⟩
      · exact hsame
      · exact nomatch hfound.symm.trans hnone
    · intro p hp
      obtain rfl := PendingTable.id_of_find? hp
      have htake : c.table.take p.id = (some p, (c.table.take p.id).2) := Prod.ext hp rfl
      change c.failWrite p.id _ = _
      rw [failWrite, PendingTable.failWrite, htake]
      rfl

end Connection

/-! ## The system -/

/-- A connection with its writer, and what has become of the frames. -/
structure Writing where
  conversation : Conversation
  writer : Writer
  /-- What was put on the transport. -/
  wire : Bytes
  /-- The frames that were written or could not be, in the order in which they were taken. -/
  done : List Outbound
  /-- The frame that the writer has in hand. -/
  hand : Option Outbound

namespace Writing

def start (info : ConnectionInfo) (config : ConnectionConfig) (registry decoders : Registry)
    (processors : Nat) (dispatch : DispatchConfig) : Writing :=
  ⟨.start info config registry decoders processors dispatch, .idle, [], [], none⟩

def connection (s : Writing) : Connection := s.conversation.connection

def limit (s : Writing) : Nat := s.connection.config.payloadLimit

/-- The frames that the writer has taken, in order. -/
def taken (s : Writing) : List Outbound := s.done ++ s.hand.toList

/-- All frames that were queued, in order. -/
def items (s : Writing) : List Outbound := s.taken ++ s.connection.backlog

/-- The octets that the writer is yet to put on the transport. -/
def unsent (s : Writing) : Bytes :=
  match s.writer with
  | .sending _ unsent => unsent
  | _ => []

/-- The writer goes on as long as the connection is not cancelled, and the transport does not fail.
No id is submitted twice. -/
inductive Step (handler : Bool) : Writing → Writing → Prop where
  | event (e : Event) (s : Writing) (he : e.isOther = true)
      (hnew : ∀ id, e.submitted? = some id → id ∉ s.conversation.submitted) :
      Step handler s { s with conversation := s.conversation.apply handler e }
  /-- The writer takes a frame, or fails it. -/
  | take (s : Writing) {o : Outbound} {c c' : Connection} {w : Writer}
      (hopen : s.connection.cancelled = false) (hidle : s.writer = .idle)
      (hnext : s.connection.dequeue = some (o, c)) (h : s.connection.takeFrame = some (w, c')) :
      Step handler s { s with
        conversation := s.conversation.withConnection c'
        writer := w
        done := s.done ++ if o.frame.fits s.limit then [] else [o]
        hand := if o.frame.fits s.limit then some o else none }
  /-- The transport takes some octets. -/
  | transmit (n : Nat) (s : Writing) {a : Acknowledgement} {unsent : Bytes}
      (hopen : s.connection.cancelled = false) (h : s.writer = .sending a unsent) :
      Step handler s { s with
        wire := s.wire ++ unsent.take n
        writer := .sending a (unsent.drop n) }
  | written (s : Writing) {a : Acknowledgement} (hopen : s.connection.cancelled = false)
      (h : s.writer = .sending a []) :
      Step handler s { s with
        conversation := s.conversation.withConnection (s.connection.acknowledge a none)
        writer := .idle
        done := s.done ++ s.hand.toList
        hand := none }

variable {c₀ : Connection} {handler : Bool} {s s' : Writing}

/-! ## Whose frames they are -/

/-- Every frame of a request is of the request that was submitted with its ticket, no two frames are
of one request, and no two have one sender that waits. -/
structure Identified (submitted : List UInt64) (nextWaiter : Nat) (os : List Outbound) :
    Prop where
  ids : ∀ o ∈ os, ∀ {id : UInt64} {n : Nat}, o.acknowledgement = .request id n →
    submitted[n]? = some id
  tickets : (os.filterMap Outbound.ticket?).Nodup
  waiters : (os.filterMap Outbound.waiter?).Nodup
  waiter_lt : ∀ o ∈ os, ∀ {w : Nat}, o.acknowledgement = .notify w → w < nextWaiter

private theorem nodup_filterMap_concat {os : List Outbound} {f : Outbound → Option Nat}
    (h : (os.filterMap f).Nodup) {o : Outbound} (hnew : ∀ n, f o = some n → n ∉ os.filterMap f) :
    ((os ++ [o]).filterMap f).Nodup := by
  rw [List.filterMap_append, List.nodup_append]
  cases hf : f o with
  | none => simp [hf, h]
  | some n =>
    refine ⟨h, by simp [hf], ?_⟩
    rintro m hm k hk rfl
    have heq : m = n := by simpa [hf] using hk
    exact hnew n hf (heq ▸ hm)

namespace Identified

variable {submitted : List UInt64} {nextWaiter : Nat} {os : List Outbound}

theorem nil (submitted : List UInt64) (nextWaiter : Nat) :
    Identified submitted nextWaiter [] where
  ids _ ho := absurd ho List.not_mem_nil
  tickets := .nil
  waiters := .nil
  waiter_lt _ ho := absurd ho List.not_mem_nil

theorem ticket_lt (h : Identified submitted nextWaiter os) {n : Nat}
    (hn : n ∈ os.filterMap Outbound.ticket?) : n < submitted.length := by
  obtain ⟨o, ho, hticket⟩ := List.mem_filterMap.mp hn
  obtain ⟨f, a⟩ := o
  cases a with
  | request id m =>
    obtain rfl := Option.some.inj hticket
    exact (List.getElem?_eq_some_iff.mp (h.ids _ ho rfl)).1
  | none | probe | notify => exact nomatch hticket

theorem waiter_mem_lt (h : Identified submitted nextWaiter os) {w : Nat}
    (hw : w ∈ os.filterMap Outbound.waiter?) : w < nextWaiter := by
  obtain ⟨o, ho, hwaiter⟩ := List.mem_filterMap.mp hw
  obtain ⟨f, a⟩ := o
  cases a with
  | notify w' =>
    obtain rfl := Option.some.inj hwaiter
    exact h.waiter_lt _ ho rfl
  | none | probe | request => exact nomatch hwaiter

theorem mono (h : Identified submitted nextWaiter os) (ids : List UInt64) {nextWaiter' : Nat}
    (hle : nextWaiter ≤ nextWaiter') : Identified (submitted ++ ids) nextWaiter' os where
  ids o ho id n hid := by
    have hget := h.ids o ho hid
    exact (List.getElem?_append_left (List.getElem?_eq_some_iff.mp hget).1).trans hget
  tickets := h.tickets
  waiters := h.waiters
  waiter_lt o ho _ hw := Nat.lt_of_lt_of_le (h.waiter_lt o ho hw) hle

/-- A frame is queued with a ticket or a waiter that is new. -/
theorem append (h : Identified submitted nextWaiter os) {ids : List UInt64} {nextWaiter' : Nat}
    (hle : nextWaiter ≤ nextWaiter') {o : Outbound}
    (hid : ∀ id n, o.acknowledgement = .request id n →
      n = submitted.length ∧ (submitted ++ ids)[n]? = some id)
    (hwaiter : ∀ w, o.acknowledgement = .notify w → nextWaiter ≤ w ∧ w < nextWaiter') :
    Identified (submitted ++ ids) nextWaiter' (os ++ [o]) := by
  have hmono := h.mono ids hle
  obtain ⟨f, a⟩ := o
  refine ⟨fun q hq id n hn ↦ ?_, ?_, ?_, fun q hq w hw ↦ ?_⟩
  · rcases List.mem_append.mp hq with hq | hq
    · exact hmono.ids q hq hn
    · rw [List.mem_singleton.mp hq] at hn
      exact (hid id n hn).2
  · refine nodup_filterMap_concat h.tickets fun n hn hmem ↦ ?_
    cases a with
    | request id m =>
      obtain rfl := Option.some.inj hn
      exact Nat.ne_of_lt (h.ticket_lt hmem) (hid id m rfl).1
    | none | probe | notify => exact nomatch hn
  · refine nodup_filterMap_concat h.waiters fun n hn hmem ↦ ?_
    cases a with
    | notify w =>
      obtain rfl := Option.some.inj hn
      exact Nat.not_le.mpr (h.waiter_mem_lt hmem) (hwaiter w rfl).1
    | none | probe | request => exact nomatch hn
  · rcases List.mem_append.mp hq with hq | hq
    · exact hmono.waiter_lt q hq hw
    · rw [List.mem_singleton.mp hq] at hw
      exact (hwaiter w hw).2

/-- No other frame in the row is of the same request. -/
theorem ticket_ne {before after : List Outbound} {o o' : Outbound}
    (h : Identified submitted nextWaiter (before ++ o :: after)) (ho' : o' ∈ before ++ after)
    {id id' : UInt64} {n n' : Nat} (hn : o.acknowledgement = .request id n)
    (hn' : o'.acknowledgement = .request id' n') : n' ≠ n := by
  rintro rfl
  have hticket : o.ticket? = some n' := by rw [Outbound.ticket?, hn]
  have hticket' : o'.ticket? = some n' := by rw [Outbound.ticket?, hn']
  have htickets := h.tickets
  rw [List.filterMap_append, List.filterMap_cons_some hticket, List.nodup_middle,
    ← List.filterMap_append, List.nodup_cons] at htickets
  exact htickets.1 (List.mem_filterMap.mpr ⟨o', ho', hticket'⟩)

end Identified

end Writing

/-! ## What becomes of requests -/

namespace Conversation

variable {c₀ : Connection} {s : Conversation} {x : UInt64}

/-- The id and the ticket that a frame has are those of one request. -/
theorem ticket_eq (hids : s.submitted.Nodup) {n : Nat} (h : s.submitted[n]? = some x) :
    s.ticket x = n := by
  obtain ⟨hlt, rfl⟩ := List.getElem?_eq_some_iff.mp h
  exact hids.idxOf_getElem n hlt

/-- To acknowledge the frame of a request is an event of this request. -/
theorem Followed.acknowledge (h : Followed c₀ s) (hids : s.submitted.Nodup) {a : Acknowledgement}
    (ha : ∀ id n, a = .request id n → s.submitted[n]? = some id) (failure : Option String) :
    Followed c₀ (s.withConnection (s.connection.acknowledge a failure)) := by
  cases a with
  | none => exact h
  | notify waiter => cases failure <;> exact h.keeps ⟨rfl, .refl _, rfl⟩
  | probe =>
    cases failure with
    | none => exact h.keeps ⟨rfl, .refl _, rfl⟩
    | some reason => exact h.apply false (e := .teardown _) (new_of_none rfl)
  | request id n =>
    cases failure with
    | none =>
      have hwritten := h.apply false (e := .written id) (new_of_none rfl)
      rwa [Conversation.apply, ticket_eq hids (ha id n rfl)] at hwritten
    | some reason => exact h.apply false (e := .writeFailed id reason) (new_of_none rfl)

end Conversation

namespace Connection

variable {c : Connection} {x : UInt64}

theorem find?_acknowledge (h : c.table.find? x = none) (a : Acknowledgement)
    (failure : Option String) : (c.acknowledge a failure).table.find? x = none := by
  cases a with
  | none => exact h
  | notify waiter => cases failure <;> exact h
  | probe =>
    cases failure with
    | none => exact h
    | some reason =>
      cases hclosed : c.closed with
      | true =>
        have hkeeps := shutdown_of_closed hclosed
          (.channelInactive c.name s!"heartbeat write failed: {reason}")
        exact (congrArg (·.find? x) hkeeps.table_eq).trans h
      | false =>
        have hopen := shutdown_of_open hclosed
          (.channelInactive c.name s!"heartbeat write failed: {reason}")
        change (c.shutdown _).table.find? x = none
        rw [hopen.1, PendingTable.find?, c.table.entries_drain]
        rfl
  | request id n =>
    cases failure with
    | none => exact h
    | some reason =>
      rcases c.failWrite_cases id reason with ⟨-, hsame⟩ | ⟨p, -, rfl, hresolves⟩
      · exact (congrArg (·.table.find? x) hsame).trans h
      · change (c.failWrite p.id reason).table.find? x = none
        rw [PendingTable.find?, hresolves.entries_eq, List.find?_eq_none]
        intro q hq
        exact List.find?_eq_none.mp h q (List.mem_filter.mp hq).1

theorem advances_acknowledge (c : Connection) (a : Acknowledgement) :
    c.table.Advances (c.acknowledge a none).table := by
  cases a with
  | request id n => exact c.table.advances_markWritten n
  | none | probe | notify => exact PendingTable.advances_of_writes rfl

theorem nextWaiter_acknowledge (c : Connection) (a : Acknowledgement) (failure : Option String) :
    (c.acknowledge a failure).nextWaiter = c.nextWaiter := by
  cases a with
  | probe =>
    cases failure with
    | none => rfl
    | some reason => exact congrArg (·.2.2.2) (c.scene_shutdown _)
  | none | request | notify => cases failure <;> rfl

theorem find?_failWrite_self (c : Connection) (id : UInt64) (reason : String) :
    (c.failWrite id reason).table.find? id = none := by
  rcases c.failWrite_cases id reason with ⟨hnone, hsame⟩ | ⟨p, -, rfl, hresolves⟩
  · rw [hsame]
    exact hnone
  · rw [PendingTable.find?, hresolves.entries_eq, List.find?_eq_none]
    intro q hq
    simpa using (List.mem_filter.mp hq).2

/-- Who waits for the write of a frame is told when the writer is done with it. -/
theorem notices_acknowledge (c : Connection) (limit : Nat) (o : Outbound) :
    (c.acknowledge o.acknowledgement
      (if o.frame.fits limit then none else some (o.frame.refusal limit))).notices =
        c.notices ++ (o.notice? limit).toList := by
  obtain ⟨f, a⟩ := o
  by_cases hfits : f.fits limit
  · cases a with
    | none | request | probe =>
      simp [hfits, acknowledge, Outbound.notice?, Outbound.waiter?]
    | notify w =>
      simp [hfits, acknowledge, notify, Outbound.notice?, Outbound.waiter?, Outbound.verdict]
  · cases a with
    | none => simp [acknowledge, Outbound.notice?, Outbound.waiter?]
    | probe =>
      have hkept (reason : TransportError) : (c.shutdown reason).notices = c.notices :=
        congrArg (·.2.2.1) (c.scene_shutdown reason)
      simp [hfits, acknowledge, hkept, Outbound.notice?, Outbound.waiter?]
    | request id n =>
      simp [hfits, acknowledge, failWrite, deliver, Outbound.notice?, Outbound.waiter?]
    | notify w =>
      simp [hfits, acknowledge, notify, Outbound.notice?, Outbound.waiter?, Outbound.verdict]

end Connection

namespace Writing

open Conversation (Followed ticket_eq)

variable {c₀ : Connection} {handler : Bool} {s s' : Writing}

/-! ## The invariant -/

structure Sound (c₀ : Connection) (s : Writing) : Prop where
  followed : Followed c₀ s.conversation
  nodup : s.conversation.submitted.Nodup
  lined : s.connection.Lined
  config_eq : s.connection.config = c₀.config
  identified : Identified s.conversation.submitted s.connection.nextWaiter s.items
  writer_eq : s.hand = none ∧ s.writer = .idle ∨ ∃ o unsent, s.hand = some o ∧
    s.writer = .sending o.acknowledgement unsent ∧ o.frame.fits c₀.config.payloadLimit = true
  wire_eq : s.wire ++ s.unsent =
    (((s.taken.map (·.frame)).filter (Frame.fits c₀.config.payloadLimit)).map
      fun f ↦ f.header ++ f.body.octets).flatten
  notices_eq : s.connection.notices = s.done.filterMap (Outbound.notice? c₀.config.payloadLimit)
  /-- The write of a request that the writer is not done with has not failed. -/
  awaited : ∀ o ∈ s.hand.toList ++ s.connection.backlog, ∀ {id : UInt64} {n : Nat},
    o.acknowledgement = .request id n → (s.connection.table.writeState n).phase ≠ .failed
  written : ∀ o ∈ s.done, o.frame.fits c₀.config.payloadLimit = true → ∀ {id : UInt64} {n : Nat},
    o.acknowledgement = .request id n → (s.connection.table.writeState n).phase = .written
  removed : ∀ o ∈ s.done, o.frame.fits c₀.config.payloadLimit = false → ∀ {id : UInt64} {n : Nat},
    o.acknowledgement = .request id n → s.connection.table.find? id = none

theorem Sound.limit_eq (hs : s.Sound c₀) : s.limit = c₀.config.payloadLimit :=
  congrArg ConnectionConfig.payloadLimit hs.config_eq

theorem sound_start (info : ConnectionInfo) (config : ConnectionConfig)
    (registry decoders : Registry) (processors : Nat) (dispatch : DispatchConfig) :
    Sound (start info config registry decoders processors dispatch).connection
      (start info config registry decoders processors dispatch) where
  followed x := ⟨_, Conversation.tracks_start info config registry decoders processors dispatch x⟩
  nodup := .nil
  lined := ⟨rfl, .inl rfl⟩
  config_eq := rfl
  identified := .nil _ _
  writer_eq := .inl ⟨rfl, rfl⟩
  wire_eq := rfl
  notices_eq := rfl
  awaited _ ho := absurd ho List.not_mem_nil
  written _ ho := absurd ho List.not_mem_nil
  removed _ ho := absurd ho List.not_mem_nil

/-! ## Write states that go on -/

private theorem phase_markWritten {w : WriteState} (h : w.phase ≠ .failed) :
    w.markWritten.phase = .written := by
  rw [WriteState.markWritten]
  split
  · rfl
  · next hawaiting =>
    cases hphase : w.phase with
    | awaiting => exact absurd hphase hawaiting
    | written => rfl
    | failed => exact absurd hphase h

private theorem phase_ne_failed {t t' : PendingTable} (h : t.Advances t') {n : Nat}
    (hn : (t.writeState n).phase ≠ .failed) : (t'.writeState n).phase ≠ .failed := by
  rcases h.writeState_eq_or n with heq | heq
  · rwa [heq]
  · rw [heq, phase_markWritten hn]
    exact nofun

private theorem phase_written {t t' : PendingTable} (h : t.Advances t') {n : Nat}
    (hn : (t.writeState n).phase = .written) : (t'.writeState n).phase = .written := by
  rcases h.writeState_eq_or n with heq | heq
  · rwa [heq]
  · rw [heq]
    exact phase_markWritten (by simp [hn])

/-! ## What a step keeps -/

theorem Sound.event (hs : s.Sound c₀) {e : Event} (he : e.isOther = true)
    (hnew : ∀ id, e.submitted? = some id → id ∉ s.conversation.submitted) :
    Sound c₀ { s with conversation := s.conversation.apply handler e } := by
  have hadds := Conversation.adds_apply hs.lined handler he
  have hadvances := Conversation.advances_apply hs.lined.queueOpen_eq handler he
  have hlength := hs.followed.coherent.length_eq
  have hsubmitted := Conversation.submitted_apply handler s.conversation e
  have hidentified : Identified (s.conversation.apply handler e).submitted
      (s.conversation.apply handler e).connection.nextWaiter
      (s.taken ++ (s.conversation.apply handler e).connection.backlog) := by
    rw [hsubmitted]
    rcases hadds.queues with hqueues | ⟨f, hqueues, hlt⟩
    · rw [hqueues.backlog_eq, List.append_nil]
      exact hs.identified.mono _ hadds.nextWaiter_le
    · rw [hqueues.backlog_eq, ← List.append_assoc]
      refine hs.identified.append hadds.nextWaiter_le (fun id n hn ↦ ?_) fun w hw ↦ ⟨?_, hlt w hw⟩
      · obtain ⟨hid, rfl⟩ := Event.submitted?_of_acknowledgement hn
        refine ⟨hlength.symm, ?_⟩
        rw [hid, ← hlength]
        simp
      · exact Nat.le_of_eq (Event.waiter_of_acknowledgement hw).symm
  have hnodup : (s.conversation.apply handler e).submitted.Nodup := by
    rw [hsubmitted, List.nodup_append]
    refine ⟨hs.nodup, ?_, ?_⟩
    · cases e.submitted? <;> simp
    · rintro id hid id' hid' rfl
      exact hnew id (Option.mem_toList.mp hid') hid
  refine ⟨hs.followed.apply handler hnew, hnodup, hadds.lined, hadds.config_eq.trans hs.config_eq,
    hidentified, hs.writer_eq, hs.wire_eq, hadds.notices_eq.trans hs.notices_eq, ?_, ?_, ?_⟩
  · intro o ho id n hn
    refine phase_ne_failed hadvances ?_
    rcases List.mem_append.mp ho with ho | ho
    · exact hs.awaited o (List.mem_append_left _ ho) hn
    · rcases hadds.mem_backlog ho with ho | hack
      · exact hs.awaited o (List.mem_append_right _ ho) hn
      · -- A request that has just come is awaited, like all that have no write state yet.
        obtain ⟨-, rfl⟩ := Event.submitted?_of_acknowledgement (hack.symm.trans hn)
        simp [PendingTable.writeState, WriteState.initial, default]
  · intro o ho hfits id n hn
    exact phase_written hadvances (hs.written o ho hfits hn)
  · intro o ho hfits id n hn
    have hid := hs.identified.ids o (List.mem_append_left _ (List.mem_append_left _ ho)) hn
    exact hs.followed.find?_apply handler hnew (List.mem_of_getElem? hid)
      (hs.removed o ho hfits hn)

private theorem hand_of_idle (hs : s.Sound c₀) (h : s.writer = .idle) : s.hand = none := by
  rcases hs.writer_eq with ⟨hhand, -⟩ | ⟨o, rest, -, hsending, -⟩
  · exact hhand
  · exact nomatch h.symm.trans hsending

/-- The writer has a frame that fits in hand. -/
theorem Sound.take (hs : s.Sound c₀) {o : Outbound} {c : Connection} (hidle : s.writer = .idle)
    (hnext : s.connection.dequeue = some (o, c))
    (hfits : o.frame.fits c₀.config.payloadLimit = true) :
    Sound c₀ { s with
      conversation := s.conversation.withConnection c
      writer := .sending o.acknowledgement (o.frame.header ++ o.frame.body.octets)
      hand := some o } := by
  obtain ⟨hbacklog, hlined, -, hconfig⟩ := Connection.backlog_dequeue hs.lined hnext
  have hsame := Connection.eq_of_dequeue hnext
  have htable : c.table = s.connection.table := (congrArg Connection.table hsame :)
  have hhand := hand_of_idle hs hidle
  have htaken : s.taken = s.done := by rw [taken, hhand, Option.toList_none, List.append_nil]
  refine ⟨hs.followed.keeps (Connection.keeps_dequeue hnext), hs.nodup, hlined,
    hconfig.trans hs.config_eq, ?_, .inr ⟨o, _, rfl, rfl, hfits⟩, ?_,
    (congrArg Connection.notices hsame).trans hs.notices_eq, ?_, ?_, ?_⟩
  · have hidentified := hs.identified
    have hwaiter : c.nextWaiter = s.connection.nextWaiter :=
      (congrArg Connection.nextWaiter hsame :)
    rw [items, htaken, hbacklog] at hidentified
    change Identified s.conversation.submitted c.nextWaiter (s.done ++ [o] ++ c.backlog)
    rw [hwaiter, List.append_assoc]
    exact hidentified
  · have hwire := hs.wire_eq
    rw [htaken, Writing.unsent, hidle, List.append_nil] at hwire
    change s.wire ++ (o.frame.header ++ o.frame.body.octets) = _
    rw [hwire]
    simp [taken, hfits]
  · intro o' ho' id n hn
    have hmem : o' ∈ s.connection.backlog := by
      rw [hbacklog]
      exact ho'
    have hawaited := hs.awaited o' (List.mem_append_right _ hmem) hn
    rwa [← htable] at hawaited
  · intro o' ho' hfits' id n hn
    have hwritten := hs.written o' ho' hfits' hn
    rwa [← htable] at hwritten
  · intro o' ho' hover id n hn
    have hremoved := hs.removed o' ho' hover hn
    rwa [← htable] at hremoved

/-- A frame that fails marks the write state of its own request at the most. -/
private theorem writeState_refused {s : Conversation} (h : Followed c₀ s)
    (hids : s.submitted.Nodup) {a : Acknowledgement}
    (ha : ∀ id n, a = .request id n → s.submitted[n]? = some id) (reason : String) {n : Nat}
    (hne : ∀ id' n', a = .request id' n' → n ≠ n') :
    (s.connection.acknowledge a (some reason)).table.writeState n =
      s.connection.table.writeState n := by
  cases a with
  | none | notify => rfl
  | probe =>
    cases hclosed : s.connection.closed with
    | true =>
      have hkeeps := Connection.shutdown_of_closed hclosed
        (.channelInactive s.connection.name s!"heartbeat write failed: {reason}")
      exact congrArg (·.writeState n) hkeeps.table_eq
    | false =>
      have hopen := Connection.shutdown_of_open hclosed
        (.channelInactive s.connection.name s!"heartbeat write failed: {reason}")
      change (s.connection.shutdown _).table.writeState n = _
      rw [hopen.1, PendingTable.writeState, PendingTable.drain,
        (s.connection.table.takeAll_rest _).1]
      rfl
  | request id n' =>
    change (s.connection.failWrite id reason).table.writeState n = _
    rcases s.connection.failWrite_cases id reason with ⟨-, hsame⟩ | ⟨p, hfound, rfl, hresolves⟩
    · rw [hsame]
    · -- The entry was found by the id of the frame, and has its ticket as well.
      have hentry : s.submitted[p.ticket]? = some p.id :=
        h.coherent.entries p (List.mem_of_find?_eq_some hfound)
      have hticket : p.ticket = n' :=
        (ticket_eq hids hentry).symm.trans (ticket_eq hids (ha p.id n' rfl))
      exact hresolves.writeState_eq n (hticket ▸ hne p.id n' rfl)

/-- A frame over the limit is done with as soon as it is taken. -/
theorem Sound.refuse (hs : s.Sound c₀) {o : Outbound} {c : Connection} (hidle : s.writer = .idle)
    (hnext : s.connection.dequeue = some (o, c))
    (hover : o.frame.fits c₀.config.payloadLimit = false) :
    Sound c₀ { s with
      conversation := s.conversation.withConnection (c.acknowledge o.acknowledgement
        (some (o.frame.refusal c₀.config.payloadLimit)))
      done := s.done ++ [o] } := by
  obtain ⟨hbacklog, hlined, -, hconfig⟩ := Connection.backlog_dequeue hs.lined hnext
  have hsame := Connection.eq_of_dequeue hnext
  have htable : c.table = s.connection.table := (congrArg Connection.table hsame :)
  have hhand := hand_of_idle hs hidle
  have htaken : s.taken = s.done := by rw [taken, hhand, Option.toList_none, List.append_nil]
  have hitems : s.items = s.done ++ o :: c.backlog := by rw [items, htaken, hbacklog]
  have houtlet := c.outlet_acknowledge o.acknowledgement
    (some (o.frame.refusal c₀.config.payloadLimit))
  have hrest : (c.acknowledge o.acknowledgement
      (some (o.frame.refusal c₀.config.payloadLimit))).backlog = c.backlog :=
    congrArg (fun x ↦ x.1 ++ x.2.1) houtlet
  have hidentified := hs.identified
  rw [hitems] at hidentified
  have hown (id : UInt64) (n : Nat) (hn : o.acknowledgement = .request id n) :
      s.conversation.submitted[n]? = some id :=
    hidentified.ids o (List.mem_append_right _ List.mem_cons_self) hn
  have hfollowed := hs.followed.keeps (Connection.keeps_dequeue hnext)
  -- The frames besides this one are of other requests, and their write states stay.
  have hstates {o' : Outbound} (ho' : o' ∈ s.done ++ c.backlog) {id : UInt64} {n : Nat}
      (hn : o'.acknowledgement = .request id n) :
      (c.acknowledge o.acknowledgement
        (some (o.frame.refusal c₀.config.payloadLimit))).table.writeState n =
          s.connection.table.writeState n := by
    rw [← htable]
    exact writeState_refused hfollowed hs.nodup hown _ fun id' n' hn' ↦
      hidentified.ticket_ne ho' hn' hn
  refine ⟨hfollowed.acknowledge hs.nodup hown _, hs.nodup, hlined.of_outlet houtlet,
    (congrArg (·.2.2.2.2) houtlet).trans (hconfig.trans hs.config_eq), ?_, .inl ⟨hhand, hidle⟩, ?_,
    ?_, ?_, ?_, ?_⟩
  · have hwaiter : c.nextWaiter = s.connection.nextWaiter :=
      (congrArg Connection.nextWaiter hsame :)
    change Identified s.conversation.submitted (c.acknowledge _ _).nextWaiter
      (s.done ++ [o] ++ s.hand.toList ++ (c.acknowledge _ _).backlog)
    rw [hrest, hhand, Connection.nextWaiter_acknowledge, hwaiter]
    simpa using hidentified
  · have hwire := hs.wire_eq
    rw [htaken] at hwire
    change s.wire ++ s.unsent = _
    rw [hwire]
    simp [taken, hhand, hover]
  · have hnotices := c.notices_acknowledge c₀.config.payloadLimit o
    rw [if_neg (by simp [hover])] at hnotices
    have hbefore : c.notices = s.done.filterMap (Outbound.notice? c₀.config.payloadLimit) :=
      (congrArg Connection.notices hsame).trans hs.notices_eq
    refine hnotices.trans ?_
    rw [hbefore, List.filterMap_append]
    cases hnotice : o.notice? c₀.config.payloadLimit <;> simp [hnotice]
  · intro o' ho' id n hn
    have hmem : o' ∈ c.backlog := by
      rcases List.mem_append.mp ho' with ho' | ho'
      · rw [hhand] at ho'
        exact absurd ho' List.not_mem_nil
      · exact hrest ▸ ho'
    have hawaited := hs.awaited o'
      (List.mem_append_right _ (hbacklog ▸ List.mem_cons_of_mem o hmem)) hn
    rwa [← hstates (List.mem_append_right _ hmem) hn] at hawaited
  · intro o' ho' hfits id n hn
    rcases List.mem_append.mp ho' with ho' | ho'
    · have hwritten := hs.written o' ho' hfits hn
      rwa [← hstates (List.mem_append_left _ ho') hn] at hwritten
    · rw [List.mem_singleton.mp ho'] at hfits
      exact nomatch hfits.symm.trans hover
  · intro o' ho' hover' id n hn
    rcases List.mem_append.mp ho' with ho' | ho'
    · refine Connection.find?_acknowledge ?_ _ _
      rw [htable]
      exact hs.removed o' ho' hover' hn
    · rw [List.mem_singleton.mp ho'] at hn
      change (c.acknowledge o.acknowledgement _).table.find? id = none
      rw [hn]
      exact c.find?_failWrite_self id _

/-- The transport takes some octets. -/
theorem Sound.transmit (hs : s.Sound c₀) {a : Acknowledgement} {unsent : Bytes}
    (h : s.writer = .sending a unsent) (n : Nat) :
    Sound c₀ { s with wire := s.wire ++ unsent.take n, writer := .sending a (unsent.drop n) } := by
  have hwire := hs.wire_eq
  rw [Writing.unsent, h] at hwire
  refine ⟨hs.followed, hs.nodup, hs.lined, hs.config_eq, hs.identified, ?_, ?_, hs.notices_eq,
    hs.awaited, hs.written, hs.removed⟩
  · rcases hs.writer_eq with ⟨-, hidle⟩ | ⟨o, rest, hhand, hsending, hfits⟩
    · exact nomatch hidle.symm.trans h
    · obtain ⟨rfl, -⟩ := Writer.sending.inj (h.symm.trans hsending)
      exact .inr ⟨o, _, hhand, rfl, hfits⟩
  · change s.wire ++ unsent.take n ++ unsent.drop n = _
    rw [List.append_assoc, List.take_append_drop]
    exact hwire

/-- The frame in hand has been written. -/
theorem Sound.finish (hs : s.Sound c₀) {a : Acknowledgement} (h : s.writer = .sending a []) :
    Sound c₀ { s with
      conversation := s.conversation.withConnection (s.connection.acknowledge a none)
      writer := .idle
      done := s.done ++ s.hand.toList
      hand := none } := by
  rcases hs.writer_eq with ⟨-, hidle⟩ | ⟨o, rest, hhand, hsending, hfits⟩
  · exact nomatch hidle.symm.trans h
  obtain ⟨rfl, -⟩ := Writer.sending.inj (h.symm.trans hsending)
  have houtlet := s.connection.outlet_acknowledge o.acknowledgement none
  have hrest : (s.connection.acknowledge o.acknowledgement none).backlog = s.connection.backlog :=
    congrArg (fun x ↦ x.1 ++ x.2.1) houtlet
  have hadvances := s.connection.advances_acknowledge o.acknowledgement
  have hidentified := hs.identified
  have hmem : o ∈ s.items := by simp [items, taken, hhand]
  have hown (id : UInt64) (n : Nat) (hn : o.acknowledgement = .request id n) :
      s.conversation.submitted[n]? = some id := hidentified.ids o hmem hn
  refine ⟨hs.followed.acknowledge hs.nodup hown _, hs.nodup, hs.lined.of_outlet houtlet,
    (congrArg (·.2.2.2.2) houtlet).trans hs.config_eq, ?_, .inl ⟨rfl, rfl⟩, ?_, ?_, ?_, ?_, ?_⟩
  · change Identified _ (s.connection.acknowledge _ _).nextWaiter
      (s.done ++ s.hand.toList ++ [] ++ (s.connection.acknowledge _ _).backlog)
    rw [hrest, Connection.nextWaiter_acknowledge, List.append_nil]
    exact hidentified
  · have hwire := hs.wire_eq
    rw [Writing.unsent, h] at hwire
    change s.wire ++ [] = (((s.done ++ s.hand.toList ++ []).map _).filter _ |>.map _).flatten
    rw [List.append_nil (s.done ++ s.hand.toList)]
    exact hwire
  · have hnotices := s.connection.notices_acknowledge c₀.config.payloadLimit o
    rw [if_pos hfits] at hnotices
    refine hnotices.trans ?_
    rw [hs.notices_eq, hhand, List.filterMap_append]
    cases hnotice : o.notice? c₀.config.payloadLimit <;> simp [hnotice]
  · intro o' ho' id n hn
    have hmem' : o' ∈ s.connection.backlog := hrest ▸ ho'
    exact phase_ne_failed hadvances (hs.awaited o' (List.mem_append_right _ hmem') hn)
  · intro o' ho' hfits' id n hn
    rcases List.mem_append.mp ho' with ho' | ho'
    · exact phase_written hadvances (hs.written o' ho' hfits' hn)
    · obtain rfl : o' = o := by simpa [hhand] using ho'
      have hawaited := hs.awaited o' (by simp [hhand]) hn
      have hlt : n < s.connection.table.writes.length :=
        hs.followed.coherent.length_eq ▸ (List.getElem?_eq_some_iff.mp (hown id n hn)).1
      change ((s.connection.acknowledge o'.acknowledgement none).table.writeState n).phase = _
      rw [hn]
      exact (congrArg WriteState.phase (PendingTable.writeState_modify_self hlt)).trans
        (phase_markWritten hawaited)
  · intro o' ho' hover id n hn
    rcases List.mem_append.mp ho' with ho' | ho'
    · exact Connection.find?_acknowledge (hs.removed o' ho' hover hn) _ _
    · obtain rfl : o' = o := by simpa [hhand] using ho'
      exact nomatch hfits.symm.trans hover

theorem Step.sound (h : Step handler s s') (hs : s.Sound c₀) : s'.Sound c₀ := by
  cases h with
  | event e _ he hnew => exact hs.event he hnew
  | @take _ o c c' w _ hidle hnext htake =>
    have hlimit : c.config.payloadLimit = c₀.config.payloadLimit :=
      congrArg ConnectionConfig.payloadLimit
        ((Connection.backlog_dequeue hs.lined hnext).2.2.2.trans hs.config_eq)
    rw [Connection.takeFrame_eq hnext, hlimit] at htake
    rw [hs.limit_eq]
    cases hfits : o.frame.fits c₀.config.payloadLimit with
    | true =>
      rw [if_pos hfits] at htake
      obtain ⟨rfl, rfl⟩ := Prod.mk.inj (Option.some.inj htake)
      simpa using hs.take hidle hnext hfits
    | false =>
      rw [if_neg (by simp [hfits])] at htake
      obtain ⟨rfl, rfl⟩ := Prod.mk.inj (Option.some.inj htake)
      have hrefuse := hs.refuse hidle hnext hfits
      rw [hand_of_idle hs hidle, hidle] at hrefuse
      simpa using hrefuse
  | transmit n _ _ hsending => exact hs.transmit hsending n
  | written _ _ hsending => exact hs.finish hsending

theorem sound_of_reachable {info : ConnectionInfo} {config : ConnectionConfig}
    {registry decoders : Registry} {processors : Nat} {dispatch : DispatchConfig}
    (h : ReflTransGen (Step handler)
      (start info config registry decoders processors dispatch) s) :
    Sound (start info config registry decoders processors dispatch).connection s := by
  induction h with
  | refl => exact sound_start info config registry decoders processors dispatch
  | tail _ hstep ih => exact hstep.sound ih

/-- **Frames are taken in the order in which they were queued.** -/
theorem Step.items_prefix (h : Step handler s s') (hs : s.Sound c₀) : s.items <+: s'.items := by
  cases h with
  | event e _ he hnew =>
    have hadds := Conversation.adds_apply hs.lined handler he
    rcases hadds.queues with hqueues | ⟨f, hqueues, -⟩
    · change _ <+: s.taken ++ (s.conversation.apply handler e).connection.backlog
      rw [hqueues.backlog_eq, ← List.append_assoc]
      exact List.prefix_append _ _
    · change _ <+: s.taken ++ (s.conversation.apply handler e).connection.backlog
      rw [hqueues.backlog_eq, ← List.append_assoc]
      exact List.prefix_append _ _
  | @take _ o c c' w _ hidle hnext htake =>
    have hbacklog := (Connection.backlog_dequeue hs.lined hnext).1
    have hrest : c'.backlog = c.backlog :=
      congrArg (fun x ↦ x.1 ++ x.2.1) (Connection.takeFrame_cases hnext htake).1
    change s.done ++ s.hand.toList ++ s.connection.backlog <+: _ ++ _ ++ c'.backlog
    rw [hand_of_idle hs hidle, hbacklog, hrest]
    cases o.frame.fits s.limit <;> simp
  | transmit => exact List.prefix_refl _
  | @written _ a _ hsending =>
    have hrest : (s.connection.acknowledge a none).backlog = s.connection.backlog :=
      congrArg (fun x ↦ x.1 ++ x.2.1) (s.connection.outlet_acknowledge a none)
    change _ <+: s.done ++ s.hand.toList ++ [] ++ (s.connection.acknowledge a none).backlog
    rw [hrest, List.append_nil]
    exact List.prefix_refl _

/-! ## What goes out -/

/-- **The stream carries the frames that fit, and a frame that does not fails alone.** At every
moment, what was put on the transport and what is left of the frame in hand are the encodings of
the frames taken so far that are within the limit, in the order in which they were queued. Who
waits for the write of a frame is told once, when the writer is done with it, and nobody else is
told. A request that was written is noted as written, and one that could not be is removed and told
one thing. A frame over the limit that is next adds nothing to the stream, and touches nothing but
its own request or sender, unless it is a probe. -/
theorem outbound_exact {info : ConnectionInfo} {config : ConnectionConfig}
    {registry decoders : Registry} {processors : Nat} {dispatch : DispatchConfig}
    (h : ReflTransGen (Step handler)
      (start info config registry decoders processors dispatch) s) :
    Frame.encodeAll config.payloadLimit
      ((s.taken.map (·.frame)).filter (Frame.fits config.payloadLimit)) =
        .ok (s.wire ++ s.unsent) ∧
    s.connection.notices = s.done.filterMap (Outbound.notice? config.payloadLimit) ∧
    (∀ o ∈ s.done, ∀ w, o.acknowledgement = .notify w →
      s.connection.notices.filter (·.1 = w) = [(w, o.verdict config.payloadLimit)]) ∧
    (∀ o ∈ s.done, ∀ id n, o.acknowledgement = .request id n → s.conversation.ticket id = n ∧
      if o.frame.fits config.payloadLimit then
        (s.connection.table.writeState n).phase = .written
      else s.connection.table.find? id = none ∧ ∃ r, s.conversation.told id = [r]) ∧
    (∀ o c, s.connection.dequeue = some (o, c) → o.frame.fits config.payloadLimit = false →
      c = { s.connection with queue := c.queue, waiting := c.waiting } ∧
      ∃ c', s.connection.takeFrame = some (.idle, c') ∧ c.Fails o c') ∧
    ∀ s', Step handler s s' → s.items <+: s'.items := by
  have hs := sound_of_reachable h
  refine ⟨?_, hs.notices_eq, ?_, ?_, ?_, fun s' hstep ↦ hstep.items_prefix hs⟩
  · have hfits : ∀ f ∈ (s.taken.map (·.frame)).filter (Frame.fits config.payloadLimit),
        f.body.octets.length ≤ Frame.clampLimit config.payloadLimit :=
      fun f hf ↦ of_decide_eq_true (List.mem_filter.mp hf).2
    rw [Frame.encodeAll, Frame.mapM_encode hfits, hs.wire_eq]
    rfl
  · intro o ho w hw
    have hwaiters : (s.done.filterMap Outbound.waiter?).Nodup := by
      refine hs.identified.waiters.sublist (List.Sublist.filterMap _ ?_)
      exact (List.sublist_append_left _ _).trans (List.sublist_append_left _ _)
    rw [hs.notices_eq]
    exact Outbound.filter_notices hwaiters ho (by rw [Outbound.waiter?, hw]) _
  · intro o ho id n hn
    have hid := hs.identified.ids o (List.mem_append_left _ (List.mem_append_left _ ho)) hn
    refine ⟨ticket_eq hs.nodup hid, ?_⟩
    split
    · next hfits => exact hs.written o ho hfits hn
    · next hover =>
      have hnone := hs.removed o ho (Bool.eq_false_iff.mpr hover) hn
      exact ⟨hnone, hs.followed.told (List.mem_of_getElem? hid) hnone⟩
  · intro o c hnext hover
    have hconfig := (Connection.backlog_dequeue hs.lined hnext).2.2.2.trans hs.config_eq
    have hlimit : c.config.payloadLimit = config.payloadLimit :=
      congrArg ConnectionConfig.payloadLimit hconfig
    have hfails := c.fails_acknowledge o
    rw [← hlimit] at hover
    rw [Connection.takeFrame_eq hnext, if_neg (by simp [hover])]
    exact ⟨Connection.eq_of_dequeue hnext, _, rfl, hfails⟩

/-- A frame is written, and the request behind it is over a limit of eight octets. -/
theorem outbound_exact_before_overlong :
    ∃ s : Writing, ReflTransGen (Step false) (start ⟨"client", "peer", .client, 1⟩
        { ConnectionConfig.standard with payloadLimit := 8 } .standard .standard 1 .standard) s ∧
      s.connection.notices.filter (·.1 = 0) = [(0, .written)] ∧ s.wire.length = 18 ∧
      s.connection.table.find? 7 = none ∧ ∃ r, s.conversation.told 7 = [r] := by
  let config := { ConnectionConfig.standard with payloadLimit := 8 }
  let s₀ : Writing := start ⟨"client", "peer", .client, 1⟩ config .standard .standard 1 .standard
  have h₁ : ReflTransGen (Step false) s₀ _ :=
    .single (.event (.oneway [2, 3]) s₀ rfl (by rintro _ ⟨⟩))
  have h₂ := (h₁.tail (.take _ rfl rfl rfl rfl)).tail (.transmit 100 _ rfl rfl)
  have h₃ := h₂.tail (.written _ rfl rfl)
  have h₄ := h₃.tail
    (.event (.submit 7 .raw (List.replicate 9 0) none) _ rfl (by rintro _ ⟨⟩; decide))
  have h₅ := h₄.tail (.take _ rfl rfl rfl rfl)
  obtain ⟨-, -, hnotified, hrequests, -, -⟩ := outbound_exact h₅
  have hwritten := hnotified _ List.mem_cons_self 0 rfl
  obtain ⟨-, hrefused⟩ := hrequests _ (List.mem_cons_of_mem _ List.mem_cons_self) 7 0 rfl
  rw [if_neg (by decide)] at hrefused
  exact ⟨_, h₅, hwritten, rfl, hrefused⟩

end Writing

end RpcTransport
