import RpcTransport.Proofs.Connection.Events

/-!
# A request goes through its story

What becomes of a request depends on its own events and on the end of the connection, and on nothing
else (`Tracks.apply`). The tasks of other requests go through the same table, queue, wheel and
workers, but an entry is found by its id and a caller by its ticket. The ids of a run are distinct,
and then so are the tickets (`Coherent`), so that no event of one request finds another.

There are four kinds of events to a request: those that are of no account to any (`Tracks.keeps`),
those that resolve one request (`Tracks.resolve`), those that note something of one, and those that
concern all.
-/

namespace RpcTransport

namespace Connection

variable {c c' : Connection}

theorem toldTo_perm {ds : List Delivery} (h : c'.outcomes.Perm (c.outcomes ++ ds)) (n : Nat) :
    (c'.toldTo n).Perm (c.toldTo n ++
      ds.filterMap fun d ↦ if d.ticket = n then some d.resolution else none) := by
  rw [toldTo, toldTo, ← List.filterMap_append]
  exact h.filterMap _

theorem toldTo_of_perm (h : c'.outcomes.Perm c.outcomes) (n : Nat) :
    (c'.toldTo n).Perm (c.toldTo n) := h.filterMap _

/-- Who was told nothing of what was added was told what it was told before. -/
theorem toldTo_perm_of_ne {ds : List Delivery} (h : c'.outcomes.Perm (c.outcomes ++ ds)) {n : Nat}
    (hn : ∀ d ∈ ds, d.ticket ≠ n) : (c'.toldTo n).Perm (c.toldTo n) := by
  have hperm := toldTo_perm h n
  have hnone : (ds.filterMap fun d ↦ if d.ticket = n then some d.resolution else none) = [] := by
    rw [List.filterMap_eq_nil_iff]
    intro d hd
    exact if_neg (hn d hd)
  rwa [hnone, List.append_nil] at hperm

end Connection

namespace Conversation

variable {c₀ c' : Connection} {s : Conversation} {x : UInt64}

/-! ## Tickets -/

/-- Ids and tickets go together, and nothing is pending once the connection is closed. -/
structure Coherent (c₀ : Connection) (s : Conversation) : Prop where
  length_eq : s.submitted.length = s.connection.table.writes.length
  entries : ∀ p ∈ s.connection.table.entries, s.submitted[p.ticket]? = some p.id
  outcomes : ∀ d ∈ s.connection.outcomes, d.ticket < s.submitted.length
  closed : s.connection.standing.closed = true → s.connection.table.entries = []
  cancelled : s.connection.standing.cancelled = true → s.connection.standing.closed = true
  queueOpen : s.connection.standing.closed = false → s.connection.standing.queueOpen = true
  fixed_eq : s.connection.standing.fixed = c₀.standing.fixed

namespace Coherent

theorem name_eq (hs : s.Coherent c₀) : s.connection.name = c₀.name := congrArg (·.1) hs.fixed_eq

theorem peer_eq (hs : s.Coherent c₀) : s.connection.peer = c₀.peer := congrArg (·.2.1) hs.fixed_eq

theorem decoders_eq (hs : s.Coherent c₀) :
    s.connection.dispatcher.registry = c₀.dispatcher.registry := congrArg (·.2.2.1) hs.fixed_eq

theorem requestTimeout_eq (hs : s.Coherent c₀) :
    s.connection.config.requestTimeout = c₀.config.requestTimeout := congrArg (·.2.2.2) hs.fixed_eq

end Coherent

theorem getElem?_ticket (hx : x ∈ s.submitted) : s.submitted[s.ticket x]? = some x := by
  rw [ticket, List.getElem?_eq_getElem (List.idxOf_lt_length_iff.mpr hx), List.getElem_idxOf]

/-- A request that is not `x` has another ticket. -/
theorem Coherent.ticket_ne (hs : s.Coherent c₀) {p : Pending}
    (hp : p ∈ s.connection.table.entries) (hid : p.id ≠ x) : p.ticket ≠ s.ticket x := by
  intro hticket
  have hget := hs.entries p hp
  by_cases hx : x ∈ s.submitted
  · rw [hticket, getElem?_ticket hx] at hget
    exact hid (Option.some.inj hget).symm
  · rw [hticket, ticket, List.idxOf_eq_length hx, List.getElem?_eq_none (Nat.le_refl _)] at hget
    exact nomatch hget

/-- Nobody is told of a request that was not submitted. -/
theorem Coherent.told_eq_nil (hs : s.Coherent c₀) (hx : x ∉ s.submitted) : s.told x = [] := by
  rw [told, Connection.toldTo, List.filterMap_eq_nil_iff]
  intro d hd
  have hlt := hs.outcomes d hd
  refine if_neg fun hticket ↦ ?_
  rw [hticket, ticket, List.idxOf_eq_length hx] at hlt
  exact Nat.lt_irrefl _ hlt

theorem Coherent.keeps (hs : s.Coherent c₀) (h : Connection.Keeps s.connection c') :
    (s.withConnection c').Coherent c₀ where
  length_eq := h.table_eq ▸ hs.length_eq
  entries := h.table_eq ▸ hs.entries
  outcomes d hd := hs.outcomes d (h.outcomes_perm.mem_iff.mp hd)
  closed hclosed := h.table_eq ▸ hs.closed (h.standing_eq ▸ hclosed)
  cancelled := h.standing_eq ▸ hs.cancelled
  queueOpen := h.standing_eq ▸ hs.queueOpen
  fixed_eq := h.standing_eq ▸ hs.fixed_eq

theorem Coherent.resolves (hs : s.Coherent c₀) {p : Pending} {r : Resolution}
    (h : Connection.Resolves s.connection c' p r) : (s.withConnection c').Coherent c₀ where
  length_eq := hs.length_eq.trans h.length_writes.symm
  entries q hq := by
    change q ∈ c'.table.entries at hq
    rw [h.entries_eq] at hq
    exact hs.entries q (List.mem_filter.mp hq).1
  outcomes d hd := by
    rcases List.mem_append.mp (h.outcomes_perm.mem_iff.mp hd) with hd | hd
    · exact hs.outcomes d hd
    · have hp : p ∈ s.connection.table.entries := List.mem_of_find?_eq_some h.found
      rw [List.mem_singleton.mp hd]
      exact (List.getElem?_eq_some_iff.mp (hs.entries p hp)).1
  closed hclosed := by
    change c'.table.entries = []
    rw [h.entries_eq, hs.closed (h.standing_eq ▸ hclosed)]
    rfl
  cancelled := h.standing_eq ▸ hs.cancelled
  queueOpen := h.standing_eq ▸ hs.queueOpen
  fixed_eq := h.standing_eq ▸ hs.fixed_eq

/-! ## How far a request has come -/

/-- A request is as far as its fate says. -/
def At (s : Conversation) (x : UInt64) : Fate → Prop
  | .unborn => x ∉ s.submitted
  | .pending kind timeout write =>
    x ∈ s.submitted ∧ s.told x = [] ∧ s.connection.table.writeState (s.ticket x) = write ∧
      ∃ timer, s.connection.table.find? x = some ⟨x, ⟨kind, s.ticket x⟩, timeout, timer⟩
  | .settled r => x ∈ s.submitted ∧ s.told x = [r] ∧ s.connection.table.find? x = none

structure Tracks (c₀ : Connection) (x : UInt64) (s : Conversation) (st : Story) : Prop where
  coherent : s.Coherent c₀
  closed_eq : s.connection.standing.closed = st.closed.isSome
  reason_eq : s.connection.standing.closeReason = st.closed
  at_fate : s.At x st.fate

variable {st : Story}

/-- Only what is pending can be settled. -/
theorem Tracks.settle_eq (h : Tracks c₀ x s st) (hnone : s.connection.table.find? x = none)
    (resolution : CompletionKind → Nat → WriteState → Resolution) :
    st.fate.settle resolution = st.fate := by
  obtain ⟨closed, fate⟩ := st
  cases fate with
  | pending kind timeout write =>
    obtain ⟨-, -, -, timer, hfound⟩ := h.at_fate
    exact nomatch hfound.symm.trans hnone
  | unborn | settled => rfl

theorem Tracks.told_eq (h : Tracks c₀ x s st) :
    s.told x = match st.fate with
      | .settled r => [r]
      | _ => [] := by
  obtain ⟨closed, fate⟩ := st
  cases fate with
  | unborn => exact h.coherent.told_eq_nil h.at_fate
  | pending => exact h.at_fate.2.1
  | settled => exact h.at_fate.2.1

theorem At.of_same (hc : c'.table = s.connection.table) {fate : Fate}
    (htold : (c'.toldTo (s.ticket x)).Perm (s.told x)) (h : s.At x fate) :
    (s.withConnection c').At x fate := by
  cases fate with
  | unborn => exact h
  | pending kind timeout write =>
    obtain ⟨hx, hnone, hwrite, hfound⟩ := h
    refine ⟨hx, ?_, hc ▸ hwrite, hc ▸ hfound⟩
    exact List.perm_nil.mp (hnone ▸ htold)
  | settled r =>
    obtain ⟨hx, hone, hfound⟩ := h
    refine ⟨hx, ?_, hc ▸ hfound⟩
    exact List.perm_singleton.mp (hone ▸ htold)

/-- **What is of no account to requests is of none to this one.** -/
theorem Tracks.keeps (h : Tracks c₀ x s st) (hc : Connection.Keeps s.connection c') :
    Tracks c₀ x (s.withConnection c') st where
  coherent := h.coherent.keeps hc
  closed_eq := hc.standing_eq ▸ h.closed_eq
  reason_eq := hc.standing_eq ▸ h.reason_eq
  at_fate := h.at_fate.of_same hc.table_eq (Connection.toldTo_of_perm hc.outcomes_perm _)

section Resolved

variable {p : Pending} {r : Resolution} {fate : Fate}
  {resolution : CompletionKind → Nat → WriteState → Resolution}

/-- A request that is resolved was pending, and is told its resolution. -/
theorem At.resolved (h : s.At x fate) (hs : s.Coherent c₀)
    (hc : Connection.Resolves s.connection c' p r) (hid : p.id = x)
    (hr : r = resolution p.completion.kind p.timeout (s.connection.table.writeState p.ticket)) :
    At (s.withConnection c') x (fate.settle resolution) := by
  have hfound : s.connection.table.find? x = some p := hid ▸ hc.found
  cases fate with
  | unborn =>
    -- Who has an entry was submitted.
    have hget := hs.entries p (List.mem_of_find?_eq_some hfound)
    exact absurd (hid ▸ List.mem_of_getElem? hget) h
  | settled => exact nomatch hfound.symm.trans h.2.2
  | pending kind timeout write =>
    obtain ⟨hx, hnone, hwrite, timer, hpending⟩ := h
    have htold := Connection.toldTo_perm hc.outcomes_perm (s.ticket x)
    rw [show s.connection.toldTo (s.ticket x) = [] from hnone, List.nil_append, hr] at htold
    obtain rfl := Option.some.inj (hfound.symm.trans hpending)
    refine ⟨hx, List.perm_singleton.mp (htold.trans (.of_eq ?_)), ?_⟩
    · simp [Pending.ticket, hwrite]
    · change c'.table.find? x = none
      rw [PendingTable.find?, hc.entries_eq, List.find?_eq_none]
      intro q hq
      simpa using (List.mem_filter.mp hq).2

/-- The others neither lose their entry nor are told anything. -/
theorem At.of_other (h : s.At x fate) (hs : s.Coherent c₀)
    (hc : Connection.Resolves s.connection c' p r) (hid : p.id ≠ x) :
    At (s.withConnection c') x fate := by
  have hticket := hs.ticket_ne (List.mem_of_find?_eq_some hc.found) hid
  have htold := Connection.toldTo_perm_of_ne hc.outcomes_perm (n := s.ticket x) fun d hd ↦ by
    rw [List.mem_singleton.mp hd]
    exact hticket
  have hfind : c'.table.find? x = s.connection.table.find? x := by
    rw [PendingTable.find?, hc.entries_eq]
    exact s.connection.table.find?_take_of_ne hid
  cases fate with
  | unborn => exact h
  | settled r' =>
    obtain ⟨hx, hone, hnone⟩ := h
    exact ⟨hx, List.perm_singleton.mp (hone ▸ htold), hfind.trans hnone⟩
  | pending kind timeout write =>
    obtain ⟨hx, hnone, hwrite, timer, hpending⟩ := h
    refine ⟨hx, List.perm_nil.mp (hnone ▸ htold), ?_, timer, hfind.trans hpending⟩
    exact (hc.writeState_eq _ hticket.symm).trans hwrite

/-- **A request that is resolved is this one, or another.** -/
theorem Tracks.resolve (h : Tracks c₀ x s st) {id : UInt64}
    (hc : s.connection.table.find? id = none ∧ Connection.Keeps s.connection c' ∨
      ∃ p, s.connection.table.find? id = some p ∧ p.id = id ∧
        ∃ r, Connection.Resolves s.connection c' p r ∧
          r = resolution p.completion.kind p.timeout
            (s.connection.table.writeState p.ticket)) :
    Tracks c₀ x (s.withConnection c')
      (if id = x then { st with fate := st.fate.settle resolution } else st) := by
  rcases hc with ⟨hnone, hkeeps⟩ | ⟨p, -, rfl, r, hresolves, hr⟩
  · split
    · next hx =>
      rw [h.settle_eq (hx ▸ hnone)]
      exact h.keeps hkeeps
    · exact h.keeps hkeeps
  · have hcoherent := h.coherent.resolves hresolves
    split
    · next hx =>
      exact ⟨hcoherent, hresolves.standing_eq ▸ h.closed_eq, hresolves.standing_eq ▸ h.reason_eq,
        h.at_fate.resolved h.coherent hresolves hx hr⟩
    · next hx =>
      exact ⟨hcoherent, hresolves.standing_eq ▸ h.closed_eq, hresolves.standing_eq ▸ h.reason_eq,
        h.at_fate.of_other h.coherent hresolves hx⟩

end Resolved

/-- Of those that are drained, the request is told of once if it is pending. -/
theorem Coherent.filterMap_drain (hs : s.Coherent c₀) (reason : TransportError) :
    ((s.connection.table.drain.1.map fun p ↦ p.completion.fail reason).filterMap fun d ↦
        if d.ticket = s.ticket x then some d.resolution else none) =
      (s.connection.table.find? x).toList.filterMap fun p ↦
        if p.ticket = s.ticket x then some (.failed reason) else none := by
  rw [← PendingTable.filter_drain, List.filterMap_filter, List.filterMap_map]
  refine List.filterMap_congr fun p hp ↦ ?_
  rw [Function.comp_apply]
  by_cases hid : p.id = x
  · rw [if_pos (decide_eq_true hid)]
    rfl
  · have hticket := hs.ticket_ne (PendingTable.mem_entries_of_mem_takeAll hp) hid
    exact (if_neg hticket).trans (if_neg (by simpa using hid)).symm

/-! ## Events -/

/-- The result of a write is noted of the request it is of. -/
theorem Tracks.written (h : Tracks c₀ x s st) (id : UInt64) :
    Tracks c₀ x (s.withConnection (s.connection.acknowledge (.request id (s.ticket id)) none))
      (if id = x then { st with fate := st.fate.markWritten } else st) := by
  have hcoherent : Coherent c₀
      (s.withConnection (s.connection.acknowledge (.request id (s.ticket id)) none)) := by
    refine ⟨?_, h.coherent.entries, h.coherent.outcomes, h.coherent.closed, h.coherent.cancelled,
      h.coherent.queueOpen, h.coherent.fixed_eq⟩
    exact h.coherent.length_eq.trans (List.length_modify _ _ _).symm
  obtain ⟨closed, fate⟩ := st
  cases fate with
  | unborn | settled =>
    split
    all_goals exact ⟨hcoherent, h.closed_eq, h.reason_eq, h.at_fate⟩
  | pending kind timeout write =>
    obtain ⟨hx, hnone, hwrite, hfound⟩ := h.at_fate
    split
    · next hid =>
      subst hid
      refine ⟨hcoherent, h.closed_eq, h.reason_eq, hx, hnone, ?_, hfound⟩
      have hlt : s.ticket id < s.connection.table.writes.length :=
        h.coherent.length_eq ▸ List.idxOf_lt_length_iff.mpr hx
      rw [← hwrite]
      exact PendingTable.writeState_modify_self hlt
    · next hid =>
      refine ⟨hcoherent, h.closed_eq, h.reason_eq, hx, hnone, ?_, hfound⟩
      refine (PendingTable.writeState_modify fun hticket ↦ hid ?_).trans hwrite
      exact ((List.idxOf_inj hx).mp hticket).symm

section Shutdown

variable (hopen : s.connection.closed = false) (reason : TransportError)

include hopen

theorem Coherent.shutdown (hs : s.Coherent c₀) :
    (s.withConnection (s.connection.shutdown reason)).Coherent c₀ := by
  obtain ⟨htable, houtcomes, hstanding⟩ := Connection.shutdown_of_open hopen reason
  obtain ⟨hwrites, -, -⟩ := s.connection.table.takeAll_rest s.connection.table.ids
  have hempty : (s.connection.shutdown reason).table.entries = [] := by
    rw [htable]
    exact s.connection.table.entries_drain
  have hclosed := congrArg Connection.Standing.closed hstanding
  constructor
  · refine hs.length_eq.trans ?_
    rw [← hwrites]
    exact congrArg (·.writes.length) htable.symm
  · intro p hp
    cases hempty ▸ hp
  · intro d hd
    rcases List.mem_append.mp (houtcomes.mem_iff.mp hd) with hd | hd
    · exact hs.outcomes d hd
    · obtain ⟨p, hp, rfl⟩ := List.mem_map.mp hd
      have hentry := hs.entries p (PendingTable.mem_entries_of_mem_takeAll hp)
      exact (List.getElem?_eq_some_iff.mp hentry).1
  · exact fun _ ↦ hempty
  · exact fun _ ↦ hclosed
  · intro hstill
    cases hclosed.symm.trans hstill
  · exact (congrArg Connection.Standing.fixed hstanding).trans hs.fixed_eq

/-- Who is pending is told why, and nobody else is told anything. -/
theorem At.shutdown {fate : Fate} (h : s.At x fate) (hs : s.Coherent c₀) :
    At (s.withConnection (s.connection.shutdown reason)) x
      (fate.settle fun _ _ _ ↦ .failed reason) := by
  obtain ⟨htable, houtcomes, -⟩ := Connection.shutdown_of_open hopen reason
  have htold := Connection.toldTo_perm houtcomes (s.ticket x)
  rw [hs.filterMap_drain reason] at htold
  have hnone : (s.connection.shutdown reason).table.find? x = none := by
    rw [PendingTable.find?, htable, s.connection.table.entries_drain]
    rfl
  cases fate with
  | unborn => exact h
  | settled r =>
    obtain ⟨hx, hone, hbefore⟩ := h
    refine ⟨hx, List.perm_singleton.mp (htold.trans (.of_eq ?_)), hnone⟩
    rw [hbefore, Option.toList_none, List.filterMap_nil, List.append_nil]
    exact hone
  | pending kind timeout write =>
    obtain ⟨hx, htoldNil, -, timer, hbefore⟩ := h
    refine ⟨hx, List.perm_singleton.mp (htold.trans (.of_eq ?_)), hnone⟩
    rw [show s.connection.toldTo (s.ticket x) = [] from htoldNil, hbefore]
    simp [Pending.ticket]

end Shutdown

/-- The end of the connection settles whatever is pending. -/
theorem Tracks.teardown (h : Tracks c₀ x s st) (reason : TransportError) :
    Tracks c₀ x (s.withConnection (s.connection.shutdown reason))
      ⟨some (st.closed.getD reason), st.fate.settle fun _ _ _ ↦ .failed reason⟩ := by
  cases hclosed : s.connection.closed with
  | true =>
    have hnone : s.connection.table.find? x = none := by
      rw [PendingTable.find?, h.coherent.closed hclosed]
      rfl
    have hsome : some (st.closed.getD reason) = st.closed := by
      obtain ⟨r, hr⟩ := Option.isSome_iff_exists.mp (h.closed_eq.symm.trans hclosed)
      rw [hr]
      rfl
    rw [h.settle_eq hnone, hsome]
    exact h.keeps (Connection.shutdown_of_closed hclosed reason)
  | false =>
    obtain ⟨-, -, hstanding⟩ := Connection.shutdown_of_open hclosed reason
    have hreason : s.connection.closeReason = st.closed := h.reason_eq
    refine ⟨h.coherent.shutdown hclosed reason, congrArg Connection.Standing.closed hstanding, ?_,
      h.at_fate.shutdown hclosed reason h.coherent⟩
    refine (congrArg Connection.Standing.closeReason hstanding).trans ?_
    rw [hreason]

section Submit

variable {id : UInt64} {ds : List Delivery}

theorem Coherent.submit (hs : s.Coherent c₀) {ps : List Pending}
    (houtcomes : c'.outcomes.Perm (s.connection.outcomes ++ ds))
    (hds : ∀ d ∈ ds, d.ticket = s.submitted.length)
    (hwrites : c'.table.writes = s.connection.table.writes ++ [.initial])
    (hentries : c'.table.entries = s.connection.table.entries ++ ps)
    (hps : ∀ p ∈ ps, p.id = id ∧ p.ticket = s.submitted.length)
    (hclosed : s.connection.closed = true → ps = [])
    (hstanding : c'.standing = s.connection.standing) :
    Coherent c₀ ⟨c', s.submitted ++ [id]⟩ where
  length_eq := by
    simp only [hwrites, List.length_append, List.length_singleton, hs.length_eq]
  entries p hp := by
    change p ∈ c'.table.entries at hp
    rw [hentries] at hp
    rcases List.mem_append.mp hp with hp | hp
    · have hget := hs.entries p hp
      exact (List.getElem?_append_left (List.getElem?_eq_some_iff.mp hget).1).trans hget
    · obtain ⟨rfl, hticket⟩ := hps p hp
      simp [hticket]
  outcomes d hd := by
    rw [List.length_append, List.length_singleton]
    rcases List.mem_append.mp (houtcomes.mem_iff.mp hd) with hd | hd
    · exact Nat.lt_succ_of_lt (hs.outcomes d hd)
    · exact hds d hd ▸ Nat.lt_succ_self _
  closed h := by
    have hbefore : s.connection.closed = true :=
      (congrArg Connection.Standing.closed hstanding).symm.trans h
    change c'.table.entries = []
    rw [hentries, hs.closed hbefore, hclosed hbefore]
    rfl
  cancelled := hstanding ▸ hs.cancelled
  queueOpen := hstanding ▸ hs.queueOpen
  fixed_eq := hstanding ▸ hs.fixed_eq

/-- Another request is submitted. -/
theorem At.submit {fate : Fate} (h : s.At x fate) (hs : s.Coherent c₀) (hid : id ≠ x)
    (houtcomes : c'.outcomes.Perm (s.connection.outcomes ++ ds))
    (hds : ∀ d ∈ ds, d.ticket = s.submitted.length)
    (hwrites : c'.table.writes = s.connection.table.writes ++ [.initial])
    (hfind : c'.table.find? x = s.connection.table.find? x) :
    At ⟨c', s.submitted ++ [id]⟩ x fate := by
  -- The new id stands behind the others, so these keep their tickets.
  have hmem (hx : x ∈ s.submitted) : x ∈ s.submitted ++ [id] := List.mem_append_left _ hx
  have hticket (hx : x ∈ s.submitted) :
      ticket ⟨c', s.submitted ++ [id]⟩ x = s.ticket x := List.idxOf_append_of_mem hx
  have htold (hx : x ∈ s.submitted) : (c'.toldTo (s.ticket x)).Perm (s.told x) := by
    refine Connection.toldTo_perm_of_ne houtcomes fun d hd heq ↦ ?_
    rw [hds d hd] at heq
    exact Nat.ne_of_gt (List.idxOf_lt_length_iff.mpr hx) heq
  cases fate with
  | unborn =>
    intro hx
    rcases List.mem_append.mp hx with hx | hx
    · exact h hx
    · exact hid (List.mem_singleton.mp hx).symm
  | settled r =>
    obtain ⟨hx, hone, hnone⟩ := h
    refine ⟨hmem hx, ?_, hfind.trans hnone⟩
    rw [told, hticket hx]
    exact List.perm_singleton.mp (hone ▸ htold hx)
  | pending kind timeout write =>
    obtain ⟨hx, hnone, hwrite, timer, hpending⟩ := h
    refine ⟨hmem hx, ?_, ?_, timer, ?_⟩
    · rw [told, hticket hx]
      exact List.perm_nil.mp (hnone ▸ htold hx)
    · have hlt : s.ticket x < s.connection.table.writes.length :=
        hs.length_eq ▸ List.idxOf_lt_length_iff.mpr hx
      rw [hticket hx, ← hwrite]
      simp only [PendingTable.writeState, hwrites, List.getD_eq_getElem?_getD,
        List.getElem?_append_left hlt]
    · rw [hticket hx]
      exact hfind.trans hpending

/-- An id that is new is not in the table. -/
theorem Coherent.find?_eq_none (hs : s.Coherent c₀) (hnew : id ∉ s.submitted) :
    s.connection.table.find? id = none := by
  rw [PendingTable.find?, List.find?_eq_none]
  intro p hp
  have hne : p.id ≠ id := fun heq ↦ hnew (heq ▸ List.mem_of_getElem? (hs.entries p hp))
  simpa using hne

/-- A new request has the next ticket, for which nobody was told anything. -/
theorem Coherent.ticket_new (hs : s.Coherent c₀) (hnew : id ∉ s.submitted) (c' : Connection) :
    ticket ⟨c', s.submitted ++ [id]⟩ id = s.connection.table.writes.length ∧
      s.connection.toldTo s.connection.table.writes.length = [] := by
  have hnone := hs.told_eq_nil hnew
  rw [told, ticket, List.idxOf_eq_length hnew, hs.length_eq] at hnone
  refine ⟨?_, hnone⟩
  rw [ticket, List.idxOf_append_of_notMem hnew, ← hs.length_eq]
  simp

/-- A submission leaves the connection open or closed, as it was. -/
theorem Tracks.of_submit (h : Tracks c₀ x s st) {kind : CompletionKind} {body : Bytes}
    {timeout : Option Nat} (hcoherent : Coherent c₀ ⟨c', s.submitted ++ [id]⟩)
    (hstanding : c'.standing = s.connection.standing)
    (hat : At ⟨c', s.submitted ++ [id]⟩ x (st.next c₀ x (.submit id kind body timeout)).fate) :
    Tracks c₀ x ⟨c', s.submitted ++ [id]⟩ (st.next c₀ x (.submit id kind body timeout)) where
  coherent := hcoherent
  closed_eq := by
    rw [Story.closed_submit]
    exact (congrArg Connection.Standing.closed hstanding).trans h.closed_eq
  reason_eq := by
    rw [Story.closed_submit]
    exact (congrArg Connection.Standing.closeReason hstanding).trans h.reason_eq
  at_fate := hat

/-- On a closed connection a new request is refused. -/
theorem Tracks.submit_of_closed (h : Tracks c₀ x s st) (hnew : id ∉ s.submitted)
    {reason : TransportError} (hreason : st.closed = some reason) (kind : CompletionKind)
    (body : Bytes) (timeout : Option Nat) :
    Tracks c₀ x
      ⟨({ s.connection with nextId := id }.submit kind body timeout).2, s.submitted ++ [id]⟩
      (st.next c₀ x (.submit id kind body timeout)) := by
  have hs := h.coherent
  have hclosed : s.connection.closed = true := by
    refine h.closed_eq.trans ?_
    rw [hreason]
    rfl
  have hinactive : ({ s.connection with nextId := id } : Connection).inactiveError = reason := by
    have heq : s.connection.closeReason = some reason := h.reason_eq.trans hreason
    rw [Connection.inactiveError, heq]
    rfl
  obtain ⟨htable, houtcomes, hstanding⟩ := Connection.submit_of_closed
    (c := { s.connection with nextId := id }) hclosed kind body timeout
  rw [hinactive] at houtcomes
  have hds : ∀ d ∈ [(⟨s.connection.table.writes.length, .failed reason⟩ : Delivery)],
      d.ticket = s.submitted.length := by
    intro d hd
    rw [List.mem_singleton.mp hd]
    exact hs.length_eq.symm
  have hwrites := congrArg PendingTable.writes htable
  have hentries := congrArg PendingTable.entries htable
  refine h.of_submit (hs.submit houtcomes hds hwrites
    (hentries.trans (List.append_nil _).symm) nofun (fun _ ↦ rfl) hstanding) hstanding ?_
  rw [Story.next, hreason]
  split
  · next hid =>
    subst hid
    obtain ⟨hticket, huntold⟩ := hs.ticket_new hnew
      ({ s.connection with nextId := id }.submit kind body timeout).2
    refine ⟨List.mem_append_right _ List.mem_cons_self, ?_, ?_⟩
    · have hperm := Connection.toldTo_perm houtcomes s.connection.table.writes.length
      rw [told, hticket]
      refine List.perm_singleton.mp (hperm.trans (.of_eq ?_))
      rw [show Connection.toldTo { s.connection with nextId := id } _ = [] from huntold]
      simp
    · rw [PendingTable.find?, hentries]
      exact hs.find?_eq_none hnew
  · next hid =>
    refine h.at_fate.submit hs hid houtcomes hds hwrites ?_
    rw [PendingTable.find?, hentries]
    rfl

/-- On an open connection a new request is pending. -/
theorem Tracks.submit_of_open (h : Tracks c₀ x s st) (hnew : id ∉ s.submitted)
    (hopen : st.closed = none) (kind : CompletionKind) (body : Bytes) (timeout : Option Nat) :
    Tracks c₀ x
      ⟨({ s.connection with nextId := id }.submit kind body timeout).2, s.submitted ++ [id]⟩
      (st.next c₀ x (.submit id kind body timeout)) := by
  have hs := h.coherent
  have hclosed : s.connection.closed = false := by
    refine h.closed_eq.trans ?_
    rw [hopen]
    rfl
  have hfresh := hs.find?_eq_none hnew
  obtain ⟨⟨token, htable⟩, houtcomes, hstanding⟩ := Connection.submit_of_open
    (c := { s.connection with nextId := id }) hclosed (hs.queueOpen hclosed) hfresh kind body
    timeout
  have houtcomes' := houtcomes.trans (.of_eq (List.append_nil _).symm)
  have hwrites := congrArg PendingTable.writes htable
  have hentries := congrArg PendingTable.entries htable
  refine h.of_submit (hs.submit houtcomes' nofun hwrites hentries ?_ ?_ hstanding) hstanding ?_
  · intro p hp
    rw [List.mem_singleton.mp hp]
    exact ⟨rfl, hs.length_eq.symm⟩
  · intro hclosed'
    exact nomatch hclosed.symm.trans hclosed'
  rw [Story.next, hopen]
  split
  · next hid =>
    subst hid
    obtain ⟨hticket, huntold⟩ := hs.ticket_new hnew
      ({ s.connection with nextId := id }.submit kind body timeout).2
    refine ⟨List.mem_append_right _ List.mem_cons_self, ?_, ?_, some token, ?_⟩
    · rw [told, hticket]
      exact List.perm_nil.mp (huntold ▸ Connection.toldTo_of_perm houtcomes _)
    · rw [hticket]
      simp only [PendingTable.writeState, hwrites]
      simp [PendingTable.issue]
    · rw [hticket, PendingTable.find?, hentries, List.find?_append]
      change (s.connection.table.find? id).or _ = _
      rw [hfresh, ← hs.requestTimeout_eq]
      simp
  · next hid =>
    refine h.at_fate.submit hs hid houtcomes' nofun hwrites ?_
    rw [PendingTable.find?, hentries, List.find?_append]
    simp [hid, PendingTable.find?]

end Submit

/-- A frame comes in. -/
theorem Tracks.frame (h : Tracks c₀ x s st) (handler : Bool) (f : Frame) :
    Tracks c₀ x (s.withConnection (s.connection.onFrame handler f).2)
      (st.next c₀ x (.frame f)) := by
  let c : Connection := { s.connection with
    heartbeat := s.connection.heartbeat.inbound, arena := s.connection.arena.adoptOne }
  -- Whatever the frame is, it is counted first.
  have hc : Connection.Keeps s.connection c := ⟨rfl, .refl _, rfl⟩
  rw [Connection.onFrame, Story.next, Frame.answers]
  cases hheartbeat : f.isHeartbeat with
  | true => exact h.keeps (hc.trans (c.keeps_onHeartbeat f))
  | false =>
    cases hrequest : f.isRequest with
    | true => exact h.keeps (hc.trans (c.keeps_onRequest handler f))
    | false =>
      have hid : (!false && !false && f.id == x) = decide (f.id = x) := rfl
      rw [hid]
      simp only [decide_eq_true_eq]
      refine (h.keeps hc).resolve ((c.onResponse_cases f).imp_right ?_)
      rintro ⟨p, hfound, hid, hresolves⟩
      have hdecoders : c.dispatcher.registry = c₀.dispatcher.registry := h.coherent.decoders_eq
      rw [hdecoders] at hresolves
      exact ⟨p, hfound, hid, _, hresolves, rfl⟩

/-- The writer stops after the end, when nothing is pending. -/
theorem Tracks.stopWriter (h : Tracks c₀ x s st) :
    Tracks c₀ x (s.withConnection
      (if s.connection.cancelled then s.connection.closeQueue else s.connection)) st := by
  have hs := h.coherent
  split
  · next hcancelled =>
    have hclosed := hs.cancelled hcancelled
    obtain ⟨htable, houtcomes, hstanding⟩ := Connection.closeQueue_of_empty (hs.closed hclosed)
    have hclosed' : s.connection.closeQueue.standing.closed = true :=
      (congrArg Connection.Standing.closed hstanding).trans hclosed
    refine ⟨⟨?_, ?_, ?_, ?_, ?_, ?_, ?_⟩, ?_, ?_, ?_⟩
    · exact htable ▸ hs.length_eq
    · exact htable ▸ hs.entries
    · exact fun d hd ↦ hs.outcomes d (houtcomes.mem_iff.mp hd)
    · exact fun _ ↦ htable ▸ hs.closed hclosed
    · exact fun _ ↦ hclosed'
    · exact fun hopen ↦ nomatch hclosed'.symm.trans hopen
    · exact (congrArg Connection.Standing.fixed hstanding).trans hs.fixed_eq
    · exact (congrArg Connection.Standing.closed hstanding).trans h.closed_eq
    · exact (congrArg Connection.Standing.closeReason hstanding).trans h.reason_eq
    · exact h.at_fate.of_same htable (Connection.toldTo_of_perm houtcomes _)
  · exact h

/-- The error of a late request is said with its own write. -/
theorem Coherent.timeoutError_eq (hs : s.Coherent c₀) (p : Pending) :
    s.connection.table.timeoutError p = lateError c₀.name c₀.peer p.id p.timeout
      (s.connection.table.writeState p.ticket) := by
  rw [← hs.name_eq, ← hs.peer_eq]
  rfl

/-- **A request goes through its story**, whatever else happens on the connection. -/
theorem Tracks.apply (h : Tracks c₀ x s st) (handler : Bool) (e : Event)
    (hnew : ∀ id, e.submitted? = some id → id ∉ s.submitted) :
    Tracks c₀ x (s.apply handler e) (st.next c₀ x e) := by
  cases e with
  | submit id kind body timeout =>
    cases hclosed : st.closed with
    | some reason => exact h.submit_of_closed (hnew id rfl) hclosed kind body timeout
    | none => exact h.submit_of_open (hnew id rfl) hclosed kind body timeout
  | frame f => exact h.frame handler f
  | reply r o => exact h.keeps (s.connection.keeps_finishRequest r o)
  | deadline id =>
    refine h.resolve ((s.connection.expire_cases id).imp ?_ ?_)
    · rintro ⟨hnone, hsame⟩
      exact ⟨hnone, hsame.symm ▸ .refl _⟩
    · rintro ⟨p, hfound, hid, hresolves⟩
      refine ⟨p, hfound, hid, _, hresolves, ?_⟩
      rw [h.coherent.timeoutError_eq, hid]
  | written id => exact h.written id
  | writeFailed id reason =>
    have hfail := s.connection.failWrite_cases id reason
    rw [h.coherent.peer_eq] at hfail
    refine h.resolve (hfail.imp ?_ ?_)
    · rintro ⟨hnone, hsame⟩
      refine ⟨hnone, ?_⟩
      change Connection.Keeps s.connection (s.connection.failWrite id reason)
      rw [hsame]
      exact .refl _
    · rintro ⟨p, hfound, hid, hresolves⟩
      exact ⟨p, hfound, hid, _, hresolves, rfl⟩
  | teardown reason => exact h.teardown reason
  | stopWriter => exact h.stopWriter
  | nextFrame =>
    change Tracks c₀ x (s.withConnection ((s.connection.dequeue.map Prod.snd).getD s.connection)) st
    cases hdequeue : s.connection.dequeue with
    | none => exact h
    | some taken => exact h.keeps (Connection.keeps_dequeue hdequeue)
  | take =>
    change Tracks c₀ x (s.withConnection
      ((s.connection.dispatcher.take.map ({ s.connection with dispatcher := · })).getD
        s.connection)) st
    cases htake : s.connection.dispatcher.take with
    | none => exact h
    | some d => exact h.keeps (Connection.keeps_take htake)
  | finish held =>
    change Tracks c₀ x (s.apply handler (.finish held)) st
    rw [Conversation.apply]
    cases hfinish : s.connection.dispatcher.finish held with
    | none => exact h
    | some finished => exact h.keeps (Connection.keeps_finish hfinish)
  | oneway body =>
    have hid : Connection.Keeps s.connection s.connection.takeId.2 := ⟨rfl, .refl _, rfl⟩
    exact h.keeps (hid.trans (Connection.keeps_sendAcknowledged _ _))
  | event body =>
    have hid : Connection.Keeps s.connection s.connection.takeId.2 := ⟨rfl, .refl _, rfl⟩
    exact h.keeps (hid.trans (Connection.keeps_sendAcknowledged _ _))
  | idle => exact h.keeps s.connection.keeps_onIdle
  | probeWritten => exact h.keeps ⟨rfl, .refl _, rfl⟩

end Conversation

end RpcTransport
