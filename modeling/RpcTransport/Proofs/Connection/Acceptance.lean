import RpcTransport.Proofs.Connection.Writing

/-!
# One-way frames that were accepted

The sender of an event or of a one-way request waits for its write, and a send that succeeds says
that the frame is on the transport as a whole (`Writing.Accepted.sent_eq`). It says where, too: the
frames are written in the order in which they were queued, and those over the limit are left out, so
the place of a frame among the written ones is known when it is queued (`Writing.ahead`).

That the sender is told of its own frame, and not of another, comes from the order as well. All
frames that were queued before have smaller waiters, so a notice for this one means that the writer
is past them.
-/

namespace RpcTransport

open Relation (ReflTransGen)

/-- The octets of some frames. -/
def Frame.stream (frames : List Frame) : Bytes :=
  (frames.map fun f ↦ f.header ++ f.body.octets).flatten

namespace Connection

variable {c c' : Connection} {f : Frame} {w : Nat}

/-- Send an event or a one-way request. -/
def post (c : Connection) (isEvent : Bool) (body : Bytes) :
    Except TransportError Nat × Connection :=
  if isEvent then c.sendEvent body else c.sendOneway body

/-- The frame that is sent. -/
def posted (c : Connection) (isEvent : Bool) (body : Bytes) : Frame :=
  { Frame.oneway c.nextId c.config.serialization (.detached body) with isEvent := isEvent }

theorem post_eq (c : Connection) (isEvent : Bool) (body : Bytes) :
    c.post isEvent body = c.takeId.2.sendAcknowledged (c.posted isEvent body) := by
  cases isEvent with
  | false | true => rfl

theorem sendAcknowledged_ok (hc : c.Lined) (h : c.sendAcknowledged f = (.ok w, c')) :
    w = c.nextWaiter ∧ c'.backlog = c.backlog ++ [⟨f, .notify w⟩] := by
  rw [sendAcknowledged] at h
  split at h
  · cases h
  · dsimp only at h
    split at h
    · next hqueued =>
      have hlined : Lined { c with nextWaiter := c.nextWaiter + 1 } := ⟨hc.queueOpen_eq, hc.full⟩
      have hqueues := queues_enqueue hlined ⟨f, .notify c.nextWaiter⟩
      rw [hqueued] at hqueues
      cases h
      exact ⟨rfl, hqueues.backlog_eq⟩
    · cases h

theorem sendAcknowledged_of_room (hclosed : c.closed = false) (hopen : c.queueOpen = true)
    (hroom : c.queue.length < c.capacity) (f : Frame) :
    c.sendAcknowledged f = (.ok c.nextWaiter, { c with
      nextWaiter := c.nextWaiter + 1, queue := c.queue ++ [⟨f, .notify c.nextWaiter⟩] }) := by
  have hqueued : enqueue { c with nextWaiter := c.nextWaiter + 1 } ⟨f, .notify c.nextWaiter⟩ =
      (true, { c with
        nextWaiter := c.nextWaiter + 1, queue := c.queue ++ [⟨f, .notify c.nextWaiter⟩] }) := by
    rw [enqueue, if_neg (by simp [hopen])]
    exact if_pos hroom
  rw [sendAcknowledged, if_neg (by simp [hclosed])]
  dsimp only
  rw [hqueued]

end Connection

namespace Writing

variable {c₀ : Connection} {handler : Bool} {s s' : Writing} {isEvent : Bool} {body : Bytes}

/-! ## What is on the transport -/

/-- The frames that the writer is done with and that were within the limit, in order. -/
def sent (s : Writing) : List Frame := (s.done.map (·.frame)).filter (Frame.fits s.limit)

theorem Sound.sent_eq (hs : s.Sound c₀) :
    s.sent = (s.done.map (·.frame)).filter (Frame.fits c₀.config.payloadLimit) := by
  rw [sent, hs.limit_eq]

/-- **A frame that the writer is done with is on the transport as a whole.** -/
theorem Step.stream_sent_prefix (h : Step handler s s') (hs : s.Sound c₀)
    (hwritten : Frame.stream s.sent <+: s.wire) : Frame.stream s'.sent <+: s'.wire := by
  have hs' := h.sound hs
  rw [hs.sent_eq] at hwritten
  rw [hs'.sent_eq]
  cases h with
  | event => exact hwritten
  | @take _ o =>
    dsimp only
    rw [hs.limit_eq]
    cases hfits : o.frame.fits c₀.config.payloadLimit with
    | true => simpa using hwritten
    | false => simpa [hfits] using hwritten
  | transmit n => exact hwritten.trans (List.prefix_append _ _)
  | written _ _ hsending =>
    have hwire := hs.wire_eq
    rw [unsent, hsending, List.append_nil] at hwire
    exact hwire ▸ List.prefix_refl _

theorem stream_sent_prefix_of_reachable {info : ConnectionInfo} {config : ConnectionConfig}
    {registry decoders : Registry} {processors : Nat} {dispatch : DispatchConfig}
    (h : ReflTransGen (Step handler)
      (start info config registry decoders processors dispatch) s) :
    Frame.stream s.sent <+: s.wire := by
  induction h with
  | refl => exact List.prefix_refl _
  | tail hsteps hstep ih => exact hstep.stream_sent_prefix (sound_of_reachable hsteps) ih

theorem items_prefix_of_steps (hs : s.Sound c₀) (h : ReflTransGen (Step handler) s s') :
    s'.Sound c₀ ∧ s.items <+: s'.items := by
  induction h with
  | refl => exact ⟨hs, List.prefix_refl _⟩
  | tail _ hstep ih => exact ⟨hstep.sound ih.1, ih.2.trans (hstep.items_prefix ih.1)⟩

/-! ## A send that succeeds -/

/-- An event or a one-way request is sent in the first state, and in the second its sender has been
told that it was. -/
def Accepted (handler : Bool) (s : Writing) (isEvent : Bool) (body : Bytes) (s' : Writing) : Prop :=
  ∃ w n c, s.connection.post isEvent body = (.ok w, c) ∧
    ReflTransGen (Step handler) { s with conversation := s.conversation.withConnection c } s' ∧
    (w, n) ∈ s'.connection.notices ∧ s'.connection.noticeResult n = .ok ()

/-- The frames that are written before the next one that is queued. -/
def ahead (s : Writing) : List Frame := (s.items.map (·.frame)).filter (Frame.fits s.limit)

theorem step_post (handler : Bool) {c : Connection} {w : Nat}
    (h : s.connection.post isEvent body = (.ok w, c)) :
    Step handler s { s with conversation := s.conversation.withConnection c } := by
  cases isEvent with
  | false =>
    have hc : (s.connection.sendOneway body).2 = c := congrArg Prod.snd h
    exact hc ▸ .event (.oneway body) s rfl nofun
  | true =>
    have hc : (s.connection.sendEvent body).2 = c := congrArg Prod.snd h
    exact hc ▸ .event (.event body) s rfl nofun

theorem noticeResult_ok {c : Connection} {n : WriteNotice} (h : c.noticeResult n = .ok ()) :
    n = .written := by
  cases n with
  | written => rfl
  | failed | dropped => exact nomatch h

/-- The frame of a notice has been taken, and no other has its waiter. -/
theorem Sound.taken_of_notice (hs : s.Sound c₀) {o : Outbound} {os : List Outbound} {w : Nat}
    (hw : o.acknowledgement = .notify w) (hbefore : ∀ q ∈ os, q.acknowledgement ≠ .notify w)
    (hitems : os ++ [o] <+: s.items) (hnotice : (w, .written) ∈ s.connection.notices) :
    os ++ [o] <+: s.done ∧ o.frame.fits c₀.config.payloadLimit = true := by
  have hdone : s.done <+: s.items := (List.prefix_append _ _).trans (List.prefix_append _ _)
  have hwaiter : o.waiter? = some w := by rw [Outbound.waiter?, hw]
  rw [hs.notices_eq] at hnotice
  have htaken : os ++ [o] <+: s.done := by
    rcases List.prefix_or_prefix_of_prefix hdone hitems with hshort | htaken
    · rcases List.prefix_concat_iff.mp hshort with hall | hshort
      · exact hall ▸ List.prefix_refl _
      · obtain ⟨q, hq, hqnotice⟩ := List.mem_filterMap.mp hnotice
        obtain ⟨w', hqw, heq⟩ := Option.map_eq_some_iff.mp hqnotice
        obtain rfl : w' = w := congrArg Prod.fst heq
        refine absurd ?_ (hbefore q (hshort.subset hq))
        obtain ⟨f, a⟩ := q
        cases a with
        | notify => exact congrArg Acknowledgement.notify (Option.some.inj hqw)
        | none | request | probe => cases hqw
    · exact htaken
  refine ⟨htaken, ?_⟩
  have hwaiters : (s.done.filterMap Outbound.waiter?).Nodup :=
    hs.identified.waiters.sublist (hdone.sublist.filterMap _)
  have honly := Outbound.filter_notices hwaiters
    (htaken.subset (List.mem_append_right os List.mem_cons_self)) hwaiter c₀.config.payloadLimit
  have hmem := (List.mem_filter (p := (decide <| ·.1 = w))).mpr ⟨hnotice, decide_eq_true rfl⟩
  rw [honly, List.mem_singleton, Prod.mk.injEq, Outbound.verdict] at hmem
  by_contra hover
  rw [if_neg hover] at hmem
  cases hmem.2

/-- **A frame whose send has succeeded was written behind those that were queued before it.** -/
theorem Accepted.sent_eq (h : Accepted handler s isEvent body s') (hs : s.Sound c₀) :
    ∃ after, s'.sent = s.ahead ++ s.connection.posted isEvent body :: after := by
  obtain ⟨w, n, c, hpost, hsteps, hnotice, hok⟩ := h
  obtain rfl := noticeResult_ok hok
  obtain ⟨hs', hitems⟩ := items_prefix_of_steps ((step_post handler hpost).sound hs) hsteps
  rw [Connection.post_eq] at hpost
  have hlined : s.connection.takeId.2.Lined := ⟨hs.lined.queueOpen_eq, hs.lined.full⟩
  obtain ⟨hw, hbacklog⟩ := Connection.sendAcknowledged_ok hlined hpost
  have hqueued : s.items ++ [⟨s.connection.posted isEvent body, .notify w⟩] <+: s'.items := by
    change s.taken ++ c.backlog <+: s'.items at hitems
    rw [hbacklog, ← List.append_assoc] at hitems
    exact hitems
  -- The waiter is new.
  have hbefore : ∀ q ∈ s.items, q.acknowledgement ≠ .notify w := fun q hq hqw ↦
    Nat.ne_of_lt (hs.identified.waiter_lt q hq hqw) hw
  obtain ⟨⟨rest, hrest⟩, hfits⟩ := hs'.taken_of_notice rfl hbefore hqueued hnotice
  refine ⟨(rest.map (·.frame)).filter (Frame.fits c₀.config.payloadLimit), ?_⟩
  rw [hs'.sent_eq, ← hrest, ahead, hs.limit_eq]
  simp [hfits]

theorem Accepted.steps (h : Accepted handler s isEvent body s') :
    ReflTransGen (Step handler) s s' := by
  obtain ⟨w, n, c, hpost, hsteps, -⟩ := h
  exact .head (step_post handler hpost) hsteps

/-- The frames up to the one that was accepted are on the wire. -/
theorem Accepted.stream_prefix (h : Accepted handler s isEvent body s')
    {info : ConnectionInfo} {config : ConnectionConfig} {registry decoders : Registry}
    {processors : Nat} {dispatch : DispatchConfig}
    (hreach : ReflTransGen (Step handler)
      (start info config registry decoders processors dispatch) s) :
    Frame.stream (s.ahead ++ [s.connection.posted isEvent body]) <+: s'.wire := by
  obtain ⟨after, hsent⟩ := h.sent_eq (sound_of_reachable hreach)
  refine List.IsPrefix.trans ?_ (stream_sent_prefix_of_reachable (hreach.trans h.steps))
  refine ⟨Frame.stream after, ?_⟩
  rw [hsent, Frame.stream, Frame.stream, Frame.stream, ← List.flatten_append, ← List.map_append,
    List.append_assoc, List.singleton_append]

/-- A new connection accepts what is within its limit. -/
theorem exists_accepted (info : ConnectionInfo) (config : ConnectionConfig)
    (registry decoders : Registry) (processors : Nat) (dispatch : DispatchConfig)
    (handler isEvent : Bool) (body : Bytes)
    (hbody : body.length ≤ Frame.clampLimit config.payloadLimit) :
    ∃ s', Accepted handler (start info config registry decoders processors dispatch) isEvent body
      s' := by
  let s : Writing := start info config registry decoders processors dispatch
  let o : Outbound := ⟨s.connection.posted isEvent body, .notify 0⟩
  let queued : Connection := { s.connection.takeId.2 with nextWaiter := 1, queue := [o] }
  let emptied : Connection := { queued with queue := [] }
  have hfits : o.frame.fits config.payloadLimit = true := decide_eq_true hbody
  have hpost : s.connection.post isEvent body = (.ok 0, queued) := by
    have hroom : 0 < s.connection.capacity := Nat.lt_of_lt_of_le Nat.one_pos (Nat.le_max_right _ _)
    rw [Connection.post_eq]
    exact Connection.sendAcknowledged_of_room (c := s.connection.takeId.2) rfl rfl hroom _
  have htake := (Connection.takeFrame_eq (show queued.dequeue = some (o, emptied) from rfl)).trans
    (congrArg some (if_pos hfits))
  have htaken : ReflTransGen (Step handler)
      { s with conversation := s.conversation.withConnection queued } _ :=
    .single (.take _ rfl rfl rfl htake)
  have hsteps := htaken.tail (.transmit (o.frame.header ++ o.frame.body.octets).length _ rfl rfl)
  have hdrained : (o.frame.header ++ o.frame.body.octets).drop
      (o.frame.header ++ o.frame.body.octets).length = [] := List.drop_length
  exact ⟨_, 0, .written, queued, hpost, hsteps.tail (.written _ rfl (congrArg _ hdrained)),
    List.mem_singleton_self _, rfl⟩

end Writing

end RpcTransport
