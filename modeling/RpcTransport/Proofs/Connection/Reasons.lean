import RpcTransport.Proofs.Connection.Shutdown

/-!
# Why a connection was closed

A shutdown sets the flag, then the reason, and then tells the reason to every request that it finds.
A submission that sees the flag tells the reason too, but it looks for it by itself. Between the
flag and the reason there is none yet, and a submission that looks then tells its caller that the
connection is closed and nothing more, whatever the reason will be
(`System.refused_before_the_reason`).

## The invariant

Only the shutdown that set the flag sets the reason, so the reason is set once and stays. While the
flag is set and the reason is not, this shutdown is between the two (`Reasoned.between`), and its
drain has the reason that was set (`Reasoned.draining`).
-/

namespace RpcTransport

open Relation (ReflTransGen)

namespace PendingTable

variable {k k' : Task} {t t' : PendingTable} {ds : List Delivery} {e : TransportError}

/-- A drain that tells everyone one failure. -/
def Task.FailsWith (k : Task) (e : TransportError) : Prop :=
  match k with
  | scan failure | scanning failure _ | drain failure _ _ => failure = some e
  | tell ds => ∀ d ∈ ds, d.resolution = .failed e
  | _ => False

theorem Moves.failsWith (h : Moves k t k' t' ds) (hk : k.FailsWith e) :
    k'.FailsWith e ∧ ∀ d ∈ ds, d.resolution = .failed e := by
  cases h with
  | scan | found | drain => exact ⟨hk, List.forall_mem_nil _⟩
  | drained failure taken =>
    obtain rfl : failure = some e := hk
    refine ⟨?_, List.forall_mem_nil _⟩
    intro d hd
    obtain ⟨p, -, rfl⟩ := List.mem_map.mp hd
    rfl
  | tell d ds =>
    obtain ⟨hd, hds⟩ := List.forall_mem_cons.mp hk
    exact ⟨hds, List.forall_mem_singleton.mpr hd⟩
  | insert | setTimer | take | judge | mark | settle => exact hk.elim

end PendingTable

namespace Connection

variable {k k' : Task} {c c' : Connection} {e : TransportError}

@[simp]
theorem closeReason_dispatch (c : Connection) (completion : Completion) (f : Frame) :
    (c.dispatch completion f).closeReason = c.closeReason := by
  rw [dispatch]
  split
  rw [apply_ite closeReason]
  exact ite_self _

namespace Stage

/-- A submission has seen the flag, and its next step tells the caller. -/
def Refuses : Stage → Prop
  | refuse _ | withdrawn _ _ => True
  | _ => False

/-- A submission has seen the flag, and its caller does not know yet. -/
def HasSeen : Stage → Prop
  | refuse _ | withdraw _ | withdrawn _ _ => True
  | _ => False

theorem Refuses.hasSeen {stage : Stage} (h : stage.Refuses) : stage.HasSeen := by
  cases stage with
  | refuse | withdrawn => trivial
  | _ => exact h.elim

end Stage

theorem Moves.hasSeen (h : Moves k c k' c') (hk' : k'.next.HasSeen) :
    k.next.HasSeen ∨ c.closed = true := by
  cases h with
  | atTable => exact .inl hk'
  | reject h | leave h => exact .inr h
  | withdraw => exact .inl trivial
  | _ => exact hk'.elim

/-- **The reason is what it was**, unless this is the step that sets it. -/
theorem Moves.closeReason (h : Moves k c k' c') :
    c'.closeReason = c.closeReason ∧ (k'.next = .cancel → k.next = .cancel) ∧
        (∀ reason, k.next = .setReason reason → k'.next = .setReason reason) ∨
      ∃ reason, k.next = .setReason reason ∧ k' = ⟨.scan (some reason), .cancel⟩ ∧
        c'.closeReason = some (c.closeReason.getD reason) := by
  cases h with
  | setReason _ reason => exact .inr ⟨reason, rfl, rfl, rfl⟩
  | atTable => exact .inl ⟨rfl, id, fun _ ↦ id⟩
  | send h | sendNone h =>
    obtain ⟨queue, waiting, rfl⟩ := exists_of_enqueue h
    exact .inl ⟨rfl, nofun, nofun⟩
  | dispatch => exact .inl ⟨closeReason_dispatch .., nofun, nofun⟩
  | _ => exact .inl ⟨rfl, nofun, nofun⟩

/-- The shutdown that sets the flag is to set the reason next. -/
theorem Moves.closing (h : Moves k c k' c') (hc : c.closed = false) (hc' : c'.closed = true) :
    ∃ reason, k'.next = .setReason reason := by
  cases h with
  | close _ reason => exact ⟨reason, rfl⟩
  | closeNone h => exact nomatch hc.symm.trans h
  | send h | sendNone h =>
    obtain ⟨queue, waiting, rfl⟩ := exists_of_enqueue h
    exact nomatch hc.symm.trans hc'
  | dispatch =>
    rw [closed_dispatch] at hc'
    exact nomatch hc.symm.trans hc'
  | _ => exact nomatch hc.symm.trans hc'

theorem Moves.setting {reason : TransportError} (h : Moves k c k' c')
    (hk' : k'.next = .setReason reason) : k.next = .setReason reason ∨ c.closed = false := by
  cases h with
  | atTable => exact .inl hk'
  | close h => exact .inr h
  | _ => exact nomatch hk'

/-- A drain tells its failure only, and goes on with it. -/
theorem Moves.failsWith (h : Moves k c k' c') (hk : k.next = .cancel)
    (hfails : k.call.FailsWith e) :
    (k'.next = .cancel → k'.call.FailsWith e) ∧
      ∃ ds, c'.deliveries = c.deliveries ++ ds ∧ ∀ d ∈ ds, d.resolution = .failed e := by
  cases h with
  | atTable h =>
    obtain ⟨hfails', htold⟩ := h.failsWith hfails
    exact ⟨fun _ ↦ hfails', _, rfl, htold⟩
  | cancel => exact ⟨nofun, [], (List.append_nil _).symm, List.forall_mem_nil _⟩
  | _ => exact nomatch hk

/-- A submission that has seen the flag tells the reason it finds. -/
theorem Moves.refuses (h : Moves k c k' c') (hk : k.next.Refuses) (hcall : k.call = .ended) :
    ∃ ds, c'.deliveries = c.deliveries ++ ds ∧
      ∀ d ∈ ds, d.resolution = .failed c.inactiveError := by
  cases h with
  | atTable h =>
    subst hcall
    exact nomatch h
  | refuse _ r | withdrawn _ r p => exact ⟨_, rfl, List.forall_mem_singleton.mpr rfl⟩
  | _ => exact hk.elim

/-- A submission that has seen the flag has nothing left to do at the table. -/
theorem Moves.call_eq_ended (h : Moves k c k' c') (hk' : k'.next.HasSeen)
    (hk : k.next.HasSeen → k.call = .ended) : k'.call = .ended := by
  cases h with
  | atTable h =>
    have hended : _ = PendingTable.Task.ended := hk hk'
    subst hended
    exact nomatch h
  | reject | leave | withdraw => rfl
  | _ => exact hk'.elim

namespace System

variable {s s' : System}

structure Reasoned (s : System) : Prop where
  sound : s.Sound
  unset_of_open : s.connection.closed = false → s.connection.closeReason = none
  /-- The shutdown that set the flag finds no reason. -/
  setting : ∀ k ∈ s.tasks, ∀ reason, k.next = .setReason reason → s.connection.closeReason = none
  draining : ∀ k ∈ s.tasks, k.next = .cancel →
    ∃ e, s.connection.closeReason = some e ∧ k.call.FailsWith e
  between : s.connection.closed = true → s.connection.closeReason = none →
    ∃ k ∈ s.tasks, ∃ reason, k.next = .setReason reason
  seen : ∀ k ∈ s.tasks, k.next.HasSeen → s.connection.closed = true ∧ k.call = .ended

/-- What has nothing to do with the end may change, and tasks may begin. -/
theorem Reasoned.other (hs : s.Reasoned) {c : Connection} {ks : List Task}
    (hsound : Sound ⟨c, ks⟩) (hclosed : c.closed = s.connection.closed)
    (hreason : c.closeReason = s.connection.closeReason) (hold : s.tasks ⊆ ks)
    (hnew : ∀ k ∈ ks, k ∈ s.tasks ∨ ¬ k.next.Won ∧ ¬ k.next.HasSeen) : Reasoned ⟨c, ks⟩ where
  sound := hsound
  unset_of_open h := hreason.trans (hs.unset_of_open (hclosed ▸ h))
  setting k hk reason hnext := by
    rcases hnew k hk with hk | ⟨hwon, -⟩
    · exact hreason.trans (hs.setting k hk reason hnext)
    · exact absurd (hnext ▸ trivial) hwon
  draining k hk hnext := by
    rcases hnew k hk with hk | ⟨hwon, -⟩
    · obtain ⟨e, he, hfails⟩ := hs.draining k hk hnext
      exact ⟨e, hreason.trans he, hfails⟩
    · exact absurd (hnext ▸ trivial) hwon
  between hc hnone := by
    obtain ⟨k, hk, hnext⟩ := hs.between (hclosed ▸ hc) (hreason ▸ hnone)
    exact ⟨k, hold hk, hnext⟩
  seen k hk hseen := by
    rcases hnew k hk with hk | ⟨-, hunseen⟩
    · exact ⟨hclosed.trans (hs.seen k hk hseen).1, (hs.seen k hk hseen).2⟩
    · exact absurd hseen hunseen

theorem Reasoned.move (hs : s.Reasoned) {i : Nat} (hi : s.tasks[i]? = some k)
    (h : Moves k s.connection k' c) : Reasoned ⟨c, s.tasks.set i k'⟩ := by
  have hk : k ∈ s.tasks := List.mem_of_getElem? hi
  have hk' : k' ∈ s.tasks.set i k' := by
    obtain ⟨hlt, -⟩ := List.getElem?_eq_some_iff.mp hi
    exact List.mem_set hlt k'
  have hsound := hs.sound.move hi h
  have hopen : c.closed = false → s.connection.closed = false := fun hc ↦
    Bool.eq_false_iff.mpr fun hclosed ↦ Bool.eq_false_iff.mp hc (h.closed_of_closed hclosed)
  have hseen : ∀ l ∈ s.tasks.set i k', l.next.HasSeen → c.closed = true ∧ l.call = .ended := by
    intro l hl hlseen
    rcases List.mem_or_eq_of_mem_set hl with hl | rfl
    · exact ⟨h.closed_of_closed (hs.seen l hl hlseen).1, (hs.seen l hl hlseen).2⟩
    · refine ⟨h.closed_of_closed ?_, h.call_eq_ended hlseen fun hkseen ↦ (hs.seen k hk hkseen).2⟩
      exact (h.hasSeen hlseen).elim (fun hkseen ↦ (hs.seen k hk hkseen).1) id
  rcases h.closeReason with ⟨hreason, hcancel, hset⟩ | ⟨reason, hnext, rfl, hreason⟩
  · constructor
    · exact hsound
    · exact fun hc ↦ hreason.trans (hs.unset_of_open (hopen hc))
    · intro l hl reason hnext
      refine hreason.trans ?_
      rcases List.mem_or_eq_of_mem_set hl with hl | rfl
      · exact hs.setting l hl reason hnext
      · exact (h.setting hnext).elim (hs.setting k hk reason) hs.unset_of_open
    · intro l hl hnext
      rcases List.mem_or_eq_of_mem_set hl with hl | rfl
      · obtain ⟨e, he, hfails⟩ := hs.draining l hl hnext
        exact ⟨e, hreason.trans he, hfails⟩
      · obtain ⟨e, he, hfails⟩ := hs.draining k hk (hcancel hnext)
        exact ⟨e, hreason.trans he, (h.failsWith (hcancel hnext) hfails).1 hnext⟩
    · intro hc hnone
      by_cases hclosed : s.connection.closed = true
      · obtain ⟨l, hl, reason, hnext⟩ := hs.between hclosed (hreason ▸ hnone)
        rcases PendingTable.mem_set_or_eq hi hl k' with hl | rfl
        · exact ⟨l, hl, reason, hnext⟩
        · exact ⟨k', hk', reason, hset reason hnext⟩
      · obtain ⟨reason, hnext⟩ := h.closing (Bool.eq_false_iff.mpr hclosed) hc
        exact ⟨k', hk', reason, hnext⟩
    · exact hseen
  -- The reason is set now, and no other shutdown has set the flag.
  · have hfirst : c.closeReason = some reason := by
      rw [hreason, hs.setting k hk reason hnext]
      rfl
    have honly : ∀ l ∈ s.tasks.set i ⟨.scan (some reason), .cancel⟩, l.next.Won →
        l = ⟨.scan (some reason), .cancel⟩ := fun l hl hwon ↦ hsound.eq_of_mem hl hk' hwon trivial
    constructor
    · exact hsound
    · intro hc
      have hclosed := hs.sound.closed_of_won k hk (hnext ▸ trivial)
      exact nomatch (hopen hc).symm.trans hclosed
    · intro l hl reason' hnext'
      rw [honly l hl (hnext' ▸ trivial)] at hnext'
      exact nomatch hnext'
    · intro l hl hnext'
      rw [honly l hl (hnext' ▸ trivial)]
      exact ⟨reason, hfirst, rfl⟩
    · exact fun _ hnone ↦ nomatch hfirst.symm.trans hnone
    · exact hseen

theorem Step.reasoned (h : Step s s') (hs : s.Reasoned) : s'.Reasoned := by
  have hsound := h.sound hs.sound
  have hbegun {k : Task} (hwon : ¬ k.next.Won) (hseen : ¬ k.next.HasSeen) :
      ∀ l ∈ s.tasks ++ [k], l ∈ s.tasks ∨ ¬ l.next.Won ∧ ¬ l.next.HasSeen := by
    intro l hl
    rcases List.mem_append.mp hl with hl | hl
    · exact .inl hl
    · obtain rfl := List.mem_singleton.mp hl
      exact .inr ⟨hwon, hseen⟩
  cases h with
  | submit =>
    exact hs.other hsound rfl rfl (List.subset_append_left _ _) (hbegun not_false not_false)
  | arrive hk =>
    refine hs.other hsound rfl rfl (List.subset_append_left _ _) ?_
    cases hk with
    | _ => exact hbegun not_false not_false
  | move i hi h => exact hs.move hi h
  | work | finish | note | elsewhere =>
    exact hs.other hsound rfl rfl (List.Subset.refl _) fun _ ↦ .inl

section Reachable

variable {info : ConnectionInfo} {config : ConnectionConfig} {registry : Registry}
  {processors : Nat} {dispatch : DispatchConfig} {leastDelay : Nat}

theorem reasoned_start :
    (start info config registry processors dispatch leastDelay).Reasoned where
  sound := sound_start info config registry processors dispatch leastDelay
  unset_of_open _ := rfl
  setting _ hk := nomatch hk
  draining _ hk := nomatch hk
  between hclosed := nomatch hclosed
  seen _ hk := nomatch hk

theorem reasoned_of_reachable
    (h : ReflTransGen Step (start info config registry processors dispatch leastDelay) s) :
    s.Reasoned := by
  induction h with
  | refl => exact reasoned_start
  | tail _ hstep ih => exact hstep.reasoned ih

/-- **A reason that is set stays.** -/
theorem closeReason_of_steps (h : ReflTransGen Step s s')
    (he : s.connection.closeReason = some e) : s'.connection.closeReason = some e := by
  induction h with
  | refl => exact he
  | tail _ hstep ih =>
    cases hstep with
    | move i hi h =>
      rcases h.closeReason with ⟨hreason, -⟩ | ⟨reason, -, -, hreason⟩
      · exact hreason.trans ih
      · rw [hreason, ih]
        rfl
    | submit | arrive | work | finish | note | elsewhere => exact ih

/-! ## What callers are told -/

/-- **The end has one reason**, and whoever is told of it late enough is told this. It is set once,
and stays. The shutdown that set it tells nothing else to the requests that it finds; and neither
does a submission that sees the flag, unless it looks for the reason after the flag was set and
before the reason was. -/
theorem one_reason {i : Nat} {ds : List Delivery}
    (h : ReflTransGen Step (start info config registry processors dispatch leastDelay) s)
    (hi : s.tasks[i]? = some k) (hmove : Moves k s.connection k' c)
    (hds : c.deliveries = s.connection.deliveries ++ ds)
    (hlater : ReflTransGen Step ⟨c, s.tasks.set i k'⟩ s') :
    (∀ e, s.connection.closeReason = some e → s'.connection.closeReason = some e) ∧
      (∀ reason, k = ⟨.ended, .setReason reason⟩ →
        s.connection.closeReason = none ∧ s'.connection.closeReason = some reason) ∧
      (k.next = .cancel → ∃ e, s'.connection.closeReason = some e ∧
        ∀ d ∈ ds, d.resolution = .failed e) ∧
      (k.next.Refuses →
        (∃ e, s'.connection.closeReason = some e ∧ ∀ d ∈ ds, d.resolution = .failed e) ∨
          s.connection.closeReason = none ∧ (∃ l ∈ s.tasks, ∃ reason, l.next = .setReason reason) ∧
            ∀ d ∈ ds, d.resolution =
              .failed (.channelInactive s.connection.name "connection closed")) := by
  have hs := reasoned_of_reachable h
  have hk : k ∈ s.tasks := List.mem_of_getElem? hi
  have hstays : ∀ e, s.connection.closeReason = some e → s'.connection.closeReason = some e :=
    fun e he ↦ closeReason_of_steps (.head (.move i hi hmove) hlater) he
  refine ⟨hstays, ?_, ?_, ?_⟩
  · rintro reason rfl
    have hnone := hs.setting _ hk reason rfl
    refine ⟨hnone, closeReason_of_steps hlater ?_⟩
    cases hmove with
    | atTable hended => exact nomatch hended
    | setReason =>
      change some (s.connection.closeReason.getD reason) = _
      rw [hnone]
      rfl
  · intro hnext
    obtain ⟨e, he, hfails⟩ := hs.draining k hk hnext
    obtain ⟨-, told, htold, hall⟩ := hmove.failsWith hnext hfails
    obtain rfl := List.append_cancel_left (hds.symm.trans htold)
    exact ⟨e, hstays e he, hall⟩
  · intro hrefuses
    obtain ⟨hclosed, hcall⟩ := hs.seen k hk hrefuses.hasSeen
    obtain ⟨told, htold, hall⟩ := hmove.refuses hrefuses hcall
    obtain rfl := List.append_cancel_left (hds.symm.trans htold)
    by_cases hnone : s.connection.closeReason = none
    · right
      rw [inactiveError, hnone] at hall
      exact ⟨hnone, hs.between hclosed hnone, hall⟩
    · left
      obtain ⟨e, he⟩ := Option.ne_none_iff_exists'.mp hnone
      rw [inactiveError, he] at hall
      exact ⟨e, hstays e he, hall⟩

end Reachable

/-- The request of a submission is drained when the peer turns out to speak another protocol. -/
theorem one_reason_drained :
    ∃ (s s' : System) (i : Nat) (k k' : Task) (c : Connection) (d : Delivery) (e : TransportError),
      ReflTransGen Step
          (start ⟨"connection", "peer", .client, 1⟩ .standard .standard 1 .standard 0) s ∧
        s.tasks[i]? = some k ∧ Moves k s.connection k' c ∧ k.next = .cancel ∧
        c.deliveries = s.connection.deliveries ++ [d] ∧
        ReflTransGen Step ⟨c, s.tasks.set i k'⟩ s' ∧
        s'.connection.closeReason = some e ∧ d.resolution = .failed e := by
  let reason : TransportError := .ofCodec "connection" (.unknownProtocol 72 84)
  have h₁ := ReflTransGen.single (Step.submit .decoded [] none
    (start ⟨"connection", "peer", .client, 1⟩ .standard .standard 1 .standard 0))
  have h₂ := h₁.tail (.move 0 rfl (.accept rfl _))
  have h₃ := h₂.tail (.move 0 rfl (.atTable (.insert _ _ _ _) _))
  have h₄ := h₃.tail (.arrive (.shutdown reason) _)
  have h₅ := h₄.tail (.move 1 rfl (.close rfl _))
  have h₆ := h₅.tail (.move 1 rfl (.setReason _ _))
  have h₇ := h₆.tail (.move 1 rfl (.atTable (.scan _ _) _))
  have h₈ := h₇.tail (.move 1 rfl (.atTable (.found _ _ [1] _ (by decide)) _))
  have h₉ := h₈.tail (.move 1 rfl (.atTable (.drain _ _ _ _ _) _))
  have h₁₀ := h₉.tail (.move 1 rfl (.atTable (.drained _ _ _) _))
  have htold {s s' : System} {k k' : Task} {c : Connection} {d : Delivery}
      (h : ReflTransGen Step
        (start ⟨"connection", "peer", .client, 1⟩ .standard .standard 1 .standard 0) s)
      (hi : s.tasks[1]? = some k) (hmove : Moves k s.connection k' c) (hnext : k.next = .cancel)
      (hds : c.deliveries = s.connection.deliveries ++ [d])
      (hlater : ReflTransGen Step ⟨c, s.tasks.set 1 k'⟩ s') :
      ∃ e, s'.connection.closeReason = some e ∧ d.resolution = .failed e := by
    obtain ⟨e, he, hall⟩ := (one_reason h hi hmove hds hlater).2.2.1 hnext
    exact ⟨e, he, hall d (List.mem_singleton.mpr rfl)⟩
  obtain ⟨e, he, hd⟩ := htold h₁₀ rfl (.atTable (.tell _ _ _) _) rfl rfl
    (.single (.move 1 rfl (.cancel _)))
  exact ⟨_, _, 1, _, _, _, _, e, h₁₀, rfl, .atTable (.tell _ _ _) _, rfl, rfl,
    .single (.move 1 rfl (.cancel _)), he, hd⟩

/-- **A request is refused before there is a reason.** The peer turns out to speak another protocol,
and the flag is set. A submission finds it and looks for the reason before it is set: its caller is
told that the connection is closed, and nothing of the protocol. -/
theorem refused_before_the_reason :
    ¬ ∀ (s s' : System) (i : Nat) (k k' : Task) (c : Connection) (ds : List Delivery),
      ReflTransGen Step
          (start ⟨"connection", "peer", .client, 1⟩ .standard .standard 1 .standard 0) s →
      s.tasks[i]? = some k → Moves k s.connection k' c →
      (k.next = .cancel ∨ k.next.Refuses) → c.deliveries = s.connection.deliveries ++ ds →
      ReflTransGen Step ⟨c, s.tasks.set i k'⟩ s' →
      (∀ l ∈ s'.tasks, l = ⟨.ended, .through⟩ ∨ ∃ r, l = ⟨.ended, .returned r⟩) →
      ∀ d ∈ ds, ∃ e, s'.connection.closeReason = some e ∧ d.resolution = .failed e := by
  intro hall
  let reason : TransportError := .ofCodec "connection" (.unknownProtocol 72 84)
  have h₁ := ReflTransGen.single (Step.submit .decoded [] none
    (start ⟨"connection", "peer", .client, 1⟩ .standard .standard 1 .standard 0))
  have h₂ := h₁.tail (.arrive (.shutdown reason) _)
  have h₃ := h₂.tail (.move 1 rfl (.close rfl _))
  have h₄ := h₃.tail (.move 0 rfl (.reject rfl _))
  obtain ⟨e, he, htold⟩ := hall _ _ 0 _ _ _ _ h₄ rfl (.refuse _ _) (.inr trivial) rfl
    (.head (.move 1 rfl (.setReason _ _)) <|
      .head (.move 1 rfl (.atTable (.scan _ _) _)) <|
      .head (.move 1 rfl (.atTable (.found _ _ [] _ (by decide)) _)) <|
      .head (.move 1 rfl (.atTable (.drained _ _ _) _)) <|
      .single (.move 1 rfl (.cancel _)))
    (List.forall_mem_cons.mpr ⟨.inr ⟨_, rfl⟩, List.forall_mem_singleton.mpr (.inl rfl)⟩) _
    (List.mem_singleton.mpr rfl)
  obtain rfl : reason = e := Option.some.inj he
  have hsame : Resolution.failed (.channelInactive "connection" "connection closed") =
      .failed reason := htold
  exact nomatch Resolution.failed.inj hsame

end System

end Connection

end RpcTransport
