import Mathlib.Logic.Relation
import RpcTransport.Proofs.Connection.Outbound
import RpcTransport.Proofs.Connection.Service

/-!
# Peers that are heard

Each time nothing came in for the idle interval, a connection probes its peer or gives it up. A
frame resets the count of unanswered probes, and the writer counts a probe when it has been written.
Between the decision and the count a probe is in flight: it waits in the backlog, or the writer has
it in hand.

That the peer is heard between two idle intervals is not enough to keep it. The frame resets the
count before the probe in flight is counted, so the probe is unanswered from then on, whatever the
peer has said meanwhile; with enough probes in flight the count reaches its bound although nothing
is amiss (`closed_though_heard`). What is enough is a frame that comes when fewer probes are in
flight than may remain unanswered (`probes_when_heard`).

## The invariant

A probe that is counted is in flight no longer, so the sum of the two only grows when a probe is
decided on, and then the peer must be heard again.
-/

namespace RpcTransport

open Relation (ReflTransGen)

/-- Who is to be told of the frame the writer has in hand. -/
def Writer.inHand : Writer → List Acknowledgement
  | .sending a _ => [a]
  | .idle | .closing _ _ | .stopped => []

namespace Connection

/-- The probes that wait to be written. -/
def queuedProbes (c : Connection) : Nat := (c.backlog.map (·.acknowledgement)).count .probe

theorem queuedProbes_of_adds {c c' : Connection} {a : Acknowledgement} (h : c.Adds c' a)
    (ha : a ≠ .probe) : c'.queuedProbes = c.queuedProbes := by
  rw [queuedProbes, queuedProbes]
  rcases h.queues with hqueues | ⟨f, hqueues, -⟩
  · rw [hqueues.backlog_eq, List.append_nil]
  · rw [hqueues.backlog_eq, List.map_append, List.count_append]
    simp [ha]

end Connection

namespace Conversation

/-- An event queues a probe only when nothing came in. -/
theorem acknowledgement_ne_probe (c : Connection) {e : Event} (h : e ≠ .idle) :
    e.acknowledgement c ≠ .probe := by
  cases e with
  | idle => exact absurd rfl h
  | _ => exact nofun

/-- **What follows an event that is not an idle interval**: no probe is queued, and only a frame
touches the count. -/
theorem apply_of_ne_idle {s : Conversation} (hs : s.connection.Lined) (handler : Bool) {e : Event}
    (he : e.isOther = true) (hidle : e ≠ .idle) :
    (s.apply handler e).connection.Lined ∧
      (s.apply handler e).connection.config = s.connection.config ∧
      (s.apply handler e).connection.queuedProbes = s.connection.queuedProbes ∧
      (s.apply handler e).connection.heartbeat = e.heartbeat s.connection := by
  have hadds := adds_apply hs handler he
  have hprobes := Connection.queuedProbes_of_adds hadds (acknowledgement_ne_probe _ hidle)
  exact ⟨hadds.lined, hadds.config_eq, hprobes, hadds.heartbeat_eq⟩

end Conversation

/-- A connection and its writer. -/
structure Watch where
  conversation : Conversation
  writer : Writer
  /-- A frame came in since the last idle interval. -/
  heard : Bool

namespace Watch

def start (info : ConnectionInfo) (config : ConnectionConfig) (registry decoders : Registry)
    (processors : Nat) (dispatch : DispatchConfig) : Watch :=
  ⟨.start info config registry decoders processors dispatch, .idle, true⟩

def connection (s : Watch) : Connection := s.conversation.connection

/-- The probes that were decided on and are not counted yet. -/
def inFlight (s : Watch) : Nat :=
  (s.writer.inHand ++ s.connection.backlog.map (·.acknowledgement)).count .probe

/-- No write fails and the queue never fills. Which frames count as hearing the peer is left open;
a frame that does not count may come in all the same. -/
inductive Step (counts : Watch → Prop) (handler : Bool) : Watch → Watch → Prop where
  | event (e : Event) (s : Watch) (he : e.isOther = true) (hidle : e ≠ .idle) :
      Step counts handler s { s with conversation := s.conversation.apply handler e }
  | hear (f : Frame) (s : Watch) (h : counts s) :
      Step counts handler s
        { s with conversation := s.conversation.apply handler (.frame f), heard := true }
  /-- Nothing came in for the idle interval, and a probe is queued. -/
  | idle (s : Watch) (hheard : s.heard = true) (h : s.connection.onIdle.1 = none) :
      Step counts handler s
        { s with conversation := s.conversation.apply handler .idle, heard := false }
  | take (s : Watch) {a : Acknowledgement} {unsent : Bytes} {c : Connection}
      (hidle : s.writer = .idle) (h : s.connection.takeFrame = some (.sending a unsent, c)) :
      Step counts handler s
        { s with conversation := s.conversation.withConnection c, writer := .sending a unsent }
  | transmit (n : Nat) (s : Watch) {a : Acknowledgement} {unsent : Bytes}
      (h : s.writer = .sending a unsent) :
      Step counts handler s { s with writer := .sending a (unsent.drop n) }
  | written (s : Watch) {a : Acknowledgement} (h : s.writer = .sending a []) :
      Step counts handler s { s with
        conversation := s.conversation.withConnection (s.connection.acknowledge a none)
        writer := .idle }

/-- Fewer probes are in flight than may remain unanswered. -/
def InTime (s : Watch) : Prop := s.inFlight < s.connection.config.maxUnanswered

/-! ## The invariant -/

structure Sound (config : ConnectionConfig) (s : Watch) : Prop where
  lined : s.connection.Lined
  config_eq : s.connection.config = config
  bounded : s.heard = true →
    s.connection.heartbeat.unanswered + s.inFlight < config.maxUnanswered

variable {config : ConnectionConfig} {handler : Bool} {s s' : Watch}

theorem sound_start (hmax : 1 ≤ config.maxUnanswered) (info : ConnectionInfo)
    (registry decoders : Registry) (processors : Nat) (dispatch : DispatchConfig) :
    Sound config (start info config registry decoders processors dispatch) :=
  ⟨⟨rfl, .inl rfl⟩, rfl, fun _ ↦ hmax⟩

theorem inFlight_of_apply {c : Conversation} {heard : Bool}
    (h : c.connection.queuedProbes = s.connection.queuedProbes) :
    inFlight ⟨c, s.writer, heard⟩ = s.inFlight := by
  rw [inFlight, inFlight, List.count_append, List.count_append]
  exact congrArg (s.writer.inHand.count .probe + ·) h

private theorem unanswered_heartbeat_le (c : Connection) (e : Event) :
    (e.heartbeat c).unanswered ≤ c.heartbeat.unanswered := by
  cases e with
  | frame f => exact Nat.zero_le _
  | _ => exact Nat.le_refl _

theorem takeFrame_sending {c c' : Connection} {a : Acknowledgement} {unsent : Bytes}
    (h : c.takeFrame = some (.sending a unsent, c')) :
    ∃ o, c.dequeue = some (o, c') ∧ o.acknowledgement = a := by
  rw [Connection.takeFrame] at h
  split at h
  · cases h
  · next o c₁ hnext =>
    split at h
    · obtain ⟨hwriter, rfl⟩ := Prod.mk.inj (Option.some.inj h)
      exact ⟨o, hnext, (Writer.sending.inj hwriter).1⟩
    · cases (Prod.mk.inj (Option.some.inj h)).1

theorem Step.sound (h : Step InTime handler s s') (hs : Sound config s) : Sound config s' := by
  cases h with
  | event e _ he hidle =>
    obtain ⟨hlined, hconfig, hprobes, hheartbeat⟩ :=
      Conversation.apply_of_ne_idle hs.lined handler he hidle
    refine ⟨hlined, hconfig.trans hs.config_eq, fun hheard ↦ ?_⟩
    have hbounded := hs.bounded hheard
    have hle : (e.heartbeat s.conversation.connection).unanswered ≤
        s.connection.heartbeat.unanswered := unanswered_heartbeat_le _ e
    rw [inFlight_of_apply hprobes, connection, hheartbeat]
    omega
  | hear f _ hcounts =>
    obtain ⟨hlined, hconfig, hprobes, hheartbeat⟩ :=
      Conversation.apply_of_ne_idle hs.lined handler (e := .frame f) rfl nofun
    refine ⟨hlined, hconfig.trans hs.config_eq, fun _ ↦ ?_⟩
    have hcounts : s.inFlight < s.connection.config.maxUnanswered := hcounts
    rw [hs.config_eq] at hcounts
    rw [inFlight_of_apply hprobes, connection, hheartbeat]
    change 0 + s.inFlight < config.maxUnanswered
    omega
  | idle =>
    have hadds := Conversation.adds_apply (e := .idle) hs.lined handler rfl
    exact ⟨hadds.lined, hadds.config_eq.trans hs.config_eq, nofun⟩
  | @take _ a unsent c hidle htake =>
    obtain ⟨o, hnext, rfl⟩ := takeFrame_sending htake
    obtain ⟨hbacklog, hlined, -, hconfig⟩ := Connection.backlog_dequeue hs.lined hnext
    refine ⟨hlined, hconfig.trans hs.config_eq, fun hheard ↦ ?_⟩
    have hbounded := hs.bounded hheard
    rw [inFlight, hbacklog, hidle] at hbounded
    have hheartbeat : c.heartbeat = s.connection.heartbeat :=
      (congrArg Connection.heartbeat (Connection.eq_of_dequeue hnext) :)
    change c.heartbeat.unanswered + _ < _
    rw [hheartbeat]
    exact hbounded
  | transmit n _ hsending =>
    refine ⟨hs.lined, hs.config_eq, fun hheard ↦ ?_⟩
    have hbounded := hs.bounded hheard
    rw [inFlight, hsending] at hbounded
    exact hbounded
  | @written _ a hsending =>
    have houtlet := s.connection.outlet_acknowledge a none
    refine ⟨hs.lined.of_outlet houtlet, (congrArg (·.2.2.2.2) houtlet).trans hs.config_eq,
      fun hheard ↦ ?_⟩
    have hbounded := hs.bounded hheard
    have hbacklog : (s.connection.acknowledge a none).backlog = s.connection.backlog :=
      congrArg (fun x ↦ x.1 ++ x.2.1) houtlet
    rw [inFlight, hsending] at hbounded
    change (s.connection.acknowledge a none).heartbeat.unanswered +
      ((s.connection.acknowledge a none).backlog.map (·.acknowledgement)).count .probe < _
    rw [hbacklog]
    -- A probe that is counted was in the writer's hand.
    cases a with
    | probe =>
      have hcounted : (s.connection.acknowledge .probe none).heartbeat.unanswered =
        s.connection.heartbeat.unanswered + 1 := rfl
      simp only [Writer.inHand, List.singleton_append, List.count_cons_self] at hbounded
      omega
    | none | request | notify =>
      simpa [Writer.inHand, Connection.acknowledge, Connection.notify] using hbounded

theorem sound_of_reachable {info : ConnectionInfo} {registry decoders : Registry}
    {processors : Nat} {dispatch : DispatchConfig} (hmax : 1 ≤ config.maxUnanswered)
    (h : ReflTransGen (Step InTime handler)
      (start info config registry decoders processors dispatch) s) : Sound config s := by
  induction h with
  | refl => exact sound_start hmax info registry decoders processors dispatch
  | tail _ hstep ih => exact hstep.sound ih

/-! ## What the idle interval decides -/

/-- **A peer that is heard in time is kept.** If a frame came in since the last idle interval, at a
moment when fewer probes were in flight than may remain unanswered, then the next idle interval does
not end the connection. -/
theorem probes_when_heard {info : ConnectionInfo} {registry decoders : Registry}
    {processors : Nat} {dispatch : DispatchConfig} (hmax : 1 ≤ config.maxUnanswered)
    (h : ReflTransGen (Step InTime handler)
      (start info config registry decoders processors dispatch) s) (hheard : s.heard = true) :
    s.connection.heartbeat.onIdle s.connection.config.maxUnanswered = .probe := by
  have hs := sound_of_reachable hmax h
  have hbounded := hs.bounded hheard
  have hlt : ¬ config.maxUnanswered ≤ s.connection.heartbeat.unanswered := by omega
  rw [hs.config_eq, Heartbeat.onIdle, if_neg hlt]

/-- One probe may remain unanswered, and one was written before the peer was heard. -/
theorem probes_when_heard_answered :
    ∃ s : Watch, 1 ≤ ({ ConnectionConfig.standard with maxUnanswered := 1 }).maxUnanswered ∧
      ReflTransGen (Step InTime false) (start ⟨"client", "peer", .client, 1⟩
        { ConnectionConfig.standard with maxUnanswered := 1 } .standard .standard 1 .standard) s ∧
      s.heard = true ∧
      s.connection.heartbeat.onIdle s.connection.config.maxUnanswered = .probe := by
  let s₀ : Watch := start ⟨"client", "peer", .client, 1⟩
    { ConnectionConfig.standard with maxUnanswered := 1 } .standard .standard 1 .standard
  have h₁ : ReflTransGen (Step InTime false) s₀ _ := .single (.idle s₀ rfl rfl)
  have h₂ := h₁.tail (.take _ rfl rfl)
  have h₃ := (h₂.tail (.transmit 100 _ rfl)).tail (.written _ rfl)
  have h₄ := h₃.tail (.hear (.response 99 6 .ok default) _ Nat.zero_lt_one)
  exact ⟨_, Nat.le_refl 1, h₄, rfl, probes_when_heard (Nat.le_refl 1) h₄ rfl⟩

/-- **A peer that is heard is given up.** One probe may remain unanswered. A probe is queued; the
peer is heard; then the probe is written and counted, and the next idle interval ends the
connection. -/
theorem closed_though_heard :
    ¬ ∀ (config : ConnectionConfig) (s : Watch), 1 ≤ config.maxUnanswered →
      ReflTransGen (Step (fun _ ↦ True) false) (start ⟨"client", "peer", .client, 1⟩ config
        .standard .standard 1 .standard) s →
      s.heard = true →
      s.connection.heartbeat.onIdle s.connection.config.maxUnanswered = .probe := by
  intro hall
  let config := { ConnectionConfig.standard with maxUnanswered := 1 }
  let s₀ : Watch := start ⟨"client", "peer", .client, 1⟩ config .standard .standard 1 .standard
  have h₁ : ReflTransGen (Step (fun _ ↦ True) false) s₀ _ := .single (.idle s₀ rfl rfl)
  have h₂ := h₁.tail (.hear (.response 99 6 .ok default) _ trivial)
  -- The frame has reset the count, and the probe is counted afterwards.
  have h₃ := (h₂.tail (.take _ rfl rfl)).tail (.transmit 100 _ rfl)
  have h₄ := h₃.tail (.written _ rfl)
  exact nomatch hall config _ (Nat.le_refl 1) h₄ rfl

end Watch

end RpcTransport
