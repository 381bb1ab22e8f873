import RpcTransport.Proofs.Connection.Liveness
import RpcTransport.Proofs.Connection.Writing

/-!
# Peers that fall silent

A peer that says nothing is given up after some idle intervals. A probe is counted when it has been
written, so a writer that stalls holds back the count, and the connection goes on to probe. It
cannot do so for long: a probe that is not counted takes a place in the queue, or is in the writer's
hand, and a probe that finds no place ends the connection.

## Two steps

The reader handles an idle interval in two steps, the halves of `Connection.onIdle`: it looks at the
count (`look`), and if a probe is due, it queues one (`probe`). The writer runs beside it. If it has
a probe in hand when the reader looks, it may count this probe and take the next one from the queue
before the reader goes on; then there is a place, and one interval more is endured than probes may
remain unanswered and places are in the queue (`endured_beyond_places`).

## The invariant

An interval that was endured has left a probe, which is counted or in flight (`Sound.endured_le`).
When the reader finds that a probe is due, the count is below its bound, no more probes are queued
than there are places (`Sound.queued_le`), and the writer has no more than one in hand. After that a
probe only goes from those due to those in flight, and from these to those counted. So the probes
that are counted, in flight or due are never more than the probes that may remain unanswered and the
places of the queue together, and one (`Sound.bounded`).
-/

namespace RpcTransport

open Relation (ReflTransGen)

namespace Connection

variable {c c' : Connection}

theorem queuedProbes_le (c : Connection) : c.queuedProbes ≤ c.backlog.length := by
  have hle : c.queuedProbes ≤ (c.backlog.map (·.acknowledgement)).length := List.count_le_length
  rwa [List.length_map] at hle

theorem queuedProbes_of_scene (h : c'.scene = c.scene) : c'.queuedProbes = c.queuedProbes := by
  have houtlet : c'.outlet = c.outlet := congrArg (·.1) h
  have hbacklog : c'.backlog = c.backlog := congrArg (fun x ↦ x.1 ++ x.2.1) houtlet
  rw [queuedProbes, queuedProbes, hbacklog]

/-- **A probe that is queued has found a place.** -/
theorem queuedProbes_queueProbe (hc : c.Lined) (h : c.queueProbe.1 = none) :
    c.queueProbe.2.queuedProbes = c.queuedProbes + 1 ∧
      c.queueProbe.2.backlog.length ≤ c.capacity := by
  rw [queueProbe] at h ⊢
  dsimp only at h ⊢
  split at h
  · cases h
  · next frame _ =>
    have hlined : c.takeId.2.Lined := hc.of_scene rfl
    by_cases hroom : c.takeId.2.queue.length < c.takeId.2.capacity
    · have hqueues := queues_tryEnqueue_of_room hlined hroom ⟨frame, .probe⟩
      have hwaiting : c.takeId.2.waiting = [] :=
        hlined.full.resolve_right (Nat.not_le.mpr hroom)
      rw [tryEnqueue, if_pos ⟨hlined.queueOpen_eq, hroom⟩] at hqueues ⊢
      dsimp only at hqueues ⊢
      constructor
      · rw [queuedProbes, hqueues.backlog_eq, List.map_append, List.count_append]
        rfl
      · rw [hqueues.backlog_eq, backlog, hwaiting, List.append_nil, List.length_append]
        exact hroom
    · rw [tryEnqueue, if_neg (fun hplace ↦ hroom hplace.2)] at h
      cases h

/-- A connection that is to end for want of a place has queued nothing. -/
theorem scene_queueProbe {reason : TransportError} (h : c.queueProbe.1 = some reason) :
    c.queueProbe.2.scene = c.scene := by
  rw [queueProbe] at h ⊢
  dsimp only at h ⊢
  split
  · rfl
  · next frame hframe =>
    rw [hframe] at h
    dsimp only at h
    by_cases hplace : c.takeId.2.queueOpen ∧ c.takeId.2.queue.length < c.takeId.2.capacity
    · rw [tryEnqueue, if_pos hplace] at h
      cases h
    · rw [tryEnqueue, if_neg hplace]
      rfl

theorem closed_shutdown (c : Connection) (reason : TransportError) :
    (c.shutdown reason).closed = true := by
  rw [shutdown, markClosed]
  cases c.closed <;> rfl

/-- A frame that the writer is done with is counted if it is a probe, or the connection ends. -/
theorem unanswered_acknowledge (c : Connection) (a : Acknowledgement) (failure : Option String) :
    (c.acknowledge a failure).heartbeat.unanswered ≤
        c.heartbeat.unanswered + [a].count .probe ∧
      ((c.acknowledge a failure).closed = false →
        (c.acknowledge a failure).heartbeat.unanswered =
          c.heartbeat.unanswered + [a].count .probe) := by
  by_cases ha : a = .probe
  · subst ha
    rw [List.count_singleton_self]
    match failure with
    | none => exact ⟨Nat.le_refl _, fun _ ↦ rfl⟩
    | some reason =>
      let error : TransportError := .channelInactive c.name s!"heartbeat write failed: {reason}"
      have hheartbeat : (c.shutdown error).heartbeat = c.heartbeat :=
        congrArg (·.2.1) (c.scene_shutdown error)
      have hclosed : (c.shutdown error).closed = true := closed_shutdown c error
      constructor
      · change (c.shutdown error).heartbeat.unanswered ≤ _
        rw [hheartbeat]
        exact Nat.le_succ _
      · intro hopen
        exact absurd hclosed (Bool.eq_false_iff.mp hopen)
  · have hsame : (c.acknowledge a failure).heartbeat = c.heartbeat := by
      match a, failure, ha with
      | .none, _, _ => rfl
      | .request _ _, none, _ | .request _ _, some _, _ => rfl
      | .notify _, none, _ | .notify _, some _, _ => rfl
    rw [hsame, List.count_singleton, if_neg (by simpa using ha)]
    exact ⟨Nat.le_refl _, fun _ ↦ rfl⟩

end Connection

/-- A connection, its writer, and the idle intervals since a frame last came in that did not end the
connection. -/
structure Silence where
  conversation : Conversation
  writer : Writer
  /-- The reader has looked at the count, and has still to queue a probe. -/
  due : Bool
  endured : Nat

namespace Silence

def start (info : ConnectionInfo) (config : ConnectionConfig) (registry decoders : Registry)
    (processors : Nat) (dispatch : DispatchConfig) : Silence :=
  ⟨.start info config registry decoders processors dispatch, .idle, false, 0⟩

def connection (s : Silence) : Connection := s.conversation.connection

def withConnection (s : Silence) (c : Connection) : Silence :=
  { s with conversation := s.conversation.withConnection c }

/-- Nothing came in for the idle interval: the reader looks at the count, and ends the connection or
finds that a probe is due. -/
def look (s : Silence) : Silence :=
  match s.connection.heartbeat.onIdle s.connection.config.maxUnanswered with
  | .close n =>
    let reason := .channelInactive s.connection.name s!"{n} heartbeats unanswered"
    s.withConnection (s.connection.shutdown reason)
  | .probe => { s with due := true }

/-- The reader queues the probe that is due, or ends the connection. -/
def probe (s : Silence) : Silence :=
  match s.connection.queueProbe with
  | (none, c) => { s.withConnection c with due := false, endured := s.endured + 1 }
  | (some reason, c) => { s.withConnection (c.shutdown reason) with due := false }

/-- What becomes of an idle interval when nobody comes between the two steps of the reader. -/
def idle (s : Silence) : Silence :=
  match s.connection.onIdle with
  | (none, c) => { s.withConnection c with endured := s.endured + 1 }
  | (some reason, c) => s.withConnection (c.shutdown reason)

theorem idle_eq (s : Silence) (hdue : s.due = false) :
    s.idle = if s.look.due then s.look.probe else s.look := by
  obtain ⟨conversation, writer, due, endured⟩ := s
  obtain rfl : due = false := hdue
  rw [idle, look, Connection.onIdle]
  cases (connection ⟨conversation, writer, false, endured⟩).heartbeat.onIdle
    (connection ⟨conversation, writer, false, endured⟩).config.maxUnanswered with
  | close n => rfl
  | probe => rfl

/-- The probes that were queued and are not counted yet. -/
def inFlight (s : Silence) : Nat := s.writer.inHand.count .probe + s.connection.queuedProbes

/-- The writer takes frames when it will, writes some octets or none, and is done with a frame when
all are written, or when the transport fails. The reader takes in no frame while it has a probe to
queue. -/
inductive Step (handler : Bool) : Silence → Silence → Prop where
  | event (e : Event) (s : Silence) (he : e.isOther = true) (hidle : e ≠ .idle)
      (hframe : ∀ f, e ≠ .frame f) :
      Step handler s { s with conversation := s.conversation.apply handler e }
  | hear (f : Frame) (s : Silence) (hdue : s.due = false) :
      Step handler s
        { s with conversation := s.conversation.apply handler (.frame f), endured := 0 }
  | look (s : Silence) (hdue : s.due = false) : Step handler s s.look
  | probe (s : Silence) (hdue : s.due = true) : Step handler s s.probe
  | take (s : Silence) {w : Writer} {c : Connection} (hidle : s.writer = .idle)
      (h : s.connection.takeFrame = some (w, c)) :
      Step handler s { s.withConnection c with writer := w }
  | transmit (n : Nat) (s : Silence) {a : Acknowledgement} {unsent : Bytes}
      (h : s.writer = .sending a unsent) :
      Step handler s { s with writer := .sending a (unsent.drop n) }
  | written (s : Silence) {a : Acknowledgement} (h : s.writer = .sending a []) :
      Step handler s { s.withConnection (s.connection.acknowledge a none) with writer := .idle }
  /-- The transport fails, and the connection ends. -/
  | broken (reason : String) (s : Silence) {a : Acknowledgement} {unsent : Bytes}
      (h : s.writer = .sending a unsent) :
      Step handler s
        { s.withConnection ((s.connection.acknowledge a (some reason)).shutdown
            (.channelInactive s.connection.name s!"write failed: {reason}")) with
          writer := .stopped }

/-- A run goes on until the connection ends; the reader stops then. -/
def Moves (handler : Bool) (s s' : Silence) : Prop :=
  s.connection.closed = false ∧ Step handler s s'

/-! ## The invariant -/

/-- The probes that may remain unanswered, the places of the queue, and the one that the writer may
have in hand. -/
def patience (config : ConnectionConfig) : Nat :=
  config.maxUnanswered + max config.outboundQueue 1 + 1

structure Sound (config : ConnectionConfig) (s : Silence) : Prop where
  lined : s.connection.Lined
  config_eq : s.connection.config = config
  queued_le : s.connection.queuedProbes ≤ max config.outboundQueue 1
  bounded : s.connection.heartbeat.unanswered + s.inFlight + s.due.toNat ≤ patience config
  endured_le : s.connection.closed = false →
    s.endured ≤ s.connection.heartbeat.unanswered + s.inFlight
  endured_le_patience : s.endured ≤ patience config

variable {config : ConnectionConfig} {handler : Bool} {s s' : Silence}

theorem sound_start (info : ConnectionInfo) (registry decoders : Registry) (processors : Nat)
    (dispatch : DispatchConfig) :
    Sound config (start info config registry decoders processors dispatch) :=
  ⟨⟨rfl, .inl rfl⟩, rfl, Nat.zero_le _, Nat.zero_le _, fun _ ↦ Nat.zero_le _, Nat.zero_le _⟩

theorem count_inHand_le (w : Writer) : w.inHand.count .probe ≤ 1 :=
  List.count_le_length.trans <| by cases w <;> simp [Writer.inHand]

theorem Sound.inFlight_le (hs : Sound config s) : s.inFlight ≤ max config.outboundQueue 1 + 1 := by
  have hhand := count_inHand_le s.writer
  have hqueued := hs.queued_le
  rw [inFlight]
  omega

/-! ### Events -/

theorem sound_event (hs : Sound config s) {e : Event} (he : e.isOther = true) (hidle : e ≠ .idle)
    (hframe : ∀ f, e ≠ .frame f) (hopen : s.connection.closed = false) :
    Sound config { s with conversation := s.conversation.apply handler e } := by
  obtain ⟨hlined, hconfig, hprobes, hleft⟩ :=
    Conversation.apply_of_ne_idle hs.lined handler he hidle
  have hsame : e.heartbeat s.connection = s.connection.heartbeat := by
    cases e with
    | frame f => exact absurd rfl (hframe f)
    | _ => rfl
  have hheartbeat : (s.conversation.apply handler e).connection.heartbeat =
      s.connection.heartbeat := hleft.trans hsame
  have hinFlight : inFlight { s with conversation := s.conversation.apply handler e } =
      s.inFlight := congrArg (s.writer.inHand.count .probe + ·) hprobes
  constructor
  · exact hlined
  · exact hconfig.trans hs.config_eq
  · exact hprobes.trans_le hs.queued_le
  · rw [hinFlight, connection, hheartbeat]
    exact hs.bounded
  · intro _
    rw [hinFlight, connection, hheartbeat]
    exact hs.endured_le hopen
  · exact hs.endured_le_patience

theorem sound_hear (hs : Sound config s) (hdue : s.due = false) (f : Frame) :
    Sound config
      { s with conversation := s.conversation.apply handler (.frame f), endured := 0 } := by
  obtain ⟨hlined, hconfig, hprobes, hheartbeat⟩ :=
    Conversation.apply_of_ne_idle hs.lined handler (e := .frame f) rfl nofun
  have hinFlight : inFlight
      { s with conversation := s.conversation.apply handler (.frame f), endured := 0 } =
      s.inFlight := congrArg (s.writer.inHand.count .probe + ·) hprobes
  have hle := hs.inFlight_le
  constructor
  · exact hlined
  · exact hconfig.trans hs.config_eq
  · exact hprobes.trans_le hs.queued_le
  · rw [hinFlight, connection, hheartbeat, hdue, patience]
    change 0 + s.inFlight + 0 ≤ _
    omega
  · exact fun _ ↦ Nat.zero_le _
  · exact Nat.zero_le _

/-- A connection that ends, with nothing queued or counted meanwhile. -/
theorem Sound.ended (hs : Sound config s) {c : Connection} (hscene : c.scene = s.connection.scene)
    (hclosed : c.closed = true) : Sound config (s.withConnection c) := by
  have hheartbeat : c.heartbeat = s.connection.heartbeat := congrArg (·.2.1) hscene
  have hprobes := Connection.queuedProbes_of_scene hscene
  constructor
  · exact hs.lined.of_scene hscene
  · exact (congrArg (·.1.2.2.2.2) hscene).trans hs.config_eq
  · exact hprobes.trans_le hs.queued_le
  · change c.heartbeat.unanswered + (_ + c.queuedProbes) + _ ≤ _
    rw [hprobes, hheartbeat]
    exact hs.bounded
  · intro hopen
    exact absurd hclosed (Bool.eq_false_iff.mp hopen)
  · exact hs.endured_le_patience

/-- A probe that was due is not due any more. -/
theorem Sound.settled (hs : Sound config s) : Sound config { s with due := false } where
  lined := hs.lined
  config_eq := hs.config_eq
  queued_le := hs.queued_le
  bounded := Nat.le_trans (Nat.add_le_add_left (Nat.zero_le _) _) hs.bounded
  endured_le := hs.endured_le
  endured_le_patience := hs.endured_le_patience

/-! ### The reader -/

/-- **A probe is due only while one more may remain unanswered.** -/
theorem sound_look (hs : Sound config s) (hopen : s.connection.closed = false) :
    Sound config s.look := by
  rw [look, Heartbeat.onIdle]
  by_cases hmax : s.connection.config.maxUnanswered ≤ s.connection.heartbeat.unanswered
  · rw [if_pos hmax]
    exact hs.ended (Connection.scene_shutdown _ _) (Connection.closed_shutdown _ _)
  · rw [if_neg hmax]
    rw [hs.config_eq] at hmax
    have hle := hs.inFlight_le
    refine ⟨hs.lined, hs.config_eq, hs.queued_le, ?_, fun _ ↦ hs.endured_le hopen,
      hs.endured_le_patience⟩
    change s.connection.heartbeat.unanswered + s.inFlight + 1 ≤ _
    rw [patience]
    omega

/-- **An interval that is endured leaves one probe more**, which was due before. -/
theorem sound_probe (hs : Sound config s) (hdue : s.due = true)
    (hopen : s.connection.closed = false) : Sound config s.probe := by
  have hadds := Connection.adds_queueProbe hs.lined
  have hheartbeat := congrArg Heartbeat.unanswered hadds.heartbeat_eq
  rw [probe]
  split
  · next c hqueue =>
    have hnone : s.connection.queueProbe.1 = none := congrArg Prod.fst hqueue
    obtain rfl : s.connection.queueProbe.2 = c := congrArg Prod.snd hqueue
    obtain ⟨hprobe, hlength⟩ := Connection.queuedProbes_queueProbe hs.lined hnone
    have hbounded : s.connection.queueProbe.2.heartbeat.unanswered +
        (s.writer.inHand.count .probe + s.connection.queueProbe.2.queuedProbes) ≤
        patience config := by
      have hbefore := hs.bounded
      rw [hdue, inFlight, Bool.toNat_true] at hbefore
      omega
    have hendured : s.endured + 1 ≤ s.connection.queueProbe.2.heartbeat.unanswered +
        (s.writer.inHand.count .probe + s.connection.queueProbe.2.queuedProbes) := by
      have hle := hs.endured_le hopen
      rw [inFlight] at hle
      omega
    rw [Connection.capacity, hs.config_eq] at hlength
    exact ⟨hadds.lined, hadds.config_eq.trans hs.config_eq,
      (Connection.queuedProbes_le _).trans hlength, hbounded, fun _ ↦ hendured,
      hendured.trans hbounded⟩
  · next reason c hqueue =>
    have hsome : s.connection.queueProbe.1 = some reason := congrArg Prod.fst hqueue
    obtain rfl : s.connection.queueProbe.2 = c := congrArg Prod.snd hqueue
    have hended := hs.ended ((Connection.scene_shutdown _ _).trans
      (Connection.scene_queueProbe hsome)) (Connection.closed_shutdown _ reason)
    exact hended.settled

/-! ### The writer -/

/-- The writer is done with a frame, and has nothing in hand from then on. The frame was among those
in flight: in the writer's hand, or taken from the queue just now. -/
theorem sound_acknowledge (hs : Sound config s) {c : Connection} {a : Acknowledgement}
    {failure : Option String} {w : Writer} (hopen : s.connection.closed = false)
    (hlined : c.Lined) (hconfig : c.config = config)
    (hheartbeat : c.heartbeat = s.connection.heartbeat)
    (hprobes : c.queuedProbes ≤ s.connection.queuedProbes)
    (hinFlight : s.inFlight = [a].count .probe + c.queuedProbes) (hw : w.inHand = []) :
    Sound config { s.withConnection (c.acknowledge a failure) with writer := w } := by
  have houtlet := c.outlet_acknowledge a failure
  have hqueued : (c.acknowledge a failure).queuedProbes = c.queuedProbes := by
    have hbacklog : (c.acknowledge a failure).backlog = c.backlog :=
      congrArg (fun x ↦ x.1 ++ x.2.1) houtlet
    rw [Connection.queuedProbes, Connection.queuedProbes, hbacklog]
  have hleft : inFlight { s.withConnection (c.acknowledge a failure) with writer := w } =
      c.queuedProbes := by
    change w.inHand.count .probe + (c.acknowledge a failure).queuedProbes = _
    rw [hw, hqueued]
    exact Nat.zero_add _
  obtain ⟨hle, heq⟩ := c.unanswered_acknowledge a failure
  rw [hheartbeat] at hle heq
  have hbounded := hs.bounded
  rw [hinFlight] at hbounded
  constructor
  · exact hlined.of_outlet houtlet
  · exact (congrArg (·.2.2.2.2) houtlet).trans hconfig
  · exact hqueued.trans_le (hprobes.trans hs.queued_le)
  · rw [hleft]
    change (c.acknowledge a failure).heartbeat.unanswered + _ + s.due.toNat ≤ _
    omega
  · intro hstill
    have hendured := hs.endured_le hopen
    rw [hinFlight] at hendured
    rw [hleft]
    change s.endured ≤ (c.acknowledge a failure).heartbeat.unanswered + _
    rw [heq hstill]
    omega
  · exact hs.endured_le_patience

/-- The writer has a frame in hand, and the frame was in flight before. -/
theorem Sound.sending (hs : Sound config s) {c : Connection} {w : Writer}
    (hopen : s.connection.closed = false) (hlined : c.Lined) (hconfig : c.config = config)
    (hheartbeat : c.heartbeat = s.connection.heartbeat)
    (hprobes : c.queuedProbes ≤ s.connection.queuedProbes)
    (hinFlight : w.inHand.count .probe + c.queuedProbes = s.inFlight) :
    Sound config { s.withConnection c with writer := w } := by
  have hsame : inFlight { s.withConnection c with writer := w } = s.inFlight := hinFlight
  constructor
  · exact hlined
  · exact hconfig
  · exact hprobes.trans hs.queued_le
  · rw [hsame]
    change c.heartbeat.unanswered + _ + s.due.toNat ≤ _
    rw [hheartbeat]
    exact hs.bounded
  · intro _
    rw [hsame]
    change _ ≤ c.heartbeat.unanswered + _
    rw [hheartbeat]
    exact hs.endured_le hopen
  · exact hs.endured_le_patience

theorem sound_take (hs : Sound config s) {w : Writer} {c : Connection}
    (hopen : s.connection.closed = false) (hidle : s.writer = .idle)
    (h : s.connection.takeFrame = some (w, c)) :
    Sound config { s.withConnection c with writer := w } := by
  have htaken : s.connection.dequeue ≠ none := by
    intro hnone
    rw [Connection.takeFrame, hnone] at h
    cases h
  obtain ⟨⟨o, c₁⟩, hnext⟩ := Option.ne_none_iff_exists'.mp htaken
  obtain ⟨hbacklog, hlined, -, hconfig⟩ := Connection.backlog_dequeue hs.lined hnext
  have hheartbeat : c₁.heartbeat = s.connection.heartbeat :=
    (congrArg Connection.heartbeat (Connection.eq_of_dequeue hnext) :)
  have hqueued : s.connection.queuedProbes = [o.acknowledgement].count .probe + c₁.queuedProbes := by
    rw [Connection.queuedProbes, hbacklog, List.map_cons, ← List.singleton_append, List.count_append]
    rfl
  have hprobes : c₁.queuedProbes ≤ s.connection.queuedProbes := by omega
  have hinFlight : s.inFlight = [o.acknowledgement].count .probe + c₁.queuedProbes := by
    rw [inFlight, hidle, hqueued]
    exact Nat.zero_add _
  rw [Connection.takeFrame_eq hnext] at h
  by_cases hfits : o.frame.fits c₁.config.payloadLimit = true
  · -- The frame is in the writer's hand from now on.
    rw [if_pos hfits] at h
    obtain ⟨rfl, rfl⟩ := Prod.mk.inj (Option.some.inj h)
    exact hs.sending hopen hlined (hconfig.trans hs.config_eq) hheartbeat hprobes hinFlight.symm
  · -- The frame is over the limit, and the writer is done with it.
    rw [if_neg hfits] at h
    obtain ⟨rfl, rfl⟩ := Prod.mk.inj (Option.some.inj h)
    exact sound_acknowledge hs hopen hlined (hconfig.trans hs.config_eq) hheartbeat hprobes
      hinFlight rfl

/-- **One move keeps the invariant.** -/
theorem Moves.sound (h : Moves handler s s') (hs : Sound config s) : Sound config s' := by
  obtain ⟨hopen, hstep⟩ := h
  have hinFlight_of_hand {a : Acknowledgement} {unsent : Bytes}
      (hsending : s.writer = .sending a unsent) :
      s.inFlight = [a].count .probe + s.connection.queuedProbes := by
    rw [inFlight, hsending]
    rfl
  cases hstep with
  | event e _ he hidle hframe => exact sound_event hs he hidle hframe hopen
  | hear f _ hdue => exact sound_hear hs hdue f
  | look => exact sound_look hs hopen
  | probe _ hdue => exact sound_probe hs hdue hopen
  | take _ hidle htake => exact sound_take hs hopen hidle htake
  | transmit n _ hsending =>
    exact hs.sending hopen hs.lined hs.config_eq rfl (Nat.le_refl _)
      (hinFlight_of_hand hsending).symm
  | written _ hsending =>
    exact sound_acknowledge hs hopen hs.lined hs.config_eq rfl (Nat.le_refl _)
      (hinFlight_of_hand hsending) rfl
  | broken reason _ hsending =>
    have hdone : Sound config
        { s.withConnection (s.connection.acknowledge _ (some reason)) with writer := .stopped } :=
      sound_acknowledge hs hopen hs.lined hs.config_eq rfl (Nat.le_refl _)
        (hinFlight_of_hand hsending) rfl
    exact hdone.ended (Connection.scene_shutdown _ _) (Connection.closed_shutdown _ _)

theorem sound_of_reachable {info : ConnectionInfo} {registry decoders : Registry}
    {processors : Nat} {dispatch : DispatchConfig}
    (h : ReflTransGen (Moves handler)
      (start info config registry decoders processors dispatch) s) : Sound config s := by
  induction h with
  | refl => exact sound_start info registry decoders processors dispatch
  | tail _ hmove ih => exact hmove.sound ih

/-! ## The end -/

/-- **A peer that is silent is given up**, whatever the writer does: no more idle intervals are
endured than probes may remain unanswered and places are in the queue, and one, and the next look at
the count ends the connection. The count of unanswered probes does not leave its 32 bits meanwhile.
An interval that is handled without a pause is handled as the connection does it. -/
theorem given_up_in_time {info : ConnectionInfo} {registry decoders : Registry}
    {processors : Nat} {dispatch : DispatchConfig}
    (hsmall : config.maxUnanswered + max config.outboundQueue 1 + 1 < 2 ^ 32)
    (h : ReflTransGen (Moves handler)
      (start info config registry decoders processors dispatch) s) :
    s.endured ≤ config.maxUnanswered + max config.outboundQueue 1 + 1 ∧
      (s.connection.closed = false →
        s.endured = config.maxUnanswered + max config.outboundQueue 1 + 1 →
        s.due = false ∧ s.look.connection.closed = true) ∧
      s.connection.heartbeat.unanswered < 2 ^ 32 ∧
      (s.due = false → s.idle = if s.look.due then s.look.probe else s.look) := by
  have hs := sound_of_reachable h
  have hbounded := hs.bounded
  rw [patience] at hbounded
  refine ⟨hs.endured_le_patience, ?_, by omega, s.idle_eq⟩
  intro hopen hpatience
  have hendured := hs.endured_le hopen
  have hinFlight := hs.inFlight_le
  constructor
  · have hnone : s.due.toNat = 0 := by omega
    exact Bool.toNat_eq_zero.mp hnone
  · -- Only so many probes are in flight, so as many are counted as may remain unanswered.
    have hmax : s.connection.config.maxUnanswered ≤ s.connection.heartbeat.unanswered := by
      rw [hs.config_eq]
      omega
    rw [look, Heartbeat.onIdle, if_pos hmax]
    exact Connection.closed_shutdown _ _

/-- One probe may remain unanswered, and the queue has one place. -/
def narrow : ConnectionConfig :=
  { ConnectionConfig.standard with maxUnanswered := 1, outboundQueue := 1 }

def startNarrow : Silence :=
  start ⟨"client", "peer", .client, 1⟩ narrow .standard .standard 1 .standard

/-- A first probe is in the hand of the writer, and a second one takes the place. The reader looks
once more, and a third probe is due. Then the writer counts the first one and takes the second, so
that the third has a place as well. No frame comes in. -/
theorem exists_endured_three : ∃ s : Silence, ReflTransGen (Moves false) startNarrow s ∧
    s.connection.closed = false ∧ s.endured = 3 := by
  obtain ⟨s, hreach, hopen, hdue, hstill, hendured⟩ : ∃ s : Silence,
      ReflTransGen (Moves false) startNarrow s ∧ s.connection.closed = false ∧ s.due = true ∧
        s.probe.connection.closed = false ∧ s.probe.endured = 3 := by
    have h₁ : ReflTransGen (Moves false) startNarrow _ := .single ⟨rfl, .look _ rfl⟩
    have h₂ := (h₁.tail ⟨rfl, .probe _ rfl⟩).tail ⟨rfl, .take _ rfl rfl⟩
    have h₃ := (h₂.tail ⟨rfl, .look _ rfl⟩).tail ⟨rfl, .probe _ rfl⟩
    have h₄ := h₃.tail ⟨rfl, .look _ rfl⟩
    have h₅ := (h₄.tail ⟨rfl, .transmit 100 _ rfl⟩).tail ⟨rfl, .written _ rfl⟩
    have h₆ := h₅.tail ⟨rfl, .take _ rfl rfl⟩
    exact ⟨_, h₆, rfl, rfl, rfl, rfl⟩
  exact ⟨s.probe, hreach.tail ⟨hopen, .probe s hdue⟩, hstill, hendured⟩

/-- **One interval more may be endured** than probes may remain unanswered and places are in the
queue. -/
theorem endured_beyond_places :
    ¬ ∀ (config : ConnectionConfig) (s : Silence),
      config.maxUnanswered + max config.outboundQueue 1 < 2 ^ 32 →
      ReflTransGen (Moves false) (start ⟨"client", "peer", .client, 1⟩ config .standard .standard 1
        .standard) s →
      s.endured ≤ config.maxUnanswered + max config.outboundQueue 1 := by
  intro hall
  obtain ⟨s, hreach, -, hendured⟩ := exists_endured_three
  have hle := hall narrow s (by decide) hreach
  rw [hendured] at hle
  exact absurd hle (by decide)

/-- The next look ends the connection. -/
theorem given_up_in_time_stalled :
    ∃ s : Silence, (1 + max 1 1 + 1 < 2 ^ 32) ∧
      ReflTransGen (Moves false) startNarrow s ∧
      s.connection.closed = false ∧ s.endured = 1 + max 1 1 + 1 ∧
      s.look.connection.closed = true := by
  obtain ⟨s, hreach, hopen, hendured⟩ := exists_endured_three
  obtain ⟨-, hends, -⟩ := given_up_in_time (by decide) hreach
  exact ⟨s, by decide, hreach, hopen, hendured, (hends hopen hendured).2⟩

end Silence

end RpcTransport
