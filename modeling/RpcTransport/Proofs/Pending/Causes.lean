import RpcTransport.Proofs.Pending.ExactlyOnce

/-!
# Why a deadline passed

What an expired request is told depends on its write state, which other tasks write to while it is
pending, with two kinds of calls. One notes that the request was written, in one atomic step, and
only while the write is awaited. The other notes that the write failed, in two steps: it sets the
reason, if there is none, and then the phase, whatever it was. Between the two steps any other task
may move, and any number of calls may be between their steps at once.

## The record of the calls

Each call is recorded at its first step, which is its place among the others: this is the step that
decides which reason stays, and no call is recorded before it began or after it was over. What a
write state is, as long as no call on it is between its steps, is a function of this record alone
(`WriteState.Recalls`). The two steps of a failure fit together because a reason is there from the
first one on: while the phase is yet to be set some task owes it, and once it is set it stays.

A task that expires a request looks at the phase and then at the reason. It is told as one step
here: the reason that is there with a failed phase is the same at any later look
(`WriteState.Onward`).
-/

namespace RpcTransport

/-- A call on a write state. -/
inductive Mark where
  | written
  | failed (reason : String)
deriving DecidableEq

def Mark.reason? : Mark → Option String
  | .written => none
  | .failed reason => some reason

/-- The reason of the first failure. -/
def firstReason? (marks : List Mark) : Option String := marks.findSome? Mark.reason?

/-! ## One write state -/

namespace WriteState

variable {w : WriteState} {marks : List Mark} {owed : Prop}

/-- What the calls so far have left in a write state; `owed` says that a failure is between its two
steps. -/
structure Recalls (w : WriteState) (marks : List Mark) (owed : Prop) : Prop where
  reason_eq : w.reason = firstReason? marks
  reason_of_failed : w.phase = .failed → w.reason ≠ none
  reason_of_owed : owed → w.reason ≠ none
  failed_or_owed : w.reason ≠ none → w.phase = .failed ∨ owed
  written_iff : w.phase ≠ .failed → (w.phase = .written ↔ .written ∈ marks)

theorem Recalls.congr {owed' : Prop} (h : w.Recalls marks owed) (howed : owed ↔ owed') :
    w.Recalls marks owed' :=
  propext howed ▸ h

theorem recalls_initial : initial.Recalls [] False where
  reason_eq := rfl
  reason_of_failed := nofun
  reason_of_owed := nofun
  failed_or_owed h := absurd rfl h
  written_iff _ := ⟨nofun, nofun⟩

theorem reason_markWritten (w : WriteState) : w.markWritten.reason = w.reason := by
  rw [markWritten]
  split
  · rfl
  · rfl

theorem phase_markWritten (w : WriteState) :
    w.markWritten.phase = if w.phase = .awaiting then .written else w.phase := by
  rw [markWritten]
  split
  · rfl
  · rfl

theorem Recalls.markWritten (h : w.Recalls marks owed) :
    w.markWritten.Recalls (marks ++ [.written]) owed := by
  have hfirst : firstReason? (marks ++ [.written]) = firstReason? marks := by
    rw [firstReason?, List.findSome?_append]
    exact Option.or_none
  have hfailed : w.markWritten.phase = .failed ↔ w.phase = .failed := by
    rw [phase_markWritten]
    split
    · next hawaiting => simp [hawaiting]
    · rfl
  refine ⟨?_, ?_, ?_, ?_, fun hphase ↦ ?_⟩
  · rw [reason_markWritten, hfirst, h.reason_eq]
  · rw [hfailed, reason_markWritten]
    exact h.reason_of_failed
  · rw [reason_markWritten]
    exact h.reason_of_owed
  · rw [hfailed, reason_markWritten]
    exact h.failed_or_owed
  · -- A write state that has not failed is written after this.
    have hwritten : w.markWritten.phase = .written := by
      rw [Ne, hfailed] at hphase
      rw [phase_markWritten]
      cases hw : w.phase with
      | awaiting | written => rfl
      | failed => exact absurd hw hphase
    simp [hwritten]

theorem reason_noteReason_ne_none (w : WriteState) (reason : String) :
    (w.noteReason reason).reason ≠ none :=
  Option.some_ne_none _

/-- The first reason stays. -/
theorem Recalls.noteReason (h : w.Recalls marks owed) (reason : String) :
    (w.noteReason reason).Recalls (marks ++ [.failed reason]) True where
  reason_eq := by
    rw [WriteState.noteReason, h.reason_eq, firstReason?, firstReason?, List.findSome?_append]
    cases marks.findSome? Mark.reason? with
    | none | some => rfl
  reason_of_failed _ := w.reason_noteReason_ne_none reason
  reason_of_owed _ := w.reason_noteReason_ne_none reason
  failed_or_owed _ := .inr trivial
  written_iff hphase := by
    rw [List.mem_append, List.mem_singleton, ← h.written_iff hphase]
    simp [WriteState.noteReason]

/-- A failure takes its second step, which others may still owe. -/
theorem Recalls.enterFailed (h : w.Recalls marks owed) (howed : owed) {others : Prop}
    (hothers : others → owed) : w.enterFailed.Recalls marks others where
  reason_eq := h.reason_eq
  reason_of_failed _ := h.reason_of_owed howed
  reason_of_owed ho := h.reason_of_owed (hothers ho)
  failed_or_owed _ := .inl rfl
  written_iff hphase := absurd rfl hphase

/-- What no call undoes: a failure is not left, a write is not awaited again, a reason stays. -/
structure Onward (w w' : WriteState) : Prop where
  failed : w.phase = .failed → w'.phase = .failed
  written : w.phase = .written → w'.phase ≠ .awaiting
  reason : w.reason ≠ none → w'.reason = w.reason

theorem Onward.refl (w : WriteState) : w.Onward w where
  failed h := h
  written h := by simp [h]
  reason _ := rfl

theorem onward_markWritten (w : WriteState) : w.Onward w.markWritten where
  failed h := by simp [phase_markWritten, h]
  written h := by simp [phase_markWritten, h]
  reason _ := w.reason_markWritten

theorem onward_noteReason (w : WriteState) (reason : String) : w.Onward (w.noteReason reason) where
  failed h := h
  written h := by simp [WriteState.noteReason, h]
  reason h := by
    obtain ⟨first, hfirst⟩ := Option.ne_none_iff_exists'.mp h
    rw [WriteState.noteReason, hfirst, Option.getD_some]

theorem onward_enterFailed (w : WriteState) : w.Onward w.enterFailed where
  failed _ := rfl
  written _ := nofun
  reason _ := rfl

end WriteState

/-! ## The cause -/

namespace PendingTable

/-- What a request is told that was not answered in time, by the calls on its write state. -/
def cause (connection peer : String) (id : UInt64) (timeout : Nat) (marks : List Mark) :
    TransportError :=
  let late : TransportError :=
    if .written ∈ marks then .responseTimeout connection id (timeout % UInt64.size)
    else .requestTimeout connection id (timeout % UInt64.size)
  (firstReason? marks).elim late (.connectFailed peer)

theorem timeoutError_eq_cause {t : PendingTable} {p : Pending} {marks : List Mark} {owed : Prop}
    (h : (t.writeState p.ticket).Recalls marks owed) (howed : ¬ owed) :
    t.timeoutError p = cause t.connection t.peer p.id p.timeout marks := by
  rw [timeoutError, cause, ← h.reason_eq]
  cases hreason : (t.writeState p.ticket).reason with
  | some reason =>
    have hphase : (t.writeState p.ticket).phase = .failed :=
      (h.failed_or_owed (by simp [hreason])).resolve_right howed
    simp only [hphase, Option.getD_some, Option.elim_some]
  | none =>
    have hnot : (t.writeState p.ticket).phase ≠ .failed := fun hphase ↦
      h.reason_of_failed hphase hreason
    have hwritten := h.written_iff hnot
    cases hphase : (t.writeState p.ticket).phase with
    | failed => exact absurd hphase hnot
    | written => simp [hphase, ← hwritten, shownMillis, UInt64.size]
    | awaiting => simp [hphase, ← hwritten, shownMillis, UInt64.size]

/-! ## What a move leaves alone -/

section Moves

variable {k k' : Task} {t t' : PendingTable} {ds : List Delivery}

theorem Moves.names_eq (h : Moves k t k' t' ds) :
    t'.connection = t.connection ∧ t'.peer = t.peer := by
  cases h with
  | insert | setTimer | take | judge | mark | scan | found | drain | drained | settle | tell =>
    exact ⟨rfl, rfl⟩

/-- Of the tasks at the table only the one that notes a failed write writes to a write state. -/
theorem Moves.writes_eq (h : Moves k t k' t' ds) (hk : ∀ p reason, k ≠ .mark p reason) :
    t'.writes = t.writes := by
  cases h with
  | mark p reason => exact absurd rfl (hk p reason)
  | insert | setTimer | take | judge | scan | found | drain | drained | settle | tell => rfl

theorem Moves.mem_tickets (h : Moves k t k' t' ds) (ht : t.ids.Nodup) {a : Nat}
    (ha : a ∈ k'.tickets ∨ a ∈ t'.tickets) : a ∈ k.tickets ∨ a ∈ t.tickets := by
  have hcount := h.conserves ht a
  simp only [← List.count_pos_iff] at ha ⊢
  omega

end Moves

/-! ## The system -/

/-- Who is at work: a task at the table, or a failure that has set its reason and not the phase yet,
with what its task does then. -/
inductive Agent where
  | task (k : Task)
  | storing (ticket : Nat) (rest : Task)

/-- The requests that are known to an agent. -/
def Agent.tickets : Agent → List Nat
  | .task k => k.tickets
  | .storing ticket rest => ticket :: rest.tickets

/-- The write state whose phase is yet to be set. -/
def Agent.owed : Agent → List Nat
  | .task _ => []
  | .storing ticket _ => [ticket]

/-- The calls on one write state. -/
def marksOf (history : List (Nat × Mark)) (ticket : Nat) : List Mark :=
  history.filterMap fun x ↦ if x.1 = ticket then some x.2 else none

theorem marksOf_concat_self (history : List (Nat × Mark)) (ticket : Nat) (m : Mark) :
    marksOf (history ++ [(ticket, m)]) ticket = marksOf history ticket ++ [m] := by
  simp [marksOf]

theorem marksOf_concat_of_ne (history : List (Nat × Mark)) {ticket a : Nat} (h : a ≠ ticket)
    (m : Mark) : marksOf (history ++ [(ticket, m)]) a = marksOf history a := by
  simp [marksOf, h.symm]

structure Marking where
  table : PendingTable
  agents : List Agent
  /-- The calls by their first steps, each with the ticket of the write state. -/
  history : List (Nat × Mark)
  /-- Whom the tasks told, in that order. -/
  told : List Delivery

namespace Marking

def start (connection peer : String) : Marking := ⟨.empty connection peer, [], [], []⟩

def marks (s : Marking) (ticket : Nat) : List Mark := marksOf s.history ticket

/-- The write states of which a failure is between its two steps. -/
def owed (s : Marking) : List Nat := s.agents.flatMap Agent.owed

/-- One atomic step. A write state can be known to anyone as soon as its ticket was issued, so calls
come before the request is entered, while it is pending, and afterwards. -/
inductive Step : Marking → Marking → Prop where
  /-- A caller makes a request, under any id. -/
  | request (id : UInt64) (kind : CompletionKind) (timeout : Nat) (s : Marking) :
      Step s ⟨s.table.issue.2,
        s.agents ++ [.task (.insert id ⟨kind, s.table.issue.1⟩ timeout)], s.history, s.told⟩
  | access (k : Task) (hk : k.IsCall) (s : Marking) :
      Step s ⟨s.table, s.agents ++ [.task k], s.history, s.told⟩
  | move (i : Nat) {k k' : Task} {t : PendingTable} {ds : List Delivery} {s : Marking}
      (hi : s.agents[i]? = some (.task k)) (hk : ∀ p reason, k ≠ .mark p reason)
      (h : Moves k s.table k' t ds) :
      Step s ⟨t, s.agents.set i (.task k'), s.history, s.told ++ ds⟩
  | written (ticket : Nat) {s : Marking} (h : ticket < s.table.writes.length) :
      Step s ⟨s.table.markWritten ticket, s.agents, s.history ++ [(ticket, .written)], s.told⟩
  /-- The first step of a failure. -/
  | note (ticket : Nat) (reason : String) {s : Marking} (h : ticket < s.table.writes.length) :
      Step s ⟨{ s.table with writes := s.table.writes.modify ticket (·.noteReason reason) },
        s.agents ++ [.storing ticket .ended], s.history ++ [(ticket, .failed reason)], s.told⟩
  /-- The first step of the failure that a task notes of a request it took out. -/
  | noteTaken (i : Nat) {p : Pending} {reason : String} {s : Marking}
      (hi : s.agents[i]? = some (.task (.mark p reason))) :
      Step s ⟨{ s.table with writes := s.table.writes.modify p.ticket (·.noteReason reason) },
        s.agents.set i
          (.storing p.ticket (.tell [p.completion.fail (s.table.writeError p.id reason)])),
        s.history ++ [(p.ticket, .failed reason)], s.told⟩
  /-- The second step. -/
  | store (i : Nat) {ticket : Nat} {rest : Task} {s : Marking}
      (hi : s.agents[i]? = some (.storing ticket rest)) :
      Step s ⟨{ s.table with writes := s.table.writes.modify ticket WriteState.enterFailed },
        s.agents.set i (.task rest), s.history, s.told⟩

/-! ## What holds of every state -/

structure Sound (connection peer : String) (s : Marking) : Prop where
  names_eq : s.table.connection = connection ∧ s.table.peer = peer
  nodup_ids : s.table.ids.Nodup
  /-- Nobody knows a ticket that was not issued. -/
  lt_length : ∀ a, a ∈ s.agents.flatMap Agent.tickets ∨ a ∈ s.table.tickets →
    a < s.table.writes.length
  recalls : ∀ a, (s.table.writeState a).Recalls (s.marks a) (a ∈ s.owed)

variable {connection peer : String} {s s' : Marking}

theorem sound_start (connection peer : String) : (start connection peer).Sound connection peer where
  names_eq := ⟨rfl, rfl⟩
  nodup_ids := List.nodup_nil
  lt_length _ h := h.elim (absurd · List.not_mem_nil) (absurd · List.not_mem_nil)
  recalls a := by
    have hnone : (start connection peer).table.writeState a = .initial := by
      rw [writeState, start, empty, List.getD_nil]
      rfl
    rw [hnone]
    exact WriteState.recalls_initial.congr (by simp [owed, start])

section Agents

variable {f : Agent → List Nat} {gs : List Agent} {i a : Nat} {g g' : Agent}

theorem mem_flatMap_concat : a ∈ (gs ++ [g]).flatMap f ↔ a ∈ gs.flatMap f ∨ a ∈ f g := by
  rw [List.flatMap_append, List.flatMap_singleton, List.mem_append]

theorem mem_flatMap_of_getElem? (h : gs[i]? = some g) (ha : a ∈ f g) : a ∈ gs.flatMap f :=
  List.mem_flatMap.mpr ⟨g, List.mem_of_getElem? h, ha⟩

theorem mem_of_mem_flatMap_set (h : gs[i]? = some g) (ha : a ∈ (gs.set i g').flatMap f) :
    a ∈ gs.flatMap f ∨ a ∈ f g' := by
  have hcount := count_flatMap_set f h g' a
  simp only [← List.count_pos_iff] at ha ⊢
  omega

theorem mem_flatMap_set (h : gs[i]? = some g) (ha : a ∉ f g) :
    a ∈ (gs.set i g').flatMap f ↔ a ∈ gs.flatMap f ∨ a ∈ f g' := by
  have hcount := count_flatMap_set f h g' a
  simp only [← List.count_pos_iff] at ha ⊢
  omega

end Agents

theorem Step.lt_length (h : Step s s') (hs : s.Sound connection peer) (a : Nat)
    (ha : a ∈ s'.agents.flatMap Agent.tickets ∨ a ∈ s'.table.tickets) :
    a < s'.table.writes.length := by
  have hlt := hs.lt_length a
  cases h with
  | request id kind timeout =>
    have hissue : s.table.issue.2.writes.length = s.table.writes.length + 1 :=
      List.length_append.trans rfl
    rw [hissue]
    rcases ha with ha | ha
    · rcases mem_flatMap_concat.mp ha with ha | ha
      · exact Nat.lt_succ_of_lt (hlt (.inl ha))
      · exact Nat.lt_succ_of_le (Nat.le_of_eq (List.mem_singleton.mp ha))
    · exact Nat.lt_succ_of_lt (hlt (.inr ha))
  | access k hk =>
    refine hlt (ha.imp_left fun ha ↦ (mem_flatMap_concat.mp ha).resolve_right ?_)
    rw [Agent.tickets, System.Task.IsCall.tickets_eq_nil hk]
    exact List.not_mem_nil
  | @move i k k' t ds _ hi hk h =>
    rw [h.writes_eq hk]
    have hmoved : a ∈ k'.tickets ∨ a ∈ t.tickets → a < s.table.writes.length := fun ha ↦
      hlt ((h.mem_tickets hs.nodup_ids ha).imp_left (mem_flatMap_of_getElem? hi))
    rcases ha with ha | ha
    · rcases mem_of_mem_flatMap_set hi ha with ha | ha
      · exact hlt (.inl ha)
      · exact hmoved (.inl ha)
    · exact hmoved (.inr ha)
  | written ticket =>
    rw [markWritten, List.length_modify]
    exact hlt ha
  | note ticket reason h =>
    rw [List.length_modify]
    rcases ha with ha | ha
    · rcases mem_flatMap_concat.mp ha with ha | ha
      · exact hlt (.inl ha)
      · exact List.mem_singleton.mp ha ▸ h
    · exact hlt (.inr ha)
  | @noteTaken i p reason _ hi =>
    rw [List.length_modify]
    have htaken : p.ticket ∈ s.agents.flatMap Agent.tickets :=
      mem_flatMap_of_getElem? hi List.mem_cons_self
    rcases ha with ha | ha
    · rcases mem_of_mem_flatMap_set hi ha with ha | ha
      · exact hlt (.inl ha)
      · have heq : a = p.ticket := (List.mem_cons.mp ha).elim id List.mem_singleton.mp
        exact hlt (.inl (heq ▸ htaken))
    · exact hlt (.inr ha)
  | store i hi =>
    rw [List.length_modify]
    rcases ha with ha | ha
    · rcases mem_of_mem_flatMap_set hi ha with ha | ha
      · exact hlt (.inl ha)
      · exact hlt (.inl (mem_flatMap_of_getElem? hi (List.mem_cons_of_mem _ ha)))
    · exact hlt (.inr ha)

/-- A step at one write state leaves the others as they are, with the calls on them. -/
theorem Sound.recalls_modify (hs : s.Sound connection peer) {ticket : Nat}
    {f : WriteState → WriteState} {history : List (Nat × Mark)} {owed : List Nat}
    (hissued : ticket < s.table.writes.length)
    (hself : (f (s.table.writeState ticket)).Recalls (marksOf history ticket) (ticket ∈ owed))
    (hmarks : ∀ a, a ≠ ticket → marksOf history a = s.marks a)
    (howed : ∀ a, a ≠ ticket → (a ∈ owed ↔ a ∈ s.owed)) (a : Nat) :
    (PendingTable.writeState { s.table with writes := s.table.writes.modify ticket f } a).Recalls
      (marksOf history a) (a ∈ owed) := by
  by_cases ha : a = ticket
  · subst ha
    rwa [writeState_modify_self hissued]
  · rw [writeState_modify ha, hmarks a ha, howed a ha]
    exact hs.recalls a

theorem Step.recalls (h : Step s s') (hs : s.Sound connection peer) (a : Nat) :
    (s'.table.writeState a).Recalls (s'.marks a) (a ∈ s'.owed) := by
  have hrecalls := hs.recalls a
  cases h with
  | request id kind timeout =>
    rw [owed, mem_flatMap_concat, Agent.owed, or_iff_left List.not_mem_nil]
    rw [writeState_append (t := s.table) rfl]
    exact hrecalls
  | access k =>
    rw [owed, mem_flatMap_concat, Agent.owed, or_iff_left List.not_mem_nil]
    exact hrecalls
  | @move i k k' t ds _ hi hk h =>
    have hsame : t.writeState a = s.table.writeState a := by
      rw [writeState, writeState, h.writes_eq hk]
    rw [owed, mem_flatMap_set hi List.not_mem_nil, Agent.owed, or_iff_left List.not_mem_nil, hsame]
    exact hrecalls
  | written ticket h =>
    refine hs.recalls_modify h ?_ (fun a ha ↦ marksOf_concat_of_ne _ ha _) (fun _ _ ↦ .rfl) a
    rw [marksOf_concat_self]
    exact (hs.recalls ticket).markWritten
  | note ticket reason h =>
    refine hs.recalls_modify h ?_ (fun a ha ↦ marksOf_concat_of_ne _ ha _) (fun a ha ↦ ?_) a
    · have howed : ticket ∈ (s.agents ++ [Agent.storing ticket .ended]).flatMap Agent.owed :=
        mem_flatMap_concat.mpr (.inr List.mem_cons_self)
      rw [marksOf_concat_self]
      exact ((hs.recalls ticket).noteReason reason).congr (iff_of_true trivial howed)
    · rw [owed, mem_flatMap_concat, Agent.owed, or_iff_left (by simpa using ha), owed]
  | @noteTaken i p reason _ hi =>
    have hissued := hs.lt_length p.ticket (.inl (mem_flatMap_of_getElem? hi List.mem_cons_self))
    refine hs.recalls_modify hissued ?_ (fun a ha ↦ marksOf_concat_of_ne _ ha _)
      (fun a ha ↦ ?_) a
    · rw [marksOf_concat_self]
      refine ((hs.recalls p.ticket).noteReason reason).congr (iff_of_true trivial ?_)
      exact (mem_flatMap_set hi List.not_mem_nil).mpr (.inr List.mem_cons_self)
    · rw [owed, mem_flatMap_set hi List.not_mem_nil, Agent.owed, or_iff_left (by simpa using ha),
        owed]
  | @store i ticket rest _ hi =>
    have hissued := hs.lt_length ticket (.inl (mem_flatMap_of_getElem? hi List.mem_cons_self))
    refine hs.recalls_modify hissued ?_ (fun _ _ ↦ rfl) (fun a ha ↦ ?_) a
    · refine (hs.recalls ticket).enterFailed (mem_flatMap_of_getElem? hi List.mem_cons_self) ?_
      exact fun ha ↦ (mem_of_mem_flatMap_set hi ha).resolve_right List.not_mem_nil
    · rw [owed, mem_flatMap_set hi (by simpa [Agent.owed] using ha), Agent.owed,
        or_iff_left List.not_mem_nil, owed]

theorem Step.sound (h : Step s s') (hs : s.Sound connection peer) : s'.Sound connection peer := by
  refine ⟨?_, ?_, h.lt_length hs, h.recalls hs⟩
  · have hnames := hs.names_eq
    cases h with
    | move i hi hk h => exact ⟨h.names_eq.1.trans hnames.1, h.names_eq.2.trans hnames.2⟩
    | request | access | written | note | noteTaken | store => exact hnames
  · have hids := hs.nodup_ids
    cases h with
    | move i hi hk h => exact h.nodup_ids hids
    | request | access | written | note | noteTaken | store => exact hids

theorem sound_of_reachable (h : Relation.ReflTransGen Step (start connection peer) s) :
    s.Sound connection peer := by
  induction h with
  | refl => exact sound_start connection peer
  | tail _ hstep ih => exact hstep.sound ih

theorem Step.onward (h : Step s s') (a : Nat) :
    (s.table.writeState a).Onward (s'.table.writeState a) := by
  have hmodify {ticket : Nat} {f : WriteState → WriteState} (hf : ∀ w, WriteState.Onward w (f w)) :
      (s.table.writeState a).Onward
        (PendingTable.writeState { s.table with writes := s.table.writes.modify ticket f } a) := by
    rcases writeState_modify_or s.table a ticket f with hw | hw
    · rw [hw]
      exact .refl _
    · rw [hw]
      exact hf _
  cases h with
  | request =>
    have hsame : s.table.issue.2.writeState a = s.table.writeState a := writeState_append rfl a
    rw [hsame]
    exact .refl _
  | access => exact .refl _
  | @move i k k' t ds _ hi hk h =>
    have hsame : t.writeState a = s.table.writeState a := by
      rw [writeState, writeState, h.writes_eq hk]
    rw [hsame]
    exact .refl _
  | written => exact hmodify WriteState.onward_markWritten
  | note ticket reason | @noteTaken i p reason => exact hmodify (·.onward_noteReason reason)
  | store => exact hmodify WriteState.onward_enterFailed

/-! ## The true cause -/

/-- **An expired request is told the true cause**, whatever calls were made on its write state, by
whatever tasks and in whatever order of their steps. If the deadline of a pending request passes
when no failure is between its two steps, the request is told that its write failed, with the reason
of the first failure, if there was one; or else that there was no response, if it was written; or
else that it was not sent. So is a request that its deadline took out before, when its task looks.
At every moment a failed write has its reason; and no step leaves a failure, awaits a write again
that was noted, or changes a reason. -/
theorem expire_names_cause (h : Relation.ReflTransGen Step (start connection peer) s) :
    (∀ id p, s.table.find? id = some p → p.ticket ∉ s.owed →
      s.table.expire id =
        (some (p.completion.fail (cause connection peer id p.timeout (s.marks p.ticket))),
          (s.table.take id).2)) ∧
    (∀ p k t ds, .task (.judge p) ∈ s.agents → p.ticket ∉ s.owed → Moves (.judge p) s.table k t ds →
      k = .tell [p.completion.fail (cause connection peer p.id p.timeout (s.marks p.ticket))]) ∧
    (∀ a, (s.table.writeState a).phase = .failed → (s.table.writeState a).reason ≠ none) ∧
    ∀ s', Step s s' → ∀ a, (s.table.writeState a).Onward (s'.table.writeState a) := by
  have hs := sound_of_reachable h
  have herror (t : PendingTable) (p : Pending) (hconnection : t.connection = connection)
      (hpeer : t.peer = peer) (hwrites : t.writes = s.table.writes) (howed : p.ticket ∉ s.owed) :
      t.timeoutError p = cause connection peer p.id p.timeout (s.marks p.ticket) := by
    have hsame : t.writeState p.ticket = s.table.writeState p.ticket := by
      rw [writeState, writeState, hwrites]
    rw [← hconnection, ← hpeer]
    exact timeoutError_eq_cause (hsame ▸ hs.recalls p.ticket) howed
  refine ⟨fun id p hp howed ↦ ?_, fun p k t ds _ howed hmove ↦ ?_,
    fun a ↦ (hs.recalls a).reason_of_failed, fun s' hstep ↦ hstep.onward⟩
  · have hid := id_of_find? hp
    have htake : s.table.take id = (some p, (s.table.take id).2) := Prod.ext hp rfl
    rw [expire, htake]
    dsimp only
    rw [herror (s.table.take id).2 p hs.names_eq.1 hs.names_eq.2 rfl howed, hid]
  · cases hmove
    rw [herror _ p hs.names_eq.1 hs.names_eq.2 rfl howed]

/-- A request of which two failures overlap, with a write noted between their steps. -/
theorem expire_names_cause_overlapping :
    ∃ s, Relation.ReflTransGen Step (start "connection" "peer") s ∧
      s.table.expire 7 =
        (some (Completion.fail ⟨.decoded, 0⟩ (.connectFailed "peer" "reset")),
          (s.table.take 7).2) := by
  have h₁ := Relation.ReflTransGen.single (Step.request 7 .decoded 50 (start "connection" "peer"))
  have h₂ := h₁.tail (.move 0 rfl nofun (.insert 7 ⟨.decoded, 0⟩ 50 _))
  have h₃ := h₂.tail (.note 0 "reset" (by decide))
  have h₄ := h₃.tail (.note 0 "broken pipe" (by decide))
  have h₅ := h₄.tail (.store 2 rfl)
  have h₆ := h₅.tail (.written 0 (by decide))
  have h₇ := h₆.tail (.store 1 rfl)
  exact ⟨_, h₇, (expire_names_cause h₇).1 7 ⟨7, ⟨.decoded, 0⟩, 50, none⟩ rfl (by decide)⟩

end Marking

end PendingTable

end RpcTransport
