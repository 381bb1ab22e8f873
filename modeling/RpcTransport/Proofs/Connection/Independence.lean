import RpcTransport.Proofs.Connection.Stories

/-!
# Requests do not interfere

In a run whose submissions have distinct ids every request goes through its story as if it were
alone. So it is told one thing at most; if this is what a response says, then that response was the
first that came for it while it was pending; and to leave out of the run what is foreign to it
leaves what it is told as it is.
-/

namespace RpcTransport

namespace Conversation

variable {c₀ : Connection} {s : Conversation} {st : Story} {x : UInt64} {handler : Bool}

theorem submitted_apply (handler : Bool) (s : Conversation) (e : Event) :
    (s.apply handler e).submitted = s.submitted ++ e.submitted?.toList := by
  cases e with
  | submit => rfl
  | _ => exact (List.append_nil _).symm

/-- The ids of a run that goes on are those it had, and the new ones. -/
theorem submitted_append (handler : Bool) (s : Conversation) (e : Event) (es : List Event) :
    (s.apply handler e).submitted ++ es.filterMap Event.submitted? =
      s.submitted ++ (e :: es).filterMap Event.submitted? := by
  rw [submitted_apply, List.append_assoc, List.filterMap_cons]
  cases e.submitted? with
  | none => rfl
  | some id => rfl

theorem submitted_run (handler : Bool) (s : Conversation) (es : List Event) :
    (s.run handler es).submitted = s.submitted ++ es.filterMap Event.submitted? := by
  induction es generalizing s with
  | nil => exact (List.append_nil _).symm
  | cons e es ih => exact (ih (s.apply handler e)).trans (submitted_append handler s e es)

theorem new_of_nodup {e : Event} {es : List Event}
    (hids : (s.submitted ++ (e :: es).filterMap Event.submitted?).Nodup) (id : UInt64)
    (hid : e.submitted? = some id) : id ∉ s.submitted := by
  intro hmem
  rw [List.nodup_append] at hids
  refine hids.2.2 id hmem id ?_ rfl
  rw [List.filterMap_cons, hid]
  exact List.mem_cons_self

/-- An event that submits nothing submits no id again. -/
theorem new_of_none {e : Event} (he : e.submitted? = none) (id : UInt64)
    (hid : e.submitted? = some id) : id ∉ s.submitted := by
  rw [he] at hid
  cases hid

theorem Tracks.run (h : Tracks c₀ x s st) (handler : Bool) {es : List Event}
    (hids : (s.submitted ++ es.filterMap Event.submitted?).Nodup) :
    Tracks c₀ x (s.run handler es) (es.foldl (Story.next c₀ x) st) := by
  induction es generalizing s st with
  | nil => exact h
  | cons e es ih =>
    refine ih (h.apply handler e (new_of_nodup hids)) ?_
    rw [submitted_append]
    exact hids

/-! ## Outcomes stay -/

theorem Tracks.told_of_settled (h : Tracks c₀ x s st) {r : Resolution}
    (hr : st.fate = .settled r) : s.told x = [r] := by
  have htold := h.told_eq
  rwa [hr] at htold

/-- Who was told something is told nothing else. -/
theorem Tracks.settled_next (h : Tracks c₀ x s st) {r : Resolution} (hr : st.fate = .settled r)
    {e : Event} (hnew : ∀ id, e.submitted? = some id → id ∉ s.submitted) :
    (st.next c₀ x e).fate = .settled r := by
  have hx : x ∈ s.submitted := by
    have hat := h.at_fate
    rw [hr] at hat
    exact hat.1
  have hsettle (resolution : CompletionKind → Nat → WriteState → Resolution) :
      st.fate.settle resolution = .settled r := by
    rw [hr]
    rfl
  cases e with
  | submit id kind body timeout =>
    -- An id is not submitted twice, or the request would be unborn again.
    have hid : id ≠ x := fun heq ↦ hnew id rfl (heq ▸ hx)
    rw [Story.next, if_neg hid]
    exact hr
  | frame | deadline | writeFailed =>
    rw [Story.next]
    split
    · exact hsettle _
    · exact hr
  | written =>
    rw [Story.next]
    split
    · rw [hr]
      rfl
    · exact hr
  | teardown => exact hsettle _
  | _ => exact hr

theorem Tracks.settled_run (h : Tracks c₀ x s st) {r : Resolution} (hr : st.fate = .settled r)
    {es : List Event} (hids : (s.submitted ++ es.filterMap Event.submitted?).Nodup) :
    (s.run handler es).told x = [r] := by
  induction es generalizing s st with
  | nil => exact h.told_of_settled hr
  | cons e es ih =>
    have hnew := new_of_nodup hids
    refine ih (h.apply handler e hnew) (h.settled_next hr hnew) ?_
    rw [submitted_append]
    exact hids

/-! ## Frames -/

/-- A response to a pending request is what it is told. -/
theorem Tracks.answered (h : Tracks c₀ x s st) {f : Frame} (hf : f.answers x = true) {p : Pending}
    (hp : s.connection.table.find? x = some p) :
    s.told x = [] ∧ (st.next c₀ x (.frame f)).fate =
      .settled (p.completion.kind.answer c₀.dispatcher.registry f) := by
  obtain ⟨closed, fate⟩ := st
  cases fate with
  | unborn =>
    have hx : x ∈ s.submitted := by
      have hget := h.coherent.entries p (List.mem_of_find?_eq_some hp)
      rw [PendingTable.id_of_find? hp] at hget
      exact List.mem_of_getElem? hget
    exact absurd hx h.at_fate
  | settled r => exact nomatch hp.symm.trans h.at_fate.2.2
  | pending kind timeout write =>
    obtain ⟨-, hnil, -, timer, hfound⟩ := h.at_fate
    obtain rfl := Option.some.inj (hp.symm.trans hfound)
    refine ⟨hnil, ?_⟩
    rw [Story.next, if_pos hf]
    rfl

/-- A frame that is not a response to a request, or comes when the request is not pending, is of no
account to it. -/
theorem Tracks.unanswered (h : Tracks c₀ x s st) {f : Frame}
    (hf : f.answers x = false ∨ s.connection.table.contains x = false) :
    st.next c₀ x (.frame f) = st := by
  rw [Story.next]
  split
  · next hanswers =>
    rcases hf with hf | hf
    · exact absurd hanswers (Bool.eq_false_iff.mp hf)
    · rw [h.settle_eq (PendingTable.find?_eq_none hf)]
  · rfl

/-! ## Foreign events -/

/-- What is foreign to a request is not in its story. -/
theorem Tracks.next_of_foreign (h : Tracks c₀ x s st) {e : Event}
    (he : e.isForeign x s.connection = true) : st.next c₀ x e = st := by
  cases e with
  | submit id | deadline id | written id | writeFailed id =>
    have hid : id ≠ x := bne_iff_ne.mp he
    rw [Story.next, if_neg hid]
  | frame f =>
    refine h.unanswered (or_iff_not_imp_left.mpr fun hanswers ↦ ?_)
    simp only [Frame.answers, Bool.not_eq_false, Bool.and_eq_true, Bool.not_eq_true',
      beq_iff_eq] at hanswers
    obtain ⟨⟨hheartbeat, hrequest⟩, rfl⟩ := hanswers
    simpa [Event.isForeign, hheartbeat, hrequest] using he
  | idle | probeWritten => rfl
  | _ => cases he

theorem sublist_only (handler : Bool) (x : UInt64) (s : Conversation) (es : List Event) :
    (s.only handler x es).Sublist es := by
  induction es generalizing s with
  | nil => exact .refl _
  | cons e es ih =>
    rw [only]
    split
    · exact (ih _).cons e
    · exact (ih _).cons_cons e

/-- **Without the foreign events the story is the same.** -/
theorem Tracks.foldl_only (h : Tracks c₀ x s st) {es : List Event}
    (hids : (s.submitted ++ es.filterMap Event.submitted?).Nodup) :
    (s.only handler x es).foldl (Story.next c₀ x) st = es.foldl (Story.next c₀ x) st := by
  induction es generalizing s st with
  | nil => rfl
  | cons e es ih =>
    have hnext := h.apply handler e (new_of_nodup hids)
    have hids' : ((s.apply handler e).submitted ++ es.filterMap Event.submitted?).Nodup := by
      rw [submitted_append]
      exact hids
    rw [only]
    split
    · next he =>
      rw [List.foldl_cons, ← ih hnext hids', h.next_of_foreign he]
    · exact ih hnext hids'

/-! ## All requests -/

/-- Every request goes through its story. -/
def Followed (c₀ : Connection) (s : Conversation) : Prop :=
  ∀ x, ∃ st, Tracks c₀ x s st

theorem Followed.coherent (h : Followed c₀ s) : s.Coherent c₀ :=
  let ⟨_, htracks⟩ := h 0
  htracks.coherent

theorem Followed.keeps {c : Connection} (h : Followed c₀ s) (hc : Connection.Keeps s.connection c) :
    Followed c₀ (s.withConnection c) := by
  intro x
  obtain ⟨st, htracks⟩ := h x
  exact ⟨st, htracks.keeps hc⟩

/-- A request that was submitted and is not pending is settled. -/
theorem Tracks.settled_of_find? (h : Tracks c₀ x s st) (hx : x ∈ s.submitted)
    (hnone : s.connection.table.find? x = none) : ∃ r, st.fate = .settled r := by
  obtain ⟨closed, fate⟩ := st
  cases fate with
  | unborn => exact absurd hx h.at_fate
  | pending =>
    obtain ⟨-, -, -, timer, hfound⟩ := h.at_fate
    exact nomatch hfound.symm.trans hnone
  | settled r => exact ⟨r, rfl⟩

/-- A request that has an entry is pending. -/
theorem Tracks.pending_of_find? (h : Tracks c₀ x s st) {p : Pending}
    (hp : s.connection.table.find? x = some p) :
    ∃ kind timeout write, st.fate = .pending kind timeout write := by
  obtain ⟨closed, fate⟩ := st
  cases fate with
  | unborn =>
    have hget := h.coherent.entries p (List.mem_of_find?_eq_some hp)
    rw [PendingTable.id_of_find? hp] at hget
    exact absurd (List.mem_of_getElem? hget) h.at_fate
  | settled r => exact nomatch hp.symm.trans h.at_fate.2.2
  | pending kind timeout write => exact ⟨kind, timeout, write, rfl⟩

/-- A request that is settled goes through no other story. -/
theorem Tracks.fate_of_settled (h : Tracks c₀ x s st) {r : Resolution}
    (hat : s.At x (.settled r)) : st.fate = .settled r := by
  obtain ⟨hx, htold, hnone⟩ := hat
  obtain ⟨r', hr'⟩ := h.settled_of_find? hx hnone
  obtain rfl : r' = r := by simpa using (h.told_of_settled hr').symm.trans htold
  exact hr'

theorem Followed.told (h : Followed c₀ s) (hx : x ∈ s.submitted)
    (hnone : s.connection.table.find? x = none) : ∃ r, s.told x = [r] := by
  obtain ⟨st, htracks⟩ := h x
  obtain ⟨r, hr⟩ := htracks.settled_of_find? hx hnone
  exact ⟨r, htracks.told_of_settled hr⟩

/-- **An outcome is kept.** -/
theorem Followed.settled_apply (h : Followed c₀ s) (handler : Bool) {e : Event} {r : Resolution}
    (hnew : ∀ id, e.submitted? = some id → id ∉ s.submitted) (hat : s.At x (.settled r)) :
    (s.apply handler e).At x (.settled r) := by
  obtain ⟨st, htracks⟩ := h x
  have hnext := (htracks.apply handler e hnew).at_fate
  rwa [htracks.settled_next (htracks.fate_of_settled hat) hnew] at hnext

theorem Followed.apply (h : Followed c₀ s) (handler : Bool) {e : Event}
    (hnew : ∀ id, e.submitted? = some id → id ∉ s.submitted) :
    Followed c₀ (s.apply handler e) := by
  intro x
  obtain ⟨st, htracks⟩ := h x
  exact ⟨_, htracks.apply handler e hnew⟩

/-- What is not pending does not come back. -/
theorem Followed.find?_apply (h : Followed c₀ s) (handler : Bool) {e : Event}
    (hnew : ∀ id, e.submitted? = some id → id ∉ s.submitted) (hx : x ∈ s.submitted)
    (hnone : s.connection.table.find? x = none) :
    (s.apply handler e).connection.table.find? x = none := by
  obtain ⟨r, htold⟩ := h.told hx hnone
  exact (h.settled_apply handler hnew ⟨hx, htold, hnone⟩).2.2

/-! ## Independence -/

section Start

variable (info : ConnectionInfo) (config : ConnectionConfig) (registry decoders : Registry)
  (processors : Nat) (dispatch : DispatchConfig)

/-- On a new connection no request was submitted. -/
theorem tracks_start (x : UInt64) :
    Tracks (start info config registry decoders processors dispatch).connection x
      (start info config registry decoders processors dispatch) .start where
  coherent := by
    refine ⟨rfl, ?_, ?_, fun _ ↦ rfl, nofun, fun _ ↦ rfl, rfl⟩
    · intro p hp
      exact nomatch hp
    · intro d hd
      exact nomatch hd
  closed_eq := rfl
  reason_eq := rfl
  at_fate := List.not_mem_nil

/-- **Requests do not interfere.** In every run of a connection whose submissions have distinct ids:
a request is told one thing at most; a response frame that comes for it while it is pending, and is
therefore the first that does, is what it is told, by its own status, serialization and body; no
other frame tells it anything; and if all that is foreign to it is left out of the run, it is told
the same. -/
theorem requests_independent (handler : Bool) {es : List Event}
    (hids : (es.filterMap Event.submitted?).Nodup) (x : UInt64) :
    let s := start info config registry decoders processors dispatch
    ((s.run handler es).told x).length ≤ 1 ∧
    (∀ before f after, es = before ++ .frame f :: after →
      let t := s.run handler before
      let t' := t.apply handler (.frame f)
      (∀ p, f.answers x = true → t.connection.table.find? x = some p →
        t.told x = [] ∧ t'.told x = [p.completion.kind.answer decoders f] ∧
          (s.run handler es).told x = [p.completion.kind.answer decoders f]) ∧
      (f.answers x = false ∨ t.connection.table.contains x = false → t'.told x = t.told x)) ∧
    (s.run handler (s.only handler x es)).told x = (s.run handler es).told x := by
  intro s
  have hstart := tracks_start info config registry decoders processors dispatch x
  have hids₀ : (s.submitted ++ es.filterMap Event.submitted?).Nodup := hids
  have hrun := hstart.run handler hids₀
  refine ⟨?_, ?_, ?_⟩
  · rw [hrun.told_eq]
    split
    · exact Nat.le_refl _
    · exact Nat.zero_le _
  · rintro before f after rfl
    intro t t'
    have hids' : (t'.submitted ++ after.filterMap Event.submitted?).Nodup := by
      rw [submitted_append, submitted_run, List.append_assoc, ← List.filterMap_append]
      exact hids₀
    have hat : Tracks s.connection x t (before.foldl (Story.next s.connection x) .start) :=
      hstart.run handler (hids₀.sublist (List.Sublist.append_left
        ((List.sublist_append_left before _).filterMap Event.submitted?) _))
    have hnext := hat.frame handler f
    have hend : s.run handler (before ++ .frame f :: after) = t'.run handler after :=
      List.foldl_append
    refine ⟨?_, ?_⟩
    · intro p hanswers hp
      obtain ⟨hnil, hsettled⟩ := hat.answered hanswers hp
      refine ⟨hnil, hnext.told_of_settled hsettled, ?_⟩
      rw [hend]
      exact hnext.settled_run hsettled hids'
    · intro hno
      rw [hat.unanswered hno] at hnext
      exact hnext.told_eq.trans hat.told_eq.symm
  · -- Both runs go through the same story.
    have hsublist := (sublist_only handler x s es).filterMap Event.submitted?
    have honly := hstart.run handler (hids₀.sublist hsublist)
    rw [honly.told_eq, hrun.told_eq, hstart.foldl_only hids₀]

end Start

/-- Requests 7 and 9 are open at once. The response to 9, a heartbeat, a second response and the
deadline after it are of no account to 7. -/
theorem requests_independent_crossed :
    let s := start ⟨"connection", "peer", .client, 1⟩ .standard .standard .standard 1 .standard
    let before : List Event := [.submit 7 .raw [1] none, .submit 9 .decoded [2] none, .written 9,
      .frame (.response 9 2 .ok (.detached [3])), .frame (.heartbeatResponse 7 2 (.detached []))]
    let f : Frame := .response 7 2 .ok (.detached [4])
    let after : List Event := [.frame (.response 7 2 .ok (.detached [5])), .deadline 7]
    let es := before ++ .frame f :: after
    (es.filterMap Event.submitted?).Nodup ∧ f.answers 7 = true ∧
      (s.run true before).connection.table.contains 7 = true ∧
      (s.run true es).told 7 = [.raw ⟨7, .ok, 2, .detached [4]⟩] ∧
      (s.run true (s.only true 7 es)).told 7 = [.raw ⟨7, .ok, 2, .detached [4]⟩] := by
  intro s before f after es
  have hids : (es.filterMap Event.submitted?).Nodup := by decide
  have hpending : (s.run true before).connection.table.find? 7 =
      some ⟨7, ⟨.raw, 0⟩, 3000, some 1⟩ := by decide +kernel
  have hcontains : (s.run true before).connection.table.contains 7 = true := by decide +kernel
  obtain ⟨-, hframes, hsame⟩ := requests_independent _ _ _ _ _ _ true hids 7
  obtain ⟨-, -, htold⟩ := (hframes before f after rfl).1 _ rfl hpending
  exact ⟨hids, rfl, hcontains, htold, hsame.trans htold⟩

end Conversation

end RpcTransport
