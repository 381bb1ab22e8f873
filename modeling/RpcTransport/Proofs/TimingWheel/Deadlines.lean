import RpcTransport.Proofs.TimingWheel.History

/-!
# Deadlines are kept

Every expiry is a rightful one, and where the wheel has nothing to do and has not broken, whatever
was due has fired (`System.Sound.kept`).

## The invariant

Commands are numbered: a token is given once, so the wheel takes a deadline on only once
(`Numbered`). A token that is armed was taken on, for the due time that stands in the agenda, and
has neither expired nor been cancelled; what has expired was due before all that is in the agenda
(`Traced`). Unless the wheel is broken, a token that it knows has expired, or was cancelled before
that, or is armed (`Accounted`).
-/

namespace RpcTransport.TimingWheel

variable {τ : Type} {w w' : TimingWheel τ} {log : Log τ} {x : Incident τ}

/-! ## Commands -/

def Command.issued? : Command τ → Option Nat
  | .schedule token _ _ _ => some token
  | .cancel _ => none

/-- Commands are taken in the order in which they were sent, and a token is given once. -/
structure Numbered (w : TimingWheel τ) (log : Log τ) : Prop where
  commands : log.filterMap Incident.sent? = log.filterMap Incident.taken? ++ w.commands
  issued : ((log.filterMap Incident.sent?).filterMap Command.issued?).Nodup
  issued_lt : ∀ token ∈ (log.filterMap Incident.sent?).filterMap Command.issued?,
    token < w.nextToken
  asked_le : ∀ token target id delay since, .asked token target id delay since ∈ log →
    since ≤ w.now
  taken_asked : ∀ token target id delay instant,
    .took (.schedule token target id delay) instant ∈ log →
    ∃ asked since, .asked token target id asked since ∈ log ∧ delay = Clock.clamp asked ∧
      since ≤ instant

theorem numbered_start : Numbered (start : TimingWheel τ) [] := by
  refine ⟨rfl, List.nodup_nil, ?_, ?_, ?_⟩
  · exact List.forall_mem_nil _
  · intro token target id delay since h
    exact absurd h List.not_mem_nil
  · intro token target id delay instant h
    exact absurd h List.not_mem_nil

/-- A command that waits was asked for. -/
theorem Numbered.asked_of_mem (h : Numbered w log) {token : Nat} {target : τ} {id : UInt64}
    {delay : Nat} (hmem : .schedule token target id delay ∈ w.commands) :
    ∃ asked since, .asked token target id asked since ∈ log ∧ delay = Clock.clamp asked ∧
      since ≤ w.now := by
  have hsent : .schedule token target id delay ∈ log.filterMap Incident.sent? :=
    h.commands ▸ List.mem_append_right _ hmem
  obtain ⟨y, hy, hsome⟩ := List.mem_filterMap.mp hsent
  cases y with
  | asked token' target' id' asked since =>
    simp only [Incident.sent?, Option.some.injEq, Command.schedule.injEq] at hsome
    obtain ⟨rfl, rfl, rfl, rfl⟩ := hsome
    exact ⟨asked, since, hy, rfl, h.asked_le _ _ _ _ _ hy⟩
  | withdrawn => simp [Incident.sent?] at hsome
  | dropped | stopped | took | expired => exact nomatch hsome

/-- **A token is not known before its command is taken.** -/
theorem Numbered.not_known (h : Numbered w log) {token : Nat} {target : τ} {id : UInt64}
    {delay : Nat} (hmem : .schedule token target id delay ∈ w.commands) : ¬ Known log token := by
  rintro ⟨target', id', due, delay', instant, htook, -⟩
  have hissued := h.issued
  rw [h.commands, List.filterMap_append] at hissued
  refine (List.nodup_append.mp hissued).2.2 token ?_ token ?_ rfl
  · refine List.mem_filterMap.mpr ⟨.schedule token target' id' delay', ?_, rfl⟩
    exact List.mem_filterMap.mpr ⟨_, htook, rfl⟩
  · exact List.mem_filterMap.mpr ⟨_, hmem, rfl⟩

/-- **One more incident**: what is sent comes last in line, and what is taken is first in line. -/
theorem Numbered.append (h : Numbered w log) (hnow : w'.now = w.now)
    (hcommands : w.commands ++ x.sent?.toList = x.taken?.toList ++ w'.commands)
    (hnext : w.nextToken ≤ w'.nextToken)
    (hissued : ∀ token ∈ x.sent?.bind Command.issued?,
      token = w.nextToken ∧ w.nextToken < w'.nextToken)
    (hasked : ∀ token target id delay since, x = .asked token target id delay since →
      since = w.now)
    (htook : ∀ c instant, x = .took c instant → instant = w.now) :
    Numbered w' (log ++ [x]) := by
  have hsplit : ∀ (f : Incident τ → Option (Command τ)),
      (log ++ [x]).filterMap f = log.filterMap f ++ (f x).toList := by
    intro f
    rw [List.filterMap_append]
    cases hx : f x <;> simp [hx]
  have htokens : ((log ++ [x]).filterMap Incident.sent?).filterMap Command.issued? =
      (log.filterMap Incident.sent?).filterMap Command.issued? ++
        (x.sent?.bind Command.issued?).toList := by
    rw [hsplit, List.filterMap_append]
    cases x.sent? with
    | none => rfl
    | some c => cases c <;> rfl
  refine ⟨?_, ?_, ?_, ?_, ?_⟩
  · rw [hsplit, hsplit, h.commands, List.append_assoc, hcommands, List.append_assoc]
  · rw [htokens]
    refine List.nodup_append.mpr ⟨h.issued, Option.toList_nodup _, ?_⟩
    rintro token hold _ hnew rfl
    have heq := (hissued token (Option.mem_toList.mp hnew)).1
    exact Nat.lt_irrefl _ (heq ▸ h.issued_lt token hold)
  · rw [htokens]
    intro token hmem
    rcases List.mem_append.mp hmem with hold | hnew
    · exact Nat.lt_of_lt_of_le (h.issued_lt token hold) hnext
    · obtain ⟨rfl, hlt⟩ := hissued token (Option.mem_toList.mp hnew)
      exact hlt
  · intro token target id delay since hmem
    rw [hnow]
    rcases List.mem_append.mp hmem with hold | hnew
    · exact h.asked_le token target id delay since hold
    · exact Nat.le_of_eq (hasked token target id delay since (List.mem_singleton.mp hnew).symm)
  · intro token target id delay instant hmem
    rcases List.mem_append.mp hmem with hold | hnew
    · obtain ⟨asked, since, hcall, hrest⟩ := h.taken_asked token target id delay instant hold
      exact ⟨asked, since, List.mem_append_left _ hcall, hrest⟩
    · obtain rfl := List.mem_singleton.mp hnew
      have hfirst : w.commands = .schedule token target id delay :: w'.commands := by
        simpa [Incident.sent?, Incident.taken?] using hcommands
      obtain ⟨asked, since, hcall, hdelay, hle⟩ := h.asked_of_mem (hfirst ▸ List.mem_cons_self)
      exact ⟨asked, since, List.mem_append_left _ hcall, hdelay, htook _ _ rfl ▸ hle⟩

theorem Numbered.later (h : Numbered w log) (hcommands : w'.commands = w.commands)
    (hnext : w'.nextToken = w.nextToken) (hnow : w.now ≤ w'.now) : Numbered w' log where
  commands := hcommands ▸ h.commands
  issued := h.issued
  issued_lt := hnext ▸ h.issued_lt
  asked_le := fun token target id delay since hmem ↦
    Nat.le_trans (h.asked_le token target id delay since hmem) hnow
  taken_asked := h.taken_asked

/-! ## Armed tokens and expiries -/

/-- What the log says of the tokens that are armed and of those that have expired. -/
structure Traced (w : TimingWheel τ) (log : Log τ) : Prop where
  armed : ∀ e ∈ w.armed, ∀ q ∈ w.agenda.queue, q.token = e.token →
    Scheduled log e.token e.target e.id q.due
  waiting : ∀ e ∈ w.armed, ¬ Expired log e.token ∧ ¬ Cancelled log e.token
  unique : ∀ token target id due target' id' due', Scheduled log token target id due →
    Scheduled log token target' id' due' → target = target' ∧ id = id' ∧ due = due'
  passed : ∀ token, Expired log token → ∃ target id due, Scheduled log token target id due ∧
    due ≤ w.now ∧ ∀ q ∈ w.agenda.queue, due ≤ q.due
  rightful : Rightful log

/-- Unless the wheel is broken, it has lost no token. -/
def Accounted (w : TimingWheel τ) (log : Log τ) : Prop :=
  w.broken = false → ∀ token, Known log token →
    Expired log token ∨ Revoked log token ∨ token ∈ w.armed.map (·.token)

theorem traced_start : Traced (start : TimingWheel τ) [] := by
  refine ⟨?_, ?_, ?_, ?_, ?_⟩
  · exact List.forall_mem_nil _
  · exact List.forall_mem_nil _
  · rintro token target id due _ _ _ ⟨delay, instant, hmem, -⟩
    exact absurd hmem List.not_mem_nil
  · rintro token ⟨instant, fired, hmem⟩
    exact absurd hmem List.not_mem_nil
  · intro before token instant fired after heq
    exact absurd heq.symm (List.append_ne_nil_of_right_ne_nil _ (List.cons_ne_nil _ _))

theorem accounted_start : Accounted (start : TimingWheel τ) [] := by
  rintro - token ⟨target, id, due, delay, instant, hmem, -⟩
  exact absurd hmem List.not_mem_nil

theorem Traced.not_mem_armed (h : Traced w log) (hpaired : w.Paired) {token : Nat}
    (hfresh : ¬ Known log token) {e : Armed τ} (he : e ∈ w.armed) : e.token ≠ token := by
  rintro rfl
  obtain ⟨q, hq, htoken, -⟩ := hpaired.mem_queue he
  exact hfresh (h.armed e he q hq htoken).known

theorem Traced.later (h : Traced w log) (harmed : w'.armed = w.armed)
    (hqueue : w'.agenda.queue = w.agenda.queue) (hnow : w.now ≤ w'.now) : Traced w' log where
  armed := harmed ▸ hqueue ▸ h.armed
  waiting := harmed ▸ h.waiting
  unique := h.unique
  passed := by
    intro token hexpired
    obtain ⟨target, id, due, hscheduled, hdue, hfirst⟩ := h.passed token hexpired
    exact ⟨target, id, due, hscheduled, Nat.le_trans hdue hnow, hqueue ▸ hfirst⟩
  rightful := h.rightful

/-- An incident that changes nothing about any token. -/
def Incident.Quiet (x : Incident τ) : Prop :=
  (∀ c instant, x ≠ .took c instant) ∧ ∀ token instant fired, x ≠ .expired token instant fired

theorem Incident.Quiet.scheduled_append (hx : x.Quiet) {token : Nat} {target : τ} {id : UInt64}
    {due : Nat} :
    Scheduled (log ++ [x]) token target id due ↔ Scheduled log token target id due := by
  rw [TimingWheel.scheduled_append]
  exact or_iff_left fun ⟨_, _, heq, _⟩ ↦ hx.1 _ _ heq

theorem Incident.Quiet.expired_append (hx : x.Quiet) {token : Nat} :
    Expired (log ++ [x]) token ↔ Expired log token := by
  rw [TimingWheel.expired_append]
  exact or_iff_left fun ⟨_, _, heq⟩ ↦ hx.2 _ _ _ heq

theorem Incident.Quiet.cancelled_append (hx : x.Quiet) {token : Nat} :
    Cancelled (log ++ [x]) token ↔ Cancelled log token := by
  rw [Cancelled, happened_append]
  exact or_iff_left fun ⟨⟨_, heq⟩, _⟩ ↦ hx.1 _ _ heq

theorem Traced.quiet (h : Traced w log) (hx : x.Quiet) : Traced w (log ++ [x]) where
  armed := fun e he q hq htoken ↦ hx.scheduled_append.mpr (h.armed e he q hq htoken)
  waiting := by
    simpa only [hx.expired_append, hx.cancelled_append] using h.waiting
  unique := by
    simpa only [hx.scheduled_append] using h.unique
  passed := by
    simpa only [hx.scheduled_append, hx.expired_append] using h.passed
  rightful := rightful_append h.rightful fun token instant fired heq ↦
    absurd heq (hx.2 token instant fired)

theorem Accounted.quiet (h : Accounted w log) (hx : x.Quiet) : Accounted w (log ++ [x]) := by
  rintro hbroken token ⟨target, id, due, hscheduled⟩
  rcases h hbroken token (hx.scheduled_append.mp hscheduled).known with hexpired | hrevoked | harmed
  · exact .inl (hx.expired_append.mpr hexpired)
  · exact .inr (.inl (happened_append.mpr (.inl hrevoked)))
  · exact .inr (.inr harmed)

/-! ### Taking a command -/

theorem expired_took {c : Command τ} {instant token : Nat} :
    Expired (log ++ [.took c instant]) token ↔ Expired log token := by
  simp [expired_append]

theorem cancelled_took_schedule {token' : Nat} {target : τ} {id : UInt64} {delay instant : Nat}
    {token : Nat} :
    Cancelled (log ++ [.took (.schedule token' target id delay) instant]) token ↔
      Cancelled log token := by
  rw [Cancelled, happened_append]
  simp [Cancelled]

theorem cancelled_took_cancel {token' instant token : Nat} :
    Cancelled (log ++ [.took (.cancel token') instant]) token ↔
      Cancelled log token ∨ (token' = token ∧ Known log token) := by
  rw [Cancelled, happened_append]
  simp [Cancelled]

theorem scheduled_took_cancel {token' instant token : Nat} {target : τ} {id : UInt64} {due : Nat} :
    Scheduled (log ++ [.took (.cancel token') instant]) token target id due ↔
      Scheduled log token target id due := by
  simp [scheduled_append]

/-- **A deadline is taken on**, or it is lost: what is armed then was armed before, or is the new
one. -/
theorem Traced.schedule (h : Traced w log) (hpaired : w.Paired) {token : Nat} (target : τ)
    (id : UInt64) (delay : Nat) (hfresh : ¬ Known log token) (hnow : w'.now = w.now)
    (harmed : ∀ e ∈ w'.armed, e ∈ w.armed ∨ e.token = token ∧ e.target = target ∧ e.id = id)
    (hqueue : ∀ q ∈ w'.agenda.queue, q ∈ w.agenda.queue ∨ q.token = token ∧
      q.due = w.now + delay) :
    Traced w' (log ++ [.took (.schedule token target id delay) w.now]) := by
  have hnew : Scheduled (log ++ [.took (.schedule token target id delay) w.now]) token target id
      (w.now + delay) := scheduled_append.mpr (.inr ⟨delay, w.now, rfl, rfl⟩)
  have hpassed : ∀ token', Expired log token' → Known log token' := by
    intro token' hexpired
    obtain ⟨target', id', due, hscheduled, -⟩ := h.passed token' hexpired
    exact hscheduled.known
  refine ⟨?_, ?_, ?_, ?_, ?_⟩
  · intro e he q hq htoken
    rcases harmed e he with he | ⟨rfl, rfl, rfl⟩
    · have hne := h.not_mem_armed hpaired hfresh he
      rcases hqueue q hq with hq | ⟨rfl, -⟩
      · exact (h.armed e he q hq htoken).mono _
      · exact absurd htoken.symm hne
    · rcases hqueue q hq with hq | ⟨-, hdue⟩
      · obtain ⟨e', he', heq, -⟩ := hpaired.mem_armed hq
        exact absurd (heq.trans htoken) (h.not_mem_armed hpaired hfresh he')
      · exact hdue ▸ hnew
  · intro e he
    rw [expired_took, cancelled_took_schedule]
    rcases harmed e he with he | ⟨rfl, -⟩
    · exact h.waiting e he
    · exact ⟨fun hexpired ↦ hfresh (hpassed _ hexpired), fun hcancelled ↦ hfresh hcancelled.known⟩
  · intro token' t i d t' i' d' h₁ h₂
    rcases scheduled_append.mp h₁ with h₁ | ⟨_, _, heq₁, rfl⟩ <;>
      rcases scheduled_append.mp h₂ with h₂ | ⟨_, _, heq₂, rfl⟩
    · exact h.unique token' t i d t' i' d' h₁ h₂
    · cases heq₂
      exact absurd h₁.known hfresh
    · cases heq₁
      exact absurd h₂.known hfresh
    · cases heq₁
      cases heq₂
      exact ⟨rfl, rfl, rfl⟩
  · intro token' hexpired
    obtain ⟨target', id', due, hscheduled, hdue, hfirst⟩ :=
      h.passed token' (expired_took.mp hexpired)
    refine ⟨target', id', due, hscheduled.mono _, hnow ▸ hdue, fun q hq ↦ ?_⟩
    rcases hqueue q hq with hq | ⟨-, heq⟩
    · exact hfirst q hq
    · exact heq ▸ Nat.le_trans hdue (Nat.le_add_right _ _)
  · exact rightful_append h.rightful nofun

/-- **A deadline is cancelled**, or there was nothing to cancel. -/
theorem Traced.cancel (h : Traced w log) {token instant : Nat} (hnow : w'.now = w.now)
    (harmed : ∀ e ∈ w'.armed, e ∈ w.armed ∧ e.token ≠ token)
    (hqueue : ∀ q ∈ w'.agenda.queue, q ∈ w.agenda.queue) :
    Traced w' (log ++ [.took (.cancel token) instant]) := by
  refine ⟨?_, ?_, ?_, ?_, ?_⟩
  · intro e he q hq htoken
    exact (h.armed e (harmed e he).1 q (hqueue q hq) htoken).mono _
  · intro e he
    obtain ⟨hmem, hne⟩ := harmed e he
    obtain ⟨hexpired, hcancelled⟩ := h.waiting e hmem
    rw [expired_took, cancelled_took_cancel]
    exact ⟨hexpired, fun hor ↦ hor.elim hcancelled fun hnew ↦ hne hnew.1.symm⟩
  · simpa only [scheduled_took_cancel] using h.unique
  · intro token' hexpired
    obtain ⟨target, id, due, hscheduled, hdue, hfirst⟩ := h.passed token' (expired_took.mp hexpired)
    exact ⟨target, id, due, hscheduled.mono _, hnow ▸ hdue, fun q hq ↦ hfirst q (hqueue q hq)⟩
  · exact rightful_append h.rightful nofun

theorem Accounted.schedule (h : Accounted w log) {token : Nat} {target : τ} {id : UInt64}
    {delay instant : Nat} (hbroken : w'.broken = false → w.broken = false)
    (harmed : w'.broken = false → ∀ token', token' = token ∨ token' ∈ w.armed.map (·.token) →
      token' ∈ w'.armed.map (·.token)) :
    Accounted w' (log ++ [.took (.schedule token target id delay) instant]) := by
  rintro hb token' ⟨target', id', due, hscheduled⟩
  rcases scheduled_append.mp hscheduled with hold | ⟨_, _, heq, -⟩
  · rcases h (hbroken hb) token' hold.known with hexpired | hrevoked | hmem
    · exact .inl (expired_took.mpr hexpired)
    · exact .inr (.inl (happened_append.mpr (.inl hrevoked)))
    · exact .inr (.inr (harmed hb token' (.inr hmem)))
  · cases heq
    exact .inr (.inr (harmed hb _ (.inl rfl)))

theorem Accounted.cancel (h : Accounted w log) {token instant : Nat}
    (hbroken : w'.broken = w.broken)
    (harmed : ∀ token' ≠ token, token' ∈ w.armed.map (·.token) → token' ∈ w'.armed.map (·.token)) :
    Accounted w' (log ++ [.took (.cancel token) instant]) := by
  rintro hb token' ⟨target, id, due, hscheduled⟩
  have hknown := (scheduled_took_cancel.mp hscheduled).known
  rcases h (hbroken ▸ hb) token' hknown with hexpired | hrevoked | hmem
  · exact .inl (expired_took.mpr hexpired)
  · exact .inr (.inl (happened_append.mpr (.inl hrevoked)))
  · by_cases hexpired : Expired log token'
    · exact .inl (expired_took.mpr hexpired)
    by_cases hne : token' = token
    · exact .inr (.inl (happened_append.mpr (.inr ⟨⟨⟨instant, hne ▸ rfl⟩, hknown⟩, hexpired⟩)))
    · exact .inr (.inr (harmed token' hne hmem))

/-! ### Expiring -/

/-- A due time is not before the delay has passed since it was asked for. -/
theorem Numbered.elapsed (h : Numbered w log) {token : Nat} {target : τ} {id : UInt64} {due : Nat}
    (hscheduled : Scheduled log token target id due) :
    ∃ delay since, .asked token target id delay since ∈ log ∧
      since + min delay Clock.longestTimer ≤ due := by
  obtain ⟨delay, instant, htook, rfl⟩ := hscheduled
  obtain ⟨asked, since, hcall, rfl, hle⟩ := h.taken_asked token target id delay instant htook
  exact ⟨asked, since, hcall, Nat.add_le_add_right hle _⟩

theorem expired_expired {token' instant token : Nat} {fired : Option (τ × UInt64)} :
    Expired (log ++ [.expired token' instant fired]) token ↔
      Expired log token ∨ token' = token := by
  simp [expired_append]

theorem cancelled_expired {token' instant token : Nat} {fired : Option (τ × UInt64)} :
    Cancelled (log ++ [.expired token' instant fired]) token ↔ Cancelled log token := by
  rw [Cancelled, happened_append]
  simp [Cancelled]

theorem scheduled_expired {token' instant token : Nat} {fired : Option (τ × UInt64)} {target : τ}
    {id : UInt64} {due : Nat} :
    Scheduled (log ++ [.expired token' instant fired]) token target id due ↔
      Scheduled log token target id due := by
  simp [scheduled_append]

/-- **The first deadline expires**, and rightfully so. -/
theorem Traced.expire (h : Traced w log) (hnumbered : Numbered w log) {q : Queued}
    {agenda : Agenda} (hqueue : w.agenda.queue = q :: agenda.queue)
    (hsorted : ∀ p ∈ agenda.queue, q.due ≤ p.due) (hdue : q.due ≤ w.now) {e : Armed τ}
    (he : e ∈ w.armed) (htoken : e.token = q.token) (hstopped : .stopped ∉ log)
    {fired : Option (τ × UInt64)}
    (hfired : fired = some (e.target, e.id) ∧ .dropped e.target ∉ log ∨
      fired = none ∧ .dropped e.target ∈ log)
    (hnow : w'.now = w.now) (harmed : w'.armed = w.armed.filter (·.token ≠ q.token))
    (hrest : w'.agenda.queue = agenda.queue) :
    Traced w' (log ++ [.expired q.token w.now fired]) := by
  have hscheduled : Scheduled log q.token e.target e.id q.due :=
    htoken ▸ h.armed e he q (hqueue ▸ List.mem_cons_self) htoken.symm
  have hwaiting := htoken ▸ h.waiting e he
  obtain ⟨delay, since, hcall, hle⟩ := hnumbered.elapsed hscheduled
  have hexpiry : Expiry log q.token e.target e.id q.due w.now fired := by
    refine ⟨hscheduled, hdue, ⟨delay, since, hcall, Nat.le_trans hle hdue⟩, hwaiting.1, hwaiting.2,
      hstopped, ?_, hfired⟩
    intro earlier target' id' due' hexpired hscheduled'
    obtain ⟨t, i, d, hd, -, hfirst⟩ := h.passed earlier hexpired
    obtain ⟨-, -, rfl⟩ := h.unique earlier t i d target' id' due' hd hscheduled'
    exact hfirst q (hqueue ▸ List.mem_cons_self)
  refine ⟨?_, ?_, ?_, ?_, ?_⟩
  · intro e' he' p hp hp'
    have hmem := (List.mem_filter.mp (harmed ▸ he')).1
    exact (h.armed e' hmem p (hqueue ▸ List.mem_cons_of_mem _ (hrest ▸ hp)) hp').mono _
  · intro e' he'
    obtain ⟨hmem, hne⟩ := List.mem_filter.mp (harmed ▸ he')
    obtain ⟨hexpired, hcancelled⟩ := h.waiting e' hmem
    rw [expired_expired, cancelled_expired]
    exact ⟨fun hor ↦ hor.elim hexpired fun heq ↦ of_decide_eq_true hne heq.symm, hcancelled⟩
  · simpa only [scheduled_expired] using h.unique
  · intro token hexpired
    rcases expired_expired.mp hexpired with hold | rfl
    · obtain ⟨target, id, due, hd, hle', hfirst⟩ := h.passed token hold
      refine ⟨target, id, due, hd.mono _, hnow ▸ hle', fun p hp ↦ hfirst p ?_⟩
      exact hqueue ▸ List.mem_cons_of_mem _ (hrest ▸ hp)
    · exact ⟨e.target, e.id, q.due, hscheduled.mono _, hnow ▸ hdue, hrest ▸ hsorted⟩
  · refine rightful_append h.rightful fun token instant fired' heq ↦ ?_
    obtain ⟨rfl, rfl, rfl⟩ := Incident.expired.inj heq
    exact ⟨e.target, e.id, q.due, hexpiry⟩

theorem Accounted.expire (h : Accounted w log) {token instant : Nat}
    {fired : Option (τ × UInt64)} (hbroken : w'.broken = w.broken)
    (harmed : w'.armed = w.armed.filter (·.token ≠ token)) :
    Accounted w' (log ++ [.expired token instant fired]) := by
  rintro hb token' ⟨target, id, due, hscheduled⟩
  rcases h (hbroken ▸ hb) token' (scheduled_expired.mp hscheduled).known with
    hexpired | hrevoked | hmem
  · exact .inl (expired_expired.mpr (.inl hexpired))
  · exact .inr (.inl (happened_append.mpr (.inl hrevoked)))
  · by_cases hne : token = token'
    · exact .inl (expired_expired.mpr (.inr hne))
    · obtain ⟨e, he, rfl⟩ := List.mem_map.mp hmem
      refine .inr (.inr (List.mem_map.mpr ⟨e, ?_, rfl⟩))
      rw [harmed]
      exact List.mem_filter.mpr ⟨he, decide_eq_true (Ne.symm hne)⟩

/-! ## Steps of the system -/

namespace System

structure Sound (s : System τ) : Prop where
  paired : s.wheel.Paired
  numbered : Numbered s.wheel s.log
  traced : Traced s.wheel s.log
  accounted : Accounted s.wheel s.log
  alive_iff : ∀ target, s.alive target = false ↔ .dropped target ∈ s.log
  stopped_iff : s.wheel.stopped = true ↔ .stopped ∈ s.log
  reach_lt : s.wheel.broken = true → Agenda.reach < s.wheel.now + Clock.longestTimer

variable {s s' : System τ}

theorem sound_start [DecidableEq τ] : Sound (start : System τ) where
  paired := paired_start
  numbered := numbered_start
  traced := traced_start
  accounted := accounted_start
  alive_iff := fun target ↦ by simp [start]
  stopped_iff := by simp [start, TimingWheel.start]
  reach_lt := nofun

/-- What a caller does, or a target, is no news about any token. -/
theorem Sound.quiet (h : s.Sound) {w : TimingWheel τ} {alive : τ → Bool} {x : Incident τ}
    (hx : x.Quiet) (hpaired : w.Paired) (hnumbered : Numbered w (s.log ++ [x]))
    (harmed : w.armed = s.wheel.armed) (hagenda : w.agenda = s.wheel.agenda)
    (hnow : w.now = s.wheel.now) (hbroken : w.broken = s.wheel.broken)
    (halive : ∀ target, alive target = false ↔ .dropped target ∈ s.log ++ [x])
    (hstopped : w.stopped = true ↔ .stopped ∈ s.log ++ [x]) :
    Sound ⟨w, alive, s.log ++ [x]⟩ where
  paired := hpaired
  numbered := hnumbered
  traced := (h.traced.quiet hx).later harmed (congrArg _ hagenda) (Nat.le_of_eq hnow.symm)
  accounted := by
    rw [Accounted, harmed, hbroken]
    exact h.accounted.quiet hx
  alive_iff := halive
  stopped_iff := hstopped
  reach_lt := hnow ▸ hbroken ▸ h.reach_lt

theorem Sound.schedule (h : s.Sound) (target : τ) (id : UInt64) (delay : Nat) :
    Sound { s with
      wheel := (s.wheel.schedule target id delay).2
      log := s.log ++
        [.asked (s.wheel.schedule target id delay).1 target id delay s.wheel.now] } := by
  refine h.quiet ⟨nofun, nofun⟩ ⟨h.paired.pairs, h.paired.tokens, h.paired.keys, h.paired.key_lt,
    h.paired.ordered⟩ ?_ rfl rfl rfl rfl ?_ ?_
  · refine h.numbered.append rfl rfl (Nat.le_succ _) ?_ ?_ nofun
    · intro token hissued
      exact ⟨(Option.some.inj hissued).symm, Nat.lt_succ_self _⟩
    · rintro token target' id' delay' since heq
      obtain ⟨-, -, -, -, rfl⟩ := Incident.asked.inj heq
      rfl
  · simpa using h.alive_iff
  · simpa [TimingWheel.schedule] using h.stopped_iff

theorem Sound.cancel (h : s.Sound) (token : Nat) :
    Sound { s with wheel := s.wheel.cancel token, log := s.log ++ [.withdrawn token] } := by
  refine h.quiet ⟨nofun, nofun⟩ ⟨h.paired.pairs, h.paired.tokens, h.paired.keys, h.paired.key_lt,
    h.paired.ordered⟩ ?_ rfl rfl rfl rfl ?_ ?_
  · exact h.numbered.append rfl rfl (Nat.le_refl _) nofun nofun nofun
  · simpa using h.alive_iff
  · simpa [TimingWheel.cancel] using h.stopped_iff

theorem Sound.drop [DecidableEq τ] (h : s.Sound) (target : τ) :
    Sound { s with
      alive := Function.update s.alive target false
      log := s.log ++ [.dropped target] } := by
  refine h.quiet ⟨nofun, nofun⟩ h.paired ?_ rfl rfl rfl rfl ?_ ?_
  · exact h.numbered.append rfl (List.append_nil _) (Nat.le_refl _) nofun nofun nofun
  · intro target'
    by_cases heq : target' = target
    · simp [heq]
    · simpa [Function.update_of_ne heq, heq] using h.alive_iff target'
  · simpa using h.stopped_iff

theorem Sound.shutdown (h : s.Sound) :
    Sound { s with wheel := s.wheel.shutdown, log := s.log ++ [.stopped] } := by
  refine h.quiet ⟨nofun, nofun⟩ ⟨h.paired.pairs, h.paired.tokens, h.paired.keys, h.paired.key_lt,
    h.paired.ordered⟩ ?_ rfl rfl rfl rfl ?_ ?_
  · exact h.numbered.append rfl (List.append_nil _) (Nat.le_refl _) nofun nofun nofun
  · simpa using h.alive_iff
  · simp [TimingWheel.shutdown]

/-- Time passes, or slots are turned. -/
theorem Sound.later (h : s.Sound) {w : TimingWheel τ} (hpaired : w.Paired)
    (hcommands : w.commands = s.wheel.commands) (hnext : w.nextToken = s.wheel.nextToken)
    (harmed : w.armed = s.wheel.armed) (hqueue : w.agenda.queue = s.wheel.agenda.queue)
    (hnow : s.wheel.now ≤ w.now) (hstopped : w.stopped = s.wheel.stopped)
    (hbroken : w.broken = s.wheel.broken) : Sound { s with wheel := w } where
  paired := hpaired
  numbered := h.numbered.later hcommands hnext hnow
  traced := h.traced.later harmed hqueue hnow
  accounted := by
    rw [Accounted, harmed, hbroken]
    exact h.accounted
  alive_iff := h.alive_iff
  stopped_iff := hstopped ▸ h.stopped_iff
  reach_lt := fun hb ↦ Nat.lt_of_lt_of_le (h.reach_lt (hbroken ▸ hb)) (Nat.add_le_add_right hnow _)

/-- Turning the slots changes nothing but the agenda. -/
theorem catchUp_eq (w : TimingWheel τ) :
    ∃ agenda : Agenda, agenda.queue = w.agenda.queue ∧ w.catchUp = { w with agenda := agenda } := by
  rw [TimingWheel.catchUp]
  split
  · exact ⟨w.agenda, rfl, rfl⟩
  · exact ⟨w.agenda.turn w.now, w.agenda.queue_turn w.now, rfl⟩

theorem Sound.catchUp (h : s.Sound) : Sound { s with wheel := s.wheel.catchUp } := by
  have hpaired := h.paired.catchUp
  obtain ⟨agenda, hqueue, heq⟩ := catchUp_eq s.wheel
  rw [heq] at hpaired ⊢
  exact h.later hpaired rfl rfl rfl hqueue (Nat.le_refl _) rfl rfl

theorem Sound.advance (h : s.Sound) (instant : Nat) :
    Sound { s with wheel := s.wheel.advanceTo instant } := by
  have hpaired := h.paired.advanceTo instant
  rw [advanceTo] at hpaired ⊢
  obtain ⟨agenda, hqueue, heq⟩ := catchUp_eq { s.wheel with now := max s.wheel.now instant }
  rw [heq] at hpaired ⊢
  exact h.later hpaired rfl rfl rfl hqueue (Nat.le_max_left _ _) rfl rfl

/-! ### The wheel's own steps -/

/-- The wheel takes a command: what is left to show is what becomes of the deadlines. -/
theorem Sound.take (h : s.Sound) {c : Command τ} {w : TimingWheel τ}
    (hcommands : s.wheel.commands = c :: w.commands) (hnext : w.nextToken = s.wheel.nextToken)
    (hnow : w.now = s.wheel.now) (hstopped : w.stopped = s.wheel.stopped) (hpaired : w.Paired)
    (htraced : Traced w (s.log ++ [.took c s.wheel.now]))
    (haccounted : Accounted w (s.log ++ [.took c s.wheel.now]))
    (hreach : w.broken = true → Agenda.reach < s.wheel.now + Clock.longestTimer) :
    Sound { s with wheel := w, log := s.log ++ [.took c s.wheel.now] } where
  paired := hpaired
  numbered := by
    refine h.numbered.append hnow ?_ (Nat.le_of_eq hnext.symm) nofun nofun ?_
    · exact (List.append_nil _).trans hcommands
    · intro c' instant heq
      exact (Incident.took.inj heq).2.symm
  traced := htraced
  accounted := haccounted
  alive_iff := by simpa using h.alive_iff
  stopped_iff := by simpa [hstopped] using h.stopped_iff
  reach_lt := hnow ▸ hreach

theorem Sound.takeSchedule (h : s.Sound) {token : Nat} {target : τ} {id : UInt64} {delay : Nat}
    {rest : List (Command τ)}
    (hcommands : s.wheel.commands = .schedule token target id delay :: rest) :
    Sound { s with
      wheel := { s.wheel with commands := rest }.execute (.schedule token target id delay)
      log := s.log ++ [.took (.schedule token target id delay) s.wheel.now] } := by
  have hmem : .schedule token target id delay ∈ s.wheel.commands :=
    hcommands ▸ List.mem_cons_self
  have hfresh := h.numbered.not_known hmem
  have htoken : token ∉ s.wheel.armed.map (·.token) := by
    intro hin
    obtain ⟨e, he, heq⟩ := List.mem_map.mp hin
    exact h.traced.not_mem_armed h.paired hfresh he heq
  have hpaired : Paired { s.wheel with commands := rest } :=
    ⟨h.paired.pairs, h.paired.tokens, h.paired.keys, h.paired.key_lt, h.paired.ordered⟩
  rw [execute]
  split
  · next hbroken =>
    refine h.take hcommands rfl rfl rfl hpaired ?_ ?_ h.reach_lt
    · exact h.traced.schedule h.paired target id delay hfresh rfl (fun e he ↦ .inl he)
        fun q hq ↦ .inl hq
    · exact fun hb ↦ absurd (hb.symm.trans hbroken) Bool.false_ne_true
  · split
    · next henter =>
      refine h.take hcommands rfl rfl rfl (paired_shatter _) ?_ nofun fun _ ↦ ?_
      · exact h.traced.schedule h.paired target id delay hfresh rfl (List.forall_mem_nil _)
          (List.forall_mem_nil _)
      · obtain ⟨asked, -, -, rfl, -⟩ := h.numbered.asked_of_mem hmem
        exact Nat.lt_of_lt_of_le (Agenda.reach_lt_of_enter henter)
          (Nat.add_le_add_left (Nat.min_le_right _ _) _)
    · next agenda henter =>
      obtain ⟨-, late, hqueue⟩ := h.paired.ordered.enter (Nat.le_add_right _ _) henter
      refine h.take hcommands rfl rfl rfl (hpaired.arm htoken target id delay henter) ?_ ?_
        h.reach_lt
      · refine h.traced.schedule h.paired target id delay hfresh rfl ?_ ?_
        · intro e he
          rcases List.mem_append.mp he with he | he
          · exact .inl he
          · rw [List.mem_singleton.mp he]
            exact .inr ⟨rfl, rfl, rfl⟩
        · intro q hq
          rcases List.mem_cons.mp (hqueue.mem_iff.mp hq) with rfl | hq
          · exact .inr ⟨rfl, rfl⟩
          · exact .inl hq
      · refine h.accounted.schedule (fun hb ↦ hb) ?_
        rintro - token' (rfl | hin)
        · simp
        · rw [List.map_append]
          exact List.mem_append_left _ hin

theorem Sound.takeCancel (h : s.Sound) {token : Nat} {rest : List (Command τ)}
    (hcommands : s.wheel.commands = .cancel token :: rest) :
    Sound { s with
      wheel := { s.wheel with commands := rest }.execute (.cancel token)
      log := s.log ++ [.took (.cancel token) s.wheel.now] } := by
  have hpaired : Paired { s.wheel with commands := rest } :=
    ⟨h.paired.pairs, h.paired.tokens, h.paired.keys, h.paired.key_lt, h.paired.ordered⟩
  rw [execute]
  split
  · next hnone =>
    refine h.take hcommands rfl rfl rfl hpaired ?_ ?_ h.reach_lt
    · refine h.traced.cancel rfl (fun e he ↦ ⟨he, fun heq ↦ ?_⟩) fun q hq ↦ hq
      exact List.find?_eq_none.mp hnone e he (decide_eq_true heq)
    · exact h.accounted.cancel rfl fun token' _ hin ↦ hin
  · next e hsome =>
    obtain rfl : e.token = token := by simpa using List.find?_some hsome
    refine h.take hcommands rfl rfl rfl (hpaired.disarm (List.mem_of_find?_eq_some hsome)) ?_ ?_
      h.reach_lt
    · refine h.traced.cancel rfl (fun e' he' ↦ ?_) fun q hq ↦ (List.mem_filter.mp hq).1
      obtain ⟨hmem, hne⟩ := List.mem_filter.mp he'
      exact ⟨hmem, of_decide_eq_true hne⟩
    · refine h.accounted.cancel rfl fun token' hne hin ↦ ?_
      obtain ⟨e', he', rfl⟩ := List.mem_map.mp hin
      exact List.mem_map.mpr ⟨e', List.mem_filter.mpr ⟨he', decide_eq_true hne⟩, rfl⟩

theorem running_of_expireNext {wheel w : TimingWheel τ} {alive : τ → Bool}
    {fired : Option (τ × UInt64)} (h : wheel.expireNext alive = some (fired, w)) :
    wheel.stopped = false := by
  by_contra hstopped
  rw [expireNext, if_pos (by simpa using hstopped)] at h
  cases h

theorem Sound.expire (h : s.Sound) {q : Queued} {agenda : Agenda} {fired : Option (τ × UInt64)}
    {w : TimingWheel τ} (hdue : s.wheel.agenda.takeDue s.wheel.now = some (q, agenda))
    (hexpire : s.wheel.expireNext s.alive = some (fired, w)) :
    Sound { s with wheel := w, log := s.log ++ [.expired q.token s.wheel.now fired] } := by
  have hrun := running_of_expireNext hexpire
  obtain ⟨e, he, htoken, -, heq⟩ := h.paired.expireNext hrun s.alive hdue
  obtain ⟨rfl, rfl⟩ := Prod.mk.inj (Option.some.inj (hexpire.symm.trans heq))
  obtain ⟨-, hle, hqueue, hpaired⟩ := h.paired.take hdue
  obtain ⟨turned, hturned, hcatchUp⟩ := catchUp_eq
    { s.wheel with armed := s.wheel.armed.filter (·.token ≠ q.token), agenda := agenda }
  have hsorted := (List.pairwise_cons.mp (hqueue ▸ h.paired.ordered.sorted)).1
  replace hpaired := hpaired.catchUp
  rw [hcatchUp] at hpaired ⊢
  refine ⟨hpaired, ?_, ?_, ?_, ?_, ?_, h.reach_lt⟩
  · exact h.numbered.append rfl (List.append_nil _) (Nat.le_refl _) nofun nofun nofun
  · refine h.traced.expire h.numbered hqueue hsorted hle he htoken ?_ ?_ rfl rfl hturned
    · rw [← h.stopped_iff, hrun]
      exact Bool.false_ne_true
    · rw [← h.alive_iff]
      cases s.alive e.target with
      | true => exact .inl ⟨rfl, Bool.true_eq_false.mp⟩
      | false => exact .inr ⟨rfl, rfl⟩
  · exact h.accounted.expire rfl rfl
  · simpa using h.alive_iff
  · simpa using h.stopped_iff

theorem Step.sound [DecidableEq τ] (hstep : Step s s') (h : s.Sound) : s'.Sound := by
  cases hstep with
  | schedule target id delay => exact h.schedule target id delay
  | cancel token => exact h.cancel token
  | drop target => exact h.drop target
  | shutdown => exact h.shutdown
  | advance instant => exact h.advance instant
  | catchUp => exact h.catchUp
  | expire _ hdue hexpire => exact h.expire hdue hexpire
  | @take _ c _ _ hcommands =>
    cases c with
    | schedule token target id delay => exact h.takeSchedule hcommands
    | cancel token => exact h.takeCancel hcommands

theorem Sound.run [DecidableEq τ] (h : s.Sound) (hrun : Relation.ReflTransGen Step s s') :
    s'.Sound := by
  induction hrun with
  | refl => exact h
  | tail _ hstep ih => exact hstep.sound ih

/-! ## What has expired -/

/-- What fired was neither cancelled before, nor was its target gone. -/
theorem Sound.of_fired (h : s.Sound) {token instant : Nat} {target : τ} {id : UInt64}
    (hfired : .expired token instant (some (target, id)) ∈ s.log) :
    (∃ due ≤ s.wheel.now, Scheduled s.log token target id due) ∧
      ¬ Revoked s.log token ∧ ¬ Orphaned s.log token target := by
  obtain ⟨before, after, hlog⟩ := List.append_of_mem hfired
  obtain ⟨target', id', due, hexpiry⟩ := h.traced.rightful _ _ _ _ _ hlog
  have hscheduled : Scheduled s.log token target' id' due := hlog ▸ hexpiry.scheduled.mono _
  have hgone : .dropped target ∉ before ∧ target = target' ∧ id = id' := by
    rcases hexpiry.fired_or_gone with ⟨heq, halive⟩ | ⟨heq, -⟩
    · obtain ⟨rfl, rfl⟩ := Prod.mk.inj (Option.some.inj heq)
      exact ⟨halive, rfl, rfl⟩
    · exact nomatch heq
  obtain ⟨halive, rfl, rfl⟩ := hgone
  refine ⟨?_, ?_, ?_⟩
  · obtain ⟨_, _, due', hscheduled', hle, -⟩ := h.traced.passed token ⟨_, _, hfired⟩
    obtain ⟨-, -, rfl⟩ := h.traced.unique _ _ _ _ _ _ _ hscheduled hscheduled'
    exact ⟨due, hle, hscheduled⟩
  · rintro ⟨before', y, after', hlog', ⟨⟨i, rfl⟩, hknown⟩, hpending⟩
    rcases split_cases (hlog.symm.trans hlog') with ⟨-, heq⟩ | ⟨between, rfl⟩ | ⟨between, rfl⟩
    · exact nomatch heq
    · exact hpending ⟨instant, _, List.mem_append_right _ List.mem_cons_self⟩
    · exact hexpiry.not_cancelled ⟨before', _, between, rfl, ⟨i, rfl⟩, hknown⟩
  · rintro ⟨before', y, after', hlog', rfl, hpending⟩
    rcases split_cases (hlog.symm.trans hlog') with ⟨-, heq⟩ | ⟨between, rfl⟩ | ⟨between, rfl⟩
    · exact nomatch heq
    · exact hpending ⟨instant, _, List.mem_append_right _ List.mem_cons_self⟩
    · exact halive (List.mem_append_right _ List.mem_cons_self)

/-- **What was due has fired**, where nothing is left to do. -/
theorem Sound.fired (h : s.Sound) (hsettled : s.Settled) (hbroken : s.wheel.broken = false)
    {token : Nat} {target : τ} {id : UInt64} {due : Nat} (hdue : due ≤ s.wheel.now)
    (hscheduled : Scheduled s.log token target id due) (hrevoked : ¬ Revoked s.log token)
    (horphaned : ¬ Orphaned s.log token target) :
    ∃ instant, .expired token instant (some (target, id)) ∈ s.log := by
  rcases h.accounted hbroken token hscheduled.known with ⟨instant, fired, hmem⟩ | hin | harmed
  · obtain ⟨before, after, hlog⟩ := List.append_of_mem hmem
    obtain ⟨target', id', due', hexpiry⟩ := h.traced.rightful _ _ _ _ _ hlog
    have hscheduled' : Scheduled s.log token target' id' due' := hlog ▸ hexpiry.scheduled.mono _
    obtain ⟨rfl, rfl, rfl⟩ := h.traced.unique _ _ _ _ _ _ _ hscheduled hscheduled'
    rcases hexpiry.fired_or_gone with ⟨rfl, -⟩ | ⟨rfl, hgone⟩
    · exact ⟨instant, hmem⟩
    · -- The target was gone before the expiry, and nothing expires twice.
      obtain ⟨before', between, rfl⟩ := List.append_of_mem hgone
      refine absurd ⟨before', _, between ++ .expired token instant none :: after, ?_, rfl, ?_⟩
        horphaned
      · rw [hlog, List.append_assoc, List.cons_append]
      · rintro ⟨i, f, hearlier⟩
        exact hexpiry.once ⟨i, f, List.mem_append_left _ hearlier⟩
  · exact absurd hin hrevoked
  · obtain ⟨e, he, rfl⟩ := List.mem_map.mp harmed
    obtain ⟨q, hq, htoken, -⟩ := h.paired.mem_queue he
    obtain ⟨-, -, rfl⟩ :=
      h.traced.unique _ _ _ _ _ _ _ hscheduled (h.traced.armed e he q hq htoken)
    exact absurd (h.paired.ordered.lt_of_takeDue hsettled.2 q hq) (Nat.not_lt.mpr hdue)

theorem Sound.kept (h : s.Sound) : s.Kept where
  pairs := h.paired.pairs
  tokens := h.paired.tokens
  removable := by
    intro token e hfind
    obtain rfl : e.token = token := by simpa using List.find?_some hfind
    exact h.paired.mem_queue (List.mem_of_find?_eq_some hfind)
  expirable := by
    intro q agenda htake
    have hq : q ∈ s.wheel.agenda.queue :=
      (h.paired.ordered.takeDue htake).1 ▸ List.mem_cons_self
    obtain ⟨e, he, htoken, hkey⟩ := h.paired.mem_armed hq
    exact ⟨e, htoken ▸ h.paired.find?_token he, hkey⟩
  commands := h.numbered.commands
  rightful := h.traced.rightful
  complete := by
    intro hsettled hbroken token target id
    constructor
    · rintro ⟨instant, hfired⟩
      exact h.of_fired hfired
    · rintro ⟨⟨due, hdue, hscheduled⟩, hrevoked, horphaned⟩
      exact h.fired hsettled hbroken hdue hscheduled hrevoked horphaned
  broken_late := h.reach_lt

end System

end RpcTransport.TimingWheel
