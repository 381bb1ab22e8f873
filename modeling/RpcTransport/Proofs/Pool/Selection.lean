import RpcTransport.Pool.Session
import RpcTransport.Proofs.Pool.LeastLeased

/-!
# Which connection is chosen

An acquisition that nobody disturbs looks for a connection three times: for an idle one, for a
permit to make one, and for one to share. Each time it looks by a rule of its own, and together the
rules say one thing: take the first of the open connections with the fewest leases, and have a new
one made only if that one is in use.

## Alone

Nobody acts between two steps, and the factory answers at once (`Acquire.runAlone`). That is what
happens in a session if no other caller can go on and attempts take no time (`runTask_eq_runAlone`).
There are four ends, and what is in the pool decides between them (`Acquire.Selects`).
-/

namespace RpcTransport

namespace Pool

variable {κ : Type} [Closable κ]

/-- The pool when the factory is asked for a connection, with a permit for it. -/
def enterCreation (p : Pool κ) : Pool κ :=
  { p.prune with
    permits := p.prune.permits - 1
    creating := p.creating + 1
    generation := p.generation + 1 }

/-- The pool after a connection was made for it and lent at once. It took a permit, and it is the
last in the slots. -/
def enlarge (p : Pool κ) (c : κ) : Pool κ :=
  { p.prune with
    members := p.members ++ [⟨c, 1⟩]
    slots := p.openSlots ++ [p.members.length]
    permits := p.prune.permits - 1
    generation := p.generation + 1
    changes := p.changes + 2
    watched := p.watched ++ [p.members.length] }

end Pool

namespace Acquire

variable {κ : Type} [Closable κ] {a a' : Acquire} {p p' : Pool κ} {now m : Nat}

/-! ## An acquisition alone -/

theorem run_of_step (h : a.step p now = some (a', p')) (fuel : Nat) :
    a.run now (fuel + 1) p = a'.run now fuel p' := by
  rw [run, h]

theorem run_of_none (h : a.step p now = none) (fuel : Nat) : a.run now fuel p = (a, p) := by
  cases fuel with
  | zero => rfl
  | succ fuel => rw [run, h]

theorem run_ended (a : Acquire) (o : AcquireOutcome) (p : Pool κ) (now fuel : Nat) :
    (a.finish [] o).run now fuel p = (a.finish [] o, p) := run_of_none rfl fuel

/-- The acquisition goes on while nobody else does anything. If it asks the factory for a
connection, it gets one at once. -/
def runAlone (now : Nat) (c : κ) (a : Acquire) (p : Pool κ) : Acquire × Pool κ :=
  let (a, p) := a.run now patience p
  match a.stage with
  | .connecting _ _ =>
    let (a, p) := a.connected p c
    a.run now patience p
  | _ => (a, p)

/-- An acquisition that has a connection puts it into the slots, with a lease for its caller. -/
theorem run_holding (hopen : p.closed = false) (heager : a.eager = false) (fuel : Nat) :
    { a with stage := .holding m }.run now (fuel + 5) p =
    (a.finish [] (.leased m), { p.addLease m with
      slots := p.slots ++ [m]
      watched := p.watched ++ [m]
      creating := p.creating - 1
      changes := p.changes + 2 }) := by
  have hlend : { a with stage := .holding m }.step p now =
      some ({ a with stage := .adopting m }, p.addLease m) := by
    simp [step, heager]
  have hadopt : { a with stage := .adopting m }.step (p.addLease m) now =
      some (a.finish [.notify, .watch m, .leaveCreation] (.leased m),
        { p.addLease m with slots := p.slots ++ [m] }) := by
    have hopen' : (p.addLease m).closed = false := hopen
    simp only [step, Pool.adopt, hopen', Bool.false_eq_true, if_false, adopted, heager, finish]
    rfl
  rw [run_of_step hlend, run_of_step hadopt, run_of_step rfl, run_of_step rfl, run_of_step rfl,
    run_of_none rfl]
  rfl

section

variable (hstage : a.stage = .checking) (hopen : p.closed = false)

include hstage hopen

theorem run_checking (fuel : Nat) :
    a.run now (fuel + 2) p = { a with stage := .choosing p.changes }.run now fuel p := by
  have hcheck : a.step p now = some ({ a with stage := .listening }, p) := by
    simp [step, hstage, hopen]
  rw [run_of_step hcheck, run_of_step rfl]

theorem run_idle (h : p.pickIdle = some m) (fuel : Nat) :
    a.run now (fuel + 3) p = (a.finish [] (.leased m), p.prune.addLease m) := by
  have hchoose : { a with stage := .choosing p.changes }.step p now =
      some (a.finish [] (.leased m), p.prune.addLease m) := by
    simp only [step, p.pickIdle_prune, h]
    rfl
  rw [run_checking hstage hopen, run_of_step hchoose, run_ended]

theorem run_busy (h : p.pickIdle = none) (fuel : Nat) :
    a.run now (fuel + 3) p = { a with stage := .reserving p.changes }.run now fuel p.prune := by
  have hchoose : { a with stage := .choosing p.changes }.step p now =
      some ({ a with stage := .reserving p.changes }, p.prune) := by
    simp only [step, p.pickIdle_prune, h]
  rw [run_checking hstage hopen, run_of_step hchoose]

theorem run_permit (h : p.pickIdle = none) (hpermit : 0 < p.prune.permits) (fuel : Nat) :
    a.run now (fuel + 6) p =
      ({ a with stage := .connecting 0 (p.generation + 1) }, p.enterCreation) := by
  have hreserve : { a with stage := .reserving p.changes }.step p.prune now = some
      ({ a with stage := .entering }, { p.prune with permits := p.prune.permits - 1 }) := by
    simp only [step, gt_iff_lt, if_pos hpermit]
  rw [run_busy hstage hopen h, run_of_step hreserve, run_of_step rfl, run_of_step rfl,
    run_of_none rfl]
  rfl

variable (heager : a.eager = false)

include heager

theorem run_noPermit (h : p.pickIdle = none) (hpermit : p.prune.permits = 0) (fuel : Nat) :
    a.run now (fuel + 4) p = { a with stage := .sharing p.changes }.run now fuel p.prune := by
  have hreserve : { a with stage := .reserving p.changes }.step p.prune now =
      some ({ a with stage := .sharing p.changes }, p.prune) := by
    simp [step, hpermit, heager]
  rw [run_busy hstage hopen h, run_of_step hreserve]

theorem run_share (h : p.pickIdle = none) (hpermit : p.prune.permits = 0)
    (hshare : p.pickLeastLeased = some m) (fuel : Nat) :
    a.run now (fuel + 5) p = (a.finish [] (.leased m), p.prune.addLease m) := by
  have hpick : { a with stage := .sharing p.changes }.step p.prune now =
      some (a.finish [] (.leased m), p.prune.addLease m) := by
    simp only [step, p.pickLeastLeased_prune, hshare]
    rfl
  rw [run_noPermit hstage hopen heager h hpermit, run_of_step hpick, run_ended]

theorem run_saturated (h : p.pickIdle = none) (hpermit : p.prune.permits = 0)
    (hshare : p.pickLeastLeased = none) (fuel : Nat) :
    a.run now (fuel + 5) p = { a with stage := .deciding p.changes }.run now fuel p.prune := by
  have hpick : { a with stage := .sharing p.changes }.step p.prune now =
      some ({ a with stage := .deciding p.changes }, p.prune) := by
    simp only [step, p.pickLeastLeased_prune, hshare]
  rw [run_noPermit hstage hopen heager h hpermit, run_of_step hpick]

end

/-! ## Being denied -/

/-- The acquisition waits for a change until a deadline, or has failed because that has passed. -/
def Awaits (now deadline : Nat) (p : Pool κ) (b : Acquire) : Prop :=
  b.stage = if now < deadline then .waiting p.changes deadline
    else .ending [] (.failed p.exhausted)

/-- What becomes of an acquisition that finds no connection and no permit. -/
structure Denied (now : Nat) (a : Acquire) (p : Pool κ) (b : Acquire) : Prop where
  blocks : p.config.blockWhenExhausted = true → Awaits now a.deadline p b
  inFlight : p.config.blockWhenExhausted = false →
    (a.lastAttempt = true ∧ p.config.waitForInFlight = true ∧ 0 < p.creating) →
    match a.inFlightDeadline.or (Clock.after? now p.config.inFlightWait) with
    | some deadline => Awaits now deadline p b
    | none => b.stage = .ending [] .overflow
  fails : p.config.blockWhenExhausted = false →
    ¬ (a.lastAttempt = true ∧ p.config.waitForInFlight = true ∧ 0 < p.creating) →
    b.stage = .ending [] (.failed p.exhausted)

omit [Closable κ] in
theorem Awaits.cases {deadline : Nat} {b : Acquire} (h : Awaits now deadline p b) :
    (∃ seen due, b.stage = .waiting seen due) ∨
      ∃ o, b.stage = .ending [] o ∧ (o = .overflow ∨ o = .failed p.exhausted) := by
  rw [Awaits] at h
  split at h
  · exact .inl ⟨_, _, h⟩
  · exact .inr ⟨_, h, .inr rfl⟩

omit [Closable κ] in
/-- Who is denied a connection waits, or has none. -/
theorem Denied.cases {b : Acquire} (h : Denied now a p b) :
    (∃ seen due, b.stage = .waiting seen due) ∨
      ∃ o, b.stage = .ending [] o ∧ (o = .overflow ∨ o = .failed p.exhausted) := by
  by_cases hblock : p.config.blockWhenExhausted = true
  · exact (h.blocks hblock).cases
  · rw [Bool.not_eq_true] at hblock
    by_cases hflight : a.lastAttempt = true ∧ p.config.waitForInFlight = true ∧ 0 < p.creating
    · have hcases := h.inFlight hblock hflight
      split at hcases
      · exact hcases.cases
      · exact .inr ⟨_, hcases, .inl rfl⟩
    · exact .inr ⟨_, h.fails hblock hflight, .inr rfl⟩

omit [Closable κ] in
theorem Denied.stage_ne {b : Acquire} (h : Denied now a p b) (made generation : Nat) :
    b.stage ≠ .connecting made generation := by
  intro hb
  rcases h.cases with ⟨_, _, hwait⟩ | ⟨_, hend, -⟩
  · exact nomatch hb.symm.trans hwait
  · exact nomatch hb.symm.trans hend

omit [Closable κ] in
theorem Denied.outcome?_ne {b : Acquire} (h : Denied now a p b) (m : Nat) :
    b.outcome? ≠ some (.leased m) := by
  intro hb
  rw [outcome?] at hb
  rcases h.cases with ⟨_, _, hst⟩ | ⟨_, hst, rfl | rfl⟩
  all_goals
    rw [hst] at hb
    cases hb

theorem run_waiting (a : Acquire) (p : Pool κ) (now deadline fuel : Nat) :
    ∃ b, { a with stage := .waiting p.changes deadline }.run now (fuel + 1) p = (b, p) ∧
      Awaits now deadline p b := by
  by_cases hdue : deadline ≤ now
  · have hfail : { a with stage := .waiting p.changes deadline }.step p now =
        some (a.failWith p.exhausted, p) := by
      simp only [step, ne_eq, not_true_eq_false, if_false, if_pos hdue]
      rfl
    refine ⟨a.failWith p.exhausted, ?_, ?_⟩
    · rw [run_of_step hfail]
      exact run_ended a _ p now fuel
    · rw [Awaits, if_neg (Nat.not_lt_of_le hdue)]
      rfl
  · have hwait : { a with stage := .waiting p.changes deadline }.step p now = none := by
      simp [step, hdue]
    refine ⟨_, run_of_none hwait _, ?_⟩
    rw [Awaits, if_pos (Nat.lt_of_not_le hdue)]

/-- **Who is denied a connection waits or fails, as the pool is configured.** -/
theorem run_deciding (a : Acquire) (p : Pool κ) (now fuel : Nat) :
    ∃ b, { a with stage := .deciding p.changes }.run now (fuel + 2) p = (b, p) ∧
      Denied now a p b := by
  by_cases hblock : p.config.blockWhenExhausted = true
  · have hwait : { a with stage := .deciding p.changes }.step p now =
        some ({ a with stage := .waiting p.changes a.deadline }, p) := by
      simp [step, waitUntil, hblock]
    obtain ⟨b, hrun, hb⟩ := run_waiting a p now a.deadline fuel
    refine ⟨b, (run_of_step hwait _).trans hrun, fun _ ↦ hb, fun h ↦ ?_, fun h ↦ ?_⟩
    · exact absurd hblock (Bool.eq_false_iff.mp h)
    · exact absurd hblock (Bool.eq_false_iff.mp h)
  · by_cases hflight : a.lastAttempt = true ∧ p.config.waitForInFlight = true ∧ 0 < p.creating
    · cases hdeadline : a.inFlightDeadline.or (Clock.after? now p.config.inFlightWait) with
      | some deadline =>
        have hwait : { a with stage := .deciding p.changes }.step p now =
            some ({ a with
              inFlightDeadline := some deadline
              stage := .waiting p.changes deadline }, p) := by
          rcases Option.or_eq_some_iff.mp hdeadline with hold | ⟨hnone, hnew⟩
          · simp [step, waitUntil, hblock, hflight, hold]
          · simp [step, waitUntil, hblock, hflight, hnone, hnew]
        obtain ⟨b, hrun, hb⟩ :=
          run_waiting { a with inFlightDeadline := some deadline } p now deadline fuel
        refine ⟨b, (run_of_step hwait _).trans hrun, fun h ↦ absurd h hblock, fun _ _ ↦ ?_,
          fun _ h ↦ absurd hflight h⟩
        rw [hdeadline]
        exact hb
      | none =>
        have hoverflow : { a with stage := .deciding p.changes }.step p now =
            some (a.finish [] .overflow, p) := by
          obtain ⟨hnone, hnew⟩ := Option.or_eq_none_iff.mp hdeadline
          simp [step, waitUntil, hblock, hflight, hnone, hnew, finish]
        refine ⟨a.finish [] .overflow, ?_, fun h ↦ absurd h hblock, fun _ _ ↦ ?_,
          fun _ h ↦ absurd hflight h⟩
        · rw [run_of_step hoverflow, run_ended]
        · rw [hdeadline]
          rfl
    · have hfail : { a with stage := .deciding p.changes }.step p now =
          some (a.failWith p.exhausted, p) := by
        simp only [step, waitUntil, if_neg hblock, gt_iff_lt, if_neg hflight]
        rfl
      refine ⟨a.failWith p.exhausted, ?_, fun h ↦ absurd h hblock, fun _ h ↦ absurd h hflight,
        fun _ _ ↦ rfl⟩
      rw [run_of_step hfail]
      exact run_ended a _ p now _

/-! ## Being chosen -/

omit [Closable κ] in
/-- A new member is lent. -/
theorem addLease_addMember (p : Pool κ) (c : κ) : (p.addMember c).2.addLease p.members.length =
    { p with members := p.members ++ [⟨c, 1⟩] } := by
  have hmodify : (p.members ++ [(⟨c, 0⟩ : Member κ)]).modify p.members.length
      (fun x ↦ { x with leases := x.leases + 1 }) = p.members ++ [⟨c, 1⟩] := by
    simp [List.modify_eq_take_drop]
  rw [Pool.addMember, Pool.addLease, Pool.modifyMember]
  exact congrArg (fun ms ↦ { p with members := ms }) hmodify

/-- Who is given a connection by the factory brings it into the pool, and has a lease on it. -/
theorem run_connected (hopen : p.closed = false) (heager : a.eager = false) (c : κ) (fuel : Nat) :
    (a.connected p c).1.run now (fuel + 5) (a.connected p c).2 =
      (a.finish [] (.leased p.members.length), { p with
        members := p.members ++ [⟨c, 1⟩]
        slots := p.slots ++ [p.members.length]
        watched := p.watched ++ [p.members.length]
        creating := p.creating - 1
        changes := p.changes + 2 }) := by
  have hopen' : (p.addMember c).2.closed = false := hopen
  have hholding : { a with stage := .holding p.members.length }.run now (fuel + 5) _ = _ :=
    run_holding hopen' heager fuel
  rw [addLease_addMember] at hholding
  exact hholding

/-- The acquisition does not ask the factory. -/
theorem runAlone_of_run {b : Acquire} {q : Pool κ} (hrun : a.run now patience p = (b, q))
    (hb : ∀ made generation, b.stage ≠ .connecting made generation) (c : κ) :
    a.runAlone now c p = (b, q) := by
  rw [runAlone, hrun]
  dsimp only
  split
  · next hst => exact absurd hst (hb _ _)
  · rfl

section

variable (c : κ) (now) (hstage : a.stage = .checking) (hopen : p.closed = false)

include hstage hopen

theorem runAlone_idle (h : p.pickIdle = some m) :
    a.runAlone now c p = (a.finish [] (.leased m), p.prune.addLease m) :=
  runAlone_of_run (run_idle hstage hopen h 61) nofun c

variable (heager : a.eager = false)

include heager

theorem runAlone_create (h : p.pickIdle = none) (hpermit : 0 < p.prune.permits) :
    a.runAlone now c p = (a.finish [] (.leased p.members.length), p.enlarge c) := by
  have hrun : a.run now patience p = _ := run_permit hstage hopen h hpermit 58
  have hopen' : p.enterCreation.closed = false := hopen
  rw [runAlone, hrun]
  exact run_connected hopen' heager c 59

theorem runAlone_share (h : p.pickIdle = none) (hpermit : p.prune.permits = 0)
    (hshare : p.pickLeastLeased = some m) :
    a.runAlone now c p = (a.finish [] (.leased m), p.prune.addLease m) :=
  runAlone_of_run (run_share hstage hopen heager h hpermit hshare 59) nofun c

theorem run_denied (h : p.pickIdle = none) (hpermit : p.prune.permits = 0)
    (hshare : p.pickLeastLeased = none) :
    ∃ b, a.run now patience p = (b, p.prune) ∧ Denied now a p b := by
  obtain ⟨b, hdeciding, hdenied⟩ := run_deciding a p.prune now 57
  have hrun := (run_saturated hstage hopen heager h hpermit hshare 59).trans hdeciding
  exact ⟨b, hrun, hdenied.blocks, hdenied.inFlight, hdenied.fails⟩

theorem runAlone_denied (h : p.pickIdle = none) (hpermit : p.prune.permits = 0)
    (hshare : p.pickLeastLeased = none) :
    ∃ b, a.runAlone now c p = (b, p.prune) ∧ Denied now a p b := by
  obtain ⟨b, hrun, hdenied⟩ := run_denied now hstage hopen heager h hpermit hshare
  exact ⟨b, runAlone_of_run hrun hdenied.stage_ne c, hdenied⟩

/-- An acquisition that is not to have a connection made does not ask the factory. -/
theorem exists_run (h : ¬ (p.pickIdle = none ∧ 0 < p.prune.permits)) :
    ∃ b q, a.run now patience p = (b, q) ∧
      ∀ made generation, b.stage ≠ .connecting made generation := by
  cases hidle : p.pickIdle with
  | some m => exact ⟨_, _, run_idle hstage hopen hidle 61, nofun⟩
  | none =>
    have hpermit : p.prune.permits = 0 := Nat.eq_zero_of_not_pos fun hpos ↦ h ⟨hidle, hpos⟩
    cases hshare : p.pickLeastLeased with
    | some m =>
      exact ⟨_, _, run_share hstage hopen heager hidle hpermit hshare 59, nofun⟩
    | none =>
      obtain ⟨b, hrun, hb⟩ := run_denied now hstage hopen heager hidle hpermit hshare
      exact ⟨b, _, hrun, hb.stage_ne⟩

end

/-- A task goes on until its acquisition stops, if that does not ask the factory. -/
theorem runTask_of_run {t : AcquireTask} {p q : Pool ConnectionSession} {b : Acquire}
    (hrun : t.acquire.run now patience p = (b, q))
    (hb : ∀ made generation, b.stage ≠ .connecting made generation) (f : ConnectionFactory)
    (fuel : Nat) :
    PoolSession.runTask now (fuel + 1) t f p = ({ t with acquire := b }, f, q) := by
  rw [PoolSession.runTask, hrun]
  dsimp only
  split
  · next hst => exact absurd hst (hb _ _)
  · rfl

/-- **In a session an acquisition goes on as it does alone**, if no attempt takes time or fails. -/
theorem runTask_eq_runAlone {t : AcquireTask} {f : ConnectionFactory} {p : Pool ConnectionSession}
    (hstage : t.acquire.stage = .checking) (heager : t.acquire.eager = false)
    (hopen : p.closed = false) (hdue : t.attemptDue = none) (hdelay : f.delay = 0)
    (hfailures : f.failures = some 0) (now fuel : Nat) :
    ∃ g, PoolSession.runTask now (fuel + 2) t f p =
      ({ t with acquire := (t.acquire.runAlone now (f.make (p.generation + 1) now) p).1 }, g,
        (t.acquire.runAlone now (f.make (p.generation + 1) now) p).2) := by
  by_cases hcreate : p.pickIdle = none ∧ 0 < p.prune.permits
  · obtain ⟨hidle, hpermit⟩ := hcreate
    have hrun : t.acquire.run now patience p = _ := run_permit hstage hopen hidle hpermit 58
    have hopen' : p.enterCreation.closed = false := hopen
    rw [runAlone_create now _ hstage hopen heager hidle hpermit, PoolSession.runTask, hrun]
    simp only [hdue, Option.getD_none, hdelay, Nat.add_zero, Nat.lt_irrefl, if_false,
      ConnectionFactory.attempt, hfailures]
    refine ⟨_, runTask_of_run (run_connected hopen' heager _ 59) ?_ _ fuel⟩
    exact nofun
  · obtain ⟨b, q, hrun, hb⟩ := exists_run now hstage hopen heager hcreate
    rw [runAlone_of_run hrun hb]
    exact ⟨f, runTask_of_run hrun hb f _⟩

/-- What comes of an acquisition that nobody disturbs, by what there is in the pool. -/
inductive Selects (now : Nat) (c : κ) (a : Acquire) (p : Pool κ) : Acquire × Pool κ → Prop where
  | idle {m : Nat} (h : p.FirstLeast p.openSlots m) (hidle : p.leasesOf m = 0) :
      Selects now c a p (a.finish [] (.leased m), p.prune.addLease m)
  | create (hbusy : ∀ n ∈ p.openSlots, 0 < p.leasesOf n) (hpermit : 0 < p.prune.permits) :
      Selects now c a p (a.finish [] (.leased p.members.length), p.enlarge c)
  | share {m : Nat} (h : p.FirstLeast p.openSlots m) (hfew : p.leasesOf m < p.config.maxLeases) :
      Selects now c a p (a.finish [] (.leased m), p.prune.addLease m)
  | denied {b : Acquire} (hbusy : ∀ n ∈ p.openSlots, 0 < p.leasesOf n)
      (hfull : ∀ n ∈ p.openSlots, p.config.maxLeases ≤ p.leasesOf n)
      (hpermit : p.prune.permits = 0) (hb : Denied now a p b) : Selects now c a p (b, p.prune)

theorem runAlone_selects (now : Nat) (c : κ) (hstage : a.stage = .checking)
    (hopen : p.closed = false) (heager : a.eager = false) :
    Selects now c a p (a.runAlone now c p) := by
  cases hidle : p.pickIdle with
  | some m =>
    rw [runAlone_idle now c hstage hopen hidle]
    obtain ⟨hfirst, hzero⟩ := Pool.pickIdle_eq_some_iff.mp hidle
    exact .idle hfirst hzero
  | none =>
    have hbusy := Pool.pickIdle_eq_none_iff.mp hidle
    rcases Nat.eq_zero_or_pos p.prune.permits with hnone | hpermit
    · cases hshare : p.pickLeastLeased with
      | some m =>
        rw [runAlone_share now c hstage hopen heager hidle hnone hshare]
        obtain ⟨hfirst, hfew⟩ := Pool.pickLeastLeased_eq_some_iff.mp hshare
        exact .share hfirst hfew
      | none =>
        obtain ⟨b, hrun, hb⟩ := runAlone_denied now c hstage hopen heager hidle hnone hshare
        rw [hrun]
        exact .denied hbusy (Pool.pickLeastLeased_eq_none_iff.mp hshare) hnone hb
    · rw [runAlone_create now c hstage hopen heager hidle hpermit]
      exact .create hbusy hpermit

namespace Selects

variable {c : κ} {r : Acquire × Pool κ}

/-- **No open connection has fewer leases than the one that is lent.** -/
theorem leases_le (h : Selects now c a p r) (hr : r.1.outcome? = some (.leased m)) {n : Nat}
    (hn : n ∈ p.openSlots) : p.leasesOf m ≤ p.leasesOf n := by
  cases h with
  | idle hfirst | share hfirst =>
    obtain rfl := AcquireOutcome.leased.inj (Option.some.inj hr)
    exact hfirst.le hn
  | create =>
    obtain rfl := AcquireOutcome.leased.inj (Option.some.inj hr)
    rw [Pool.leasesOf_of_length_le (Nat.le_refl _)]
    exact Nat.zero_le _
  | denied _ _ _ hb => exact absurd hr (hb.outcome?_ne m)

/-- A connection is made only if all that are open are in use, and there is a permit. -/
theorem busy_of_created (h : Selects now c a p r)
    (hr : r.2.members.length ≠ p.members.length) :
    (∀ n ∈ p.openSlots, 0 < p.leasesOf n) ∧ 0 < p.prune.permits := by
  cases h with
  | idle | share => exact absurd (List.length_modify _ _ _) hr
  | create hbusy hpermit => exact ⟨hbusy, hpermit⟩
  | denied => exact absurd rfl hr

/-- Nothing is lent only if all open connections are at their cap. -/
theorem full_of_denied (h : Selects now c a p r)
    (hr : ∀ m, r.1.outcome? ≠ some (.leased m)) {n : Nat} (hn : n ∈ p.openSlots) :
    p.config.maxLeases ≤ p.leasesOf n := by
  cases h with
  | idle | share | create => exact absurd rfl (hr _)
  | denied _ hfull => exact hfull n hn

end Selects

/-- **Selection is least-leased and lazy.** An acquisition that nobody disturbs takes the first idle
connection, and has none made; if none is idle and there is a permit after pruning, it has one made;
otherwise it shares the first of the open connections with the fewest leases, if that has fewer than
it may have; and else it waits or fails, as the pool is configured. So a connection is made only if
no open one is idle and a permit is free, what is lent has the fewest leases of all that are open,
and nothing is lent only if these are all at their cap. -/
theorem selection_least_lazy (a : Acquire) (p : Pool κ) (c : κ) (now : Nat)
    (hstage : a.stage = .checking) (heager : a.eager = false) (hopen : p.closed = false) :
    (∀ m, p.openSlots.find? (fun n ↦ p.leasesOf n == 0) = some m →
      a.runAlone now c p = (a.finish [] (.leased m), p.prune.addLease m)) ∧
    ((∀ n ∈ p.openSlots, 0 < p.leasesOf n) → 0 < p.prune.permits →
      a.runAlone now c p = (a.finish [] (.leased p.members.length), p.enlarge c)) ∧
    ((∀ n ∈ p.openSlots, 0 < p.leasesOf n) → p.prune.permits = 0 →
      ∀ m, p.FirstLeast p.openSlots m → p.leasesOf m < p.config.maxLeases →
        a.runAlone now c p = (a.finish [] (.leased m), p.prune.addLease m)) ∧
    ((∀ n ∈ p.openSlots, 0 < p.leasesOf n ∧ p.config.maxLeases ≤ p.leasesOf n) →
      p.prune.permits = 0 →
        (a.runAlone now c p).2 = p.prune ∧ Denied now a p (a.runAlone now c p).1) ∧
    ((a.runAlone now c p).2.members.length ≠ p.members.length →
      (∀ n ∈ p.openSlots, 0 < p.leasesOf n) ∧ 0 < p.prune.permits) ∧
    (∀ m, (a.runAlone now c p).1.outcome? = some (.leased m) →
      ∀ n ∈ p.openSlots, p.leasesOf m ≤ p.leasesOf n) ∧
    ((∀ m, (a.runAlone now c p).1.outcome? ≠ some (.leased m)) →
      ∀ n ∈ p.openSlots, p.config.maxLeases ≤ p.leasesOf n) := by
  have hselects := runAlone_selects now c hstage hopen heager
  refine ⟨fun m hm ↦ ?_, fun hbusy hpermit ↦ ?_, fun hbusy hnone m hfirst hfew ↦ ?_,
    fun hfull hnone ↦ ?_, hselects.busy_of_created, fun m hm n hn ↦ hselects.leases_le hm hn,
    fun hdenied n hn ↦ hselects.full_of_denied hdenied hn⟩
  · rw [← Pool.pickIdle_eq_find?] at hm
    exact runAlone_idle now c hstage hopen hm
  · exact runAlone_create now c hstage hopen heager (Pool.pickIdle_eq_none_iff.mpr hbusy) hpermit
  · exact runAlone_share now c hstage hopen heager (Pool.pickIdle_eq_none_iff.mpr hbusy) hnone
      (Pool.pickLeastLeased_eq_some_iff.mpr ⟨hfirst, hfew⟩)
  · obtain ⟨b, hrun, hb⟩ := runAlone_denied now c hstage hopen heager
      (Pool.pickIdle_eq_none_iff.mpr fun n hn ↦ (hfull n hn).1) hnone
      (Pool.pickLeastLeased_eq_none_iff.mpr fun n hn ↦ (hfull n hn).2)
    rw [hrun]
    exact ⟨rfl, hb⟩

/-- Of three connections in use, two have a single lease; the first of those two is shared. -/
theorem selection_least_lazy_tie :
    ∃ (p : Pool Connection) (c : Connection),
      p.openSlots = [0, 1, 2] ∧ p.members.map (·.leases) = [2, 1, 1] ∧ p.permits = 0 ∧
      (start p.config .standard 0).runAlone 0 c p =
        ((start p.config .standard 0).finish [] (.leased 1), p.prune.addLease 1) := by
  let c : Connection := .start ⟨"connection", "target", .client, 1⟩ .standard .standard
    (.ofConfig .standard 1 .standard)
  let p : Pool Connection :=
    { (Pool.start .standard "target" : Pool Connection) with
      members := [⟨c, 2⟩, ⟨c, 1⟩, ⟨c, 1⟩]
      slots := [0, 1, 2]
      permits := 0 }
  have hfirst : p.FirstLeast p.openSlots 1 := ⟨[0], [2], rfl, by decide, by decide⟩
  have hselects := selection_least_lazy (start p.config .standard 0) p c 0 rfl rfl rfl
  exact ⟨p, c, rfl, rfl, rfl, hselects.2.2.1 (by decide) rfl 1 hfirst (by decide)⟩

end Acquire

end RpcTransport
