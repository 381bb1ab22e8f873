import RpcTransport.Proofs.TimingWheel.Deadlines

/-!
# A turn settles the wheel

A turn of the wheel is a run of the system in which no time passes: it takes all commands, one by
one, and then all deadlines that are due, one by one, and then it has nothing to do. So a wheel that
has not been stopped can always come to the point where what has fired is exactly what was due.

Taking a command does not depend on the commands behind it, so taking them one by one comes to the
same as `receive`; and each expiry takes one due time from the agenda, so `expireDue` has fuel
enough.
-/

namespace RpcTransport.TimingWheel

variable {τ : Type}

/-! ## Commands behind the first -/

@[simp]
theorem commands_execute (w : TimingWheel τ) (c : Command τ) :
    (w.execute c).commands = w.commands := by
  fun_cases execute <;> rfl

@[simp]
theorem stopped_execute (w : TimingWheel τ) (c : Command τ) :
    (w.execute c).stopped = w.stopped := by
  fun_cases execute <;> rfl

@[simp]
theorem now_execute (w : TimingWheel τ) (c : Command τ) : (w.execute c).now = w.now := by
  fun_cases execute <;> rfl

theorem execute_withCommands (w : TimingWheel τ) (commands : List (Command τ)) (c : Command τ) :
    { w with commands := commands }.execute c = { w.execute c with commands := commands } := by
  cases c with
  | schedule token target id delay =>
    simp only [execute]
    split
    · rfl
    · split
      · rfl
      · rfl
  | cancel token =>
    simp only [execute]
    split
    · rfl
    · rfl

theorem foldl_execute_withCommands (cs : List (Command τ)) (w : TimingWheel τ)
    (commands : List (Command τ)) :
    cs.foldl execute { w with commands := commands } =
      { cs.foldl execute w with commands := commands } := by
  induction cs generalizing w with
  | nil => rfl
  | cons c cs ih => rw [List.foldl_cons, List.foldl_cons, execute_withCommands, ih]

namespace System

variable {s s' : System τ}

/-- If nothing expires, nothing is due. -/
theorem Sound.takeDue_of_expireNext (h : s.Sound) (hrun : s.wheel.stopped = false)
    (hnone : s.wheel.expireNext s.alive = none) :
    s.wheel.agenda.takeDue s.wheel.now = none := by
  cases htake : s.wheel.agenda.takeDue s.wheel.now with
  | none => rfl
  | some taken =>
    obtain ⟨e, -, -, -, hsome⟩ := h.paired.expireNext hrun s.alive htake
    exact nomatch hnone.symm.trans hsome

variable [DecidableEq τ]

/-- A run in which no time passes and nobody is gone or stops the wheel. -/
structure Reaches (s : System τ) (fired : List (τ × UInt64)) (s' : System τ) : Prop where
  run : Relation.ReflTransGen Step s s'
  now : s'.wheel.now = s.wheel.now
  alive : s'.alive = s.alive
  stopped : s'.wheel.stopped = s.wheel.stopped
  log : s'.log.filterMap Incident.fired? = s.log.filterMap Incident.fired? ++ fired

theorem Reaches.refl (s : System τ) : Reaches s [] s :=
  ⟨.refl, rfl, rfl, rfl, (List.append_nil _).symm⟩

theorem Reaches.trans {s₁ s₂ s₃ : System τ} {xs ys : List (τ × UInt64)} (h₁ : Reaches s₁ xs s₂)
    (h₂ : Reaches s₂ ys s₃) : Reaches s₁ (xs ++ ys) s₃ where
  run := h₁.run.trans h₂.run
  now := h₂.now.trans h₁.now
  alive := h₂.alive.trans h₁.alive
  stopped := h₂.stopped.trans h₁.stopped
  log := by rw [h₂.log, h₁.log, List.append_assoc]

/-! ## A turn -/

/-- **Every command is taken.** -/
theorem reaches_commands (hrun : s.wheel.stopped = false) :
    ∃ log, Reaches s [] { s with
      wheel := { s.wheel.commands.foldl execute s.wheel with commands := [] }, log := log } := by
  generalize hcommands : s.wheel.commands = cs
  induction cs generalizing s with
  | nil =>
    have hsame : { s.wheel with commands := [] } = s.wheel := by rw [← hcommands]
    exact ⟨s.log, by rw [List.foldl_nil, hsame]; exact .refl s⟩
  | cons c cs ih =>
    have hfirst : Reaches s [] { s with
        wheel := { s.wheel with commands := cs }.execute c
        log := s.log ++ [.took c s.wheel.now] } := by
      refine ⟨.single (.take s hrun hcommands), now_execute _ c, rfl, stopped_execute _ c, ?_⟩
      rw [List.filterMap_append]
      rfl
    obtain ⟨log, hrest⟩ := ih (hfirst.stopped.trans hrun) (commands_execute _ c)
    refine ⟨log, ?_⟩
    have heq :
        { cs.foldl execute ({ s.wheel with commands := cs }.execute c) with commands := [] } =
          { (c :: cs).foldl execute s.wheel with commands := [] } := by
      rw [List.foldl_cons, execute_withCommands, foldl_execute_withCommands]
    exact heq ▸ hfirst.trans hrest

theorem reaches_receive (hrun : s.wheel.stopped = false) :
    ∃ log, Reaches s [] { s with wheel := s.wheel.receive, log := log } ∧
      s.wheel.receive.commands = [] := by
  obtain ⟨log, htaken⟩ := reaches_commands hrun
  obtain ⟨agenda, -, hcatchUp⟩ :=
    catchUp_eq { s.wheel.commands.foldl execute s.wheel with commands := [] }
  rw [receive, if_neg (by simp [hrun])]
  refine ⟨log, ⟨htaken.run.tail (.catchUp _), ?_, rfl, ?_, htaken.log⟩, by rw [hcatchUp]⟩
  · simpa only [hcatchUp] using htaken.now
  · simpa only [hcatchUp] using htaken.stopped

/-- **Every deadline that is due expires.** -/
theorem Sound.reaches_expireDue (h : s.Sound) (hrun : s.wheel.stopped = false)
    (hcommands : s.wheel.commands = []) {fuel : Nat} (hfuel : s.wheel.agenda.queue.length ≤ fuel) :
    ∃ log, Reaches s (expireDue s.alive fuel s.wheel).1
        { s with wheel := (expireDue s.alive fuel s.wheel).2, log := log } ∧
      Settled { s with wheel := (expireDue s.alive fuel s.wheel).2, log := log } := by
  induction fuel generalizing s with
  | zero =>
    have hqueue := List.eq_nil_of_length_eq_zero (Nat.le_zero.mp hfuel)
    exact ⟨s.log, .refl s, hcommands, by rw [expireDue, Agenda.takeDue, hqueue]⟩
  | succ fuel ih =>
    rw [expireDue]
    split
    · next hnone =>
      exact ⟨s.log, .refl s, hcommands, h.takeDue_of_expireNext hrun hnone⟩
    · next fired w hexpire =>
      obtain ⟨⟨q, agenda⟩, htake⟩ : ∃ taken, s.wheel.agenda.takeDue s.wheel.now = some taken := by
        refine Option.ne_none_iff_exists'.mp fun hnone ↦ ?_
        rw [expireNext, if_neg (by simp [hrun]), hnone] at hexpire
        cases hexpire
      obtain ⟨e, -, -, -, heq⟩ := h.paired.expireNext hrun s.alive htake
      obtain ⟨turned, hturned, hcatchUp⟩ := catchUp_eq
        { s.wheel with armed := s.wheel.armed.filter (·.token ≠ q.token), agenda := agenda }
      obtain ⟨-, rfl⟩ := Prod.mk.inj (Option.some.inj (hexpire.symm.trans heq))
      have hstep := Step.expire s htake hexpire
      have hsound := hstep.sound h
      rw [hcatchUp] at hstep hsound ⊢
      have hlength : turned.queue.length ≤ fuel := by
        have hqueue := (h.paired.ordered.takeDue htake).1
        rw [hturned]
        rw [hqueue, List.length_cons] at hfuel
        exact Nat.le_of_succ_le_succ hfuel
      have hfirst : Reaches s fired.toList { s with
          wheel := { s.wheel with
            armed := s.wheel.armed.filter (·.token ≠ q.token), agenda := turned }
          log := s.log ++ [.expired q.token s.wheel.now fired] } := by
        refine ⟨.single hstep, rfl, rfl, rfl, ?_⟩
        rw [List.filterMap_append]
        cases fired <;> rfl
      obtain ⟨log, hrest, hsettled⟩ := ih hsound hrun hcommands hlength
      exact ⟨log, hfirst.trans hrest, hsettled⟩

/-- **A turn is a run**, and where it ends nothing is left to do. -/
theorem Sound.reaches_turn (h : s.Sound) (hrun : s.wheel.stopped = false) :
    ∃ log, Reaches s (s.wheel.turn s.alive).1
        { s with wheel := (s.wheel.turn s.alive).2, log := log } ∧
      Settled { s with wheel := (s.wheel.turn s.alive).2, log := log } := by
  obtain ⟨log, hreceive, hcommands⟩ := reaches_receive hrun
  have hsound := h.run hreceive.run
  obtain ⟨log', hexpire, hsettled⟩ :=
    hsound.reaches_expireDue (hreceive.stopped.trans hrun) hcommands (Nat.le_refl _)
  exact ⟨log', hreceive.trans hexpire, hsettled⟩

/-! ## The result -/

/-- **Deadlines are kept** at every moment of every run, and a turn completes what is due. -/
theorem deadlines_kept (h : Relation.ReflTransGen Step start s) :
    s.Kept ∧ (s.wheel.stopped = false → ∃ s', s'.wheel = (s.wheel.turn s.alive).2 ∧
      Reaches s (s.wheel.turn s.alive).1 s' ∧ s'.Settled ∧ s'.Kept) := by
  have hsound := sound_start.run h
  refine ⟨hsound.kept, fun hrun ↦ ?_⟩
  obtain ⟨log, hreaches, hsettled⟩ := hsound.reaches_turn hrun
  exact ⟨_, rfl, hreaches, hsettled, (hsound.run hreaches.run).kept⟩

/-- Three deadlines: one is cancelled, one loses its target, and one fires. -/
theorem deadlines_kept_three : ∃ s : System Nat, s.log.filterMap Incident.fired? = [(1, 7)] ∧
    s.wheel.stopped = false ∧ s.wheel.broken = false ∧ s.Settled ∧
      s.Kept ∧ (s.wheel.stopped = false → ∃ s', s'.wheel = (s.wheel.turn s.alive).2 ∧
        Reaches s (s.wheel.turn s.alive).1 s' ∧ s'.Settled ∧ s'.Kept) := by
  have hasked := (((Relation.ReflTransGen.refl.tail (Step.schedule 1 7 50 start)).tail
    (.schedule 2 8 20 _)).tail (.schedule 3 9 10 _)).tail (.cancel 2 _)
  have htaken := (((hasked.tail (.take _ rfl rfl)).tail (.take _ rfl rfl)).tail
    (.take _ rfl rfl)).tail (.take _ rfl rfl)
  have hlate := (htaken.tail (.drop 3 _)).tail (.advance 50 _)
  have hexpired := (hlate.tail (.expire _ rfl rfl)).tail (.expire _ rfl rfl)
  exact ⟨_, rfl, rfl, rfl, ⟨rfl, rfl⟩, deadlines_kept hexpired⟩

end System

end RpcTransport.TimingWheel
