import RpcTransport.Proofs.TimingWheel.Settling

/-!
# Due times in reach of the clock

A deadline is told where the wheel takes it, not where it is asked for: in between, the clock goes
on. But a delay is clamped when it is asked for, so that until the middle of what the clock can tell
there is room for it whenever it is taken (`System.dues_told`).
-/

namespace RpcTransport.TimingWheel.System

variable {τ : Type} {s s' : System τ}

theorem now_expireNext {w w' : TimingWheel τ} {alive : τ → Bool} {fired : Option (τ × UInt64)}
    (h : w.expireNext alive = some (fired, w')) : w'.now = w.now := by
  rw [expireNext] at h
  split at h
  · cases h
  · split at h
    · cases h
    · next q agenda _ =>
      obtain ⟨turned, -, hcatchUp⟩ := catchUp_eq { w with agenda := agenda }
      rw [hcatchUp] at h
      dsimp only at h
      split at h
      all_goals
        obtain ⟨-, rfl⟩ := Prod.mk.inj (Option.some.inj h)
        rfl

/-- The clock does not go back, and what is taken is taken now. -/
theorem Step.took [DecidableEq τ] (h : Step s s') :
    s.wheel.now ≤ s'.wheel.now ∧ ∀ c instant, .took c instant ∈ s'.log →
      .took c instant ∈ s.log ∨ instant = s.wheel.now := by
  cases h with
  | schedule | cancel | drop | shutdown =>
    exact ⟨Nat.le_refl _, fun c instant hmem ↦ .inl (by simpa using hmem)⟩
  | advance instant =>
    rw [advanceTo]
    obtain ⟨agenda, -, hcatchUp⟩ := catchUp_eq { s.wheel with now := max s.wheel.now instant }
    rw [hcatchUp]
    exact ⟨Nat.le_max_left _ _, fun _ _ ↦ .inl⟩
  | catchUp =>
    obtain ⟨agenda, -, hcatchUp⟩ := catchUp_eq s.wheel
    rw [hcatchUp]
    exact ⟨Nat.le_refl _, fun _ _ ↦ .inl⟩
  | @take _ c rest =>
    refine ⟨Nat.le_of_eq (now_execute { s.wheel with commands := rest } c).symm, ?_⟩
    intro c' instant hmem
    rcases List.mem_append.mp hmem with hold | hnew
    · exact .inl hold
    · exact .inr (Incident.took.inj (List.mem_singleton.mp hnew)).2
  | expire _ _ hexpire =>
    exact ⟨Nat.le_of_eq (now_expireNext hexpire).symm,
      fun c instant hmem ↦ .inl (by simpa using hmem)⟩

/-- Nothing was taken later than now. -/
theorem took_le [DecidableEq τ] (h : Relation.ReflTransGen Step start s) :
    ∀ c instant, .took c instant ∈ s.log → instant ≤ s.wheel.now := by
  induction h with
  | refl =>
    intro c instant hmem
    exact absurd hmem List.not_mem_nil
  | tail _ hstep ih =>
    intro c instant hmem
    obtain ⟨hnow, htook⟩ := hstep.took
    rcases htook c instant hmem with hold | rfl
    · exact Nat.le_trans (ih c instant hold) hnow
    · exact hnow

/-- A due time is at most the longest timer after the instant at which it was taken on. -/
theorem Sound.delay_le (h : s.Sound) {token : Nat} {target : τ} {id : UInt64} {due : Nat}
    (hscheduled : Scheduled s.log token target id due) :
    ∃ c instant, .took c instant ∈ s.log ∧ due ≤ instant + Clock.longestTimer := by
  obtain ⟨delay, instant, htook, rfl⟩ := hscheduled
  obtain ⟨asked, -, -, rfl, -⟩ := h.numbered.taken_asked _ _ _ _ _ htook
  exact ⟨_, instant, htook, Nat.add_le_add_left (Nat.min_le_right _ _) _⟩

/-- **No deadline of a wheel is out of the clock's reach.** Whatever was asked of it, no due time is
further off than the longest timer; and before the middle of what the clock can tell, every deadline
that was asked for and is not taken yet could be told now. -/
theorem dues_told [DecidableEq τ] (h : Relation.ReflTransGen Step start s) :
    (∀ q ∈ s.wheel.agenda.queue, q.due ≤ s.wheel.now + Clock.longestTimer) ∧
      (s.wheel.now < Clock.midway → ∀ token target id delay,
        .schedule token target id delay ∈ s.wheel.commands →
          Clock.after? s.wheel.now delay = some (s.wheel.now + delay)) := by
  have hsound := sound_start.run h
  constructor
  · intro q hq
    obtain ⟨e, he, htoken, -⟩ := hsound.paired.mem_armed hq
    obtain ⟨c, instant, htook, hle⟩ := hsound.delay_le (hsound.traced.armed e he q hq htoken.symm)
    exact Nat.le_trans hle (Nat.add_le_add_right (took_le h c instant htook) _)
  · intro hnow token target id delay hmem
    obtain ⟨asked, -, -, rfl, -⟩ := hsound.numbered.asked_of_mem hmem
    exact Clock.after?_clamp hnow asked

end RpcTransport.TimingWheel.System
