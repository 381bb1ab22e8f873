import RpcTransport.TimingWheel.Agenda

/-!
# What an agenda keeps

Whichever slot a due time waits in and however often it is moved down, it is taken when it is due,
and before those after it. What this rests on is that the queue is in the order of the due times and
that the slots are never turned past the first of them (`Agenda.Ordered`); the slots themselves
decide nothing but the order of equal due times, and whether a due time is in reach.
-/

namespace RpcTransport.TimingWheel.Agenda

/-- The queue of an agenda, as it is at some instant. -/
structure Ordered (a : Agenda) (now : Nat) : Prop where
  sorted : a.queue.Pairwise fun p q ↦ p.due ≤ q.due
  turned_le : ∀ q ∈ a.queue, a.turned ≤ q.due
  turned_le_now : a.turned ≤ now
  due_of_late : ∀ q ∈ a.queue, q.late = true → q.due ≤ now

variable {a a' : Agenda} {now : Nat}

theorem ordered_empty (now : Nat) : Ordered empty now :=
  ⟨.nil, List.forall_mem_nil _, Nat.zero_le now, List.forall_mem_nil _⟩

theorem Ordered.mono (h : a.Ordered now) {later : Nat} (hle : now ≤ later) : a.Ordered later :=
  ⟨h.sorted, h.turned_le, Nat.le_trans h.turned_le_now hle,
    fun q hq hlate ↦ Nat.le_trans (h.due_of_late q hq hlate) hle⟩

/-! ## Entering -/

theorem place_perm (first : Bool) (entry : Queued) (queue : List Queued) :
    (place first entry queue).Perm (entry :: queue) := by
  induction queue with
  | nil => exact .refl _
  | cons q queue ih =>
    rw [place]
    split
    · exact .refl _
    · exact (ih.cons q).trans (.swap entry q queue)

theorem sorted_place (first : Bool) (entry : Queued) {queue : List Queued}
    (h : queue.Pairwise fun p q ↦ p.due ≤ q.due) :
    (place first entry queue).Pairwise fun p q ↦ p.due ≤ q.due := by
  induction queue with
  | nil => exact List.pairwise_singleton _ _
  | cons q queue ih =>
    obtain ⟨hq, hqueue⟩ := List.pairwise_cons.mp h
    rw [place]
    split
    · next hfirst =>
      have hle : entry.due ≤ q.due := hfirst.elim Nat.le_of_lt fun hfirst ↦ Nat.le_of_eq hfirst.2
      refine List.pairwise_cons.mpr ⟨fun p hp ↦ ?_, h⟩
      rcases List.mem_cons.mp hp with rfl | hp
      · exact hle
      · exact Nat.le_trans hle (hq p hp)
    · next hnot =>
      have hle : q.due ≤ entry.due := Nat.le_of_not_lt fun hlt ↦ hnot (.inl hlt)
      refine List.pairwise_cons.mpr ⟨fun p hp ↦ ?_, ih hqueue⟩
      rcases List.mem_cons.mp ((place_perm first entry queue).mem_iff.mp hp) with rfl | hp
      · exact hle
      · exact hq p hp

/-- **A due time that is entered waits in its place.** -/
theorem Ordered.enter (h : a.Ordered now) {key due token : Nat} (hdue : now ≤ due)
    (henter : a.enter? key due token = some a') :
    a'.Ordered now ∧ ∃ late, a'.queue.Perm (⟨key, due, token, late⟩ :: a.queue) := by
  have hturned : a.turned ≤ due := Nat.le_trans h.turned_le_now hdue
  rw [enter?] at henter
  split at henter
  · exact nomatch henter
  obtain rfl := Option.some.inj henter
  simp only [Nat.max_eq_left hturned]
  by_cases hlate : due = a.turned
  · simp only [hlate, decide_true, if_pos]
    refine ⟨⟨List.pairwise_cons.mpr ⟨h.turned_le, h.sorted⟩, fun q hq ↦ ?_, h.turned_le_now,
      fun q hq hq' ↦ ?_⟩, true, .refl _⟩
    · rcases List.mem_cons.mp hq with rfl | hq
      · exact Nat.le_refl _
      · exact h.turned_le q hq
    · rcases List.mem_cons.mp hq with rfl | hq
      · exact h.turned_le_now
      · exact h.due_of_late q hq hq'
  · simp only [hlate, decide_false, Bool.false_eq_true, if_false]
    have hperm := place_perm (levelOf a.turned due % 2 == 0) ⟨key, due, token, false⟩ a.queue
    refine ⟨⟨sorted_place _ _ h.sorted, fun q hq ↦ ?_, h.turned_le_now, fun q hq hq' ↦ ?_⟩, false,
      hperm⟩
    · rcases List.mem_cons.mp (hperm.mem_iff.mp hq) with rfl | hq
      · exact hturned
      · exact h.turned_le q hq
    · rcases List.mem_cons.mp (hperm.mem_iff.mp hq) with rfl | hq
      · exact nomatch hq'
      · exact h.due_of_late q hq hq'

theorem reach_lt_of_enter {key due token : Nat} (h : a.enter? key due token = none) :
    reach < due := by
  rw [enter?] at h
  split at h
  · next hfar => exact Nat.lt_of_lt_of_le hfar (Nat.sub_le _ _)
  · exact nomatch h

theorem Ordered.remove (h : a.Ordered now) (key : Nat) : (a.remove key).Ordered now where
  sorted := h.sorted.filter _
  turned_le := fun q hq ↦ h.turned_le q (List.mem_filter.mp hq).1
  turned_le_now := h.turned_le_now
  due_of_late := fun q hq ↦ h.due_of_late q (List.mem_filter.mp hq).1

/-! ## Turning and taking -/

theorem queue_turnFor (now fuel : Nat) (a : Agenda) : (turnFor now fuel a).queue = a.queue := by
  induction fuel generalizing a with
  | zero => rfl
  | succ fuel ih =>
    rw [turnFor]
    split
    · split
      · exact ih _
      · rfl
    · rfl

@[simp]
theorem queue_turn (a : Agenda) (now : Nat) : (a.turn now).queue = a.queue :=
  queue_turnFor now _ a

theorem Ordered.turnFor (h : a.Ordered now) (fuel : Nat) : (turnFor now fuel a).Ordered now := by
  induction fuel generalizing a with
  | zero => exact h
  | succ fuel ih =>
    rw [Agenda.turnFor]
    split
    · next q rest t hqueue _ =>
      split
      · next hwake =>
        simp only [Bool.and_eq_true, Bool.not_eq_true', decide_eq_true_eq] at hwake
        obtain ⟨⟨-, hnow⟩, hfirst⟩ := hwake
        -- The slots are turned to an instant before the first due time, and no other is earlier.
        have hall : ∀ p ∈ a.queue, t ≤ p.due := by
          intro p hp
          rcases List.mem_cons.mp (hqueue ▸ hp) with rfl | hp
          · exact Nat.le_of_lt hfirst
          · have hle := (List.pairwise_cons.mp (hqueue ▸ h.sorted)).1 p hp
            exact Nat.le_trans (Nat.le_of_lt hfirst) hle
        exact ih ⟨h.sorted, fun p hp ↦ Nat.max_le.mpr ⟨h.turned_le p hp, hall p hp⟩,
          Nat.max_le.mpr ⟨h.turned_le_now, hnow⟩, h.due_of_late⟩
      · exact h
    · exact h

theorem Ordered.turn (h : a.Ordered now) : (a.turn now).Ordered now := h.turnFor _

/-- **What is taken is the first due time**, and its time has come. -/
theorem Ordered.takeDue (h : a.Ordered now) {q : Queued} (htake : a.takeDue now = some (q, a')) :
    a.queue = q :: a'.queue ∧ q.due ≤ now ∧ a'.Ordered now := by
  rw [Agenda.takeDue] at htake
  split at htake
  · exact nomatch htake
  · next first rest hqueue =>
    obtain ⟨hfirst, hrest⟩ := List.pairwise_cons.mp (hqueue ▸ h.sorted)
    have hmem : ∀ p ∈ rest, p ∈ a.queue := fun p hp ↦ hqueue ▸ List.mem_cons_of_mem _ hp
    have hhead : first ∈ a.queue := hqueue ▸ List.mem_cons_self
    split at htake
    · next hlate =>
      obtain ⟨rfl, rfl⟩ := Prod.mk.inj (Option.some.inj htake)
      exact ⟨hqueue, h.due_of_late _ hhead hlate, hrest, fun p hp ↦ h.turned_le p (hmem p hp),
        h.turned_le_now, fun p hp ↦ h.due_of_late p (hmem p hp)⟩
    · split at htake
      · exact nomatch htake
      · next hdue =>
        obtain ⟨rfl, rfl⟩ := Prod.mk.inj (Option.some.inj htake)
        replace hdue := Nat.le_of_not_lt hdue
        have hturned : (if levelOf a.turned first.due = 0 then a.turned
            else first.due / slotWidth 1 * slotWidth 1) ≤ first.due := by
          split
          · exact h.turned_le _ hhead
          · exact Nat.div_mul_le_self _ _
        exact ⟨hqueue, hdue, hrest, fun p hp ↦ Nat.le_trans hturned (hfirst p hp),
          Nat.le_trans hturned hdue, fun p hp ↦ h.due_of_late p (hmem p hp)⟩

/-- If nothing can be taken, no time has come. -/
theorem Ordered.lt_of_takeDue (h : a.Ordered now) (htake : a.takeDue now = none) :
    ∀ q ∈ a.queue, now < q.due := by
  rw [Agenda.takeDue] at htake
  split at htake
  · next hqueue =>
    rw [hqueue]
    exact List.forall_mem_nil _
  · next first rest hqueue =>
    split at htake
    · exact nomatch htake
    · split at htake
      · next hlt =>
        intro q hq
        rcases List.mem_cons.mp (hqueue ▸ hq) with rfl | hq
        · exact hlt
        · exact Nat.lt_of_lt_of_le hlt ((List.pairwise_cons.mp (hqueue ▸ h.sorted)).1 q hq)
      · exact nomatch htake

end RpcTransport.TimingWheel.Agenda
