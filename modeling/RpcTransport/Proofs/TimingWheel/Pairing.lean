import Mathlib.Data.List.Nodup
import RpcTransport.Proofs.TimingWheel.Agenda
import RpcTransport.TimingWheel

/-!
# Tokens and keys

The tokens that are armed and the keys in the agenda are kept side by side, so that a deadline can
be cancelled by its token and taken by its key. Commands and expiries change both in one step, and
each change to one has its counterpart in the other (`Paired`): who is cancelled has a key that is
still in the agenda, and who is taken from the agenda is still armed.
-/

namespace RpcTransport.TimingWheel

variable {τ : Type} {w : TimingWheel τ}

/-! ## Pairs -/

def Armed.pair (e : Armed τ) : Nat × Nat := (e.token, e.key)

def Queued.pair (q : Queued) : Nat × Nat := (q.token, q.key)

/-- Each armed token has its key in the agenda, and the other way round. -/
structure Paired (w : TimingWheel τ) : Prop where
  pairs : (w.armed.map Armed.pair).Perm (w.agenda.queue.map Queued.pair)
  tokens : (w.armed.map (·.token)).Nodup
  keys : (w.armed.map (·.key)).Nodup
  key_lt : ∀ e ∈ w.armed, e.key < w.nextKey
  ordered : w.agenda.Ordered w.now

theorem paired_start : Paired (start : TimingWheel τ) :=
  ⟨.nil, .nil, .nil, List.forall_mem_nil _, Agenda.ordered_empty 0⟩

theorem Paired.mem_queue (h : w.Paired) {e : Armed τ} (he : e ∈ w.armed) :
    ∃ q ∈ w.agenda.queue, q.token = e.token ∧ q.key = e.key := by
  have hpair := h.pairs.mem_iff.mp (List.mem_map_of_mem he)
  obtain ⟨q, hq, heq⟩ := List.mem_map.mp hpair
  exact ⟨q, hq, Prod.mk.inj heq⟩

theorem Paired.mem_armed (h : w.Paired) {q : Queued} (hq : q ∈ w.agenda.queue) :
    ∃ e ∈ w.armed, e.token = q.token ∧ e.key = q.key := by
  have hpair := h.pairs.mem_iff.mpr (List.mem_map_of_mem hq)
  obtain ⟨e, he, heq⟩ := List.mem_map.mp hpair
  exact ⟨e, he, Prod.mk.inj heq⟩

/-- An entry is found by its token. -/
theorem Paired.find?_token (h : w.Paired) {e : Armed τ} (he : e ∈ w.armed) :
    w.armed.find? (·.token = e.token) = some e := by
  obtain ⟨found, hfound⟩ : ∃ found, w.armed.find? (·.token = e.token) = some found :=
    Option.isSome_iff_exists.mp (List.find?_isSome.mpr ⟨e, he, by simp⟩)
  have heq : found.token = e.token := by simpa using List.find?_some hfound
  rw [hfound, List.inj_on_of_nodup_map h.tokens (List.mem_of_find?_eq_some hfound) he heq]

/-! ## Steps of the wheel -/

theorem Paired.of_agenda (h : w.Paired) {agenda : Agenda} (hqueue : agenda.queue = w.agenda.queue)
    (hordered : agenda.Ordered w.now) : Paired { w with agenda := agenda } :=
  ⟨hqueue ▸ h.pairs, h.tokens, h.keys, h.key_lt, hordered⟩

@[simp]
theorem armed_catchUp (w : TimingWheel τ) : w.catchUp.armed = w.armed := by
  rw [catchUp]
  split
  · rfl
  · rfl

theorem Paired.catchUp (h : w.Paired) : w.catchUp.Paired := by
  rw [TimingWheel.catchUp]
  split
  · exact h
  · exact h.of_agenda (w.agenda.queue_turn w.now) h.ordered.turn

theorem Paired.advanceTo (h : w.Paired) (instant : Nat) : (w.advanceTo instant).Paired := by
  have hlater : Paired { w with now := max w.now instant } :=
    ⟨h.pairs, h.tokens, h.keys, h.key_lt, h.ordered.mono (Nat.le_max_left _ _)⟩
  exact hlater.catchUp

theorem paired_shatter (w : TimingWheel τ) : w.shatter.Paired :=
  ⟨.nil, .nil, .nil, List.forall_mem_nil _, Agenda.ordered_empty _⟩

/-- **A deadline is armed**, under a key that no other has. -/
theorem Paired.arm (h : w.Paired) {token : Nat} (htoken : token ∉ w.armed.map (·.token))
    (target : τ) (id : UInt64) (delay : Nat) {agenda : Agenda}
    (henter : w.agenda.enter? w.nextKey (w.now + delay) token = some agenda) :
    Paired { w with
      nextKey := w.nextKey + 1
      armed := w.armed ++ [⟨token, w.nextKey, target, id⟩]
      agenda := agenda } := by
  obtain ⟨hordered, late, hqueue⟩ := h.ordered.enter (Nat.le_add_right _ _) henter
  have hkey : w.nextKey ∉ w.armed.map (·.key) := by
    intro hmem
    obtain ⟨e, he, heq⟩ := List.mem_map.mp hmem
    exact absurd (h.key_lt e he) (heq ▸ Nat.lt_irrefl _)
  refine ⟨?_, ?_, ?_, fun e he ↦ ?_, hordered⟩
  · rw [List.map_append]
    refine (List.perm_append_singleton _ _).trans ?_
    exact (h.pairs.cons _).trans (hqueue.map Queued.pair).symm
  · rw [List.map_append, List.map_singleton, ← List.concat_eq_append]
    exact h.tokens.concat htoken
  · rw [List.map_append, List.map_singleton, ← List.concat_eq_append]
    exact h.keys.concat hkey
  · rcases List.mem_append.mp he with he | he
    · exact Nat.lt_succ_of_lt (h.key_lt e he)
    · rw [List.mem_singleton.mp he]
      exact Nat.lt_succ_self _

/-- Whoever has the token of an entry has its key. -/
theorem Paired.token_eq_iff (h : w.Paired) {e e' : Armed τ} (he : e ∈ w.armed)
    (he' : e' ∈ w.armed) : e'.token = e.token ↔ e'.key = e.key := by
  constructor
  · intro heq
    rw [List.inj_on_of_nodup_map h.tokens he' he heq]
  · intro heq
    rw [List.inj_on_of_nodup_map h.keys he' he heq]

/-- What is left when an entry is taken out by its token and by its key. -/
theorem Paired.filter_pairs (h : w.Paired) {e : Armed τ} (he : e ∈ w.armed) :
    ((w.armed.filter (·.token ≠ e.token)).map Armed.pair).Perm
      ((w.agenda.queue.filter (·.key ≠ e.key)).map Queued.pair) := by
  have hfilter : w.armed.filter (·.token ≠ e.token) = w.armed.filter (·.key ≠ e.key) := by
    refine List.filter_congr fun e' he' ↦ ?_
    exact decide_eq_decide.mpr (not_congr (h.token_eq_iff he he'))
  have hpairs := h.pairs.filter fun p ↦ decide (p.2 ≠ e.key)
  rw [List.filter_map, List.filter_map] at hpairs
  rw [hfilter]
  exact hpairs

theorem Paired.of_filter (h : w.Paired) (token : Nat) {agenda : Agenda}
    (hpairs : ((w.armed.filter (·.token ≠ token)).map Armed.pair).Perm
      (agenda.queue.map Queued.pair)) (hordered : agenda.Ordered w.now) :
    Paired { w with armed := w.armed.filter (·.token ≠ token), agenda := agenda } where
  pairs := hpairs
  tokens := h.tokens.sublist (List.filter_sublist.map _)
  keys := h.keys.sublist (List.filter_sublist.map _)
  key_lt := fun e he ↦ h.key_lt e (List.mem_filter.mp he).1
  ordered := hordered

/-- **Who is cancelled has a key in the agenda**, and both go. -/
theorem Paired.disarm (h : w.Paired) {e : Armed τ} (he : e ∈ w.armed) :
    Paired { w with
      armed := w.armed.filter (·.token ≠ e.token)
      agenda := w.agenda.remove e.key } :=
  h.of_filter e.token (h.filter_pairs he) (h.ordered.remove e.key)

/-- **Who is taken from the agenda is armed**, and both go. -/
theorem Paired.take (h : w.Paired) {q : Queued} {agenda : Agenda}
    (htake : w.agenda.takeDue w.now = some (q, agenda)) :
    (∃ e ∈ w.armed, e.token = q.token) ∧ q.due ≤ w.now ∧
      w.agenda.queue = q :: agenda.queue ∧
      Paired { w with armed := w.armed.filter (·.token ≠ q.token), agenda := agenda } := by
  obtain ⟨hqueue, hdue, hordered⟩ := h.ordered.takeDue htake
  obtain ⟨e, he, htoken, hkey⟩ := h.mem_armed (hqueue ▸ List.mem_cons_self)
  refine ⟨⟨e, he, htoken⟩, hdue, hqueue, h.of_filter q.token ?_ hordered⟩
  have hpairs := h.filter_pairs he
  have hkeys : (w.agenda.queue.map (·.key)).Nodup := by
    have hperm := h.pairs.map Prod.snd
    rw [List.map_map, List.map_map] at hperm
    exact hperm.nodup_iff.mp h.keys
  rw [hqueue, List.map_cons, List.nodup_cons] at hkeys
  have hrest : agenda.queue.filter (·.key ≠ q.key) = agenda.queue := by
    refine List.filter_eq_self.mpr fun p hp ↦ decide_eq_true fun heq ↦ hkeys.1 ?_
    exact List.mem_map.mpr ⟨p, hp, heq⟩
  rw [htoken, hkey, hqueue, List.filter_cons_of_neg (by simp), hrest] at hpairs
  exact hpairs

/-- Turning the slots and disarming do not get into each other's way. -/
theorem catchUp_withArmed (w : TimingWheel τ) (armed : List (Armed τ)) :
    { w with armed := armed }.catchUp = { w.catchUp with armed := armed } := by
  rw [catchUp, catchUp]
  split
  · rfl
  · rfl

/-- **What expires**: the first deadline that is due, which is armed. It fires if its target is
alive. -/
theorem Paired.expireNext (h : w.Paired) (hrun : w.stopped = false) (alive : τ → Bool) {q : Queued}
    {agenda : Agenda} (htake : w.agenda.takeDue w.now = some (q, agenda)) :
    ∃ e ∈ w.armed, e.token = q.token ∧ e.key = q.key ∧
      w.expireNext alive = some (if alive e.target then some (e.target, e.id) else none,
        { w with armed := w.armed.filter (·.token ≠ q.token), agenda := agenda }.catchUp) := by
  have hq : q ∈ w.agenda.queue := (h.take htake).2.2.1 ▸ List.mem_cons_self
  obtain ⟨e, he, htoken, hkey⟩ := h.mem_armed hq
  refine ⟨e, he, htoken, hkey, ?_⟩
  have hfind := h.find?_token he
  rw [htoken] at hfind
  rw [TimingWheel.expireNext, if_neg (by simp [hrun]), htake]
  simp only [armed_catchUp, hfind]
  exact congrArg (fun w' ↦ some (_, w')) (catchUp_withArmed { w with agenda := agenda } _).symm

end RpcTransport.TimingWheel
