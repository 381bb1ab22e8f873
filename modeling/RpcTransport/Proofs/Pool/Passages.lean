import Mathlib.Algebra.BigOperators.Group.List.Basic
import Mathlib.Algebra.Order.Ring.Int
import RpcTransport.Proofs.Pool.Attempts
import RpcTransport.Proofs.Pool.Capacity
import RpcTransport.Proofs.Pool.LeastLeased

/-!
# The books of an acquisition

A creation that fails, or that its caller gives up, has undone what it did (`Passage.Undone`): its
moves have spared connections and leases, all the permits that they took have gone back, and so has
its place in the count of creations. This is said of the moves themselves, each with the pool before
it and after it, so it does not matter what others do in between. Where nobody does anything in
between, the pool is as it was, apart from pruning and from the numbers that were used.

`Acquire.Booked` is the invariant behind it: at every stage the moves so far add up to what the
acquisition holds.
-/

namespace RpcTransport

open Pool (Action)

/-! ## Moves that come to nothing -/

namespace Pool

variable {κ : Type} [Closable κ] {p p' p'' : Pool κ}

/-- No connection is changed and no lease, and if any are taken out of the slots, then those that
are closed. -/
structure Spares (p p' : Pool κ) : Prop where
  config_eq : p'.config = p.config
  target_eq : p'.target = p.target
  members_eq : p'.members = p.members
  slots_eq : p'.slots = p.slots ∨ p'.slots = p.openSlots
  closed_eq : p'.closed = p.closed
  watched_eq : p'.watched = p.watched

theorem Spares.refl (p : Pool κ) : p.Spares p := ⟨rfl, rfl, rfl, .inl rfl, rfl, rfl⟩

theorem spares_prune (p : Pool κ) : p.Spares p.prune := ⟨rfl, rfl, rfl, .inr rfl, rfl, rfl⟩

theorem Spares.openSlots_eq (h : p.Spares p') : p'.openSlots = p.openSlots := by
  have hopen (m : Nat) : p'.isClosedAt m = p.isClosedAt m := by
    rw [isClosedAt, isClosedAt, h.members_eq]
  simp only [openSlots, hopen]
  rcases h.slots_eq with hslots | hslots
  · rw [hslots]
  · rw [hslots]
    exact p.openSlots_prune

theorem Spares.trans (h : p.Spares p') (h' : p'.Spares p'') : p.Spares p'' where
  config_eq := h'.config_eq.trans h.config_eq
  target_eq := h'.target_eq.trans h.target_eq
  members_eq := h'.members_eq.trans h.members_eq
  slots_eq := by
    rcases h'.slots_eq with hslots | hslots
    · rw [hslots]
      exact h.slots_eq
    · rw [hslots, h.openSlots_eq]
      exact .inr rfl
  closed_eq := h'.closed_eq.trans h.closed_eq
  watched_eq := h'.watched_eq.trans h.watched_eq

/-- A last action leaves the count of creations if it was to. -/
theorem creating_perform (p : Pool κ) {action : Action} {rest : List Action}
    (hle : (action :: rest).count .leaveCreation ≤ p.creating) :
    (p.perform action).creating + (action :: rest).count .leaveCreation =
      p.creating + rest.count .leaveCreation := by
  cases action with
  | leaveCreation =>
    rw [List.count_cons_self] at hle ⊢
    change p.creating - 1 + _ = _
    omega
  | _ => rfl

end Pool

/-- An outcome without a connection, and without one that was made in vain. -/
def AcquireOutcome.Fruitless : AcquireOutcome → Prop
  | .leased _ | .made _ => False
  | .failed e => e ≠ .poolClosed
  | .aborted | .overflow => True

namespace AcquireStage

/-- Nothing has come of the acquisition so far. -/
def Fruitless : AcquireStage → Prop
  | .holding _ | .adopting _ => False
  | .ending _ o => o.Fruitless
  | _ => True

/-- Whether the acquisition is in the count of creations. -/
def counted (eager : Bool) : AcquireStage → Nat
  | .attempting _ | .connecting _ _ | .pausing _ _ | .holding _ => 1
  | .adopting _ => if eager then 0 else 1
  | .ending rest _ => rest.count .leaveCreation
  | _ => 0

theorem Looks.rest_eq_nil {st : AcquireStage} (h : st.Looks) : st.rest = [] := by
  cases st with
  | ending => exact h.elim
  | _ => rfl

theorem Looks.fruitless {st : AcquireStage} (h : st.Looks) : st.Fruitless := by
  cases st with
  | holding | adopting | ending => exact h.elim
  | _ => trivial

theorem Looks.creating_eq_zero {st : AcquireStage} (h : st.Looks) : st.creating = 0 := by
  cases st with
  | entering | attempting | connecting | pausing | holding | adopting => exact h.elim
  | _ => rfl

theorem Looks.counted_eq_zero {st : AcquireStage} (h : st.Looks) (eager : Bool) :
    st.counted eager = 0 := by
  cases st with
  | attempting | connecting | pausing | holding | adopting | ending => exact h.elim
  | _ => rfl

variable {κ : Type} {config : PoolConfig} {target : String} {eager : Bool}
  {xs : List (Exchange κ)} {st st' : AcquireStage}

/-- All that is left to do is what a creation does that has come to nothing. -/
theorem Recorded.rest_suffix (h : st.Recorded config target eager xs) (hst : st.Fruitless) :
    st.rest <:+ Acquire.abandoned := by
  cases h with
  | looking h =>
    rw [h.rest_eq_nil]
    exact List.nil_suffix
  | failed _ hrest | paused _ hrest | asked _ hrest => exact hrest
  | made ho =>
    rcases ho with rfl | rfl
    · cases eager with
      | _ => exact hst.elim
    · exact absurd rfl hst
  | _ => exact List.nil_suffix

variable [Closable κ] {p p' : Pool κ} {x : Option (Exchange κ)}

theorem Trades.fruitless (h : st.Trades eager p x st' p') (hst' : st'.Fruitless) :
    st.Fruitless := by
  cases h with
  | look hst | pick hst | quit hst => exact hst.fruitless
  | hold => exact hst'.elim
  | adopt =>
    cases eager with
    | _ => exact hst'.elim
  | close => exact absurd rfl hst'
  | giveUp h =>
    rcases h with ⟨_, _, rfl⟩ | ⟨_, _, rfl⟩
    · trivial
    · trivial
  | act => exact hst'
  | _ => trivial

/-- **A move that comes to nothing spares connections and leases.** -/
theorem Trades.spares (h : st.Trades eager p x st' p') (hst' : st'.Fruitless)
    (hrest : st.rest <:+ Acquire.abandoned) : p.Spares p' := by
  cases h with
  | look _ _ hp =>
    rcases hp with rfl | rfl
    · exact .refl _
    · exact p.spares_prune
  | pick | make | hold => exact hst'.elim
  | adopt =>
    cases eager with
    | _ => exact hst'.elim
  | close => exact absurd rfl hst'
  | act action =>
    -- to return the permit and to leave the count is all that it may have to do
    have haction : action ∈ Acquire.abandoned := hrest.subset List.mem_cons_self
    rcases List.mem_pair.mp haction with rfl | rfl
    · exact ⟨rfl, rfl, rfl, .inl rfl, rfl, rfl⟩
    · exact ⟨rfl, rfl, rfl, .inl rfl, rfl, rfl⟩
  | _ => exact ⟨rfl, rfl, rfl, .inl rfl, rfl, rfl⟩

/-- **Who is counted as creating** is in the count, and a move keeps this. -/
theorem Trades.counted (h : st.Trades eager p x st' p') (hle : st.counted eager ≤ p.creating) :
    p'.creating + st.counted eager = p.creating + st'.counted eager := by
  cases h with
  | look hst hst' hp =>
    rw [hst.counted_eq_zero, hst'.counted_eq_zero]
    rcases hp with rfl | rfl
    · rfl
    · rfl
  | pick hst hq =>
    rw [hst.counted_eq_zero]
    rcases hq with rfl | rfl
    · rfl
    · rfl
  | quit hst =>
    rw [hst.counted_eq_zero]
    rfl
  | hold m =>
    cases eager with
    | true => exact Nat.sub_add_cancel hle
    | false => rfl
  | @adopt a heager m =>
    subst heager
    change p.creating + _ = p.creating + (a.adopted m).count .leaveCreation
    rw [Acquire.adopted]
    split
    · next h => exact congrArg _ (if_pos h)
    · next h => exact congrArg _ (if_neg h)
  | @close a heager m =>
    subst heager
    change p.creating + _ = p.creating + (a.unadopted m).count .leaveCreation
    rw [Acquire.unadopted]
    split
    · next h => exact congrArg _ (if_pos h)
    · next h => exact congrArg _ (if_neg h)
  | giveUp h =>
    rcases h with ⟨_, _, rfl⟩ | ⟨_, _, rfl⟩
    · rfl
    · rfl
  | act action rest => exact p.creating_perform hle
  | _ => rfl

/-- Numbers are given out in order. -/
theorem Trades.generation (h : st.Trades eager p x st' p') :
    Exchange.numbers x.toList = List.range' (p.generation + 1) (Exchange.numbers x.toList).length ∧
      p'.generation = p.generation + (Exchange.numbers x.toList).length := by
  cases h with
  | look _ _ hp =>
    rcases hp with rfl | rfl
    · exact ⟨rfl, rfl⟩
    · exact ⟨rfl, rfl⟩
  | pick _ hq =>
    rcases hq with rfl | rfl
    · exact ⟨rfl, rfl⟩
    · exact ⟨rfl, rfl⟩
  | hold =>
    refine ⟨rfl, ?_⟩
    split
    · rfl
    · rfl
  | act action =>
    cases action with
    | _ => exact ⟨rfl, rfl⟩
  | _ => exact ⟨rfl, rfl⟩

/-- A move that leaves an acquisition where it was gives out no number. -/
theorem Trades.generation_eq_of_same (h : st.Trades eager p x st p') :
    p'.generation = p.generation := by
  cases h with
  | look _ _ hp =>
    rcases hp with rfl | rfl
    · rfl
    · rfl
  | pick hlooks => exact hlooks.elim
  | quit => rfl
  | giveUp h => rfl

/-- Who is told that the pool is closed has seen it, or was told before. -/
theorem Trades.closed_or (h : st.Trades eager p x st' p') {rest : List Action}
    (hst' : st' = .ending rest (.failed .poolClosed)) :
    p.closed = true ∨ ∃ rest, st = .ending rest (.failed .poolClosed) := by
  cases h with
  | look _ hlooks =>
    subst hst'
    exact hlooks.elim
  | quit _ ho =>
    cases ho with
    | closed hclosed => exact .inl hclosed
    | exhausted | overflow | aborted => cases hst'
  | adopt =>
    cases eager with
    | _ => cases hst'
  | close _ _ hclosed => exact .inl hclosed
  | act action rest o =>
    cases hst'
    exact .inr ⟨_, rfl⟩
  | _ => cases hst'

end AcquireStage

/-! ## The books of an acquisition -/

/-- A move of an acquisition, as it is recorded. -/
structure Passage (κ : Type) where
  exchange : Option (Exchange κ)
  before : Pool κ
  after : Pool κ

namespace Passage

variable {κ : Type} {es : List (Passage κ)} {p p' : Pool κ}

def exchanges (es : List (Passage κ)) : List (Exchange κ) := es.filterMap (·.exchange)

/-- What some moves have done to a number of the pool, all together. -/
def net (f : Pool κ → Nat) (es : List (Passage κ)) : ℤ :=
  (es.map fun e ↦ (f e.after : ℤ) - f e.before).sum

/-- Nobody else has done anything between these moves. -/
def Undisturbed : Pool κ → List (Passage κ) → Pool κ → Prop
  | p, [], p' => p' = p
  | p, e :: es, p' => e.before = p ∧ Undisturbed e.after es p'

theorem exchanges_concat (es : List (Passage κ)) (e : Passage κ) :
    exchanges (es ++ [e]) = exchanges es ++ e.exchange.toList := by
  rw [exchanges, List.filterMap_append]
  cases h : e.exchange with
  | none => simp [exchanges, h]
  | some x => simp [exchanges, h]

theorem net_concat (f : Pool κ → Nat) (es : List (Passage κ)) (e : Passage κ) :
    net f (es ++ [e]) = net f es + (f e.after - f e.before) := by
  rw [net, List.map_append, List.sum_append]
  exact congrArg _ List.sum_singleton

theorem Undisturbed.net_eq (h : Undisturbed p es p') (f : Pool κ → Nat) :
    net f es = f p' - f p := by
  induction es generalizing p with
  | nil =>
    obtain rfl : p' = p := h
    exact (Int.sub_self _).symm
  | cons e es ih =>
    obtain ⟨rfl, hrest⟩ := h
    have hsum : net f (e :: es) = (f e.after - f e.before) + net f es := List.sum_cons
    rw [hsum, ih hrest]
    omega

theorem Undisturbed.spares [Closable κ] (h : Undisturbed p es p')
    (hspares : ∀ e ∈ es, e.before.Spares e.after) : p.Spares p' := by
  induction es generalizing p with
  | nil =>
    obtain rfl : p' = p := h
    exact .refl _
  | cons e es ih =>
    obtain ⟨rfl, hrest⟩ := h
    obtain ⟨hfirst, hlater⟩ := List.forall_mem_cons.mp hspares
    exact hfirst.trans (ih hrest hlater)

end Passage

namespace Acquire

open Passage (net exchanges)

variable {κ : Type} [Closable κ] {config : PoolConfig} {target : String} {a a' : Acquire}
  {es : List (Passage κ)} {p p' : Pool κ} {x : Option (Exchange κ)}

/-- All that the moves of an acquisition so far add up to. -/
structure Booked (config : PoolConfig) (target : String) (a : Acquire) (es : List (Passage κ)) :
    Prop where
  recorded : a.stage.Recorded config target a.eager (exchanges es)
  spares : a.stage.Fruitless → ∀ e ∈ es, e.before.Spares e.after
  /-- A permit that is gone is with a slot, or in the hands of the acquisition. -/
  permits : net Pool.permits es + net (·.slots.length) es +
    (a.stage.creating + a.stage.rest.count .returnPermit : Nat) = 0
  creating : net Pool.creating es = a.stage.counted a.eager
  generation : net Pool.generation es = (Exchange.numbers (exchanges es)).length
  closed : ∀ rest, a.stage = .ending rest (.failed .poolClosed) → ∃ e ∈ es, e.before.closed = true

theorem booked_nil (h : a.stage.Looks ∨ a.stage = .ending [] .overflow) :
    a.Booked config target ([] : List (Passage κ)) := by
  obtain ⟨lastAttempt, eager, deadline, inFlightDeadline, stage⟩ := a
  rcases h with hlooks | rfl
  · constructor
    · exact .looking hlooks
    · exact fun _ ↦ List.forall_mem_nil _
    · dsimp only
      rw [hlooks.creating_eq_zero, hlooks.rest_eq_nil]
      rfl
    · exact (congrArg Nat.cast (hlooks.counted_eq_zero eager)).symm
    · rfl
    · rintro rest rfl
      exact hlooks.elim
  · constructor
    · exact .denied (AcquireOutcome.Denies.overflow (p := Pool.start config target))
    · exact fun _ ↦ List.forall_mem_nil _
    · rfl
    · rfl
    · rfl
    · rintro rest hrest
      cases hrest

/-- **A move is booked.** -/
theorem Booked.move (hs : a.Booked config target es) (h : a.Trades p x a' p')
    (hconfig : p.config = config) (htarget : p.target = target)
    (hcounted : a.stage.counted a.eager ≤ p.creating) :
    a'.Booked config target (es ++ [⟨x, p, p'⟩]) := by
  obtain ⟨heager, hstage⟩ := h.spec
  constructor
  · rw [heager, Passage.exchanges_concat]
    exact hstage.recorded hconfig htarget hs.recorded
  · -- what comes to nothing was coming to nothing before the move
    intro hfruitless
    have hbefore := hstage.fruitless hfruitless
    have hmove := hstage.spares hfruitless (hs.recorded.rest_suffix hbefore)
    exact List.forall_mem_append.mpr ⟨hs.spares hbefore, List.forall_mem_singleton.mpr hmove⟩
  · -- what a move passes on, from the pool to the acquisition or back, cancels
    have hbooked := hs.permits
    have hmove := (passes_of_moves h.moves).conserves
    rw [Passage.net_concat, Passage.net_concat]
    dsimp only
    omega
  · have hbooked := hs.creating
    have hmove := hstage.counted hcounted
    rw [Passage.net_concat, heager]
    dsimp only
    omega
  · have hbooked := hs.generation
    have hmove := hstage.generation.2
    rw [Passage.net_concat, Passage.exchanges_concat, Exchange.numbers_append, List.length_append]
    dsimp only
    omega
  · intro rest hrest
    rcases hstage.closed_or hrest with hclosed | ⟨rest, hrest⟩
    · exact ⟨_, List.mem_append_right _ (List.mem_singleton.mpr rfl), hclosed⟩
    · obtain ⟨e, he, hclosed⟩ := hs.closed rest hrest
      exact ⟨e, List.mem_append_left _ he, hclosed⟩

end Acquire

/-! ## How it ends -/

/-- The acquisition needs nobody else to end, and has an outcome of some kind. -/
def Acquire.EndsWith (κ : Type) [Closable κ] (a : Acquire) (P : AcquireOutcome → Prop) : Prop :=
  (∀ o, a.outcome? = some o → P o) ∧
    (a.outcome? = none → ∀ (p : Pool κ) (now : Nat), (a.step p now).isSome = true)

namespace Acquire

variable {κ : Type} [Closable κ] {a : Acquire} {P : AcquireOutcome → Prop} {m : Nat}

omit [Closable κ] in
theorem stage_of_outcome? {o : AcquireOutcome} (h : a.outcome? = some o) :
    a.stage = .ending [] o := by
  rw [outcome?] at h
  split at h
  · next hst => rw [hst, Option.some.inj h]
  · cases h

theorem endsWith_of_ending {rest : List Action} {o : AcquireOutcome}
    (hst : a.stage = .ending rest o) (ho : P o) : a.EndsWith κ P := by
  constructor
  · intro o' ho'
    cases hst.symm.trans (stage_of_outcome? ho')
    exact ho
  · intro hnone p now
    rw [step, hst]
    cases rest with
    | nil =>
      rw [outcome?, hst] at hnone
      cases hnone
    | cons => rfl

theorem endsWith_of_inHand (hst : a.stage = .holding m ∨ a.stage = .adopting m) :
    a.EndsWith κ P := by
  constructor
  · intro o ho
    rcases hst with hst | hst
    · cases hst.symm.trans (stage_of_outcome? ho)
    · cases hst.symm.trans (stage_of_outcome? ho)
  · intro _ p now
    rw [step]
    rcases hst with hst | hst
    · rw [hst]
      rfl
    · rw [hst]
      dsimp only
      split
      · rfl
      · rfl

end Acquire

/-- What some moves leave that have come to nothing: connections and leases are as they were, a
permit is free for each slot that was pruned, and the count of creations is as it was. So if nobody
else has done anything in between, the pool is as it was, up to pruning and to the numbers that were
used. -/
structure Passage.Undone {κ : Type} [Closable κ] (es : List (Passage κ)) : Prop where
  spares : ∀ e ∈ es, e.before.Spares e.after
  permits : net Pool.permits es = -net (·.slots.length) es
  creating : net Pool.creating es = 0
  generation : net Pool.generation es = (Exchange.numbers (exchanges es)).length
  alone : ∀ p p', Undisturbed p es p' → p.Spares p' ∧
    p'.permits + p'.slots.length = p.permits + p.slots.length ∧ p'.creating = p.creating ∧
    p'.generation = p.generation + (Exchange.numbers (exchanges es)).length

/-- **An acquisition that has come to nothing** has undone what it did. -/
theorem Acquire.Booked.undone {κ : Type} [Closable κ] {config : PoolConfig} {target : String}
    {a : Acquire} {es : List (Passage κ)} (hs : a.Booked config target es) {o : AcquireOutcome}
    (hst : a.stage = .ending [] o) (ho : o.Fruitless) : Passage.Undone es := by
  obtain ⟨-, hspares, hpermits, hcreating, hgeneration, -⟩ := hs
  rw [hst] at hspares hpermits hcreating
  have hspared := hspares ho
  have hheld : (AcquireStage.ending [] o).creating +
      (AcquireStage.ending [] o).rest.count .returnPermit = 0 := rfl
  have huncounted : (AcquireStage.ending [] o).counted a.eager = 0 := rfl
  rw [hheld] at hpermits
  rw [huncounted] at hcreating
  refine ⟨hspared, by omega, hcreating, hgeneration, fun p p' halone ↦ ⟨halone.spares hspared, ?_⟩⟩
  rw [halone.net_eq, halone.net_eq] at hpermits
  rw [halone.net_eq] at hcreating hgeneration
  omega

end RpcTransport
