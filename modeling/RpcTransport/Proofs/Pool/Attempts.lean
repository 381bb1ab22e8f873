import RpcTransport.Proofs.Pool.Callers

/-!
# The attempts of a creation

A creation asks the factory for a connection, again if it fails, but not for ever. What passes
between an acquisition and the factory is recorded (`Acquire.Trades`), and it is always one of few
things: attempts that failed, as many as there may be, or fewer and then perhaps one more, which is
under way or has succeeded. Which of them it is can be told from the stage of the acquisition
(`AcquireStage.Recorded`), and every move keeps this (`AcquireStage.Trades.recorded`).
-/

namespace RpcTransport

open Pool (Action)

/-! ## What passes between an acquisition and the factory -/

inductive Exchange (κ : Type) where
  /-- The factory is asked for a connection, under a number. -/
  | ask (generation : Nat)
  | made (member : Nat) (connection : κ)
  | failed (e : TransportError)

namespace Exchange

variable {κ : Type}

/-- The numbers that the factory was asked with. -/
def numbers (xs : List (Exchange κ)) : List Nat :=
  xs.filterMap fun
    | ask generation => some generation
    | _ => none

/-- The errors that the factory answered. -/
def errors (xs : List (Exchange κ)) : List TransportError :=
  xs.filterMap fun
    | failed e => some e
    | _ => none

/-- Attempts that failed: with which number the factory was asked, and what it answered. -/
def tried (failures : List (Nat × TransportError)) : List (Exchange κ) :=
  failures.flatMap fun x ↦ [ask x.1, failed x.2]

theorem tried_concat (failures : List (Nat × TransportError)) (generation : Nat)
    (e : TransportError) :
    tried (κ := κ) (failures ++ [(generation, e)]) =
      tried failures ++ [ask generation] ++ [failed e] := by
  rw [tried, List.flatMap_append, List.append_assoc]
  rfl

theorem numbers_append (xs ys : List (Exchange κ)) :
    numbers (xs ++ ys) = numbers xs ++ numbers ys := List.filterMap_append

theorem errors_append (xs ys : List (Exchange κ)) : errors (xs ++ ys) = errors xs ++ errors ys :=
  List.filterMap_append

theorem numbers_tried (failures : List (Nat × TransportError)) :
    numbers (tried (κ := κ) failures) = failures.map Prod.fst := by
  induction failures with
  | nil => rfl
  | cons x failures ih => exact congrArg (x.1 :: ·) ih

theorem errors_tried (failures : List (Nat × TransportError)) :
    errors (tried (κ := κ) failures) = failures.map Prod.snd := by
  induction failures with
  | nil => rfl
  | cons x failures ih => exact congrArg (x.2 :: ·) ih

theorem made_notMem_tried (failures : List (Nat × TransportError)) (m : Nat) (c : κ) :
    made m c ∉ tried failures := by
  intro hmem
  obtain ⟨x, -, hx⟩ := List.mem_flatMap.mp hmem
  rcases List.mem_cons.mp hx with h | h
  · cases h
  · cases List.mem_singleton.mp h

/-- A connection that was made is the end of it. -/
theorem last_of_made {failures : List (Nat × TransportError)} {generation m n : Nat} {c d : κ}
    (h : made m c ∈ tried failures ++ [ask generation, made n d]) :
    m = n ∧ ∃ ys, tried failures ++ [ask generation, made n d] = ys ++ [made m c] ∧
      ∀ (k : Nat) (b : κ), made k b ∉ ys := by
  have hnone (k : Nat) (b : κ) : made k b ∉ tried failures ++ [ask generation] := by
    intro hmem
    rcases List.mem_append.mp hmem with hmem | hmem
    · exact made_notMem_tried failures k b hmem
    · cases List.mem_singleton.mp hmem
  rw [List.append_cons] at h ⊢
  rcases List.mem_append.mp h with h | h
  · exact absurd h (hnone m c)
  · cases List.mem_singleton.mp h
    exact ⟨rfl, _, rfl, hnone⟩

end Exchange

open Exchange (tried numbers errors tried_concat numbers_append errors_append numbers_tried
  errors_tried made_notMem_tried)

namespace Acquire

variable {κ : Type} [Closable κ]

def ask? (a : Acquire) (p : Pool κ) : Option (Exchange κ) :=
  match a.stage with
  | .attempting _ => some (.ask (p.generation + 1))
  | _ => none

/-- A move of an acquisition, with what passes between it and the factory. -/
inductive Trades : Acquire → Pool κ → Option (Exchange κ) → Acquire → Pool κ → Prop where
  | step {a a' : Acquire} {p p' : Pool κ} {now : Nat} (h : a.step p now = some (a', p')) :
      Trades a p (a.ask? p) a' p'
  | connected {a : Acquire} {made generation : Nat} (h : a.stage = .connecting made generation)
      (c : κ) (p : Pool κ) :
      Trades a p (some (.made p.members.length c)) (a.connected p c).1 (a.connected p c).2
  | refused {a : Acquire} {made generation : Nat} (h : a.stage = .connecting made generation)
      (now : Nat) (e : TransportError) (p : Pool κ) :
      Trades a p (some (.failed e)) (a.refused p now e) p
  | abort {a a' : Acquire} (h : a.abort = some a') (p : Pool κ) : Trades a p none a' p

theorem Trades.moves {a a' : Acquire} {p p' : Pool κ} {x : Option (Exchange κ)}
    (h : a.Trades p x a' p') : a.Moves p a' p' := by
  cases h with
  | step h => exact .step h
  | connected h c => exact .connected h c p
  | refused h now e => exact .refused h now e p
  | abort h => exact .abort h p

theorem Moves.exists_trades {a a' : Acquire} {p p' : Pool κ} (h : a.Moves p a' p') :
    ∃ x, a.Trades p x a' p' := by
  cases h with
  | step h => exact ⟨_, .step h⟩
  | connected h c => exact ⟨_, .connected h c p⟩
  | refused h now e => exact ⟨_, .refused h now e p⟩
  | abort h => exact ⟨_, .abort h p⟩

end Acquire

/-! ## What a move does -/

namespace AcquireStage

/-- The acquisition looks for a connection and has no permit. -/
def Looks : AcquireStage → Prop
  | .checking | .listening | .choosing _ | .reserving _ | .sharing _ | .deciding _
  | .waiting _ _ => True
  | _ => False

end AcquireStage

/-- How an acquisition may end that has not asked the factory. -/
inductive AcquireOutcome.Denies {κ : Type} (p : Pool κ) : AcquireOutcome → Prop where
  | closed (h : p.closed = true) : Denies p (.failed .poolClosed)
  | exhausted : Denies p (.failed p.exhausted)
  | overflow : Denies p .overflow
  | aborted : Denies p .aborted

/-- The last attempt has failed as well. -/
def Acquire.refusal {κ : Type} (p : Pool κ) (e : TransportError) : TransportError :=
  .connectFailed p.target
    s!"{attempts p.config} attempts failed, last error: {e.message}"

namespace AcquireStage

/-- What a move does to the stage and to the pool, with all that concerns a creation. -/
inductive Trades {κ : Type} [Closable κ] (eager : Bool) :
    AcquireStage → Pool κ → Option (Exchange κ) → AcquireStage → Pool κ → Prop where
  | look {st st' : AcquireStage} {p p' : Pool κ} (hst : st.Looks) (hst' : st'.Looks)
      (hp : p' = p ∨ p' = p.prune) : Trades eager st p none st' p'
  | pick {st : AcquireStage} {p q : Pool κ} (hst : st.Looks) (hq : q = p ∨ q = p.prune) (m : Nat) :
      Trades eager st p none (.ending [] (.leased m)) (q.addLease m)
  | quit {st : AcquireStage} {o : AcquireOutcome} {p : Pool κ} (hst : st.Looks) (ho : o.Denies p) :
      Trades eager st p none (.ending [] o) p
  | reserve {p : Pool κ} (h : 0 < p.permits) (seen : Nat) :
      Trades eager (.reserving seen) p none .entering { p with permits := p.permits - 1 }
  | enter (p : Pool κ) :
      Trades eager .entering p none (.attempting 0) { p with creating := p.creating + 1 }
  | ask (made : Nat) (p : Pool κ) :
      Trades eager (.attempting made) p (some (.ask (p.generation + 1)))
        (.connecting made (p.generation + 1)) { p with generation := p.generation + 1 }
  | make (made generation : Nat) (c : κ) (p : Pool κ) :
      Trades eager (.connecting made generation) p (some (.made p.members.length c))
        (.holding p.members.length) (p.addMember c).2
  | retry {made : Nat} {p : Pool κ} (h : made + 1 < Acquire.attempts p.config)
      (generation due : Nat) (e : TransportError) :
      Trades eager (.connecting made generation) p (some (.failed e)) (.pausing (made + 1) due) p
  | fail {made : Nat} {p : Pool κ} (h : Acquire.attempts p.config ≤ made + 1) (generation : Nat)
      (e : TransportError) :
      Trades eager (.connecting made generation) p (some (.failed e))
        (.ending Acquire.abandoned (.failed (Acquire.refusal p e))) p
  | resume (made due : Nat) (p : Pool κ) :
      Trades eager (.pausing made due) p none (.attempting made) p
  | giveUp {st : AcquireStage} (h : (∃ made generation, st = .connecting made generation) ∨
      ∃ made due, st = .pausing made due) (p : Pool κ) :
      Trades eager st p none (.ending Acquire.abandoned .aborted) p
  | hold (m : Nat) (p : Pool κ) : Trades eager (.holding m) p none (.adopting m)
      (if eager then p.perform .leaveCreation else p.addLease m)
  | adopt {a : Acquire} (h : a.eager = eager) (m : Nat) (p : Pool κ) :
      Trades eager (.adopting m) p none
        (.ending (a.adopted m) (if eager then .made m else .leased m))
        { p with slots := p.slots ++ [m] }
  | close {a : Acquire} (h : a.eager = eager) (m : Nat) {p : Pool κ} (hclosed : p.closed = true) :
      Trades eager (.adopting m) p none (.ending (a.unadopted m) (.failed .poolClosed)) p
  | act (action : Action) (rest : List Action) (o : AcquireOutcome) (p : Pool κ) :
      Trades eager (.ending (action :: rest) o) p none (.ending rest o) (p.perform action)

end AcquireStage

namespace Acquire

variable {κ : Type} [Closable κ] {a a' : Acquire} {p p' : Pool κ} {x : Option (Exchange κ)}

theorem trades_of_step {now : Nat} (h : a.step p now = some (a', p')) :
    a'.eager = a.eager ∧ a.stage.Trades a.eager p (a.ask? p) a'.stage p' := by
  obtain ⟨lastAttempt, eager, deadline, inFlightDeadline, stage⟩ := a
  cases does_of_step h with
  | refuse hclosed => exact ⟨rfl, .quit trivial (.closed hclosed)⟩
  | check | listen | noPermit | noShare | wait | again =>
    exact ⟨rfl, .look trivial trivial (.inl rfl)⟩
  | pick =>
    refine ⟨rfl, .pick ?_ (.inr rfl) _⟩
    trivial
  | busy => exact ⟨rfl, .look trivial trivial (.inr rfl)⟩
  | reserve hpermit => exact ⟨rfl, .reserve hpermit _⟩
  | forgo | expire => exact ⟨rfl, .quit trivial .exhausted⟩
  | enter => exact ⟨rfl, .enter p⟩
  | attempt => exact ⟨rfl, .ask _ p⟩
  | resume => exact ⟨rfl, .resume _ _ _⟩
  | hold => exact ⟨rfl, .hold _ p⟩
  | adopt => exact ⟨rfl, .adopt rfl _ p⟩
  | reject hclosed => exact ⟨rfl, .close rfl _ hclosed⟩
  | share =>
    refine ⟨rfl, .pick ?_ (.inl rfl) _⟩
    trivial
  | giveUp ho =>
    refine ⟨rfl, .quit trivial ?_⟩
    rcases ho with rfl | rfl
    · exact .overflow
    · exact .exhausted
  | act => exact ⟨rfl, .act _ _ _ p⟩

/-- **What a move of an acquisition does.** -/
theorem Trades.spec (h : a.Trades p x a' p') :
    a'.eager = a.eager ∧ a.stage.Trades a.eager p x a'.stage p' := by
  cases h with
  | step h => exact trades_of_step h
  | connected h c =>
    rw [h]
    exact ⟨rfl, .make _ _ c p⟩
  | refused h now e =>
    rw [Acquire.refused, h]
    dsimp only
    split
    · next hagain => exact ⟨rfl, .retry hagain _ _ e⟩
    · next hlast => exact ⟨rfl, .fail (Nat.le_of_not_lt hlast) _ e⟩
  | abort h =>
    rw [Acquire.abort] at h
    split at h
    · next made generation hst =>
      obtain rfl := Option.some.inj h
      rw [hst]
      exact ⟨rfl, .giveUp (.inl ⟨made, generation, rfl⟩) p⟩
    · next made due hst =>
      obtain rfl := Option.some.inj h
      rw [hst]
      exact ⟨rfl, .giveUp (.inr ⟨made, due, rfl⟩) p⟩
    · next seen deadline hst =>
      obtain rfl := Option.some.inj h
      rw [hst]
      exact ⟨rfl, .quit trivial .aborted⟩
    · cases h

end Acquire

/-! ## What has passed so far -/

theorem Acquire.attempts_pos (config : PoolConfig) : 0 < attempts config :=
  Nat.lt_min.mpr ⟨Nat.succ_pos _, by decide⟩

namespace AcquireStage

/-- What has passed between an acquisition and the factory, by its stage. -/
inductive Recorded {κ : Type} (config : PoolConfig) (target : String) (eager : Bool) :
    AcquireStage → List (Exchange κ) → Prop where
  | looking {st : AcquireStage} (h : st.Looks) : Recorded config target eager st []
  | entering : Recorded config target eager .entering []
  | picked (m : Nat) : Recorded config target eager (.ending [] (.leased m)) []
  | denied {o : AcquireOutcome} {p : Pool κ} (h : o.Denies p) :
      Recorded config target eager (.ending [] o) []
  | attempting {failures : List (Nat × TransportError)} {made : Nat}
      (hmade : failures.length = made) (h : made < Acquire.attempts config) :
      Recorded config target eager (.attempting made) (tried failures)
  | pausing {failures : List (Nat × TransportError)} {made : Nat}
      (hmade : failures.length = made) (h : made < Acquire.attempts config) (due : Nat) :
      Recorded config target eager (.pausing made due) (tried failures)
  | connecting {failures : List (Nat × TransportError)} {made : Nat}
      (hmade : failures.length = made) (h : made < Acquire.attempts config) (generation : Nat) :
      Recorded config target eager (.connecting made generation)
        (tried failures ++ [.ask generation])
  | holding {failures : List (Nat × TransportError)}
      (h : failures.length < Acquire.attempts config) (generation m : Nat) (c : κ) :
      Recorded config target eager (.holding m) (tried failures ++ [.ask generation, .made m c])
  | adopting {failures : List (Nat × TransportError)}
      (h : failures.length < Acquire.attempts config) (generation m : Nat) (c : κ) :
      Recorded config target eager (.adopting m) (tried failures ++ [.ask generation, .made m c])
  | made {o : AcquireOutcome} {failures : List (Nat × TransportError)} {m : Nat}
      (ho : o = (if eager then .made m else .leased m) ∨ o = .failed .poolClosed)
      (h : failures.length < Acquire.attempts config) (rest : List Action) (generation : Nat)
      (c : κ) : Recorded config target eager (.ending rest o)
        (tried failures ++ [.ask generation, .made m c])
  | failed {failures : List (Nat × TransportError)} {rest : List Action}
      (h : failures.length + 1 = Acquire.attempts config) (hrest : rest <:+ Acquire.abandoned)
      (generation : Nat) (e : TransportError) :
      Recorded config target eager (.ending rest (.failed (.connectFailed target
          s!"{Acquire.attempts config} attempts failed, last error: {e.message}")))
        (tried (failures ++ [(generation, e)]))
  /-- The caller has lost interest between two attempts. -/
  | paused {failures : List (Nat × TransportError)} {rest : List Action}
      (h : failures.length < Acquire.attempts config) (hrest : rest <:+ Acquire.abandoned) :
      Recorded config target eager (.ending rest .aborted) (tried failures)
  | asked {failures : List (Nat × TransportError)} {rest : List Action}
      (h : failures.length < Acquire.attempts config) (hrest : rest <:+ Acquire.abandoned)
      (generation : Nat) :
      Recorded config target eager (.ending rest .aborted) (tried failures ++ [.ask generation])

variable {κ : Type} [Closable κ] {st st' : AcquireStage} {p p' : Pool κ}
  {x : Option (Exchange κ)} {xs : List (Exchange κ)} {config : PoolConfig} {target : String}
  {eager : Bool}

section

omit [Closable κ]

variable {made generation due m : Nat}

theorem Recorded.eq_nil (h : st.Recorded config target eager xs) (hst : st.Looks) : xs = [] := by
  cases h with
  | looking => rfl
  | _ => exact hst.elim

theorem Recorded.of_connecting
    (h : (AcquireStage.connecting made generation).Recorded config target eager xs) :
    ∃ failures, failures.length = made ∧ made < Acquire.attempts config ∧
      xs = tried failures ++ [.ask generation] := by
  cases h with
  | looking h => exact h.elim
  | connecting hmade h => exact ⟨_, hmade, h, rfl⟩

theorem Recorded.of_pausing
    (h : (AcquireStage.pausing made due).Recorded config target eager xs) :
    ∃ failures, failures.length = made ∧ made < Acquire.attempts config ∧
      xs = tried failures := by
  cases h with
  | looking h => exact h.elim
  | pausing hmade h => exact ⟨_, hmade, h, rfl⟩

theorem Recorded.of_adopting (h : (AcquireStage.adopting m).Recorded config target eager xs) :
    ∃ failures generation c, failures.length < Acquire.attempts config ∧
      xs = tried failures ++ [.ask generation, .made m c] := by
  cases h with
  | looking h => exact h.elim
  | adopting h => exact ⟨_, _, _, h, rfl⟩

end

/-- **A move keeps to the order of attempts.** -/
theorem Trades.recorded (h : st.Trades eager p x st' p') (hconfig : p.config = config)
    (htarget : p.target = target) (hst : st.Recorded config target eager xs) :
    st'.Recorded config target eager (xs ++ x.toList) := by
  subst hconfig htarget
  cases h with
  | look hlooks hlooks' =>
    obtain rfl := hst.eq_nil hlooks
    exact .looking hlooks'
  | pick hlooks _ m =>
    obtain rfl := hst.eq_nil hlooks
    exact .picked m
  | quit hlooks ho =>
    obtain rfl := hst.eq_nil hlooks
    exact .denied ho
  | reserve h seen =>
    have hlooks : (AcquireStage.reserving seen).Looks := trivial
    obtain rfl := hst.eq_nil hlooks
    exact .entering
  | enter =>
    cases hst with
    | looking h => exact h.elim
    | entering =>
      change Recorded p.config p.target eager _ (tried [])
      exact .attempting rfl (Acquire.attempts_pos _)
  | ask made =>
    cases hst with
    | looking h => exact h.elim
    | attempting hmade h => exact .connecting hmade h _
  | make made generation c =>
    obtain ⟨failures, rfl, h, rfl⟩ := hst.of_connecting
    rw [List.append_assoc]
    exact .holding h _ _ c
  | retry hagain generation due e =>
    obtain ⟨failures, rfl, -, rfl⟩ := hst.of_connecting
    change Recorded p.config p.target eager _ (_ ++ [.failed e])
    rw [← tried_concat]
    refine .pausing ?_ hagain due
    exact List.length_append
  | fail hlast generation e =>
    obtain ⟨failures, rfl, h, rfl⟩ := hst.of_connecting
    change Recorded p.config p.target eager _ (_ ++ [.failed e])
    rw [← tried_concat]
    -- that there is no attempt left, and that this one was allowed, makes them exactly as many
    exact .failed (Nat.le_antisymm h hlast) List.suffix_rfl generation e
  | resume made due =>
    rw [Option.toList_none, List.append_nil]
    obtain ⟨failures, hmade, h, rfl⟩ := hst.of_pausing
    exact .attempting hmade h
  | giveUp h =>
    rw [Option.toList_none, List.append_nil]
    rcases h with ⟨made, generation, rfl⟩ | ⟨made, due, rfl⟩
    · obtain ⟨failures, rfl, h, rfl⟩ := hst.of_connecting
      exact .asked h List.suffix_rfl generation
    · obtain ⟨failures, rfl, h, rfl⟩ := hst.of_pausing
      exact .paused h List.suffix_rfl
  | hold m =>
    rw [Option.toList_none, List.append_nil]
    cases hst with
    | looking h => exact h.elim
    | holding h generation _ c => exact .adopting h generation m c
  | adopt heager m =>
    rw [Option.toList_none, List.append_nil]
    obtain ⟨failures, generation, c, h, rfl⟩ := hst.of_adopting
    exact .made (.inl rfl) h _ generation c
  | close heager m =>
    rw [Option.toList_none, List.append_nil]
    obtain ⟨failures, generation, c, h, rfl⟩ := hst.of_adopting
    exact .made (.inr rfl) h _ generation c
  | act action rest o =>
    rw [Option.toList_none, List.append_nil]
    cases hst with
    | looking h => exact h.elim
    | made ho h _ generation c => exact .made ho h rest generation c
    | failed h hrest generation e =>
      exact .failed h ((List.suffix_cons action rest).trans hrest) generation e
    | paused h hrest => exact .paused h ((List.suffix_cons action rest).trans hrest)
    | asked h hrest generation =>
      exact .asked h ((List.suffix_cons action rest).trans hrest) generation

/-! ## What can be told from the record -/

section

omit [Closable κ]

/-- **There are no more attempts than there may be.** -/
theorem Recorded.length_numbers_le (h : st.Recorded config target eager xs) :
    (numbers xs).length ≤ Acquire.attempts config := by
  cases h with
  | looking | entering | picked | denied => exact Nat.zero_le _
  | attempting hmade h | pausing hmade h =>
    rw [numbers_tried, List.length_map, hmade]
    exact Nat.le_of_lt h
  | connecting hmade h =>
    rw [numbers_append, numbers_tried, List.length_append, List.length_map, hmade]
    exact h
  | holding h | adopting h | made _ h | asked h =>
    rw [numbers_append, numbers_tried, List.length_append, List.length_map]
    exact h
  | failed h =>
    rw [numbers_tried, List.length_map, List.length_append]
    exact Nat.le_of_eq h
  | paused h =>
    rw [numbers_tried, List.length_map]
    exact Nat.le_of_lt h

/-- **The first success is the last attempt**, and the acquisition ends with its connection, unless
the pool is closed. -/
theorem Recorded.of_made (h : st.Recorded config target eager xs) {m : Nat} {c : κ}
    (hm : .made m c ∈ xs) :
    (∃ ys, xs = ys ++ [.made m c] ∧ ∀ (n : Nat) (d : κ), .made n d ∉ ys) ∧
      (st = .holding m ∨ st = .adopting m ∨ ∃ rest o, st = .ending rest o ∧
        (o = (if eager then .made m else .leased m) ∨ o = .failed .poolClosed)) := by
  cases h with
  | looking | entering | picked | denied => cases hm
  | attempting | pausing | failed | paused => exact absurd hm (made_notMem_tried _ m c)
  | connecting | asked =>
    rcases List.mem_append.mp hm with hm | hm
    · exact absurd hm (made_notMem_tried _ m c)
    · cases List.mem_singleton.mp hm
  | holding =>
    obtain ⟨rfl, hlast⟩ := Exchange.last_of_made hm
    exact ⟨hlast, .inl rfl⟩
  | adopting =>
    obtain ⟨rfl, hlast⟩ := Exchange.last_of_made hm
    exact ⟨hlast, .inr (.inl rfl)⟩
  | made ho =>
    obtain ⟨rfl, hlast⟩ := Exchange.last_of_made hm
    exact ⟨hlast, .inr (.inr ⟨_, _, rfl, ho⟩)⟩

/-- **After as many failures as there may be, the creation fails**, and tells of the last. -/
theorem Recorded.of_length_errors (h : st.Recorded config target eager xs)
    (hall : (errors xs).length = Acquire.attempts config) :
    ∃ rest e, (errors xs).getLast? = some e ∧
      st = .ending rest (.failed (.connectFailed target
        s!"{Acquire.attempts config} attempts failed, last error: {e.message}")) := by
  -- who has not failed for good has an attempt left, or the one under way
  have hmore {failures : List (Nat × TransportError)}
      (h : failures.length < Acquire.attempts config) (ys : List (Exchange κ))
      (hys : errors ys = []) :
      (errors (tried failures ++ ys)).length ≠ Acquire.attempts config := by
    rw [errors_append, errors_tried, hys, List.append_nil, List.length_map]
    exact Nat.ne_of_lt h
  cases h with
  | looking | entering | picked | denied =>
    exact absurd hall (Nat.ne_of_lt (Acquire.attempts_pos config))
  | attempting hmade h | pausing hmade h =>
    rw [← List.append_nil (tried _)] at hall
    exact absurd hall (hmore (hmade ▸ h) [] rfl)
  | paused h =>
    rw [← List.append_nil (tried _)] at hall
    exact absurd hall (hmore h [] rfl)
  | connecting hmade h => exact absurd hall (hmore (hmade ▸ h) _ rfl)
  | holding h | adopting h | made _ h | asked h => exact absurd hall (hmore h _ rfl)
  | failed _ _ generation e =>
    refine ⟨_, e, ?_, rfl⟩
    rw [errors_tried, List.map_append]
    exact List.getLast?_concat

theorem Recorded.of_connectFailed {rest : List Action} {address text : String}
    (h : (AcquireStage.ending rest (.failed (.connectFailed address text))).Recorded config target
      eager xs) :
    (errors xs).length = Acquire.attempts config ∧
      (numbers xs).length = Acquire.attempts config := by
  generalize ho : AcquireOutcome.failed (.connectFailed address text) = o at h
  cases h with
  | looking h => exact h.elim
  | picked => cases ho
  | denied h =>
    cases h with
    | _ => cases ho
  | made h =>
    rcases h with rfl | rfl
    · cases eager with
      | _ => cases ho
    · cases ho
  | failed h =>
    rw [errors_tried, numbers_tried, List.length_map, List.length_map, List.length_append]
    exact ⟨h, h⟩
  | paused | asked => cases ho

/-- A creation does not end before that, unless its caller gives up or it has a connection. -/
theorem Recorded.aborted {rest : List Action} {o : AcquireOutcome}
    (h : (AcquireStage.ending rest o).Recorded config target eager xs) (hasked : numbers xs ≠ [])
    (hmore : (errors xs).length < Acquire.attempts config)
    (hnone : ∀ (m : Nat) (c : κ), .made m c ∉ xs) : o = .aborted := by
  cases h with
  | looking | picked | denied => exact absurd rfl hasked
  | made _ _ _ _ c =>
    exact (hnone _ c (List.mem_append_right _ (List.mem_cons_of_mem _ List.mem_cons_self))).elim
  | failed h =>
    rw [errors_tried, List.length_map, List.length_append] at hmore
    exact absurd h (Nat.ne_of_lt hmore)
  | paused | asked => rfl

end

end AcquireStage

end RpcTransport
