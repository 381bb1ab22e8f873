import RpcTransport.Proofs.Pool.Callers
import RpcTransport.Server

/-!
# Stopping a server

The tasks of accepted streams and the one who stops the server, in any order of their steps.
Streams are accepted at any time, handshakes may fail, and connections change and close on their
own.

## The window

Stopping scans the list once. A task looks at the stop flag once, and two steps later, when it has
opened a connection, it enters it in the list. If the flag is set and the list is scanned between
the look and the entry, nobody closes this connection: stopping does not know of it, and its task
waits for its end (`open_after_stop`).

The flag alone is enough for a task that has not looked yet, and the scan is enough for a
connection that is in the list. So what is left open when everything has come to rest belongs to a
task that was between the two when the flag was set, and this is all that stopping promises
(`unseen_of_open`).

## The invariant

An open connection is in the list, or its task is about to enter it, or the one who stops is about
to close it (`Sound`). Once the flag is set, it is on the list that is being worked off, or it is
one of a task in the window (`Accounted`).
-/

namespace RpcTransport

open Relation (ReflTransGen)

/-! ## Lists of tasks -/

section Tasks

variable {α : Type} {l : List α} {i j : Nat} {a b x : α}

private theorem getElem?_of_set (h : (l.set i a)[j]? = some b) : b = a ∨ l[j]? = some b := by
  by_cases hij : i = j
  · subst hij
    rw [List.getElem?_set_self'] at h
    obtain ⟨_, _, rfl⟩ := Option.map_eq_some_iff.mp h
    exact .inl rfl
  · rw [List.getElem?_set_ne hij] at h
    exact .inr h

/-- A task other than the one that moves stays where it is. -/
private theorem getElem?_set_of_ne (hi : l[i]? = some x) (hj : l[j]? = some b) (hb : b ≠ x)
    (a : α) : (l.set i a)[j]? = some b := by
  have hij : i ≠ j := by
    rintro rfl
    exact hb (Option.some.inj (hj.symm.trans hi))
  rw [List.getElem?_set_ne hij, hj]

private theorem getElem?_set_moved (hi : l[i]? = some x) (a : α) : (l.set i a)[i]? = some a :=
  List.getElem?_set_self (List.getElem?_eq_some_iff.mp hi).1

private theorem getElem?_of_append (h : (l ++ [a])[j]? = some b) (hb : b ≠ a) :
    l[j]? = some b := by
  rw [List.getElem?_append, List.getElem?_singleton] at h
  split at h
  · exact h
  · split at h
    · exact absurd (Option.some.inj h).symm hb
    · exact nomatch h

private theorem getElem?_append (h : l[j]? = some b) (a : α) : (l ++ [a])[j]? = some b :=
  (List.getElem?_append_left (List.getElem?_eq_some_iff.mp h).1).trans h

end Tasks

namespace Server

variable {κ : Type} [Closable κ]

/-- A connection of the server that is open. -/
def IsOpen (v : Server κ) (m : Nat) : Prop := v.isClosedAt m = false

section Closing

variable {v : Server κ} {m : Nat}

theorem IsOpen.lt (h : v.IsOpen m) : m < v.members.length := by
  refine Nat.lt_of_not_le fun hle ↦ ?_
  rw [IsOpen, isClosedAt, List.getElem?_eq_none hle] at h
  exact nomatch h

theorem IsOpen.of_modify {n : Nat} {f : κ → κ}
    (hf : ∀ c, Closable.isClosed c = true → Closable.isClosed (f c) = true)
    (h : IsOpen { v with members := v.members.modify n f } m) : v.IsOpen m := by
  rw [IsOpen, isClosedAt] at h ⊢
  rw [List.getElem?_modify] at h
  cases hm : v.members[m]? with
  | none => simp [hm] at h
  | some c =>
    rw [hm] at h
    by_cases hn : n = m
    · refine eq_false_of_ne_true fun hc ↦ ?_
      have hclosed := hf c (by simpa using hc)
      simp [hn, hclosed] at h
    · simpa [hn] using h

theorem IsOpen.of_closeMember [LawfulClosable κ] {n : Nat} {reason : String}
    (h : (v.closeMember n reason).IsOpen m) : v.IsOpen m ∧ m ≠ n := by
  refine ⟨h.of_modify fun c _ ↦ LawfulClosable.isClosed_close reason c, ?_⟩
  rintro rfl
  have hlt : m < v.members.length := by simpa [closeMember] using h.lt
  rw [IsOpen, closeMember, isClosedAt, List.getElem?_modify_eq,
    List.getElem?_eq_getElem hlt] at h
  simp [LawfulClosable.isClosed_close] at h

/-- A connection that was just opened is the last one. -/
theorem IsOpen.of_append {c : κ} (h : IsOpen { v with members := v.members ++ [c] } m) :
    v.IsOpen m ∨ m = v.members.length := by
  have hlt : m < v.members.length + 1 := by simpa using h.lt
  by_cases hm : m = v.members.length
  · exact .inr hm
  · refine .inl ?_
    rwa [IsOpen, isClosedAt, List.getElem?_append_left (by omega)] at h

end Closing

end Server

/-! ## What a step does -/

/-- The connection that a task has opened. -/
def AcceptStage.member? : AcceptStage → Option Nat
  | .listing m | .serving m | .unlisting m => some m
  | _ => none

/-- The task serves its stream, or has nothing left to do. -/
def AcceptStage.settled : AcceptStage → Bool
  | .serving _ | .ended => true
  | _ => false

/-- The one who stops has seen that the connection is in the list and is on the way to it. -/
def StopStage.Due (listed : List Nat) (m : Nat) : StopStage → Prop
  | .marking | .ended => False
  | .scanning => m ∈ listed
  | .removing rest => m ∈ rest ∧ m ∈ listed
  | .closing n rest => m = n ∨ m ∈ rest ∧ m ∈ listed

theorem StopStage.Due.mono {u : StopStage} {l l' : List Nat} {m : Nat} (h : u.Due l m)
    (hm : m ∈ l → m ∈ l') : u.Due l' m := by
  cases u with
  | marking | ended => exact h
  | scanning => exact hm h
  | removing rest => exact ⟨h.1, hm h.2⟩
  | closing n rest => exact h.imp_right fun h ↦ ⟨h.1, hm h.2⟩

/-- All that the task of an accepted stream can do. -/
inductive AcceptStage.Passes {κ : Type} [Closable κ] :
    AcceptStage → Server κ → AcceptStage → Server κ → Prop where
  | greet (v : Server κ) : Passes .handshaking v .checking v
  | fails (v : Server κ) : Passes .handshaking v .ended v
  | turnAway (v : Server κ) : Passes .checking v .ended v
  | goesOn {v : Server κ} (h : v.stopped = false) : Passes .checking v .opening v
  | opens (c : κ) (v : Server κ) : Passes .opening v (.listing v.members.length)
      { v with members := v.members ++ [c] }
  | enters (m : Nat) (v : Server κ) : Passes (.listing m) v (.serving m)
      { v with listed := v.listed ++ [m] }
  | leaves {m : Nat} {v : Server κ} (h : v.isClosedAt m = true) :
      Passes (.serving m) v (.unlisting m) v
  | unlists (m : Nat) (v : Server κ) : Passes (.unlisting m) v .ended
      { v with listed := v.listed.erase m }

/-- All that the one who stops the server can do. -/
inductive StopStage.Passes {κ : Type} [Closable κ] :
    StopStage → Server κ → StopStage → Server κ → Prop where
  | marks {t : StopStage} (h : t = .scanning ∨ t = .ended) (v : Server κ) :
      Passes .marking v t { v with stopped := true }
  | scans (v : Server κ) : Passes .scanning v (.removing v.listed) v
  | finishes (v : Server κ) : Passes (.removing []) v .ended v
  | removes (m : Nat) (rest : List Nat) (v : Server κ) :
      Passes (.removing (m :: rest)) v (.closing m rest) { v with listed := v.listed.erase m }
  | skips {m : Nat} {v : Server κ} (h : m ∉ v.listed) (rest : List Nat) :
      Passes (.removing (m :: rest)) v (.removing rest) v
  | closes (m : Nat) (rest : List Nat) (v : Server κ) :
      Passes (.closing m rest) v (.removing rest) (v.closeMember m "server shutting down")

namespace Server

variable {κ : Type} [Closable κ]

theorem passes_of_stepAccept {v v' : Server κ} {c : κ} {t t' : AcceptStage}
    (h : v.stepAccept c t = some (t', v')) : t.Passes v t' v' := by
  cases t with
  | ended => exact nomatch h
  | serving m =>
    rw [stepAccept] at h
    split at h
    · next hclosed =>
      obtain ⟨rfl, rfl⟩ := Prod.mk.inj (Option.some.inj h)
      exact .leaves hclosed
    · exact nomatch h
  | checking =>
    obtain ⟨ht, rfl⟩ := Prod.mk.inj (Option.some.inj h)
    by_cases hstopped : v.stopped = true
    · rw [if_pos hstopped] at ht
      exact ht ▸ .turnAway v
    · rw [if_neg hstopped] at ht
      exact ht ▸ .goesOn (eq_false_of_ne_true hstopped)
  | _ =>
    obtain ⟨rfl, rfl⟩ := Prod.mk.inj (Option.some.inj h)
    constructor

theorem passes_of_stepStop {v v' : Server κ} {t t' : StopStage}
    (h : v.stepStop t = some (t', v')) : t.Passes v t' v' := by
  cases t with
  | marking =>
    obtain ⟨rfl, rfl⟩ := Prod.mk.inj (Option.some.inj h)
    refine .marks ?_ v
    split <;> simp
  | scanning =>
    obtain ⟨rfl, rfl⟩ := Prod.mk.inj (Option.some.inj h)
    exact .scans v
  | removing rest =>
    cases rest with
    | nil =>
      obtain ⟨rfl, rfl⟩ := Prod.mk.inj (Option.some.inj h)
      exact .finishes v
    | cons m rest =>
      rw [stepStop] at h
      split at h
      all_goals obtain ⟨rfl, rfl⟩ := Prod.mk.inj (Option.some.inj h)
      · exact .removes m rest v
      · next hm => exact .skips (by simpa using hm) rest
  | closing m rest =>
    obtain ⟨rfl, rfl⟩ := Prod.mk.inj (Option.some.inj h)
    exact .closes m rest v
  | ended => exact nomatch h

section Steps

variable {v v' : Server κ} {m : Nat} {t t' : AcceptStage} {u u' : StopStage}

theorem isOpen_of_accept (h : t.Passes v t' v') (hm : v'.IsOpen m) :
    v.IsOpen m ∨ m = v.members.length ∧ t = .opening ∧ t' = .listing m := by
  cases h with
  | opens c =>
    rcases hm.of_append with hm | rfl
    · exact .inl hm
    · exact .inr ⟨rfl, rfl, rfl⟩
  | _ => exact .inl hm

/-- A task gets its connection by opening it, and keeps it. -/
theorem member_of_accept (h : t.Passes v t' v') (hm : t'.member? = some m) :
    t.member? = some m ∨ m = v.members.length ∧ v'.members.length = m + 1 := by
  cases h with
  | greet | fails | turnAway | goesOn | unlists => exact nomatch hm
  | opens c =>
    obtain rfl := Option.some.inj hm
    exact .inr ⟨rfl, by simp⟩
  | enters | leaves => exact .inl hm

theorem length_le_of_accept (h : t.Passes v t' v') : v.members.length ≤ v'.members.length := by
  cases h <;> simp

/-- Only a task that has seen its connection close takes it from the list. -/
theorem listed_of_accept (h : t.Passes v t' v') (hm : m ∈ v.listed) :
    m ∈ v'.listed ∨ t = .unlisting m := by
  cases h with
  | enters n => exact .inl (List.mem_append_left _ hm)
  | unlists n =>
    by_cases hn : m = n
    · exact .inr (by rw [hn])
    · exact .inl ((List.mem_erase_of_ne hn).mpr hm)
  | _ => exact .inl hm

/-- A task whose connection is open enters it in the list and then waits. -/
theorem serving_of_accept (h : t.Passes v t' v') (hm : v.IsOpen m) :
    (t = .listing m → t' = .serving m ∧ m ∈ v'.listed) ∧ (t = .serving m → t' = .serving m) := by
  constructor
  · rintro rfl
    cases h
    exact ⟨rfl, by simp⟩
  · rintro rfl
    cases h with
    | leaves hclosed => exact absurd hm (by simp [IsOpen, hclosed])

theorem marked_of_stop (h : u.Passes v u' v') : u' ≠ .marking := by
  cases h with
  | marks hu => rcases hu with rfl | rfl <;> exact nofun
  | _ => exact nofun

theorem stopped_of_stop (h : u.Passes v u' v') (hv : u ≠ .marking → v.stopped = true) :
    v'.stopped = true := by
  cases h with
  | marks => rfl
  | _ => exact hv nofun

theorem length_of_stop (h : u.Passes v u' v') : v'.members.length = v.members.length := by
  cases h <;> simp [closeMember]

variable [LawfulClosable κ]

theorem isOpen_of_stop (h : u.Passes v u' v') (hm : v'.IsOpen m) : v.IsOpen m := by
  cases h with
  | closes n => exact hm.of_closeMember.1
  | _ => exact hm

theorem covered_of_stop (h : u.Passes v u' v') (hm : v'.IsOpen m)
    (hv : m ∈ v.listed ∨ ∃ rest, u = .closing m rest) :
    m ∈ v'.listed ∨ ∃ rest, u' = .closing m rest := by
  cases h with
  | removes n rest =>
    rcases hv with hv | ⟨_, hv⟩
    · by_cases hn : m = n
      · exact .inr ⟨rest, by rw [hn]⟩
      · exact .inl ((List.mem_erase_of_ne hn).mpr hv)
    · exact nomatch hv
  | closes n rest =>
    rcases hv with hv | ⟨_, hv⟩
    · exact .inl hv
    · obtain ⟨rfl, -⟩ := StopStage.closing.inj hv
      exact absurd rfl hm.of_closeMember.2
  | marks hu =>
    rcases hv with hv | ⟨_, hv⟩
    · exact .inl hv
    · exact nomatch hv
  | _ =>
    rcases hv with hv | ⟨_, hv⟩
    · exact .inl hv
    · exact nomatch hv

/-- What is due stays due until it is closed. -/
theorem due_of_stop (h : u.Passes v u' v') (hm : v'.IsOpen m) (hdue : u.Due v.listed m) :
    u'.Due v'.listed m := by
  cases h with
  | marks => exact hdue.elim
  | scans => exact ⟨hdue, hdue⟩
  | finishes => exact nomatch hdue.1
  | removes n rest =>
    obtain ⟨hrest, hlisted⟩ := hdue
    by_cases hn : m = n
    · exact .inl hn
    · exact .inr ⟨(List.mem_cons.mp hrest).resolve_left hn, (List.mem_erase_of_ne hn).mpr hlisted⟩
  | skips hn rest =>
    obtain ⟨hrest, hlisted⟩ := hdue
    -- The one that is skipped is no longer in the list, so it is another one.
    refine ⟨(List.mem_cons.mp hrest).resolve_left ?_, hlisted⟩
    rintro rfl
    exact hn hlisted
  | closes n rest => exact hdue.resolve_left hm.of_closeMember.2

end Steps

/-! ## The tasks of a server -/

structure System (κ : Type) where
  server : Server κ
  accepts : List AcceptStage
  stop : StopStage

namespace System

def start (κ : Type) (address : String) : System κ := ⟨.start address, [], .marking⟩

inductive Step : System κ → System κ → Prop where
  | accept (s : System κ) : Step s { s with accepts := s.accepts ++ [.handshaking] }
  /-- A handshake fails. -/
  | refuse {i : Nat} {s : System κ} (hi : s.accepts[i]? = some .handshaking) :
      Step s { s with accepts := s.accepts.set i .ended }
  /-- The task of a stream goes on, and if it opens a connection, this is `c`. -/
  | serve (i : Nat) (c : κ) {t t' : AcceptStage} {v : Server κ} {s : System κ}
      (hi : s.accepts[i]? = some t) (h : s.server.stepAccept c t = some (t', v)) :
      Step s { s with server := v, accepts := s.accepts.set i t' }
  | stop {t : StopStage} {v : Server κ} {s : System κ}
      (h : s.server.stepStop s.stop = some (t, v)) : Step s { s with server := v, stop := t }
  /-- A connection goes on, and it may close, but it does not open again. -/
  | evolve (m : Nat) (f : κ → κ)
      (hf : ∀ c, Closable.isClosed c = true → Closable.isClosed (f c) = true) (s : System κ) :
      Step s { s with server := { s.server with members := s.server.members.modify m f } }

/-! ## What is open is in somebody's hands -/

structure Sound (s : System κ) : Prop where
  stopped : s.stop ≠ .marking → s.server.stopped = true
  made : ∀ (i : Nat) {t : AcceptStage} {m : Nat}, s.accepts[i]? = some t → t.member? = some m →
    m < s.server.members.length
  /-- A task takes a connection from the list only when it has closed. -/
  unlisting : ∀ (i : Nat) {m : Nat}, s.accepts[i]? = some (.unlisting m) → ¬s.server.IsOpen m
  covered : ∀ {m : Nat}, s.server.IsOpen m →
    (m ∈ s.server.listed ∨ ∃ rest, s.stop = .closing m rest) ∨
      ∃ i : Nat, s.accepts[i]? = some (.listing m)

theorem sound_start (address : String) : Sound (start κ address) := by
  refine ⟨fun h ↦ absurd rfl h, fun i t m hi ↦ ?_, fun i m hi ↦ ?_, fun h ↦ ?_⟩
  · exact nomatch hi
  · exact nomatch hi
  · exact absurd h.lt (Nat.not_lt_zero _)

private theorem Sound.serve {s : System κ} {v : Server κ} {i : Nat} {t t' : AcceptStage}
    (h : s.Sound) (hi : s.accepts[i]? = some t) (ht : t.Passes s.server t' v) :
    Sound { s with server := v, accepts := s.accepts.set i t' } := by
  constructor
  · intro hmark
    have hstopped := h.stopped hmark
    cases ht <;> exact hstopped
  · intro j r m hj hm
    have hle := length_le_of_accept ht
    rcases getElem?_of_set hj with rfl | hj
    · rcases member_of_accept ht hm with hm | ⟨-, hlength⟩
      · exact Nat.lt_of_lt_of_le (h.made i hi hm) hle
      · exact hlength ▸ Nat.lt_succ_self m
    · exact Nat.lt_of_lt_of_le (h.made j hj hm) hle
  · intro j m hj hm
    rcases getElem?_of_set hj with rfl | hj
    · cases ht with
      | leaves hclosed => exact absurd hm (by simp [IsOpen, hclosed])
    · rcases isOpen_of_accept ht hm with hm | ⟨rfl, -⟩
      · exact h.unlisting j hj hm
      · exact absurd (h.made j hj rfl) (Nat.lt_irrefl _)
  · intro m hm
    rcases isOpen_of_accept ht hm with hm | ⟨-, -, rfl⟩
    · rcases h.covered hm with (hlisted | hclosing) | ⟨j, hj⟩
      · rcases listed_of_accept ht hlisted with hlisted | rfl
        · exact .inl (.inl hlisted)
        · exact absurd hm (h.unlisting i hi)
      · exact .inl (.inr hclosing)
      · by_cases hne : .listing m = t
        · exact .inl (.inl ((serving_of_accept ht hm).1 hne.symm).2)
        · exact .inr ⟨j, getElem?_set_of_ne hi hj hne t'⟩
    · exact .inr ⟨i, getElem?_set_moved hi _⟩

/-! ## What is open after the flag was set -/

/-- The task has seen that the flag is not set, and its connection is not in the list yet. -/
def InWindow (was : List AcceptStage) (i m : Nat) : Prop :=
  was[i]? = some .opening ∨ was[i]? = some (.listing m)

/-- Where the connections are that are open after the flag was set, `was` being the tasks as they
were at some moment since then. -/
structure Accounted (was : List AcceptStage) (s : System κ) : Prop where
  marked : s.stop ≠ .marking
  opening : ∀ {i : Nat}, s.accepts[i]? = some .opening → was[i]? = some .opening
  due_or : ∀ {m : Nat}, s.server.IsOpen m → s.stop.Due s.server.listed m ∨
    ∃ i, InWindow was i m ∧ (s.accepts[i]? = some (.listing m) ∨ s.accepts[i]? = some (.serving m))

theorem accounted_of_scanning {s : System κ} (h : s.Sound) (hscan : s.stop = .scanning) :
    Accounted s.accepts s := by
  refine ⟨by simp [hscan], id, fun {m} hm ↦ ?_⟩
  rcases h.covered hm with (hlisted | ⟨_, hclosing⟩) | ⟨i, hi⟩
  · left
    rw [hscan]
    exact hlisted
  · rw [hscan] at hclosing
    exact nomatch hclosing
  · exact .inr ⟨i, .inr hi, .inl hi⟩

private theorem Accounted.serve {was : List AcceptStage} {s : System κ} {v : Server κ} {i : Nat}
    {t t' : AcceptStage} (h : s.Accounted was) (hsound : s.Sound) (hi : s.accepts[i]? = some t)
    (ht : t.Passes s.server t' v) :
    Accounted was { s with server := v, accepts := s.accepts.set i t' } := by
  refine ⟨h.marked, fun hj ↦ ?_, fun {m} hm ↦ ?_⟩
  · rcases getElem?_of_set hj with rfl | hj
    · -- The flag is set, so no other task passes the look at it.
      cases ht with
      | goesOn hstopped => exact absurd (hsound.stopped h.marked) (by simp [hstopped])
    · exact h.opening hj
  · rcases isOpen_of_accept ht hm with hm | ⟨-, rfl, rfl⟩
    · rcases h.due_or hm with hdue | ⟨j, hwindow, hj⟩
      · refine .inl (hdue.mono fun hlisted ↦ (listed_of_accept ht hlisted).resolve_right ?_)
        rintro rfl
        exact hsound.unlisting i hi hm
      · by_cases hij : i = j
        · subst hij
          have hserving : t' = .serving m := by
            rcases hj with hj | hj
            · exact ((serving_of_accept ht hm).1 (Option.some.inj (hi.symm.trans hj))).1
            · exact (serving_of_accept ht hm).2 (Option.some.inj (hi.symm.trans hj))
          exact .inr ⟨i, hwindow, .inr (hserving ▸ getElem?_set_moved hi _)⟩
        · refine .inr ⟨j, hwindow, ?_⟩
          simpa only [List.getElem?_set_ne hij] using hj
    · exact .inr ⟨i, .inl (h.opening hi), .inl (getElem?_set_moved hi _)⟩

variable [LawfulClosable κ]

theorem Sound.step {s s' : System κ} (h : s.Sound) (hs : Step s s') : s'.Sound := by
  cases hs with
  | accept =>
    refine ⟨h.stopped, fun j t m hj hm ↦ h.made j (getElem?_of_append hj ?_) hm,
      fun j m hj ↦ h.unlisting j (getElem?_of_append hj nofun),
      fun hm ↦ (h.covered hm).imp_right ?_⟩
    · rintro rfl
      exact nomatch hm
    · rintro ⟨j, hj⟩
      exact ⟨j, getElem?_append hj _⟩
  | refuse hi => exact h.serve hi (.fails _)
  | serve i c hi hstep => exact h.serve hi (passes_of_stepAccept hstep)
  | stop hstep =>
    have hpass := passes_of_stepStop hstep
    refine ⟨fun _ ↦ stopped_of_stop hpass h.stopped, fun j t m hj hm ↦ ?_,
      fun j m hj hm ↦ h.unlisting j hj (isOpen_of_stop hpass hm), fun hm ↦ ?_⟩
    · exact length_of_stop hpass ▸ h.made j hj hm
    · exact (h.covered (isOpen_of_stop hpass hm)).imp_left (covered_of_stop hpass hm)
  | evolve n f hf =>
    refine ⟨h.stopped, fun j t m hj hm ↦ ?_, fun j m hj hm ↦ h.unlisting j hj (hm.of_modify hf),
      fun hm ↦ h.covered (hm.of_modify hf)⟩
    simpa using h.made j hj hm

theorem sound_of_reachable {address : String} {s : System κ}
    (h : ReflTransGen Step (start κ address) s) : s.Sound := by
  induction h with
  | refl => exact sound_start address
  | tail _ hs ih => exact ih.step hs

theorem Accounted.step {was : List AcceptStage} {s s' : System κ} (h : s.Accounted was)
    (hsound : s.Sound) (hs : Step s s') : s'.Accounted was := by
  cases hs with
  | accept =>
    refine ⟨h.marked, fun hj ↦ h.opening (getElem?_of_append hj nofun), fun hm ↦ ?_⟩
    rcases h.due_or hm with hdue | ⟨j, hwindow, hj⟩
    · exact .inl hdue
    · exact .inr ⟨j, hwindow, hj.imp (getElem?_append · _) (getElem?_append · _)⟩
  | refuse hi => exact h.serve hsound hi (.fails _)
  | serve i c hi hstep => exact h.serve hsound hi (passes_of_stepAccept hstep)
  | stop hstep =>
    have hpass := passes_of_stepStop hstep
    refine ⟨?_, h.opening, fun hm ↦ ?_⟩
    · exact marked_of_stop hpass
    · exact (h.due_or (isOpen_of_stop hpass hm)).imp_left (due_of_stop hpass hm)
  | evolve n f hf => exact ⟨h.marked, h.opening, fun hm ↦ h.due_or (hm.of_modify hf)⟩

/-- **What stopping leaves open.** Let `s₁` be any moment between the setting of the flag and the
scan. When the one who stops has ended and every task has come to rest, an open connection is one
whose task was in the window in `s₁`: it had seen that the flag is not set, and had not entered its
connection. It is in the list, so it is counted, and it stays there until it closes by itself. -/
theorem unseen_of_open {address : String} {s₁ s : System κ}
    (h₁ : ReflTransGen Step (start κ address) s₁) (hscan : s₁.stop = .scanning)
    (h : ReflTransGen Step s₁ s) (hstop : s.stop = .ended)
    (hsettled : ∀ t ∈ s.accepts, t.settled = true) {m : Nat} (hm : s.server.IsOpen m) :
    m ∈ s.server.listed ∧
      ∃ i : Nat, s.accepts[i]? = some (.serving m) ∧
        (s₁.accepts[i]? = some .opening ∨ s₁.accepts[i]? = some (.listing m)) := by
  have haccounted : s.Accounted s₁.accepts := by
    clear hstop hsettled hm
    induction h with
    | refl => exact accounted_of_scanning (sound_of_reachable h₁) hscan
    | tail h hs ih => exact ih.step (sound_of_reachable (h₁.trans h)) hs
  have hlisting : ∀ i : Nat, s.accepts[i]? ≠ some (.listing m) := by
    intro i hi
    exact nomatch hsettled _ (List.mem_of_getElem? hi)
  constructor
  · rcases (sound_of_reachable (h₁.trans h)).covered hm with (hlisted | ⟨_, hclosing⟩) | ⟨i, hi⟩
    · exact hlisted
    · rw [hstop] at hclosing
      exact nomatch hclosing
    · exact absurd hi (hlisting i)
  · rcases haccounted.due_or hm with hdue | ⟨i, hwindow, hi⟩
    · rw [hstop] at hdue
      exact hdue.elim
    · exact ⟨i, hi.resolve_left (hlisting i), hwindow⟩

/-- One connection is in the list when the server is stopped, and is closed. The task of another
one has just passed its look at the flag. -/
theorem unseen_of_open_beside_listed :
    ∃ s₁ s : System Connection, ReflTransGen Step (start Connection "127.0.0.1:7000") s₁ ∧
      s₁.stop = .scanning ∧ ReflTransGen Step s₁ s ∧ s.stop = .ended ∧
      (∀ t ∈ s.accepts, t.settled = true) ∧ s.server.isClosedAt 0 = true ∧ s.server.IsOpen 1 ∧
      1 ∈ s.server.listed ∧ ∃ i : Nat, s.accepts[i]? = some (.serving 1) ∧
        (s₁.accepts[i]? = some .opening ∨ s₁.accepts[i]? = some (.listing 1)) := by
  let c : Connection := .start ⟨"connection", "peer", .server, 1⟩ .standard .standard
    (.ofConfig .standard 1 .standard)
  have h₁ := ReflTransGen.single (Step.accept (start Connection "127.0.0.1:7000"))
  have h₂ := (h₁.tail (.serve 0 c rfl rfl)).tail (.serve 0 c rfl rfl)
  have h₃ := (h₂.tail (.serve 0 c rfl rfl)).tail (.serve 0 c rfl rfl)
  have h₄ := (h₃.tail (.accept _)).tail (.serve 1 c rfl rfl)
  let s₁ : System Connection :=
    ⟨⟨"127.0.0.1:7000", true, [c], [0]⟩, [.serving 0, .opening], .scanning⟩
  have h₅ : ReflTransGen Step (start Connection "127.0.0.1:7000") s₁ :=
    (h₄.tail (.serve 1 c rfl rfl)).tail (.stop rfl)
  have g₁ := (ReflTransGen.single (Step.stop (s := s₁) rfl)).tail (.serve 1 c rfl rfl)
  have g₂ := (g₁.tail (.stop rfl)).tail (.serve 1 c rfl rfl)
  have g₃ := (g₂.tail (.stop rfl)).tail (.stop rfl)
  have hsettled : ∀ t ∈ [AcceptStage.serving 0, .serving 1], t.settled = true := by decide
  exact ⟨s₁, _, h₅, rfl, g₃, rfl, hsettled, rfl, rfl, unseen_of_open h₅ rfl g₃ rfl hsettled rfl⟩

/-- **A connection outlives the server.** The task of a stream looks at the flag; the server is
stopped, and its list is empty; then the task opens its connection and waits for its end. -/
theorem open_after_stop :
    ¬ ∀ s : System Connection, ReflTransGen Step (start Connection "127.0.0.1:7000") s →
      s.stop = .ended → (∀ t ∈ s.accepts, t.settled = true) →
      ∀ m, s.server.isClosedAt m = true := by
  intro hall
  let c : Connection := .start ⟨"connection", "peer", .server, 1⟩ .standard .standard
    (.ofConfig .standard 1 .standard)
  have h₁ := ReflTransGen.single (Step.accept (start Connection "127.0.0.1:7000"))
  have h₂ := (h₁.tail (.serve 0 c rfl rfl)).tail (.serve 0 c rfl rfl)
  -- The task is in the window, and stays there until the server is stopped.
  have h₃ := ((h₂.tail (.stop rfl)).tail (.stop rfl)).tail (.stop rfl)
  have h₄ := (h₃.tail (.serve 0 c rfl rfl)).tail (.serve 0 c rfl rfl)
  have hsettled : ∀ t ∈ [AcceptStage.serving 0], t.settled = true := by decide
  exact nomatch hall _ h₄ rfl hsettled 0

end System

end Server

end RpcTransport
