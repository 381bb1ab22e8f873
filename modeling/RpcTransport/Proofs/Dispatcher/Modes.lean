import RpcTransport.Proofs.Dispatcher.Conservation

/-!
# However a response is delivered

A response may be decoded by a worker or where it arrived, for a caller who waits or for a listener,
or it may be handed over raw and decoded by its caller. The caller sees the same outcome, and none
of this can be told from it: what is seen is a matter of what the frame says, and of the registry
(`CompletionKind.seen_answer`).
-/

namespace RpcTransport

/-- What a caller sees in the end: one that was handed a raw response decodes it. -/
def Resolution.seen (registry : Registry) : Resolution → Except TransportError Response
  | .response r => .ok r
  | .raw r => r.decode registry
  | .failed e => .error e
  | .dropped => .error (.internal "completion dropped")

/-- What a response frame says to its caller. -/
def Frame.said (f : Frame) : UInt64 × Status × UInt8 × Bytes :=
  (f.id, f.status, f.serialization, f.body.octets)

/-- The failure of a response never is an internal one. -/
theorem decodeResult_ne_internal (registry : Registry) (status : Status) (serialization : UInt8)
    (body : Bytes) (reason : String) :
    decodeResult registry status serialization body ≠ .error (.internal reason) := by
  cases status with
  | ok =>
    rw [decodeResult]
    cases CallResult.ofBody registry serialization body with
    | ok result => nofun
    | error e => nofun
  | _ => nofun

namespace CompletionKind

/-- **A caller sees what the frame says**, whatever it asked for. -/
theorem seen_answer (kind : CompletionKind) (registry : Registry) (f : Frame) :
    (kind.answer registry f).seen registry =
      (decodeResult registry f.status f.serialization f.body.octets).map fun r ↦ ⟨f.id, r⟩ := by
  cases kind with
  | raw => rfl
  | decoded | listener =>
    rw [answer]
    cases decodeResult registry f.status f.serialization f.body.octets with
    | ok result => rfl
    | error e => rfl

theorem seen_answer_congr {f f' : Frame} (h : f.said = f'.said) (kind kind' : CompletionKind)
    (registry : Registry) :
    (kind.answer registry f).seen registry = (kind'.answer registry f').seen registry := by
  simp only [Frame.said, Prod.mk.injEq] at h
  obtain ⟨hid, hstatus, hserialization, hbody⟩ := h
  rw [seen_answer, seen_answer, hid, hstatus, hserialization, hbody]

theorem answer_ne_internal (kind : CompletionKind) (registry : Registry) (f : Frame)
    (reason : String) : kind.answer registry f ≠ .failed (.internal reason) := by
  intro h
  cases kind with
  | raw => exact nomatch h
  | decoded | listener =>
    rw [answer] at h
    cases hresult : decodeResult registry f.status f.serialization f.body.octets with
    | ok result =>
      rw [hresult] at h
      cases h
    | error e =>
      rw [hresult] at h
      obtain rfl : e = .internal reason := Resolution.failed.inj h
      exact decodeResult_ne_internal _ _ _ _ _ hresult

end CompletionKind

namespace Dispatcher

open Dispatcher.System

variable {registry : Registry} {processors processors' : Nat} {config config' : DispatchConfig}
  {base base' : Arena} {s s' : System}

/-- **All ways of delivery agree.** Take two responses that say the same, in one run or in two runs
of dispatchers with one registry: whether a worker decodes them or the thread that submits them, for
a caller who waits or for a listener, or they are handed over raw, their callers see the same. No
caller is told of an internal failure. When a run has ended and no caller has a raw response left,
every caller was told once, and every body was released once. -/
theorem modes_agree
    (h : Relation.ReflTransGen Step (start registry processors config base) s)
    (h' : Relation.ReflTransGen Step (start registry processors' config' base') s') :
    (∀ d ∈ s.state.told, ∀ d' ∈ s'.state.told, ∀ job job',
      s.submits[d.ticket]? = some job → s'.submits[d'.ticket]? = some job' →
      job.frame.said = job'.frame.said →
      d.resolution.seen registry = d'.resolution.seen registry) ∧
    (∀ d ∈ s.state.told, ∀ reason, d.resolution ≠ .failed (.internal reason)) ∧
    (s.Ended → s.state.held = [] →
      (s.state.told.map Delivery.ticket).Perm (List.range s.submits.length) ∧
      s.state.released.Perm (s.submits.map parcel) ∧
      s.state.arena.live = base.live ∧
      s.state.arena.released = base.released + tracked (s.submits.map parcel)) := by
  have hs := conserved_of_reachable h
  have hs' := conserved_of_reachable h'
  refine ⟨?_, ?_, ?_⟩
  · intro d hd d' hd' job job' hjob hjob' hsaid
    obtain ⟨own, hown, hanswer⟩ := hs.answer_of_told hd
    obtain ⟨own', hown', hanswer'⟩ := hs'.answer_of_told hd'
    obtain rfl := Option.some.inj (hown.symm.trans hjob)
    obtain rfl := Option.some.inj (hown'.symm.trans hjob')
    rw [hanswer, hanswer']
    exact CompletionKind.seen_answer_congr hsaid _ _ registry
  · intro d hd reason
    obtain ⟨job, -, rfl⟩ := hs.answer_of_told hd
    exact CompletionKind.answer_ne_internal _ _ _ _
  · intro hended hheld
    have hparcels : s.parcels = [] := by rw [hended.parcels_eq, hheld, List.map_nil]
    have htold := hs.outcomes_perm
    have hreleased := hs.accounts.parcels_perm
    have harena := hs.accounts.arena_eq
    rw [hended.outcomes_eq] at htold
    rw [hparcels, List.nil_append] at hreleased
    rw [hparcels] at harena
    refine ⟨?_, hreleased, by rw [harena]; rfl, ?_⟩
    · rw [← hs.tickets_eq]
      refine (htold.map Delivery.ticket).trans (.of_eq ?_)
      rw [List.map_map]
      rfl
    · rw [harena, ← tracked_of_perm hreleased]
      rfl

/-- One response four times: decoded by a worker, where it arrived, for a listener, and by its
caller. -/
theorem modes_agree_all_four :
    ∃ s, Relation.ReflTransGen Step (start .standard 4 ⟨true, some 1, 0⟩ .empty) s ∧ s.Ended ∧
      s.state.told.map Delivery.ticket = [1, 2, 3, 0] ∧
      (∀ d ∈ s.state.told, ∀ d' ∈ s.state.told,
        d.resolution.seen .standard = d'.resolution.seen .standard) ∧
      s.state.arena.live = 0 ∧ s.state.arena.released = 4 := by
  let frame : Frame := .response 1 6 .ok ⟨[7], true⟩
  let job (kind : CompletionKind) (ticket : Nat) : DecodeJob := ⟨⟨kind, ticket⟩, frame⟩
  have h₀ : Relation.ReflTransGen Step (start .standard 4 ⟨true, some 1, 0⟩ .empty) _ :=
    .single (.submit .decoded frame _ rfl)
  have h₁ := h₀.tail (.advance (.move [] [] _ (.offer (job .decoded 0) _ nofun (by decide))))
  have h₂ := h₁.tail (.advance (.move [] [] _ (.count _)))
  have h₃ := h₂.tail (.submit .decoded frame _ rfl)
  have h₄ := h₃.tail (.advance (.move [.ended] [] _
    (.refuse (job .decoded 1) _ nofun (by decide))))
  have h₅ := h₄.tail (.advance (.move [.ended] [] _ (.countRefused _ _)))
  have h₆ := h₅.tail (.advance (.move [.ended] [] _ (.decode _ _)))
  have h₇ := h₆.tail (.advance (.move [.ended] [] _ (.tell _ _)))
  have h₈ := h₇.tail (.submit .listener frame _ rfl)
  have h₉ := h₈.tail (.advance (.move [.ended, .ended] [] _
    (.refuse (job .listener 2) _ nofun (by decide))))
  have h₁₀ := h₉.tail (.advance (.move [.ended, .ended] [] _ (.countRefused _ _)))
  have h₁₁ := h₁₀.tail (.advance (.move [.ended, .ended] [] _ (.decode _ _)))
  have h₁₂ := h₁₁.tail (.advance (.move [.ended, .ended] [] _ (.tell _ _)))
  have h₁₃ := h₁₂.tail (.submit .raw frame _ rfl)
  have h₁₄ := h₁₃.tail (.advance (.move [.ended, .ended, .ended] [] _
    (.handOver (job .raw 3) _ rfl (by decide))))
  have h₁₅ := h₁₄.tail (.useUp [] _ [] _ rfl)
  have h₁₆ := h₁₅.tail (.drop _ (by simp))
  have h₁₇ := h₁₆.tail (.advance (.work _ _ (.take _ rfl (by decide))))
  have h₁₈ := h₁₇.tail (.advance (.work _ _ (.decode _ (fun _ ↦ false) rfl)))
  have h₁₉ := h₁₈.tail (.advance (.work _ _ (.tell _ [] _ [] rfl)))
  have h₂₀ := h₁₉.tail (.advance (.work _ _ (.exit _ rfl rfl (by decide))))
  obtain ⟨hseen, -, -⟩ := modes_agree h₂₀ h₂₀
  refine ⟨_, h₂₀, ?ended, rfl, fun d hd d' hd' ↦ ?agree, rfl, rfl⟩
  case ended =>
    refine ⟨rfl, fun k hk ↦ ?_, ⟨rfl, rfl, rfl, rfl⟩⟩
    change k ∈ List.replicate 4 Task.ended at hk
    exact List.eq_of_mem_replicate hk
  case agree =>
    have hsame : ∀ j ∈ [job .decoded 0, job .decoded 1, job .listener 2, job .raw 3],
        j.frame = frame := by simp [job]
    obtain ⟨own, hown, -⟩ := (conserved_of_reachable h₂₀).answer_of_told hd
    obtain ⟨own', hown', -⟩ := (conserved_of_reachable h₂₀).answer_of_told hd'
    refine hseen d hd d' hd' own own' hown hown' ?_
    rw [hsame own (List.mem_of_getElem? hown), hsame own' (List.mem_of_getElem? hown')]

end Dispatcher

end RpcTransport
