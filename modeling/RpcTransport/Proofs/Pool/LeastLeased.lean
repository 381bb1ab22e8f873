import RpcTransport.Proofs.Pool.Leases
import RpcTransport.Proofs.Pool.Notifications

/-!
# The least leased connection

A connection is looked for in the slots in two ways: an idle one, and one to share. An idle
connection has the fewest leases that there can be. And to leave those at their cap out of a search
for the fewest leases changes nothing, unless all are at their cap. So both ways lead to the same
connection, the first of the least leased (`FirstLeast`), and differ only in whether they take it
(`pickIdle_eq_some_iff`, `pickLeastLeased_eq_some_iff`).

A look at the slots comes with pruning, which leaves the open connections in their order
(`openSlots_prune`).
-/

namespace RpcTransport

namespace Pool

variable {κ : Type} {p : Pool κ} {m : Nat}

/-! ## The first of the least leased -/

/-- The first of those in a list that have the fewest leases. -/
def FirstLeast (p : Pool κ) (ms : List Nat) (m : Nat) : Prop :=
  ∃ before after, ms = before ++ m :: after ∧ (∀ n ∈ before, p.leasesOf m < p.leasesOf n) ∧
    ∀ n ∈ after, p.leasesOf m ≤ p.leasesOf n

namespace FirstLeast

variable {ms : List Nat}

theorem mem (h : p.FirstLeast ms m) : m ∈ ms := by
  obtain ⟨before, after, rfl, -, -⟩ := h
  exact List.mem_append_right before List.mem_cons_self

theorem le (h : p.FirstLeast ms m) {n : Nat} (hn : n ∈ ms) : p.leasesOf m ≤ p.leasesOf n := by
  obtain ⟨before, after, rfl, hbefore, hafter⟩ := h
  rcases List.mem_append.mp hn with hn | hn
  · exact Nat.le_of_lt (hbefore n hn)
  · rcases List.mem_cons.mp hn with rfl | hn
    · exact Nat.le_refl _
    · exact hafter n hn

/-- To leave out all from some number of leases on does not change which is the first of the
least leased, as long as it is not left out itself. -/
theorem filter_iff {cap : Nat} : p.FirstLeast (ms.filter fun n ↦ p.leasesOf n < cap) m ↔
    p.FirstLeast ms m ∧ p.leasesOf m < cap := by
  constructor
  · intro h
    have hcap : p.leasesOf m < cap := by simpa using (List.mem_filter.mp h.mem).2
    -- Whatever is left out has more leases than the one that was found.
    have hleft {n : Nat} (hn : ¬ decide (p.leasesOf n < cap) = true) :
        p.leasesOf m < p.leasesOf n := by
      rw [decide_eq_true_iff] at hn
      omega
    obtain ⟨before, after, heq, hbefore, hafter⟩ := h
    obtain ⟨front, back, rfl, rfl, hback⟩ := List.filter_eq_append_iff.mp heq
    obtain ⟨skipped, rest, rfl, hskipped, -, rfl⟩ := List.filter_eq_cons_iff.mp hback
    refine ⟨⟨front ++ skipped, rest, by simp, fun n hn ↦ ?_, fun n hn ↦ ?_⟩, hcap⟩
    · rcases List.mem_append.mp hn with hn | hn
      · by_cases hkept : decide (p.leasesOf n < cap) = true
        · exact hbefore n (List.mem_filter.mpr ⟨hn, hkept⟩)
        · exact hleft hkept
      · exact hleft (hskipped n hn)
    · by_cases hkept : decide (p.leasesOf n < cap) = true
      · exact hafter n (List.mem_filter.mpr ⟨hn, hkept⟩)
      · exact Nat.le_of_lt (hleft hkept)
  · rintro ⟨⟨before, after, rfl, hbefore, hafter⟩, hcap⟩
    rw [List.filter_append, List.filter_cons_of_pos (by simpa using hcap)]
    exact ⟨_, _, rfl, fun n hn ↦ hbefore n (List.mem_filter.mp hn).1,
      fun n hn ↦ hafter n (List.mem_filter.mp hn).1⟩

end FirstLeast

theorem leastLeased_eq_some_iff {ms : List Nat} :
    p.leastLeased ms = some m ↔ p.FirstLeast ms m := by
  constructor
  · intro h
    induction ms generalizing m with
    | nil => cases h
    | cons n ms ih =>
      rw [leastLeased] at h
      split at h
      · next hnone =>
        obtain rfl := Option.some.inj h
        rw [leastLeased_eq_none hnone]
        exact ⟨[], [], rfl, List.forall_mem_nil _, List.forall_mem_nil _⟩
      · next best hbest =>
        have hfirst := ih hbest
        split at h
        · next hless =>
          obtain rfl := Option.some.inj h
          obtain ⟨before, after, rfl, hbefore, hafter⟩ := hfirst
          refine ⟨n :: before, after, rfl, fun k hk ↦ ?_, hafter⟩
          rcases List.mem_cons.mp hk with rfl | hk
          · exact hless
          · exact hbefore k hk
        · next hle =>
          obtain rfl := Option.some.inj h
          refine ⟨[], ms, rfl, List.forall_mem_nil _, fun k hk ↦ ?_⟩
          exact Nat.le_trans (Nat.le_of_not_lt hle) (hfirst.le hk)
  · rintro ⟨before, after, rfl, hbefore, hafter⟩
    induction before with
    | nil =>
      rw [List.nil_append, leastLeased]
      split
      · rfl
      · next best hbest =>
        rw [if_neg (Nat.not_lt_of_le (hafter best (leastLeased_mem hbest)))]
    | cons n before ih =>
      have hrest := ih fun k hk ↦ hbefore k (List.mem_cons_of_mem n hk)
      rw [List.cons_append, leastLeased, hrest]
      exact if_pos (hbefore n List.mem_cons_self)

variable [Closable κ]

/-! ## Two searches -/

/-- The open connections in the slots, in their order. -/
def openSlots (p : Pool κ) : List Nat := p.slots.filter fun n ↦ !p.isClosedAt n

theorem mem_openSlots {n : Nat} : n ∈ p.openSlots ↔ n ∈ p.slots ∧ p.isClosedAt n = false := by
  rw [openSlots, List.mem_filter, Bool.not_eq_true']

theorem pickIdle_eq_find? (p : Pool κ) :
    p.pickIdle = p.openSlots.find? fun n ↦ p.leasesOf n == 0 := by
  rw [pickIdle, openSlots, List.find?_filter]
  simp only [Bool.decide_and, Bool.decide_eq_true]

/-- **The first idle connection is the first of the least leased**, if that one is idle. -/
theorem pickIdle_eq_some_iff :
    p.pickIdle = some m ↔ p.FirstLeast p.openSlots m ∧ p.leasesOf m = 0 := by
  rw [pickIdle_eq_find?, List.find?_eq_some_iff_append]
  constructor
  · rintro ⟨hidle, before, after, heq, hbefore⟩
    have hzero : p.leasesOf m = 0 := beq_iff_eq.mp hidle
    refine ⟨⟨before, after, heq, fun n hn ↦ ?_, fun n _ ↦ ?_⟩, hzero⟩
    · have hbusy := hbefore n hn
      rw [hzero]
      exact Nat.pos_of_ne_zero (by simpa using hbusy)
    · rw [hzero]
      exact Nat.zero_le _
  · rintro ⟨⟨before, after, heq, hbefore, -⟩, hzero⟩
    refine ⟨beq_iff_eq.mpr hzero, before, after, heq, fun n hn ↦ ?_⟩
    have hless := hbefore n hn
    simpa using Nat.ne_of_gt (Nat.lt_of_le_of_lt (Nat.zero_le _) hless)

/-- **The connection to share is the first of the least leased**, if that one may be lent. -/
theorem pickLeastLeased_eq_some_iff : p.pickLeastLeased = some m ↔
    p.FirstLeast p.openSlots m ∧ p.leasesOf m < p.config.maxLeases := by
  have hfilter : (p.slots.filter fun n ↦
      !p.isClosedAt n && decide (p.leasesOf n < p.config.maxLeases)) =
      p.openSlots.filter fun n ↦ p.leasesOf n < p.config.maxLeases := by
    rw [openSlots, List.filter_filter]
    simp only [Bool.and_comm]
  rw [pickLeastLeased, hfilter, leastLeased_eq_some_iff, FirstLeast.filter_iff]

theorem exists_firstLeast (h : p.openSlots ≠ []) : ∃ m, p.FirstLeast p.openSlots m := by
  cases hleast : p.leastLeased p.openSlots with
  | none => exact absurd (leastLeased_eq_none hleast) h
  | some m => exact ⟨m, leastLeased_eq_some_iff.mp hleast⟩

theorem pickIdle_eq_none_iff : p.pickIdle = none ↔ ∀ n ∈ p.openSlots, 0 < p.leasesOf n := by
  constructor
  · intro hnone n hn
    obtain ⟨m, hm⟩ := exists_firstLeast (List.ne_nil_of_mem hn)
    refine Nat.lt_of_lt_of_le (Nat.pos_of_ne_zero fun hzero ↦ ?_) (hm.le hn)
    exact nomatch hnone.symm.trans (pickIdle_eq_some_iff.mpr ⟨hm, hzero⟩)
  · intro hbusy
    refine Option.eq_none_iff_forall_ne_some.mpr fun m hm ↦ ?_
    obtain ⟨hfirst, hzero⟩ := pickIdle_eq_some_iff.mp hm
    exact Nat.ne_of_gt (hbusy m hfirst.mem) hzero

theorem pickLeastLeased_eq_none_iff :
    p.pickLeastLeased = none ↔ ∀ n ∈ p.openSlots, p.config.maxLeases ≤ p.leasesOf n := by
  constructor
  · intro hnone n hn
    obtain ⟨m, hm⟩ := exists_firstLeast (List.ne_nil_of_mem hn)
    refine Nat.le_trans (Nat.le_of_not_lt fun hless ↦ ?_) (hm.le hn)
    exact nomatch hnone.symm.trans (pickLeastLeased_eq_some_iff.mpr ⟨hm, hless⟩)
  · intro hfull
    refine Option.eq_none_iff_forall_ne_some.mpr fun m hm ↦ ?_
    obtain ⟨hfirst, hless⟩ := pickLeastLeased_eq_some_iff.mp hm
    exact Nat.not_lt_of_le (hfull m hfirst.mem) hless

/-! ## Pruning -/

theorem openSlots_prune (p : Pool κ) : p.prune.openSlots = p.openSlots := by
  change p.openSlots.filter (fun n ↦ !p.isClosedAt n) = p.openSlots
  rw [List.filter_eq_self]
  intro n hn
  exact (List.mem_filter.mp hn).2

theorem pickIdle_prune (p : Pool κ) : p.prune.pickIdle = p.pickIdle := by
  refine Option.ext fun m ↦ ?_
  rw [pickIdle_eq_some_iff, pickIdle_eq_some_iff, openSlots_prune]
  rfl

theorem pickLeastLeased_prune (p : Pool κ) : p.prune.pickLeastLeased = p.pickLeastLeased := by
  refine Option.ext fun m ↦ ?_
  rw [pickLeastLeased_eq_some_iff, pickLeastLeased_eq_some_iff, openSlots_prune]
  rfl

/-- There is a free permit after pruning if there was one, or if a closed connection had one. -/
theorem permits_prune_pos_iff :
    0 < p.prune.permits ↔ 0 < p.permits ∨ ∃ n ∈ p.slots, p.isClosedAt n = true := by
  have hpermits : p.prune.permits = p.permits + (p.slots.length - p.openSlots.length) := rfl
  by_cases hclosed : ∃ n ∈ p.slots, p.isClosedAt n = true
  · have hless : p.openSlots.length < p.slots.length := by
      rw [openSlots, List.length_filter_lt_length_iff_exists]
      simpa using hclosed
    exact iff_of_true (by omega) (.inr hclosed)
  · have hopen (n : Nat) (hn : n ∈ p.slots) : p.isClosedAt n = false := by
      rw [← Bool.not_eq_true]
      exact fun h ↦ hclosed ⟨n, hn, h⟩
    rw [prune_of_open hopen]
    exact ⟨.inl, fun h ↦ h.resolve_right hclosed⟩

end Pool

end RpcTransport
