import RpcTransport.Proofs.Pending.Tasks

/-!
# The timers of requests

A request notes the token of its deadline while it is pending, so that whoever takes it out can
disarm the deadline. Only what is done under the id of the request changes what it notes.

The wheel's own task at a table is for one id: it takes out the request of this id, and tells its
caller and nobody else (`Moves.ringsFor`).
-/

namespace RpcTransport.PendingTable

variable {t t' : PendingTable} {id : UInt64} {ticket token : Nat}

/-- The request of an id is pending, and has noted a token. -/
def Notes (t : PendingTable) (id : UInt64) (ticket token : Nat) : Prop :=
  ∃ p, t.find? id = some p ∧ p.ticket = ticket ∧ p.timer = some token

theorem Notes.of_find? (h : t.Notes id ticket token) (hfind : t'.find? id = t.find? id) :
    t'.Notes id ticket token := by
  obtain ⟨p, hp, hrest⟩ := h
  exact ⟨p, hfind.trans hp, hrest⟩

theorem mem_keys_of_find? {p : Pending} (h : t.find? id = some p) : (id, p.ticket) ∈ t.keys := by
  have hid := id_of_find? h
  exact List.mem_map.mpr ⟨p, List.mem_of_find?_eq_some h, by rw [hid]⟩

/-! ## What leaves other requests alone -/

theorem find?_insert_of_ne {x : UInt64} (h : x ≠ id) (completion : Completion) (timeout : Nat) :
    (t.insert x completion timeout).2.find? id = t.find? id := by
  have hnew : [(⟨x, completion, timeout, none⟩ : Pending)].find? (·.id = id) = none :=
    List.find?_eq_none.mpr (by simpa using h)
  have hsplit : (t.insert x completion timeout).2.find? id =
      ((t.take x).2.find? id).or ([⟨x, completion, timeout, none⟩].find? (·.id = id)) :=
    List.find?_append
  rw [hsplit, hnew, Option.or_none, find?_take_of_ne t h]

theorem find?_setTimer (t : PendingTable) (x id : UInt64) (token : Nat) :
    (t.setTimer x token).2.find? id =
      (t.find? id).map fun p ↦ if p.id = x then { p with timer := some token } else p := by
  have hid : ((fun p : Pending ↦ decide (p.id = id)) ∘ fun p : Pending ↦
      if p.id = x then { p with timer := some token } else p) = fun p ↦ decide (p.id = id) := by
    funext p
    rw [Function.comp_apply]
    split
    · rfl
    · rfl
  rw [find?, setTimer, List.find?_map, hid]
  rfl

theorem find?_setTimer_of_ne {x : UInt64} (h : x ≠ id) (token : Nat) :
    (t.setTimer x token).2.find? id = t.find? id := by
  rw [find?_setTimer]
  cases hfind : t.find? id with
  | none => rfl
  | some p =>
    have hne : p.id ≠ x := fun heq ↦ h (heq.symm.trans (id_of_find? hfind))
    exact congrArg some (if_neg hne)

/-- A request that is pending notes the token. -/
theorem notes_setTimer {p : Pending} (h : t.find? id = some p) (token : Nat) :
    (t.setTimer id token).2.Notes id p.ticket token := by
  refine ⟨{ p with timer := some token }, ?_, rfl, rfl⟩
  rw [find?_setTimer, h]
  exact congrArg some (if_pos (id_of_find? h))

/-! ## The wheel's task -/

/-- The task of a deadline that has fired, for the request of an id and a ticket. -/
def Task.RingsFor (k : Task) (id : UInt64) (ticket : Nat) : Prop :=
  match k with
  | take x purpose => x = id ∧ purpose = .expire
  | judge p => p.ticket = ticket
  | tell ds => ∀ d ∈ ds, d.ticket = ticket
  | _ => False

/-- **A deadline takes out the request of its id**, tells its caller, and leaves all others. -/
theorem Moves.ringsFor {k k' : Task} {ds : List Delivery} (h : Moves k t k' t' ds)
    (hk : k.RingsFor id ticket) (hkeys : ∀ x ∈ t.keys, x.1 = id → x.2 = ticket) :
    k'.RingsFor id ticket ∧ (∀ d ∈ ds, d.ticket = ticket) ∧ t'.keys ⊆ t.keys ∧
      ∀ x, x ≠ id → t'.find? x = t.find? x := by
  cases h with
  | take x purpose =>
    obtain ⟨rfl, rfl⟩ := hk
    refine ⟨?_, List.forall_mem_nil _, fun y hy ↦ (mem_keys_take.mp hy).1, fun y hy ↦
      find?_take_of_ne t hy.symm⟩
    cases hfind : t.find? x with
    | none =>
      change (((t.find? x).map _).getD Task.ended).RingsFor x ticket
      rw [hfind]
      exact List.forall_mem_nil _
    | some p =>
      change (((t.find? x).map _).getD Task.ended).RingsFor x ticket
      rw [hfind]
      exact hkeys _ (mem_keys_of_find? hfind) rfl
  | judge p =>
    exact ⟨List.forall_mem_singleton.mpr hk, List.forall_mem_nil _, List.Subset.refl _,
      fun _ _ ↦ rfl⟩
  | tell d ds =>
    obtain ⟨hd, hds⟩ := List.forall_mem_cons.mp hk
    exact ⟨hds, List.forall_mem_singleton.mpr hd, List.Subset.refl _, fun _ _ ↦ rfl⟩
  | insert | setTimer | mark | scan | found | drain | drained | settle => exact hk.elim

end RpcTransport.PendingTable
