import Mathlib.Data.List.Nodup
import RpcTransport.PendingTable

/-!
# What is in a table

A request in the table is known by its id, and its caller by its ticket. What an access to the table
does is said here once for both: the ids of a table stay distinct, and of the tickets only the one
that was taken out is missing afterwards.
-/

namespace RpcTransport

namespace PendingTable

def tickets (t : PendingTable) : List Nat := t.entries.map Pending.ticket

/-- The ids, each with the ticket of its request. -/
def keys (t : PendingTable) : List (UInt64 × Nat) := t.entries.map fun p ↦ (p.id, p.ticket)

theorem ids_eq_keys (t : PendingTable) : t.ids = t.keys.map Prod.fst := by
  rw [ids, keys, List.map_map]
  rfl

theorem tickets_eq_keys (t : PendingTable) : t.tickets = t.keys.map Prod.snd := by
  rw [tickets, keys, List.map_map]
  rfl

/-! ## Taking a request out -/

theorem ids_take (t : PendingTable) (id : UInt64) :
    (t.take id).2.ids = t.ids.filter (· ≠ id) := by
  rw [ids, ids, List.filter_map]
  rfl

theorem nodup_ids_take {t : PendingTable} (h : t.ids.Nodup) (id : UInt64) :
    (t.take id).2.ids.Nodup := by
  rw [ids_take]
  exact h.filter _

theorem mem_keys_take {t : PendingTable} {id : UInt64} {x : UInt64 × Nat} :
    x ∈ (t.take id).2.keys ↔ x ∈ t.keys ∧ x.1 ≠ id := by
  have hkeys : (t.take id).2.keys = t.keys.filter fun x ↦ decide (x.1 ≠ id) := by
    rw [keys, keys, List.filter_map]
    rfl
  rw [hkeys, List.mem_filter, decide_eq_true_iff]

theorem find?_eq_none {t : PendingTable} {id : UInt64} (h : t.contains id = false) :
    t.find? id = none := by
  rwa [contains, Option.isSome_eq_false_iff, Option.isNone_iff_eq_none] at h

theorem ne_of_find?_eq_none {t : PendingTable} {id : UInt64} (h : t.find? id = none)
    {x : UInt64 × Nat} (hx : x ∈ t.keys) : x.1 ≠ id := by
  obtain ⟨p, hp, rfl⟩ := List.mem_map.mp hx
  have hp' := List.find?_eq_none.mp h p hp
  simpa using hp'

theorem id_of_find? {t : PendingTable} {id : UInt64} {p : Pending} (h : t.find? id = some p) :
    p.id = id :=
  of_decide_eq_true (List.find?_some (p := fun q : Pending ↦ decide (q.id = id)) h)

/-- To take what is not there changes nothing. -/
theorem take_of_not_contains {t : PendingTable} {id : UInt64} (h : t.contains id = false) :
    t.take id = (none, t) := by
  have hnone := find?_eq_none h
  have hall : t.entries.filter (·.id ≠ id) = t.entries := by
    rw [List.filter_eq_self]
    intro p hp
    have hp' := List.find?_eq_none.mp hnone p hp
    simpa using hp'
  rw [take, hnone, hall]

private theorem count_find?_filter (ps : List Pending) (h : (ps.map (·.id)).Nodup) (id : UInt64)
    (a : Nat) :
    ((ps.find? (·.id = id)).toList.map Pending.ticket).count a +
        ((ps.filter (·.id ≠ id)).map Pending.ticket).count a =
      (ps.map Pending.ticket).count a := by
  induction ps with
  | nil => rfl
  | cons p ps ih =>
    rw [List.map_cons, List.nodup_cons] at h
    by_cases hid : p.id = id
    -- The ids are distinct, so nothing further on goes with the one that was found.
    · have hrest : ps.filter (·.id ≠ id) = ps := by
        rw [List.filter_eq_self]
        intro q hq
        have hne : q.id ≠ p.id := fun heq ↦ h.1 (heq ▸ List.mem_map_of_mem hq)
        rw [decide_eq_true_iff, ← hid]
        exact hne
      rw [List.find?_cons_of_pos (by simpa using hid),
        List.filter_cons_of_neg (by simpa using hid), hrest, Option.toList_some, List.map_cons,
        List.map_nil, List.map_cons, List.count_cons, List.count_cons, List.count_nil]
      omega
    · have hrest := ih h.2
      rw [List.find?_cons_of_neg (by simpa using hid),
        List.filter_cons_of_pos (by simpa using hid), List.map_cons, List.map_cons,
        List.count_cons, List.count_cons]
      omega

/-- What is taken out is what is missing then. -/
theorem count_tickets_take {t : PendingTable} (h : t.ids.Nodup) (id : UInt64) (a : Nat) :
    ((t.take id).1.toList.map Pending.ticket).count a + (t.take id).2.tickets.count a =
      t.tickets.count a :=
  count_find?_filter t.entries h id a

/-! ## Making an entry -/

theorem ids_insert (t : PendingTable) (id : UInt64) (completion : Completion) (timeout : Nat) :
    (t.insert id completion timeout).2.ids = (t.take id).2.ids ++ [id] := by
  rw [insert, ids, List.map_append]
  rfl

theorem nodup_ids_insert {t : PendingTable} (h : t.ids.Nodup) (id : UInt64)
    (completion : Completion) (timeout : Nat) : (t.insert id completion timeout).2.ids.Nodup := by
  rw [ids_insert, ids_take, List.nodup_append]
  refine ⟨h.filter _, List.nodup_singleton id, fun a ha b hb ↦ ?_⟩
  rw [List.mem_singleton.mp hb]
  exact of_decide_eq_true (List.mem_filter.mp ha).2

theorem tickets_insert (t : PendingTable) (id : UInt64) (completion : Completion) (timeout : Nat) :
    (t.insert id completion timeout).2.tickets = (t.take id).2.tickets ++ [completion.ticket] := by
  rw [insert, tickets, List.map_append]
  rfl

/-- The one that gives way to a request is the one that was under its id. -/
theorem tickets_insert_fst (t : PendingTable) (id : UInt64) (completion : Completion)
    (timeout : Nat) :
    (t.insert id completion timeout).1.toList.map Delivery.ticket =
      (t.take id).1.toList.map Pending.ticket := by
  have h : (t.insert id completion timeout).1 = (t.take id).1.map fun p ↦
      p.completion.fail (.internal s!"request id {id.toNat} reused") := rfl
  rw [h]
  cases (t.take id).1 with
  | none => rfl
  | some p => rfl

theorem keys_insert (t : PendingTable) (id : UInt64) (completion : Completion) (timeout : Nat) :
    (t.insert id completion timeout).2.keys = (t.take id).2.keys ++ [(id, completion.ticket)] := by
  rw [insert, keys, List.map_append]
  rfl

/-! ## Noting a timer -/

@[simp]
theorem keys_setTimer (t : PendingTable) (id : UInt64) (token : Nat) :
    (t.setTimer id token).2.keys = t.keys := by
  rw [setTimer, keys, List.map_map]
  refine List.map_congr_left fun p _ ↦ ?_
  rw [Function.comp_apply]
  split
  · rfl
  · rfl

@[simp]
theorem ids_setTimer (t : PendingTable) (id : UInt64) (token : Nat) :
    (t.setTimer id token).2.ids = t.ids := by
  rw [ids_eq_keys, keys_setTimer, ids_eq_keys]

@[simp]
theorem tickets_setTimer (t : PendingTable) (id : UInt64) (token : Nat) :
    (t.setTimer id token).2.tickets = t.tickets := by
  rw [tickets_eq_keys, keys_setTimer, tickets_eq_keys]

/-! ## Write states -/

/-- What is noted of one request is not noted of another. -/
theorem writeState_modify {t : PendingTable} {n m : Nat} {f : WriteState → WriteState}
    (h : n ≠ m) : PendingTable.writeState { t with writes := t.writes.modify m f } n =
      t.writeState n := by
  simp only [writeState, List.getD_eq_getElem?_getD, List.getElem?_modify, if_neg (Ne.symm h)]
  cases t.writes[n]? with
  | none => rfl
  | some w => rfl

theorem writeState_modify_self {t : PendingTable} {n : Nat}
    {f : WriteState → WriteState} (h : n < t.writes.length) :
    PendingTable.writeState { t with writes := t.writes.modify n f } n = f (t.writeState n) := by
  simp [writeState, List.getD_eq_getElem?_getD, h]

theorem writeState_modify_or (t : PendingTable) (n m : Nat) (f : WriteState → WriteState) :
    PendingTable.writeState { t with writes := t.writes.modify m f } n = t.writeState n ∨
      PendingTable.writeState { t with writes := t.writes.modify m f } n = f (t.writeState n) := by
  by_cases hm : n = m
  · subst hm
    by_cases hlt : n < t.writes.length
    · exact .inr (writeState_modify_self hlt)
    · refine .inl ?_
      rw [List.modify_eq_self (Nat.le_of_not_lt hlt)]
  · exact .inl (writeState_modify hm)

/-- A write state that is not there yet counts as awaited. -/
theorem writeState_append {t t' : PendingTable} (h : t'.writes = t.writes ++ [.initial]) (n : Nat) :
    t'.writeState n = t.writeState n := by
  simp only [writeState, h, List.getD_eq_getElem?_getD, List.getElem?_append]
  split
  · rfl
  · next hlt =>
    rw [List.getElem?_eq_none (Nat.le_of_not_lt hlt), List.getElem?_singleton]
    split <;> rfl

/-! ## A new id -/

/-- Nobody gives way to a request whose id is new. -/
theorem insert_of_not_contains {t : PendingTable} {id : UInt64} (h : t.contains id = false)
    (completion : Completion) (timeout : Nat) :
    t.insert id completion timeout =
      (none, { t with entries := t.entries ++ [⟨id, completion, timeout, none⟩] }) := by
  rw [insert, take_of_not_contains h]
  rfl

/-- A timer is noted with the only request of its id. -/
theorem setTimer_append {t : PendingTable} {p : Pending} (h : t.find? p.id = none) (token : Nat) :
    PendingTable.setTimer { t with entries := t.entries ++ [p] } p.id token =
      (true, { t with entries := t.entries ++ [{ p with timer := some token }] }) := by
  have hothers : (t.entries.map fun q ↦ if q.id = p.id then { q with timer := some token } else q) =
      t.entries := by
    refine (List.map_congr_left fun q hq ↦ ?_).trans t.entries.map_id
    have hne := List.find?_eq_none.mp h q hq
    rw [if_neg (by simpa using hne)]
    rfl
  rw [setTimer, contains, find?, List.map_append, hothers, List.find?_append]
  rw [find?] at h
  simp [h]

/-! ## Taking many requests out -/

theorem find?_take_self (t : PendingTable) (id : UInt64) : (t.take id).2.find? id = none := by
  rw [find?, take, List.find?_eq_none]
  intro p hp
  simpa using (List.mem_filter.mp hp).2

theorem find?_take_of_ne (t : PendingTable) {id x : UInt64} (h : id ≠ x) :
    (t.take id).2.find? x = t.find? x := by
  rw [find?, find?, take, List.find?_filter]
  congr 1
  funext p
  by_cases hp : p.id = x
  · simp [hp, Ne.symm h]
  · simp [hp]

theorem entries_takeAll (t : PendingTable) (ids : List UInt64) :
    (t.takeAll ids).2.entries = t.entries.filter fun p ↦ decide (p.id ∉ ids) := by
  induction ids generalizing t with
  | nil => simp [takeAll]
  | cons id ids ih =>
    rw [takeAll]
    dsimp only
    rw [ih, take, List.filter_filter]
    congr 1
    funext p
    by_cases hp : p.id = id
    · simp [hp]
    · simp [hp]

theorem mem_entries_of_mem_takeAll {t : PendingTable} {ids : List UInt64} {p : Pending}
    (hp : p ∈ (t.takeAll ids).1) : p ∈ t.entries := by
  induction ids generalizing t with
  | nil => exact nomatch hp
  | cons id ids ih =>
    rcases List.mem_append.mp hp with hp | hp
    · exact List.mem_of_find?_eq_some (Option.mem_toList.mp hp)
    · exact List.mem_of_mem_filter (ih hp)

/-- Of each id what was found first is taken, and this once. -/
theorem filter_takeAll (t : PendingTable) (ids : List UInt64) (x : UInt64) :
    (t.takeAll ids).1.filter (·.id = x) = if x ∈ ids then (t.find? x).toList else [] := by
  induction ids generalizing t with
  | nil => rfl
  | cons id ids ih =>
    have hrest := ih (t.take id).2
    rw [takeAll]
    dsimp only
    rw [List.filter_append, hrest]
    by_cases hid : id = x
    · subst hid
      have hfound : (t.find? id).toList.filter (·.id = id) = (t.find? id).toList := by
        rw [List.filter_eq_self]
        intro p hp
        exact decide_eq_true (id_of_find? (Option.mem_toList.mp hp))
      rw [t.find?_take_self id, if_pos List.mem_cons_self]
      change (t.find? id).toList.filter (·.id = id) ++ _ = _
      rw [hfound]
      simp
    · have hother : (t.find? id).toList.filter (·.id = x) = [] := by
        rw [List.filter_eq_nil_iff]
        intro p hp
        rw [id_of_find? (Option.mem_toList.mp hp)]
        simpa using hid
      rw [t.find?_take_of_ne hid]
      change (t.find? id).toList.filter (·.id = x) ++ _ = _
      rw [hother]
      simp [Ne.symm hid]

theorem takeAll_rest (t : PendingTable) (ids : List UInt64) :
    (t.takeAll ids).2.writes = t.writes ∧ (t.takeAll ids).2.connection = t.connection ∧
      (t.takeAll ids).2.peer = t.peer := by
  induction ids generalizing t with
  | nil => exact ⟨rfl, rfl, rfl⟩
  | cons id ids ih => exact ih (t.take id).2

theorem entries_drain (t : PendingTable) : t.drain.2.entries = [] := by
  rw [drain, entries_takeAll, List.filter_eq_nil_iff]
  intro p hp
  have hmem : p.id ∈ t.ids := List.mem_map_of_mem hp
  simpa using hmem

theorem filter_drain (t : PendingTable) (x : UInt64) :
    t.drain.1.filter (·.id = x) = (t.find? x).toList := by
  rw [drain, filter_takeAll]
  split
  · rfl
  · next hx =>
    have hnone : t.find? x = none := by
      rw [find?, List.find?_eq_none]
      intro p hp
      have hne : p.id ≠ x := fun heq ↦ hx (heq ▸ List.mem_map_of_mem (f := (·.id)) hp)
      simpa using hne
    rw [hnone]
    rfl

end PendingTable

end RpcTransport
