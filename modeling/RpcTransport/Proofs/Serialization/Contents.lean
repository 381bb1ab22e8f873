import Mathlib.Data.List.Basic
import RpcTransport.Serialization.Error
import RpcTransport.Value

/-!
# What readers rebuild

A reader of an object or of a map inserts the entries one by one, in the order in which they come.
Entries of distinct keys give the one sorted list that has them all, whatever their order is
(`insertAll_of_perm`), so a map that was written in any order is read back as the map it was.

The second half takes the conditions on a value apart: what holds of a value holds of its items.
-/

namespace RpcTransport

/-! ## Sorted entries -/

section Entries

variable {α : Type} {entries known sorted : List (String × α)} {key : String} {value : α}

/-- A new key is put between the others. -/
theorem insertEntry_perm (h : ∀ e ∈ known, e.1 ≠ key) :
    (insertEntry key value known).Perm ((key, value) :: known) := by
  induction known with
  | nil => exact .refl _
  | cons head rest ih =>
    obtain ⟨k, v⟩ := head
    have hk : key ≠ k := fun heq ↦ h (k, v) List.mem_cons_self heq.symm
    have hrest := ih fun e he ↦ h e (List.mem_cons_of_mem _ he)
    rw [insertEntry, if_neg hk]
    split
    · exact .refl _
    · exact (hrest.cons (k, v)).trans (.swap _ _ _)

/-- Put entries into a sorted list, one after the other. -/
def insertAll (entries known : List (String × α)) : List (String × α) :=
  entries.foldl (fun known e ↦ insertEntry e.1 e.2 known) known

theorem sortedKeys_insertAll (h : SortedKeys known) : SortedKeys (insertAll entries known) := by
  induction entries generalizing known with
  | nil => exact h
  | cons e entries ih => exact ih h.insertEntry

theorem insertAll_perm (hentries : (entries.map Prod.fst).Nodup)
    (hnew : ∀ e ∈ entries, ∀ k ∈ known, k.1 ≠ e.1) :
    (insertAll entries known).Perm (entries ++ known) := by
  induction entries generalizing known with
  | nil => exact .refl _
  | cons e entries ih =>
    rw [List.map_cons, List.nodup_cons] at hentries
    have hinsert : (insertEntry e.1 e.2 known).Perm (e :: known) :=
      insertEntry_perm (hnew e List.mem_cons_self)
    refine (ih hentries.2 ?_).trans ((hinsert.append_left entries).trans List.perm_middle)
    intro e' he' k hk
    rcases List.mem_cons.mp (hinsert.mem_iff.mp hk) with rfl | hk
    · intro heq
      exact hentries.1 (heq ▸ List.mem_map_of_mem he')
    · exact hnew e' (List.mem_cons_of_mem _ he') k hk

theorem SortedKeys.nodup (h : SortedKeys sorted) : (sorted.map Prod.fst).Nodup := by
  rw [List.Nodup, List.pairwise_map]
  refine List.Pairwise.imp (fun hlt heq ↦ ?_) h
  rw [heq] at hlt
  exact String.lt_irrefl _ hlt

/-- **Entries of distinct keys give one sorted list**, whatever their order is. -/
theorem insertAll_of_perm (hsorted : SortedKeys sorted) (h : entries.Perm sorted) :
    insertAll entries [] = sorted := by
  have hnodup : (entries.map Prod.fst).Nodup :=
    (h.map Prod.fst).nodup_iff.mpr hsorted.nodup
  have hperm : (insertAll entries []).Perm sorted := by
    refine (insertAll_perm hnodup fun _ _ _ hk ↦ absurd hk List.not_mem_nil).trans ?_
    rwa [List.append_nil]
  -- Of the orders of these entries only one is sorted.
  refine List.Perm.eq_of_pairwise (fun a b _ _ hab hba ↦ ?_)
    (sortedKeys_insertAll List.Pairwise.nil) hsorted hperm
  exact absurd (String.lt_trans hab hba) (String.lt_irrefl _)

end Entries

theorem TextMap.entries_foldl_insert (entries : List (String × String)) (m : TextMap) :
    (entries.foldl (fun m e ↦ m.insert e.1 e.2) m).entries = insertAll entries m.entries := by
  induction entries generalizing m with
  | nil => rfl
  | cons e entries ih => exact ih (m.insert e.1 e.2)

/-- A map is the list of its entries in any order. -/
theorem TextMap.ofList_of_perm {m : TextMap} {entries : List (String × String)}
    (h : entries.Perm m.entries) : ofList entries = m := by
  have heq : (ofList entries).entries = m.entries := by
    rw [ofList, entries_foldl_insert]
    exact insertAll_of_perm m.sorted h
  cases m
  cases hlist : ofList entries
  rw [hlist] at heq
  congr

theorem TextMap.eq_empty {m : TextMap} (h : m.isEmpty = true) : m = .empty := by
  obtain ⟨entries, sorted⟩ := m
  obtain rfl : entries = [] := List.isEmpty_iff.mp h
  rfl

/-! ## Items of a value -/

namespace Value

theorem eq_string_of_text? {v : Value} {s : String} (h : v.text? = some s) : v = .string s := by
  cases v with
  | string t => exact congrArg Value.string (Option.some.inj h)
  | null | bool | number | array | object => exact nomatch h

theorem depth_le_depthItems {items : List Value} {v : Value} (h : v ∈ items) :
    v.depth ≤ depthItems items := by
  induction items with
  | nil => exact nomatch h
  | cons w items ih =>
    rw [depthItems]
    rcases List.mem_cons.mp h with rfl | h
    · exact Nat.le_max_left _ _
    · exact Nat.le_trans (ih h) (Nat.le_max_right _ _)

theorem depth_le_depthMembers {members : List (String × Value)} {m : String × Value}
    (h : m ∈ members) : m.2.depth ≤ depthMembers members := by
  induction members with
  | nil => exact nomatch h
  | cons w members ih =>
    rw [depthMembers]
    rcases List.mem_cons.mp h with rfl | h
    · exact Nat.le_max_left _ _
    · exact Nat.le_trans (ih h) (Nat.le_max_right _ _)

theorem canonicalItems_iff {items : List Value} :
    CanonicalItems items ↔ ∀ v ∈ items, v.Canonical := by
  induction items with
  | nil => simp [CanonicalItems]
  | cons v items ih => simp [CanonicalItems, ih]

theorem canonicalMembers_iff {members : List (String × Value)} :
    CanonicalMembers members ↔ ∀ m ∈ members, m.2.Canonical := by
  induction members with
  | nil => simp [CanonicalMembers]
  | cons m members ih => simp [CanonicalMembers, ih]

theorem wholeItems_iff {items : List Value} : WholeItems items ↔ ∀ v ∈ items, v.Whole := by
  induction items with
  | nil => simp [WholeItems]
  | cons v items ih => simp [WholeItems, ih]

theorem wholeMembers_iff {members : List (String × Value)} :
    WholeMembers members ↔ ∀ m ∈ members, m.2.Whole := by
  induction members with
  | nil => simp [WholeMembers]
  | cons m members ih => simp [WholeMembers, ih]

end Value

/-! ## Fields of an error -/

/-- A field that was found is a text of the object. -/
def ErrorFields.Within (fields : ErrorFields) (ms : List (String × Value)) : Prop :=
  (∀ s, fields.kind = some s → ("kind", .string s) ∈ ms) ∧
    ∀ s, fields.message = some s → ("message", .string s) ∈ ms

theorem ErrorFields.within_none (ms : List (String × Value)) : ErrorFields.none.Within ms :=
  ⟨nofun, nofun⟩

/-- An object that lacks a text under one of the names has no error in it. -/
theorem ErrorFields.Within.complete_error {fields : ErrorFields} {ms : List (String × Value)}
    (h : fields.Within ms)
    (hlacks : ∃ name ∈ ["kind", "message"], ∀ s, (name, Value.string s) ∉ ms) :
    ∃ detail, fields.complete = .error detail := by
  have hmissing : fields.kind = .none ∨ fields.message = .none := by
    obtain ⟨name, hname, hlacks⟩ := hlacks
    rcases List.mem_cons.mp hname with rfl | hname
    · exact .inl (Option.eq_none_iff_forall_ne_some.mpr fun s hs ↦ hlacks s (h.1 s hs))
    · obtain rfl := List.mem_singleton.mp hname
      exact .inr (Option.eq_none_iff_forall_ne_some.mpr fun s hs ↦ hlacks s (h.2 s hs))
  obtain ⟨kind, message⟩ := fields
  rcases hmissing with rfl | rfl
  · exact ⟨_, rfl⟩
  · cases kind with
    | none | some => exact ⟨_, rfl⟩

end RpcTransport
