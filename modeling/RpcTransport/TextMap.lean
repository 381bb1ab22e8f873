/-!
# Sorted association lists

Both the members of a generic object and a map of texts keep their entries in the order of their
keys, compared code point by code point, which for UTF-8 is the order of the octets. A repeated key
keeps the last value. `insertEntry` keeps that order for any value type; `TextMap` carries it as an
invariant, so equal maps are equal values whatever order their entries arrived in.
-/

namespace RpcTransport

/-- Insert into a list sorted by key, replacing the value of an equal key. -/
def insertEntry {α : Type} (key : String) (value : α) : List (String × α) → List (String × α)
  | [] => [(key, value)]
  | (k, v) :: rest =>
    if key < k then (key, value) :: (k, v) :: rest
    else if key = k then (key, value) :: rest
    else (k, v) :: insertEntry key value rest

/-- The keys are strictly increasing. -/
def SortedKeys {α : Type} (entries : List (String × α)) : Prop :=
  entries.Pairwise fun a b ↦ a.1 < b.1

theorem mem_insertEntry {α : Type} {key : String} {value : α} {entries : List (String × α)}
    {e : String × α} (h : e ∈ insertEntry key value entries) :
    e = (key, value) ∨ e ∈ entries := by
  induction entries with
  | nil => simpa [insertEntry] using h
  | cons head rest ih =>
    obtain ⟨k, v⟩ := head
    unfold insertEntry at h
    split at h
    · simpa using h
    · split at h
      · rcases List.mem_cons.1 h with h | h
        · exact .inl h
        · exact .inr (List.mem_cons_of_mem _ h)
      · rcases List.mem_cons.1 h with h | h
        · exact .inr (h ▸ List.mem_cons_self)
        · rcases ih h with h | h
          · exact .inl h
          · exact .inr (List.mem_cons_of_mem _ h)

theorem SortedKeys.insertEntry {α : Type} {key : String} {value : α}
    {entries : List (String × α)} (h : SortedKeys entries) :
    SortedKeys (insertEntry key value entries) := by
  induction entries with
  | nil => simp [RpcTransport.insertEntry, SortedKeys]
  | cons head rest ih =>
    obtain ⟨k, v⟩ := head
    have hk : ∀ e ∈ rest, k < e.1 := (List.pairwise_cons.1 h).1
    have hrest : SortedKeys rest := (List.pairwise_cons.1 h).2
    unfold RpcTransport.insertEntry
    split
    · next hlt =>
      refine List.pairwise_cons.2 ⟨?_, h⟩
      intro e he
      rcases List.mem_cons.1 he with he | he
      · exact he ▸ hlt
      · exact String.lt_trans hlt (hk e he)
    · next hnlt =>
      split
      · next heq =>
        subst heq
        exact List.pairwise_cons.2 ⟨hk, hrest⟩
      · next hne =>
        refine List.pairwise_cons.2 ⟨?_, ih hrest⟩
        intro e he
        rcases mem_insertEntry he with he | he
        · subst he
          rcases Decidable.em (k < key) with hlt | hge
          · exact hlt
          · exact absurd (String.le_antisymm hge hnlt) hne
        · exact hk e he

/-- A map from text to text. -/
structure TextMap where
  entries : List (String × String)
  sorted : SortedKeys entries

namespace TextMap

instance : DecidableEq TextMap := fun a b ↦
  decidable_of_iff (a.entries = b.entries) (by cases a; cases b; simp)

def empty : TextMap := ⟨[], List.Pairwise.nil⟩

instance : Inhabited TextMap := ⟨empty⟩

def insert (m : TextMap) (key value : String) : TextMap :=
  ⟨insertEntry key value m.entries, m.sorted.insertEntry⟩

/-- Later entries win over earlier ones. -/
def ofList (entries : List (String × String)) : TextMap :=
  entries.foldl (fun m e ↦ m.insert e.1 e.2) empty

def isEmpty (m : TextMap) : Bool := m.entries.isEmpty

def size (m : TextMap) : Nat := m.entries.length

end TextMap

end RpcTransport
