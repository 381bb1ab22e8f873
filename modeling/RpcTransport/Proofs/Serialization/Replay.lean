import RpcTransport.Proofs.Serialization.RoundTrip
import RpcTransport.Serialization.Item

/-!
# A body is replayed as it was written

Items are written one behind the other, of any kinds, and the readers of the same kinds go on where
the last one stopped. There are items left as long as not all of them were read, and then there are
none: what a JSON reader leaves behind the last one is a line feed, which counts as nothing, and a
reader that finds nothing says so, whatever it was to read (`runOn_read_of_isExhausted`). So a body
is not exhausted where a reader succeeds.
-/

namespace RpcTransport

namespace Format

variable {f : Format} {items : List Item} {written : List Bytes} {body : Bytes}

/-! ## Reading on -/

/-- Read items of these kinds one after the other: whether the body was exhausted before each read,
and what was read. -/
def replay (f : Format) : List Item.Kind → Bytes →
    List (Bool × Except SerializationError Item) × Bytes
  | [], body => ([], body)
  | k :: ks, body =>
    let (got, left) := (f.read k).runOn body
    let (more, rest) := replay f ks left
    ((f.isExhausted body, got) :: more, rest)

theorem replay_cons (k : Item.Kind) (ks : List Item.Kind) (body : Bytes) :
    f.replay (k :: ks) body =
      ((f.isExhausted body, ((f.read k).runOn body).1) ::
        (f.replay ks ((f.read k).runOn body).2).1, (f.replay ks ((f.read k).runOn body).2).2) :=
  rfl

theorem replay_append (ks ks' : List Item.Kind) (body : Bytes) :
    f.replay (ks ++ ks') body =
      ((f.replay ks body).1 ++ (f.replay ks' (f.replay ks body).2).1,
        (f.replay ks' (f.replay ks body).2).2) := by
  induction ks generalizing body with
  | nil => rfl
  | cons k ks ih =>
    rw [List.cons_append, replay_cons, replay_cons, ih]
    rfl

/-! ## Nothing left -/

/-- **Whatever is to be read, an exhausted body says that it has ended**, and stays as it is. -/
theorem runOn_read_of_isExhausted (h : f.isExhausted body = true) (k : Item.Kind) :
    (f.read k).runOn body = (.error .endOfStream, body) := by
  cases f with
  | json =>
    have hread {α : Type} (p : Nat → Json.Parser α) :
        (Json.read p).runOn body = (.error .endOfStream, body) := by
      rw [Json.runOn_read, if_pos (show Json.isExhausted body = true from h)]
    cases k with
    | octet => exact Reader.runOn_bind_error (Reader.runOn_bind_error (hread _) _) _
    | integer => exact Reader.runOn_bind_error (Reader.runOn_bind_error (hread _) _) _
    | octets => exact Reader.runOn_bind_error (Reader.runOn_bind_error (hread _) _) _
    | text => exact Reader.runOn_bind_error (hread _) _
    | value => exact Reader.runOn_bind_error (hread fun n ↦ Json.value n Json.depthLimit) _
    | map => exact Reader.runOn_bind_error (hread _) _
    | error => exact Reader.runOn_bind_error (hread _) _
  | messagePack =>
    obtain rfl : body = [] := List.isEmpty_iff.mp h
    cases k with
    | octet | integer | text | octets | value | map | error => rfl

theorem replay_of_isExhausted (h : f.isExhausted body = true) (ks : List Item.Kind) :
    f.replay ks body = (ks.map fun _ ↦ (true, .error .endOfStream), body) := by
  induction ks with
  | nil => rfl
  | cons k ks ih =>
    rw [replay_cons, runOn_read_of_isExhausted h, ih, h]
    rfl

theorem isExhausted_of_before (h : f.Before [] body) : f.isExhausted body = true := by
  rcases h with rfl | ⟨rfl, rfl⟩
  · cases f with
    | json | messagePack => rfl
  · rfl

/-! ## Items -/

/-- What an item is written as: the entries of a map may stand in any order. -/
inductive Writes (f : Format) : Item → Bytes → Prop where
  | item (i : Item) : Writes f i (f.write i)
  | map {m : TextMap} {entries : List (String × String)} (order : entries.Perm m.entries) :
    Writes f (.map m) (f.writeEntries entries)

/-- An item that a format gives back. A generic value has to be one that does; besides, MessagePack
tells sizes in four octets, and JSON tells none. -/
def CarriesItem (f : Format) : Item → Prop
  | .octet _ | .integer _ => True
  | .text s => f = .messagePack → (utf8 s).length < 2 ^ 32
  | .octets octets => f = .messagePack → octets.length < 2 ^ 32
  | .value v => f.Carries v
  | .map m => f = .messagePack → MessagePack.SizedEntries m.entries
  | .error e => f = .messagePack →
    (utf8 e.kind).length < 2 ^ 32 ∧ (utf8 e.message).length < 2 ^ 32

/-- **An item is read as it was written.** -/
theorem reads_item {i : Item} {octets : Bytes} (hwrites : f.Writes i octets)
    (hcarries : f.CarriesItem i) : f.Reads (f.read i.kind) octets i := by
  have hmap {m : TextMap} {entries : List (String × String)} (order : entries.Perm m.entries)
      (h : f.CarriesItem (.map m)) : f.Reads (f.read .map) (f.writeEntries entries) (.map m) := by
    refine (f.reads_map order fun hf ↦ ?_).map Item.map
    exact ⟨order.length_eq ▸ (h hf).1, fun e he ↦ (h hf).2 e (order.mem_iff.mp he)⟩
  cases hwrites with
  | map order => exact hmap order hcarries
  | item =>
    cases i with
    | octet n => exact (f.reads_octet n).map Item.octet
    | integer n => exact (f.reads_integer n).map Item.integer
    | text s => exact (f.reads_text hcarries).map Item.text
    | octets octets => exact (f.reads_octets hcarries).map Item.octets
    | value v => exact (f.reads_value hcarries).map Item.value
    | map m => exact hmap (.refl m.entries) hcarries
    | error e => exact (f.reads_error hcarries).map Item.error

/-- The readers of a row of items read these items, and find the body not exhausted each time. -/
theorem replay_row (hwrites : List.Forall₂ f.Writes items written)
    (hcarries : ∀ i ∈ items, f.CarriesItem i) {rest : Bytes}
    (hbody : f.Before (written.flatten ++ rest) body) :
    ∃ left, f.replay (items.map Item.kind) body = (items.map fun i ↦ (false, .ok i), left) ∧
      f.Before rest left := by
  induction hwrites generalizing body with
  | nil => exact ⟨body, rfl, hbody⟩
  | @cons i octets items written hwrite _ ih =>
    rw [List.flatten_cons, List.append_assoc] at hbody
    obtain ⟨middle, hread, hmiddle⟩ :=
      reads_item hwrite (hcarries i List.mem_cons_self) _ body hbody
    obtain ⟨left, hreplay, hleft⟩ := ih (fun j hj ↦ hcarries j (List.mem_cons_of_mem i hj)) hmiddle
    -- A reader that finds nothing does not succeed.
    have hexhausted : f.isExhausted body = false := by
      refine Bool.eq_false_iff.mpr fun h ↦ ?_
      rw [runOn_read_of_isExhausted h] at hread
      exact nomatch hread
    refine ⟨left, ?_, hleft⟩
    rw [List.map_cons, replay_cons, hread, hreplay, hexhausted]
    rfl

/-- **A body is replayed as it was written.** Write any items one behind the other, the entries of
each map in some order, and read items of the same kinds: each read gives the item that was written,
before it the body is not exhausted, and then it is; whatever is read further, the body has ended.
For MessagePack this is so if four octets can tell the sizes of the texts, octet strings and
containers, for JSON if the numbers in generic values are whole; and generic values nest no deeper
than the reader of the format admits. -/
theorem replay_written (hwrites : List.Forall₂ f.Writes items written)
    (hcarries : ∀ i ∈ items, f.CarriesItem i) (further : List Item.Kind) :
    ∃ left, f.isExhausted left = true ∧
      f.replay (items.map Item.kind ++ further) written.flatten =
        (items.map (fun i ↦ (false, .ok i)) ++ further.map (fun _ ↦ (true, .error .endOfStream)),
          left) := by
  have hbody : f.Before (written.flatten ++ []) written.flatten := .inl (List.append_nil _).symm
  obtain ⟨left, hreplay, hleft⟩ := replay_row hwrites hcarries hbody
  have hexhausted := isExhausted_of_before hleft
  refine ⟨left, hexhausted, ?_⟩
  rw [replay_append, hreplay, replay_of_isExhausted hexhausted]

/-- An item of each kind, a map with its entries the other way round, and then one read too many. -/
theorem replay_written_all_kinds :
    ∃ left, isExhausted .messagePack left = true ∧
      replay .messagePack
          ([.octet, .integer, .text, .octets, .value, .map, .error] ++ [.text])
          [writeOctet .messagePack 255, writeInteger .messagePack (-1),
            writeText .messagePack "a", writeOctets .messagePack [0, 255],
            writeValue .messagePack (.array [.null, .bool true]),
            writeEntries .messagePack [("b", "2"), ("a", "1")],
            writeError .messagePack ⟨"Code", "0"⟩].flatten =
        ([(false, .ok (.octet 255)), (false, .ok (.integer (-1))), (false, .ok (.text "a")),
            (false, .ok (.octets [0, 255])), (false, .ok (.value (.array [.null, .bool true]))),
            (false, .ok (.map (.ofList [("a", "1"), ("b", "2")]))),
            (false, .ok (.error ⟨"Code", "0"⟩))] ++ [(true, .error .endOfStream)], left) := by
  have hswapped : [("b", "2"), ("a", "1")].Perm (TextMap.ofList [("a", "1"), ("b", "2")]).entries :=
    .swap _ _ _
  have hvalue : Carries .messagePack (.array [.null, .bool true]) :=
    ⟨⟨trivial, trivial, trivial⟩, ⟨by decide, trivial, trivial, trivial⟩, by decide⟩
  have hsized : MessagePack.SizedEntries (TextMap.ofList [("a", "1"), ("b", "2")]).entries :=
    ⟨by decide, by decide⟩
  have hcarries : ∀ i ∈ [Item.octet 255, .integer (-1), .text "a", .octets [0, 255],
      .value (.array [.null, .bool true]), .map (.ofList [("a", "1"), ("b", "2")]),
      .error ⟨"Code", "0"⟩], CarriesItem .messagePack i := by
    simp only [List.forall_mem_cons]
    exact ⟨trivial, trivial, fun _ ↦ by decide, fun _ ↦ by decide, hvalue, fun _ ↦ hsized,
      fun _ ↦ ⟨by decide, by decide⟩, nofun⟩
  have hwrites := List.Forall₂.nil (R := Writes .messagePack)
    |>.cons (.item (.error ⟨"Code", "0"⟩)) |>.cons (.map hswapped)
    |>.cons (.item (.value (.array [.null, .bool true]))) |>.cons (.item (.octets [0, 255]))
    |>.cons (.item (.text "a")) |>.cons (.item (.integer (-1))) |>.cons (.item (.octet 255))
  exact replay_written hwrites hcarries [.text]

end Format

end RpcTransport
