import RpcTransport.Proofs.Json.Mismatches
import RpcTransport.Proofs.MessagePack.Mismatches
import RpcTransport.Proofs.Serialization.Replay

/-!
# A read of the wrong kind can be made good

Whoever does not know what comes next in a body may try: a read that cannot take what was written
says that its type is another one, and stays before it, so that the read of the right kind gets it.
This is so for every item and every kind of read that does not suit it (`Wire.Unsuited`), and
wherever the item stands in a body.

What decides is the class that an item has on the wire and not the write that it came from: a small
number is read as an octet or as an integer whichever it was, and an error is a map of two texts as
well. So an item is taken for the generic value that is written the same way (`Item.wire`). Octets
in MessagePack are the only item that is no such value.
-/

namespace RpcTransport

/-- What an item is for a reader. -/
inductive Wire where
  | value (v : Value)
  | octets (bs : Bytes)

/-- In JSON octets are the text of their base64, in MessagePack they have a class of their own. -/
def Item.wire (f : Format) : Item → Wire
  | .octet n => .value (.number (.ofUInt64 n.toUInt64))
  | .integer n => .value (.number (.ofInt64 n.toInt64))
  | .text s => .value (.string s)
  | .octets bs =>
    match f with
    | .json => .value (.string ((ofUtf8? (Base64.encode bs)).getD ""))
    | .messagePack => .octets bs
  | .value v => .value v
  | .map m => .value (.object (m.entries.map fun e ↦ (e.1, .string e.2)))
  | .error e => .value (.object [("kind", .string e.kind), ("message", .string e.message)])

/-- What a read of a kind cannot take. A list is left out for errors, since an error may be the list
of its two fields. -/
def Wire.Unsuited (f : Format) : Wire → Item.Kind → Prop
  | .value v, .octet => ∀ n, v.whole? = some n → ¬ (0 ≤ n ∧ n ≤ 255)
  | .value v, .integer => ∀ n, v.whole? = some n → ¬ (-0x80000000 ≤ n ∧ n ≤ 0x80000000 - 1)
  | .value v, .text => v.text? = none
  | .value v, .octets => f = .json → v.text? = none
  | .value v, .map => ∀ ms, v = .object ms → ∃ m ∈ ms, m.2.text? = none
  | .value v, .error => (∀ items, v ≠ .array items) ∧
    ∀ ms, v = .object ms → ∃ name ∈ ["kind", "message"], ∀ s, (name, Value.string s) ∉ ms
  | .value _, .value => False
  | .octets bs, .text => ofUtf8? bs = none
  | .octets _, .octets => False
  | .octets _, _ => True

/-- A reader finds another type ahead, and stays. -/
def Reader.Mismatches {α : Type} (r : Reader α) (body : Bytes) : Prop :=
  ∃ detail, r.runOn body = (.error (.typeMismatch detail), body)

namespace Format

variable {α β : Type} {f : Format} {items : List Item} {written : List Bytes} {i : Item}
  {k : Item.Kind} {v : Value} {octets body rest : Bytes}

theorem mismatches_bind {r : Reader α} (h : r.Mismatches body) (next : α → Reader β) :
    (r >>= next).Mismatches body := by
  obtain ⟨detail, hread⟩ := h
  exact ⟨detail, Reader.runOn_bind_error hread next⟩

theorem mismatches_map {r : Reader α} (h : r.Mismatches body) (g : α → β) :
    (g <$> r).Mismatches body :=
  mismatches_bind h fun x ↦ pure (g x)

theorem mismatches_document {p : Nat → Json.Parser α} (hwhole : v.Whole)
    (hp : ∀ fuel, (Json.ofValue v).length ≤ fuel → Json.Mismatches (p fuel) (Json.ofValue v))
    (hbody : Before .json (writeValue .json v ++ rest) body) : (Json.read p).Mismatches body :=
  Json.runOn_read_mismatch (Json.starts_ofValue hwhole) hp (hbody.imp_right And.right)

theorem mismatches_ofParser {p : MessagePack.Parser α} (h : MessagePack.Mismatches p octets)
    (rest : Bytes) : (Reader.ofParser p).Mismatches (octets ++ rest) := by
  obtain ⟨detail, hmismatch⟩ := h rest
  exact ⟨detail, by rw [Reader.runOn_ofParser, hmismatch]⟩

/-! ## Values -/

/-- A value that is there whole: JSON tells whole numbers only, and MessagePack has limits. -/
def Fits (f : Format) (v : Value) : Prop :=
  match f with
  | .json => v.Whole
  | .messagePack => v.Sized ∧ v.depth ≤ MessagePack.depthLimit

/-- **A value is refused by every reader that it does not suit.** -/
theorem mismatches_value (hfits : f.Fits v) (hk : (Wire.value v).Unsuited f k)
    (hbody : f.Before (f.writeValue v ++ rest) body) : (f.read k).Mismatches body := by
  cases f with
  | json =>
    cases k with
    | octet => exact mismatches_map (mismatches_map (mismatches_document hfits
        (fun _ hfuel ↦ Json.mismatches_wholeWithin hfits hfuel hk _) hbody) _) _
    | integer => exact mismatches_map (mismatches_map (mismatches_document hfits
        (fun _ hfuel ↦ Json.mismatches_wholeWithin hfits hfuel hk _) hbody) _) _
    | text => exact mismatches_map (mismatches_document hfits
        (fun _ hfuel ↦ Json.mismatches_textDocument hfits hfuel hk) hbody) _
    | octets => exact mismatches_map (mismatches_bind (mismatches_document hfits
        (fun _ hfuel ↦ Json.mismatches_textDocument hfits hfuel (hk rfl)) hbody) _) _
    | value => exact absurd hk id
    | map => exact mismatches_map (mismatches_document hfits
        (fun _ hfuel ↦ Json.mismatches_textMapDocument hfits hfuel hk) hbody) _
    | error => exact mismatches_map (mismatches_document hfits
        (fun _ hfuel ↦ Json.mismatches_remoteErrorDocument hfits hfuel hk.1 hk.2) hbody) _
  | messagePack =>
    obtain rfl : body = writeValue .messagePack v ++ rest := hbody.resolve_right nofun
    obtain ⟨hsized, hdepth⟩ := hfits
    cases k with
    | octet => exact mismatches_map (mismatches_map (mismatches_ofParser
        (MessagePack.mismatches_wholeWithin hsized hk _) rest) _) _
    | integer => exact mismatches_map (mismatches_map (mismatches_ofParser
        (MessagePack.mismatches_wholeWithin hsized hk _) rest) _) _
    | text => exact mismatches_map (mismatches_ofParser
        (MessagePack.mismatches_string hsized hk) rest) _
    | octets => exact mismatches_map (mismatches_ofParser
        (MessagePack.mismatches_byteString hsized) rest) _
    | value => exact absurd hk id
    | map => exact mismatches_map (mismatches_ofParser
        (MessagePack.mismatches_textMap hsized hk) rest) _
    | error => exact mismatches_map (mismatches_ofParser
        (MessagePack.mismatches_remoteError hsized hdepth hk.1 hk.2) rest) _

theorem mismatches_octets {bs : Bytes} (hsized : bs.length < 2 ^ 32)
    (hk : (Wire.octets bs).Unsuited .messagePack k) (rest : Bytes) :
    (read .messagePack k).Mismatches (writeOctets .messagePack bs ++ rest) := by
  have hnumber (wanted : String) (lower upper : Int) :=
    (MessagePack.mismatches_ofOctets hsized wanted lower upper).1
  obtain ⟨-, htext, hvalue, hmap, herror⟩ := MessagePack.mismatches_ofOctets hsized "" 0 0
  cases k with
  | octet => exact mismatches_map (mismatches_map (mismatches_ofParser (hnumber _ _ _) rest) _) _
  | integer => exact mismatches_map (mismatches_map (mismatches_ofParser (hnumber _ _ _) rest) _) _
  | text => exact mismatches_map (mismatches_ofParser (htext hk) rest) _
  | octets => exact absurd hk id
  | value => exact mismatches_map (mismatches_ofParser hvalue rest) _
  | map => exact mismatches_map (mismatches_ofParser hmap rest) _
  | error => exact mismatches_map (mismatches_ofParser herror rest) _

/-! ## Items -/

/-- The order of members is no matter for what an object suits. -/
theorem unsuited_of_perm {ms ms' : List (String × Value)} (h : ms.Perm ms')
    (hk : (Wire.value (.object ms)).Unsuited f k) : (Wire.value (.object ms')).Unsuited f k := by
  cases k with
  | octet | integer => exact nofun
  | text => rfl
  | octets => exact fun _ ↦ rfl
  | value => exact hk
  | map =>
    rintro _ ⟨⟩
    obtain ⟨m, hm, hnone⟩ := hk ms rfl
    exact ⟨m, h.mem_iff.mp hm, hnone⟩
  | error =>
    refine ⟨nofun, ?_⟩
    rintro _ ⟨⟩
    obtain ⟨name, hname, hlacks⟩ := hk.2 ms rfl
    exact ⟨name, hname, fun s hs ↦ hlacks s (h.mem_iff.mpr hs)⟩

/-- Entries are written as an object of texts. -/
theorem writeEntries_eq (f : Format) (entries : List (String × String)) :
    f.writeEntries entries =
      f.writeValue (.object (entries.map fun e ↦ (e.1, .string e.2))) := by
  cases f with
  | json =>
    rw [writeEntries, writeValue, Json.ofValue_object, List.map_map]
    rfl
  | messagePack =>
    rw [writeEntries, writeValue, MessagePack.ofValue, MessagePack.memberPieces_eq,
      List.reverse_nil, List.nil_append, List.map_map, List.length_map, MessagePack.ofEntries,
      List.flatMap_def]
    rfl

theorem depthMembers_texts (entries : List (String × String)) :
    Value.depthMembers (entries.map fun e ↦ (e.1, .string e.2)) = 0 := by
  induction entries with
  | nil => rfl
  | cons e entries ih =>
    rw [List.map_cons, Value.depthMembers, ih]
    rfl

theorem fits_entries {entries : List (String × String)}
    (h : f = .messagePack → MessagePack.SizedEntries entries) :
    f.Fits (.object (entries.map fun e ↦ (e.1, .string e.2))) := by
  cases f with
  | json =>
    refine Value.wholeMembers_iff.mpr fun m hm ↦ ?_
    obtain ⟨e, -, rfl⟩ := List.mem_map.mp hm
    trivial
  | messagePack =>
    obtain ⟨hcount, hentries⟩ := h rfl
    refine ⟨⟨by rwa [List.length_map], Value.sizedMembers_iff.mpr fun m hm ↦ ?_⟩, ?_⟩
    · obtain ⟨e, he, rfl⟩ := List.mem_map.mp hm
      exact hentries e he
    · rw [Value.depth, depthMembers_texts]
      decide

theorem fits_of_wire (hi : i.wire f = .value v) (hcarries : f.CarriesItem i) : f.Fits v := by
  have hscalar {v : Value} (hdepth : v.depth = 0) (hwhole : v.Whole)
      (hsized : f = .messagePack → v.Sized) : f.Fits v := by
    cases f with
    | json => exact hwhole
    | messagePack => exact ⟨hsized rfl, hdepth ▸ Nat.zero_le _⟩
  cases i with
  | octet | integer =>
    obtain rfl := Wire.value.inj hi
    exact hscalar rfl trivial fun _ ↦ trivial
  | text s =>
    obtain rfl := Wire.value.inj hi
    exact hscalar rfl trivial hcarries
  | octets bs =>
    cases f with
    | json =>
      obtain rfl := Wire.value.inj hi
      exact hscalar rfl trivial nofun
    | messagePack => exact nomatch hi
  | value w =>
    obtain rfl := Wire.value.inj hi
    cases f with
    | json => exact hcarries.2.1
    | messagePack => exact hcarries.2
  | map m =>
    obtain rfl := Wire.value.inj hi
    exact fits_entries hcarries
  | error e =>
    obtain rfl := Wire.value.inj hi
    have hnames : (utf8 "kind").length < 2 ^ 32 ∧ (utf8 "message").length < 2 ^ 32 := by decide
    have hcount : 2 < 2 ^ 32 := by decide
    have hsized (hf : f = .messagePack) :
        MessagePack.SizedEntries [("kind", e.kind), ("message", e.message)] :=
      ⟨hcount, List.forall_mem_cons.mpr ⟨⟨hnames.1, (hcarries hf).1⟩,
        List.forall_mem_cons.mpr ⟨⟨hnames.2, (hcarries hf).2⟩, nofun⟩⟩⟩
    exact fits_entries hsized

/-- What is not octets is written as the generic value that it is for a reader. -/
theorem write_eq (hi : i.wire f = .value v) : f.write i = f.writeValue v := by
  cases i with
  | octet n =>
    obtain rfl := Wire.value.inj hi
    have hn : (n.toUInt64.toNat : Int) = n.toNat := by rw [UInt8.toNat_toUInt64]
    cases f with
    | json => exact congrArg (fun z ↦ Json.document (Json.ofInteger z)) hn.symm
    | messagePack => exact congrArg MessagePack.ofInteger hn.symm
  | integer n =>
    obtain rfl := Wire.value.inj hi
    cases f with
    | json => exact congrArg (fun z ↦ Json.document (Json.ofInteger z)) n.toInt_toInt64.symm
    | messagePack => exact congrArg MessagePack.ofInteger n.toInt_toInt64.symm
  | text s | value v =>
    obtain rfl := Wire.value.inj hi
    cases f with
    | json | messagePack => rfl
  | octets bs =>
    cases f with
    | json =>
      obtain ⟨s, hs⟩ := Base64.exists_utf8_eq_encode bs
      obtain rfl := Wire.value.inj hi
      rw [write, writeOctets, ← hs, ofUtf8?_utf8]
      rfl
    | messagePack => exact nomatch hi
  | map m =>
    obtain rfl := Wire.value.inj hi
    exact writeEntries_eq f m.entries
  | error e =>
    obtain rfl := Wire.value.inj hi
    cases f with
    | json => exact writeEntries_eq .json [("kind", e.kind), ("message", e.message)]
    | messagePack => exact writeEntries_eq .messagePack [("kind", e.kind), ("message", e.message)]

theorem eq_octets_of_wire {bs : Bytes} (hi : i.wire f = .octets bs) :
    f = .messagePack ∧ i = .octets bs := by
  cases i with
  | octets =>
    cases f with
    | json => exact nomatch hi
    | messagePack => exact ⟨rfl, congrArg Item.octets (Wire.octets.inj hi)⟩
  | octet | integer | text | value | map | error => exact nomatch hi

/-- **An item that a read does not suit is refused.** -/
theorem mismatches_item (hwrites : f.Writes i octets) (hcarries : f.CarriesItem i)
    (hk : (i.wire f).Unsuited f k) (hbody : f.Before (octets ++ rest) body) :
    (f.read k).Mismatches body := by
  cases hwrites with
  | @map m entries order =>
    rw [writeEntries_eq] at hbody
    refine mismatches_value (fits_entries fun hf ↦ ?_)
      (unsuited_of_perm (order.symm.map fun e ↦ (e.1, Value.string e.2)) hk) hbody
    exact ⟨order.length_eq ▸ (hcarries hf).1,
      fun e he ↦ (hcarries hf).2 e (order.mem_iff.mp he)⟩
  | item =>
    cases hwire : i.wire f with
    | value v =>
      rw [hwire] at hk
      rw [write_eq hwire] at hbody
      exact mismatches_value (fits_of_wire hwire hcarries) hk hbody
    | octets bs =>
      obtain ⟨rfl, rfl⟩ := eq_octets_of_wire hwire
      rw [hwire] at hk
      obtain rfl := hbody.resolve_right nofun
      exact mismatches_octets (hcarries rfl) hk rest

/-- **A read of the wrong kind can be made good.** Write any items one behind the other, the entries
of each map in some order, and then one more, which anything may follow. The readers of the first
ones give them back. A read that does not suit the next one then says that its type is another one,
and stays where it was, and the read of the right kind gives what was written. -/
theorem replay_unsuited (hwrites : List.Forall₂ f.Writes items written)
    (hcarries : ∀ j ∈ items, f.CarriesItem j) (hwrite : f.Writes i octets)
    (hcarry : f.CarriesItem i) (hk : (i.wire f).Unsuited f k) (rest : Bytes) :
    ∃ left, f.replay (items.map Item.kind) (written.flatten ++ (octets ++ rest)) =
        (items.map fun j ↦ (false, .ok j), left) ∧
      (∃ detail, (f.read k).runOn left = (.error (.typeMismatch detail), left)) ∧
      ∃ after, (f.read i.kind).runOn left = (.ok i, after) ∧ f.Before rest after := by
  obtain ⟨left, hreplay, hleft⟩ := replay_row hwrites hcarries (.inl rfl)
  exact ⟨left, hreplay, mismatches_item hwrite hcarry hk hleft,
    reads_item hwrite hcarry rest left hleft⟩

/-- An object that has one field of an error, read as an error behind a text. -/
theorem replay_unsuited_half_an_error :
    let v : Value := .object [("a", .array [.null, .bool true]), ("kind", .string "x")]
    ∃ left detail after,
      replay .json [.text] (writeText .json "a" ++ (writeValue .json v ++ [])) =
        ([(false, .ok (.text "a"))], left) ∧
      (read .json .error).runOn left = (.error (.typeMismatch detail), left) ∧
      (read .json .value).runOn left = (.ok (.value v), after) := by
  intro v
  have hsorted : SortedKeys [("a", Value.array [.null, .bool true]), ("kind", .string "x")] :=
    List.pairwise_pair.mpr (by decide +kernel)
  have hcarry : CarriesItem .json (.value v) :=
    ⟨⟨hsorted, ⟨trivial, trivial, trivial⟩, trivial, trivial⟩,
      ⟨⟨trivial, trivial, trivial⟩, trivial, trivial⟩, by decide⟩
  have hlacks : ((Item.value v).wire .json).Unsuited .json .error := by
    refine ⟨nofun, fun ms hms ↦ ⟨"message", by decide, fun s hs ↦ ?_⟩⟩
    obtain rfl := Value.object.inj hms
    simp at hs
  have hwrites : List.Forall₂ (Writes .json) [.text "a"] [write .json (.text "a")] :=
    .cons (.item _) .nil
  obtain ⟨left, hreplay, ⟨detail, hmismatch⟩, after, hread, -⟩ :=
    replay_unsuited hwrites (List.forall_mem_singleton.mpr nofun) (.item _) hcarry hlacks []
  exact ⟨left, detail, after, hreplay, hmismatch, hread⟩

end Format

end RpcTransport
