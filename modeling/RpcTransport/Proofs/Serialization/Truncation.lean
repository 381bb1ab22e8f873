import Mathlib.Data.List.Forall2
import RpcTransport.Proofs.Json.Truncation
import RpcTransport.Proofs.MessagePack.Decisions
import RpcTransport.Proofs.Serialization.Replay

/-!
# A body that was cut off ends where it was cut

Of a row of documents that was cut anywhere, the first so many are kept whole, and of the next one a
part (`Kept`). What is whole is read as it was written, since readers do not look further than their
own document. The part is too little for the reader of its kind: it says that the stream has ended,
and stays before the part, so that whoever gets the missing octets can go on from there.

MessagePack needs no exception: every value says first how long it is. In JSON two parts cannot be
told from a whole document, and are left out: a part of a number, which is a number as well, and a
document that only lacks the line feed behind it (`Incomplete`).
-/

namespace RpcTransport

/-- Whether an item is written as a number that stands alone. -/
def Item.IsNumber : Item → Prop
  | .octet _ | .integer _ | .value (.number _) => True
  | _ => False

namespace Format

variable {f : Format} {items : List Item} {written : List Bytes} {i : Item}
  {octets cut kept body : Bytes}

/-- A reader of MessagePack goes by the octets alone. -/
theorem exists_decides (k : Item.Kind) :
    ∃ p : MessagePack.Parser Item, MessagePack.Decides p ∧ read .messagePack k = .ofParser p := by
  have hitem {α : Type} {p : MessagePack.Parser α} (hp : MessagePack.Decides p) (g : α → Item) :
      ∃ q : MessagePack.Parser Item,
        MessagePack.Decides q ∧ g <$> Reader.ofParser p = .ofParser q :=
    ⟨_, hp.map g, Reader.map_ofParser p g⟩
  cases k with
  | octet =>
    rw [read, readOctet, Reader.map_ofParser]
    exact hitem ((MessagePack.decides_wholeWithin "u8" 0 255).map fun n ↦ UInt8.ofNat n.toNat)
      Item.octet
  | integer =>
    rw [read, readInteger, Reader.map_ofParser]
    exact hitem ((MessagePack.decides_wholeWithin _ _ _).map _) Item.integer
  | text => exact hitem MessagePack.decides_string Item.text
  | octets => exact hitem MessagePack.decides_byteString Item.octets
  | value => exact hitem (MessagePack.decides_value MessagePack.depthLimit) Item.value
  | map => exact hitem MessagePack.decides_textMap Item.map
  | error => exact hitem MessagePack.decides_remoteError Item.error

/-! ## A part of one document -/

/-- A part of a document that shows that it is one: in MessagePack any, and in JSON a part of what
is no number that lacks more than the line feed. -/
def Incomplete (f : Format) (i : Item) (octets cut : Bytes) : Prop :=
  cut <+: octets ∧ cut ≠ octets ∧ (f = .json → ¬ i.IsNumber ∧ cut.length + 1 < octets.length)

theorem runOn_read_document_cut {α : Type} {p : Nat → Json.Parser α} {text : Bytes}
    (hstart : Json.Starts text) (hneeds : ∀ fuel, Json.NeedsAll fuel (p fuel) text)
    (hcut : cut <+: Json.document text) (hlength : cut.length + 1 < (Json.document text).length)
    (hbody : Before .json cut body) :
    (Json.read p).runOn body = (.error .endOfStream, body) := by
  rw [Json.document, List.length_append, List.length_singleton] at hlength
  refine Json.runOn_read_cut hstart hneeds ?_ (fun h ↦ ?_) (hbody.imp_right And.right)
  · refine (List.prefix_concat_iff.mp hcut).resolve_left fun h ↦ ?_
    rw [h, List.length_append, List.length_singleton] at hlength
    exact absurd (Nat.lt_of_succ_lt hlength) (Nat.lt_irrefl _)
  · exact absurd (h ▸ hlength) (Nat.lt_irrefl _)

theorem runOn_read_json_cut (hwrites : Writes .json i octets) (hcarries : CarriesItem .json i)
    (hincomplete : Incomplete .json i octets cut) (hbody : Before .json cut body) :
    (read .json i.kind).runOn body = (.error .endOfStream, body) := by
  obtain ⟨hcut, -, hjson⟩ := hincomplete
  obtain ⟨hnumber, hlength⟩ := hjson rfl
  have hmap (entries : List (String × String)) (hcut : cut <+: writeEntries .json entries)
      (hlength : cut.length + 1 < (writeEntries .json entries).length) :
      (read .json .map).runOn body = (.error .endOfStream, body) :=
    Reader.runOn_bind_error (runOn_read_document_cut ⟨0x7b, _, rfl, rfl, by decide⟩
      (fun _ ↦ Json.needsAll_textMapDocument entries) hcut hlength hbody) _
  cases hwrites with
  | map order => exact hmap _ hcut hlength
  | item =>
    cases i with
    | octet | integer => exact absurd trivial hnumber
    | text s =>
      exact Reader.runOn_bind_error (runOn_read_document_cut (Json.starts_ofText s)
        (fun fuel ↦ Json.needsAll_textDocument fuel s) hcut hlength hbody) _
    | octets bs =>
      obtain ⟨s, hs⟩ := Base64.exists_utf8_eq_encode bs
      have htext : write .json (.octets bs) = Json.document (Json.ofText s) := by
        rw [Json.ofText, hs]
        rfl
      rw [htext] at hcut hlength
      have hread := runOn_read_document_cut (Json.starts_ofText s)
        (fun fuel ↦ Json.needsAll_textDocument fuel s) hcut hlength hbody
      exact Reader.runOn_bind_error (Reader.runOn_bind_error hread _) _
    | value v =>
      obtain ⟨hcanonical, hwhole, hdepth⟩ := hcarries
      have hneeds (fuel : Nat) : Json.NeedsAll fuel (Json.value fuel Json.depthLimit)
          (Json.ofValue v) :=
        Json.needsAll_value hwhole hcanonical hdepth fun n hn ↦ hnumber (hn ▸ trivial)
      exact Reader.runOn_bind_error (runOn_read_document_cut (Json.starts_ofValue hwhole)
        hneeds hcut hlength hbody) _
    | map m => exact hmap m.entries hcut hlength
    | error e =>
      exact Reader.runOn_bind_error (runOn_read_document_cut ⟨0x7b, _, rfl, rfl, by decide⟩
        (fun _ ↦ Json.needsAll_remoteErrorDocument e) hcut hlength hbody) _

theorem runOn_read_messagePack_cut (hwrites : Writes .messagePack i octets)
    (hcarries : CarriesItem .messagePack i) (hincomplete : Incomplete .messagePack i octets cut) :
    (read .messagePack i.kind).runOn cut = (.error .endOfStream, cut) := by
  obtain ⟨p, hp, hparser⟩ := exists_decides i.kind
  have hread : MessagePack.Reads p octets i := by
    intro rest
    obtain ⟨left, hread, hleft⟩ := reads_item hwrites hcarries rest _ (.inl rfl)
    obtain rfl : left = rest := hleft.resolve_right nofun
    rw [hparser, Reader.runOn_ofParser] at hread
    rcases h : p (octets ++ left) with e | ⟨x, rest⟩
    · rw [h] at hread
      exact nomatch hread
    · rw [h] at hread
      obtain ⟨hx, rfl⟩ := Prod.mk.inj hread
      rw [Except.ok.inj hx]
  rw [hparser, Reader.runOn_ofParser, hp.endOfStream_of_cut hread hincomplete.1 hincomplete.2.1]

/-- **A document that is not all there is the end of the stream**, and its reader stays before
it. -/
theorem runOn_read_incomplete (hwrites : f.Writes i octets) (hcarries : f.CarriesItem i)
    (hincomplete : f.Incomplete i octets cut) (hbody : f.Before cut body) :
    (f.read i.kind).runOn body = (.error .endOfStream, body) := by
  cases f with
  | json => exact runOn_read_json_cut hwrites hcarries hincomplete hbody
  | messagePack =>
    obtain rfl : body = cut := hbody.resolve_right nofun
    exact runOn_read_messagePack_cut hwrites hcarries hincomplete

/-! ## A row that was cut -/

/-- What is kept of a row of documents: `n` of them whole, and of the next one a part. -/
structure Kept (written : List Bytes) (kept : Bytes) (n : Nat) (cut : Bytes) : Prop where
  le_length : n ≤ written.length
  eq_append : kept = (written.take n).flatten ++ cut
  part : ∀ octets ∈ written[n]?, cut <+: octets ∧ cut ≠ octets

theorem exists_kept (h : kept <+: written.flatten) : ∃ n cut, Kept written kept n cut := by
  induction written generalizing kept with
  | nil =>
    obtain rfl := List.prefix_nil.mp h
    exact ⟨0, [], Nat.le_refl 0, rfl, nofun⟩
  | cons octets written ih =>
    rw [List.flatten_cons] at h
    rcases Bytes.prefix_append_cases h with hpart | ⟨more, rfl, hmore⟩
    · exact ⟨0, kept, Nat.zero_le _, rfl, fun _ ho ↦ Option.some.inj ho ▸ hpart⟩
    · obtain ⟨n, cut, hkept⟩ := ih hmore
      refine ⟨n + 1, cut, Nat.succ_le_succ hkept.le_length, ?_, hkept.part⟩
      rw [List.take_succ_cons, List.flatten_cons, List.append_assoc, ← hkept.eq_append]

/-- **A body that was cut is read up to the cut.** Write any items one behind the other, the entries
of each map in some order, and keep any part of the octets from the start. The documents that are
kept whole are read as they were written, and the reader of the next one says that the stream has
ended and stays where it was. In MessagePack this is so wherever the cut is, in JSON unless it is in
a number or between a document and its line feed. -/
theorem replay_cut (hwrites : List.Forall₂ f.Writes items written)
    (hcarries : ∀ i ∈ items, f.CarriesItem i) (hkept : kept <+: written.flatten) :
    (∃ n cut, Kept written kept n cut) ∧
    ∀ n cut, Kept written kept n cut →
      ∃ left, f.replay ((items.take n).map Item.kind) kept =
          ((items.take n).map fun i ↦ (false, .ok i), left) ∧
        ∀ i octets, items[n]? = some i → written[n]? = some octets →
          f.Incomplete i octets cut → (f.read i.kind).runOn left = (.error .endOfStream, left) := by
  refine ⟨exists_kept hkept, fun n cut hkept ↦ ?_⟩
  obtain ⟨left, hreplay, hleft⟩ := replay_row (List.forall₂_take n hwrites)
    (fun i hi ↦ hcarries i (List.mem_of_mem_take hi)) (.inl hkept.eq_append)
  refine ⟨left, hreplay, fun i octets hi ho hincomplete ↦ ?_⟩
  have hwrite : f.Writes i octets :=
    List.forall₂_zip hwrites (List.mem_of_getElem? (List.getElem?_zip_eq_some.mpr ⟨hi, ho⟩))
  exact runOn_read_incomplete hwrite (hcarries i (List.mem_of_getElem? hi)) hincomplete hleft

/-- In JSON, octets in base64 and a text, cut in the middle of a letter of the text. -/
theorem replay_cut_letter :
    let items : List Item := [.octets [0, 255], .text "né\n"]
    let kept := Bytes.ofAscii "\"AP8=\"\n\"n" ++ [0xc3]
    kept <+: (items.map (write .json)).flatten ∧
    ∃ left, replay .json [.octets] kept = ([(false, .ok (.octets [0, 255]))], left) ∧
      (read .json .text).runOn left = (.error .endOfStream, left) := by
  intro items kept
  have hkept : kept <+: (items.map (write .json)).flatten := by
    decide +kernel
  have hwrites : List.Forall₂ (Writes .json) items (items.map (write .json)) :=
    .cons (.item _) (.cons (.item _) .nil)
  have hcarries : ∀ i ∈ items, CarriesItem .json i := by
    simp only [items, List.forall_mem_cons]
    exact ⟨nofun, nofun, nofun⟩
  have hpart : [0x22, 0x6e, 0xc3] <+: write .json (.text "né\n") ∧
      [0x22, 0x6e, 0xc3] ≠ write .json (.text "né\n") ∧
      [0x22, 0x6e, 0xc3].length + 1 < (write .json (.text "né\n")).length := by
    decide +kernel
  have hcut : Kept (items.map (write .json)) kept 1 [0x22, 0x6e, 0xc3] :=
    ⟨by decide, by decide +kernel, fun _ ho ↦ Option.some.inj ho ▸ ⟨hpart.1, hpart.2.1⟩⟩
  obtain ⟨left, hreplay, hend⟩ := (replay_cut hwrites hcarries hkept).2 1 _ hcut
  exact ⟨hkept, left, hreplay, hend (.text "né\n") _ rfl rfl
    ⟨hpart.1, hpart.2.1, fun _ ↦ ⟨id, hpart.2.2⟩⟩⟩

end Format

end RpcTransport
