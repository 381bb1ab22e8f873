import RpcTransport.Proofs.Base64
import RpcTransport.Proofs.Json.Documents
import RpcTransport.Proofs.MessagePack.Documents

/-!
# Both formats give back what was written

A body is a row of written values, and `Reads` says of one of them that its reader takes it as the
value it was and stands where the next one starts. In JSON this is so up to a line feed: a reader
stops before the one that ends its document, and the next reader passes over it (`Before`). Readers
that go on one after the other read what was written one after the other (`Reads.bind`).
-/

namespace RpcTransport

namespace Reader

variable {α β : Type} {r : Reader α} {body left : Bytes}

theorem runOn_ofParser (p : Bytes → Except SerializationError (α × Bytes)) (body : Bytes) :
    (ofParser p).runOn body = match p body with
      | .ok (x, rest) => (.ok x, rest)
      | .error e => (.error e, body) := rfl

theorem runOn_bind (r : Reader α) (k : α → Reader β) (body : Bytes) :
    (r >>= k).runOn body = match r.runOn body with
      | (.ok x, left) => (k x).runOn left
      | (.error e, left) => (.error e, left) := by
  unfold runOn ExceptT.run StateT.run
  simp only [bind, ExceptT.bind, ExceptT.mk, StateT.bind, ExceptT.bindCont]
  rcases r body with ⟨e | x, left⟩
  · rfl
  · rfl

theorem runOn_bind_ok {x : α} (h : r.runOn body = (.ok x, left)) (k : α → Reader β) :
    (r >>= k).runOn body = (k x).runOn left := by
  rw [runOn_bind, h]

/-- A step that succeeds is a step of each part. -/
theorem exists_of_runOn_bind {k : α → Reader β} {y : β} {rest : Bytes}
    (h : (r >>= k).runOn body = (.ok y, rest)) :
    ∃ x left, r.runOn body = (.ok x, left) ∧ (k x).runOn left = (.ok y, rest) := by
  rw [runOn_bind] at h
  rcases hread : r.runOn body with ⟨e | x, left⟩
  · rw [hread] at h
    exact nomatch h
  · rw [hread] at h
    exact ⟨x, left, rfl, h⟩

theorem runOn_bind_error {e : SerializationError} (h : r.runOn body = (.error e, left))
    (k : α → Reader β) : (r >>= k).runOn body = (.error e, left) := by
  rw [runOn_bind, h]

theorem runOn_map (r : Reader α) (g : α → β) (body : Bytes) :
    (g <$> r).runOn body = ((r.runOn body).1.map g, (r.runOn body).2) := by
  rw [map_eq_pure_bind, runOn_bind]
  rcases r.runOn body with ⟨e | x, left⟩
  · rfl
  · rfl

theorem map_ofParser (p : Bytes → Except SerializationError (α × Bytes)) (g : α → β) :
    g <$> ofParser p = ofParser fun bs ↦ (p bs).map fun y ↦ (g y.1, y.2) := by
  funext body
  change (g <$> ofParser p).runOn body =
    (ofParser fun bs ↦ (p bs).map fun y ↦ (g y.1, y.2)).runOn body
  rw [runOn_map, runOn_ofParser, runOn_ofParser]
  rcases p body with e | y
  · rfl
  · rfl

end Reader

namespace Format

variable {α β : Type} {f : Format}

/-- A reader that has `body` left is about to read `rest`. -/
def Before (f : Format) (rest body : Bytes) : Prop :=
  body = rest ∨ f = .json ∧ body = 0x0a :: rest

/-- A reader takes what was written for `x`, and is then about to read what follows. -/
def Reads (f : Format) (r : Reader α) (written : Bytes) (x : α) : Prop :=
  ∀ rest body, f.Before (written ++ rest) body →
    ∃ left, r.runOn body = (.ok x, left) ∧ f.Before rest left

theorem Reads.bind {r : Reader α} {k : α → Reader β} {written written' : Bytes} {x : α} {y : β}
    (h : f.Reads r written x) (h' : f.Reads (k x) written' y) :
    f.Reads (r >>= k) (written ++ written') y := by
  intro rest body hbody
  rw [List.append_assoc] at hbody
  obtain ⟨middle, hread, hmiddle⟩ := h _ body hbody
  obtain ⟨left, hread', hleft⟩ := h' rest middle hmiddle
  exact ⟨left, (Reader.runOn_bind_ok hread k).trans hread', hleft⟩

theorem reads_pure (x : α) : f.Reads (pure x) [] x :=
  fun _ body hbody ↦ ⟨body, rfl, hbody⟩

theorem Reads.map {r : Reader α} {written : Bytes} {x : α} (h : f.Reads r written x) (g : α → β) :
    f.Reads (g <$> r) written (g x) := by
  intro rest body hbody
  obtain ⟨left, hread, hleft⟩ := h rest body hbody
  exact ⟨left, Reader.runOn_bind_ok hread fun y ↦ pure (g y), hleft⟩

/-! ## The formats -/

theorem reads_document {p : Nat → Json.Parser α} {text : Bytes} {x : α}
    (hstart : Json.Starts text) (hp : ∀ fuel, text.length ≤ fuel → Json.Reads (p fuel) text x) :
    Reads .json (Json.read p) (Json.document text) x := by
  intro rest body hbody
  refine ⟨0x0a :: rest, Json.read_document hstart hp ?_, .inr ⟨rfl, rfl⟩⟩
  exact hbody.imp_right And.right

theorem reads_ofParser {p : MessagePack.Parser α} {octets : Bytes} {x : α}
    (hp : MessagePack.Reads p octets x) : Reads .messagePack (.ofParser p) octets x := by
  rintro rest body (rfl | ⟨hjson, -⟩)
  · exact ⟨rest, by rw [Reader.runOn_ofParser, hp rest], .inl rfl⟩
  · exact nomatch hjson

/-! ## Values of each kind -/

/-- A whole number is read within any bounds that it keeps. -/
theorem reads_wholeWithin {z lower upper : Int} (hz : lower ≤ z ∧ z ≤ upper)
    (hword : -0x8000000000000000 ≤ z ∧ z < 0x10000000000000000) (wanted : String) :
    Reads .json (Json.read fun fuel ↦ Json.wholeWithin fuel wanted lower upper)
        (Json.document (Json.ofInteger z)) z ∧
      Reads .messagePack (.ofParser (MessagePack.wholeWithin wanted lower upper))
        (MessagePack.ofInteger z) z :=
  ⟨reads_document (Json.starts_ofInteger z) fun _ _ ↦ Json.reads_wholeWithin hz hword wanted,
    reads_ofParser (MessagePack.reads_wholeWithin hz hword wanted)⟩

theorem reads_octet (f : Format) (n : UInt8) : f.Reads f.readOctet (f.writeOctet n) n := by
  have hn : UInt8.ofNat (n.toNat : Int).toNat = n := by
    rw [Int.toNat_natCast, UInt8.ofNat_toNat]
  have hlt := n.toNat_lt
  have hbounds : (0 : Int) ≤ n.toNat ∧ (n.toNat : Int) ≤ 255 := by omega
  obtain ⟨hjson, hmessagePack⟩ := reads_wholeWithin hbounds (by omega) "u8"
  rw [← congrArg (f.Reads f.readOctet (f.writeOctet n)) hn]
  cases f with
  | json => exact hjson.map fun z ↦ UInt8.ofNat z.toNat
  | messagePack => exact hmessagePack.map fun z ↦ UInt8.ofNat z.toNat

theorem reads_integer (f : Format) (n : Int32) : f.Reads f.readInteger (f.writeInteger n) n := by
  have hle := n.le_toInt
  have hlt := n.toInt_lt
  have hbounds : -0x80000000 ≤ n.toInt ∧ n.toInt ≤ 0x80000000 - 1 := by omega
  obtain ⟨hjson, hmessagePack⟩ := reads_wholeWithin hbounds (by omega) "i32"
  rw [← congrArg (f.Reads f.readInteger (f.writeInteger n)) (Int32.ofInt_toInt n)]
  cases f with
  | json => exact hjson.map Int32.ofInt
  | messagePack => exact hmessagePack.map Int32.ofInt

theorem reads_text (f : Format) {s : String} (h : f = .messagePack → (utf8 s).length < 2 ^ 32) :
    f.Reads f.readText (f.writeText s) s := by
  cases f with
  | json =>
    exact reads_document (Json.starts_ofText s) fun _ hfuel ↦ Json.reads_textDocument s hfuel
  | messagePack => exact reads_ofParser (MessagePack.reads_string (h rfl))

/-- In JSON octets are the text of their base64. -/
theorem reads_octets (f : Format) {octets : Bytes}
    (h : f = .messagePack → octets.length < 2 ^ 32) :
    f.Reads f.readOctets (f.writeOctets octets) octets := by
  cases f with
  | json =>
    obtain ⟨s, hs⟩ := Base64.exists_utf8_eq_encode octets
    have hjson : Format.json ≠ .messagePack := by
      rintro ⟨⟩
    have hread : Reads .json Json.readOctets (writeText .json s ++ []) octets := by
      refine (reads_text .json (s := s) fun h ↦ absurd h hjson).bind ?_
      rw [hs, Base64.decode?_encode]
      exact reads_pure octets
    rwa [List.append_nil, writeText, Json.ofText, hs] at hread
  | messagePack => exact reads_ofParser (MessagePack.reads_byteString (h rfl))

/-- A value that a format gives back. JSON tells the numbers that are not whole in decimals, of
which this says nothing. -/
def Carries (f : Format) (v : Value) : Prop :=
  v.Canonical ∧
    match f with
    | .json => v.Whole ∧ v.depth ≤ Json.depthLimit
    | .messagePack => v.Sized ∧ v.depth ≤ MessagePack.depthLimit

theorem reads_value (f : Format) {v : Value} (h : f.Carries v) :
    f.Reads f.readValue (f.writeValue v) v := by
  cases f with
  | json =>
    exact reads_document (Json.starts_ofValue h.2.1) fun _ hfuel ↦
      Json.reads_value h.2.1 h.1 h.2.2 hfuel
  | messagePack => exact reads_ofParser (MessagePack.reads_value h.2.1 h.1 h.2.2)

theorem reads_map (f : Format) {m : TextMap} {entries : List (String × String)}
    (hentries : entries.Perm m.entries)
    (hsized : f = .messagePack → MessagePack.SizedEntries entries) :
    f.Reads f.readMap (f.writeEntries entries) m := by
  cases f with
  | json =>
    exact reads_document ⟨0x7b, _, rfl, rfl, by decide⟩ fun _ hfuel ↦
      Json.reads_textMapDocument hentries hfuel
  | messagePack => exact reads_ofParser (MessagePack.reads_textMap hentries (hsized rfl))

theorem reads_error (f : Format) {e : RemoteError}
    (hsized : f = .messagePack →
      (utf8 e.kind).length < 2 ^ 32 ∧ (utf8 e.message).length < 2 ^ 32) :
    f.Reads f.readError (f.writeError e) e := by
  cases f with
  | json =>
    exact reads_document ⟨0x7b, _, rfl, rfl, by decide⟩ fun _ hfuel ↦
      Json.reads_remoteErrorDocument e hfuel
  | messagePack =>
    exact reads_ofParser (MessagePack.reads_remoteError (hsized rfl).1 (hsized rfl).2)

end Format

end RpcTransport
