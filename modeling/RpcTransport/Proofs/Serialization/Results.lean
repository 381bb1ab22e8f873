import RpcTransport.CallResult
import RpcTransport.Proofs.Serialization.RoundTrip

/-!
# Results are read as they were written

The tag of a result says of which kind it is and whether attachments follow, and the reader asks it
just that (`tag_spec`). So it reads the parts that were written, and each part ends where the next
one starts.

Attachments have no order of their own: a sender may write them in any, and `writeAs` is the body of
a result with its attachments in a given one.
-/

namespace RpcTransport

/-! ## Sizes -/

namespace Format

theorem length_writeText (f : Format) (s : String) : (utf8 s).length ≤ (f.writeText s).length := by
  cases f with
  | json =>
    have hle := Json.length_ofText s
    rw [writeText, Json.document, List.length_append]
    omega
  | messagePack => exact (MessagePack.length_ofText s).1

theorem length_writeText_le (f : Format) (s : String) :
    (f.writeText s).length ≤ 6 * (utf8 s).length + 5 := by
  cases f with
  | json =>
    have hle := Json.length_ofText_le s
    rw [writeText, Json.document, List.length_append, List.length_singleton]
    omega
  | messagePack =>
    have hle := MessagePack.length_ofText_le s
    rw [writeText]
    omega

theorem sizedEntries_of_length (f : Format) {entries : List (String × String)}
    (h : (f.writeEntries entries).length < 2 ^ 32) : MessagePack.SizedEntries entries := by
  cases f with
  | messagePack => exact MessagePack.sizedEntries_of_length h
  | json =>
    rw [writeEntries, Json.document, List.length_append, Json.ofEntries] at h
    have hobject := Nat.lt_of_le_of_lt (Nat.le_add_right _ _) h
    obtain ⟨hcount, hmembers⟩ :=
      Json.length_object_le Prod.fst (fun e ↦ Json.ofText e.2) (Nat.le_of_lt hobject)
    refine ⟨hcount, fun e he ↦ ?_⟩
    have hlength := hmembers e he
    have hkey := Json.length_ofText e.1
    have htext := Json.length_ofText e.2
    omega

theorem writeError_eq (f : Format) (e : RemoteError) :
    f.writeError e = f.writeEntries [("kind", e.kind), ("message", e.message)] := by
  cases f with
  | json => rfl
  | messagePack => rfl

end Format

namespace CallResult

/-! ## Tags -/

/-- A tag is one of six, and says of which kind the outcome is and whether there are attachments. -/
theorem tag_spec (r : CallResult) :
    ¬ 2 * attachmentsTag ≤ r.tag ∧ r.tag % attachmentsTag = Outcome.tag r.outcome ∧
      (attachmentsTag ≤ r.tag ↔ r.attachments.isEmpty = false) := by
  -- Three kinds of outcomes, with attachments or without: six tags to try.
  have hall : ∀ base : Fin 3, ∀ empty : Bool,
      let tag := UInt8.ofNat base + if empty then 0 else attachmentsTag
      ¬ 2 * attachmentsTag ≤ tag ∧ tag % attachmentsTag = UInt8.ofNat base ∧
        (attachmentsTag ≤ tag ↔ empty = false) := by
    decide
  rw [tag]
  cases r.outcome with
  | error => exact hall 0 _
  | value => exact hall 1 _
  | null => exact hall 2 _

/-! ## Bodies -/

/-- The body of a result, with the attachments in some order. -/
def writeAs (r : CallResult) (f : Format) (entries : List (String × String)) : Bytes :=
  f.writeOctet r.tag ++ writeOutcome f r.outcome ++
    if r.attachments.isEmpty then [] else f.writeEntries entries

theorem write_eq_writeAs (r : CallResult) (f : Format) :
    r.write f = r.writeAs f r.attachments.entries := rfl

/-- An outcome that a format gives back. -/
def Outcome.Carried (f : Format) : Outcome → Prop
  | .value v => f.Carries v
  | .error e => (utf8 e.kind).length < 2 ^ 32 ∧ (utf8 e.message).length < 2 ^ 32
  | .null => True

theorem reads_outcome {f : Format} {outcome : Outcome} {tag : UInt8}
    (htag : tag % attachmentsTag = Outcome.tag outcome) (h : Outcome.Carried f outcome) :
    f.Reads (readOutcome f tag) (writeOutcome f outcome) outcome := by
  rw [readOutcome, htag]
  cases outcome with
  | error e => exact (f.reads_error fun _ ↦ h).map Outcome.error
  | value v => exact (f.reads_value h).map Outcome.value
  | null => exact f.reads_pure Outcome.null

/-- A result is read if its parts are: the outcome, and the attachments in case there are any. -/
theorem reads_parts {r : CallResult} {f : Format} {entries : List (String × String)}
    (houtcome : f.Reads (readOutcome f r.tag) (writeOutcome f r.outcome) r.outcome)
    (hmap : r.attachments.isEmpty = false →
      f.Reads f.readMap (f.writeEntries entries) r.attachments) :
    f.Reads (CallResult.read f) (r.writeAs f entries) r := by
  obtain ⟨hlt, -, hattachments⟩ := r.tag_spec
  rw [CallResult.read, writeAs, List.append_assoc]
  refine (f.reads_octet r.tag).bind ?_
  dsimp only
  rw [if_neg hlt]
  refine houtcome.bind ?_
  cases hempty : r.attachments.isEmpty with
  | true =>
    have hno : ¬ attachmentsTag ≤ r.tag := fun hle ↦ Bool.noConfusion (hempty.symm.trans
      (hattachments.mp hle))
    have hresult : (⟨r.outcome, .empty⟩ : CallResult) = r := by
      rw [← TextMap.eq_empty hempty]
    rw [if_neg hno, if_pos rfl]
    exact (f.reads_pure TextMap.empty).bind (hresult ▸ f.reads_pure r)
  | false =>
    rw [if_pos (hattachments.mpr hempty), if_neg Bool.false_ne_true]
    have hread := (hmap hempty).bind
      (k := fun attachments ↦ (pure ⟨r.outcome, attachments⟩ : Reader CallResult)) (f.reads_pure r)
    rwa [List.append_nil] at hread

/-- **A result is read as it was written**, in whatever order its attachments were. -/
theorem reads_result {r : CallResult} {f : Format} {entries : List (String × String)}
    (hentries : entries.Perm r.attachments.entries)
    (hsized : r.attachments.isEmpty = false → MessagePack.SizedEntries entries)
    (houtcome : Outcome.Carried f r.outcome) :
    f.Reads (CallResult.read f) (r.writeAs f entries) r :=
  reads_parts (reads_outcome r.tag_spec.2.1 houtcome) fun hempty ↦
    f.reads_map hentries fun _ ↦ hsized hempty

theorem sizedEntries_of_length {r : CallResult} {f : Format} {entries : List (String × String)}
    (h : (r.writeAs f entries).length < 2 ^ 32) (hempty : r.attachments.isEmpty = false) :
    MessagePack.SizedEntries entries := by
  rw [writeAs, List.length_append, hempty, if_neg Bool.false_ne_true] at h
  exact f.sizedEntries_of_length (by omega)

/-- An outcome whose size four octets can tell is carried, if the format gives back its value. -/
theorem carried_of_length {r : CallResult} {f : Format} {entries : List (String × String)}
    (h : (r.writeAs f entries).length < 2 ^ 32)
    (hvalue : ∀ v, r.outcome = .value v → v.Canonical ∧ v.depth ≤ Json.depthLimit ∧
      (f = .json → v.Whole)) :
    Outcome.Carried f r.outcome := by
  rw [writeAs, List.length_append, List.length_append] at h
  cases houtcome : r.outcome with
  | null => trivial
  | error e =>
    rw [houtcome, writeOutcome, Format.writeError_eq] at h
    have hsized := f.sizedEntries_of_length
      (show (f.writeEntries [("kind", e.kind), ("message", e.message)]).length < 2 ^ 32 by omega)
    exact ⟨(hsized.2 _ List.mem_cons_self).2,
      (hsized.2 _ (List.mem_cons_of_mem _ List.mem_cons_self)).2⟩
  | value v =>
    obtain ⟨hcanonical, hdepth, hwhole⟩ := hvalue v houtcome
    refine ⟨hcanonical, ?_⟩
    cases f with
    | json => exact ⟨hwhole rfl, hdepth⟩
    | messagePack =>
      rw [houtcome, writeOutcome, Format.writeValue] at h
      exact ⟨MessagePack.sized_of_length (by omega), Nat.le_trans hdepth (by decide)⟩

/-! ## Bodies of failures -/

/-- A text is no octet. -/
theorem readOctet_writeText (f : Format) (s : String) :
    ∃ e, f.readOctet.runOn (f.writeText s) = (.error e, f.writeText s) := by
  cases f with
  | json =>
    obtain ⟨e, hread⟩ := Json.runOn_read_error (Json.starts_ofText s) [0x0a]
      fun fuel ↦ Json.wholeWithin_ofText fuel "u8" 0 255 s [0x0a]
    exact ⟨e, Reader.runOn_bind_error hread _⟩
  | messagePack =>
    obtain ⟨e, he⟩ := MessagePack.wholeWithin_ofText "u8" 0 255 s []
    rw [List.append_nil] at he
    have hread : (Reader.ofParser (MessagePack.wholeWithin "u8" 0 255)).runOn
        (MessagePack.ofText s) = (.error e, MessagePack.ofText s) := by
      rw [Reader.runOn_ofParser, he]
    exact ⟨e, Reader.runOn_bind_error hread _⟩

/-- **No result is read from the text of a failure.** -/
theorem read_writeText (f : Format) (s : String) :
    ∃ e, ((CallResult.read f).runOn (f.writeText s)).1 = .error e := by
  obtain ⟨e, hread⟩ := readOctet_writeText f s
  exact ⟨e, by rw [CallResult.read, Reader.runOn_bind_error hread]⟩

end CallResult

end RpcTransport
